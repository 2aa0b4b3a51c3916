import Skirmish.Proofs.Schema.Stopping
import Skirmish.Rulebook.Rule
import Skirmish.Rulebook.Scenario
import Skirmish.Rulebook.Stratagem

/-!
# Ordinary values

A value is ordinary when none of its objects has a list or an object in the place of a kind
and none of its texts holds a half.  No record is stopped while it is read from such a value,
and a scenario is never stopped at all.
-/

namespace Skirmish

open Schema Checked

namespace Value

/-- The value has no parts. -/
def isScalar : Value → Bool
  | .list _ | .object _ => false
  | _ => true

mutual

/-- No object within the value has a list or an object in the field `t`, and no text within
it holds a half. -/
def isOrdinary : Value → Bool
  | .text s => !Text.holdsHalf s
  | .list items => areOrdinary items
  | .object fields => areOrdinaryFields fields
  | _ => true

def areOrdinary : List Value → Bool
  | [] => true
  | item :: rest => isOrdinary item && areOrdinary rest

def areOrdinaryFields : List (String × Value) → Bool
  | [] => true
  | (name, value) :: rest =>
    (name != "t" || value.isScalar) && isOrdinary value && areOrdinaryFields rest

end

theorem holdsHalf_of_isOrdinary {s : String} (ordinary : (text s).isOrdinary = true) :
    Text.holdsHalf s = false := by
  simpa [isOrdinary] using ordinary

theorem isOrdinary_item {items : List Value} (ordinary : (list items).isOrdinary = true) :
    ∀ item ∈ items, item.isOrdinary = true := by
  unfold isOrdinary at ordinary
  induction items with
  | nil => exact fun _ member => (List.not_mem_nil member).elim
  | cons item rest ih =>
      unfold areOrdinary at ordinary
      obtain ⟨first, others⟩ := Bool.and_eq_true_iff.mp ordinary
      exact List.forall_mem_cons.mpr ⟨first, ih others⟩

theorem isOrdinary_field {fields : Fields} (ordinary : (object fields).isOrdinary = true) :
    ∀ field ∈ fields, field.2.isOrdinary = true ∧
      (field.1 = "t" → field.2.isScalar = true) := by
  unfold isOrdinary at ordinary
  induction fields with
  | nil => exact fun _ member => (List.not_mem_nil member).elim
  | cons field rest ih =>
      obtain ⟨name, value⟩ := field
      unfold areOrdinaryFields at ordinary
      simp only [Bool.and_eq_true] at ordinary
      obtain ⟨⟨kind, own⟩, others⟩ := ordinary
      refine List.forall_mem_cons.mpr ⟨⟨own, fun isKind => ?_⟩, ih others⟩
      obtain rfl : name = "t" := isKind
      simpa using kind

theorem hereditary_isOrdinary : Hereditary fun value => value.isOrdinary = true where
  item _ ordinary := isOrdinary_item ordinary
  field _ ordinary field member := (isOrdinary_field ordinary field member).1

theorem isScalar_kind {fields : Fields} (ordinary : (object fields).isOrdinary = true)
    {value : Value} (found : fields.get? "t" = some value) : value.isScalar = true := by
  obtain ⟨before, after, rfl, -⟩ := List.lookup_eq_some_iff.mp found
  exact (isOrdinary_field ordinary ("t", value) (by simp)).2 rfl

end Value

/-! ## Units and scenarios -/

section

variable {fits : Value → Prop} (hereditary : Hereditary fits)

include hereditary

theorem WeaponAbility.unstoppableOn_read : UnstoppableOn fits WeaponAbility.read := by
  refine .tagged fun fields kind read fit shape => ?_
  unfold shape? at shape
  split at shape <;> cases shape <;> simp [UnstoppableOn.required hereditary fit]

theorem UnitAbility.unstoppableOn_read : UnstoppableOn fits UnitAbility.read := by
  refine .tagged fun fields kind read fit shape => ?_
  unfold shape? at shape
  split at shape <;> cases shape <;> simp [UnstoppableOn.required hereditary fit]

theorem ModelProfile.unstoppableOn_read : UnstoppableOn fits ModelProfile.read := by
  refine .record fun fields fit => ?_
  simp [UnstoppableOn.defaulted hereditary fit]

theorem BattleUnit.unstoppableOn_read : UnstoppableOn fits BattleUnit.read := by
  refine .record fun fields fit => ?_
  simp [UnstoppableOn.required hereditary fit, UnstoppableOn.defaulted hereditary fit,
    UnstoppableOn.list hereditary, UnitAbility.unstoppableOn_read hereditary,
    ModelProfile.unstoppableOn_read hereditary]

theorem Weapon.unstoppableOn_read : UnstoppableOn fits Weapon.read := by
  refine .record fun fields fit => ?_
  simp [UnstoppableOn.required hereditary fit, UnstoppableOn.defaulted hereditary fit,
    UnstoppableOn.list hereditary]

theorem Game.unstoppableOn_read : UnstoppableOn fits Game.read := by
  refine .record fun fields fit => ?_
  simp [UnstoppableOn.defaulted hereditary fit]

theorem Circumstances.unstoppableOn_read : UnstoppableOn fits Circumstances.read := by
  refine .record fun fields fit => ?_
  simp [UnstoppableOn.defaulted hereditary fit, UnstoppableOn.mapping hereditary]

theorem ArmyState.unstoppableOn_read : UnstoppableOn fits ArmyState.read := by
  refine .record fun fields fit => ?_
  simp [UnstoppableOn.required hereditary fit, UnstoppableOn.defaulted hereditary fit]

theorem Scenario.unstoppableOn_read : UnstoppableOn fits Scenario.read := by
  refine .record fun fields fit => ?_
  simp [UnstoppableOn.required hereditary fit, UnstoppableOn.defaulted hereditary fit,
    UnstoppableOn.list hereditary, BattleUnit.unstoppableOn_read hereditary,
    Weapon.unstoppableOn_read hereditary, Game.unstoppableOn_read hereditary,
    Circumstances.unstoppableOn_read hereditary, ArmyState.unstoppableOn_read hereditary]

end

/-- No value stops the reading of a scenario. -/
theorem Scenario.isStopped_read (value : Value) : (Scenario.read value).isStopped = false :=
  Scenario.unstoppableOn_read hereditary_true value trivial

/-! ## Conditions and effects -/

/-- The reader is not stopped by an ordinary value. -/
abbrev ReadsOrdinary {α : Type} (read : Value → Checked α) : Prop :=
  UnstoppableOn (fun value => value.isOrdinary = true) read

namespace Condition

/-- Neither reading of a field is stopped. -/
def PartReading.Unstopped (part : PartReading) : Prop :=
  part.single.isStopped = false ∧ part.several.isStopped = false

variable {fields : Fields} {parts : List (String × PartReading)}

theorem isStopped_requiredPart {α : Type} {name : String}
    {choose : PartReading → Checked α}
    (unstopped : ∀ part, parts.lookup name = some part → (choose part).isStopped = false) :
    (requiredPart parts name choose).isStopped = false := by
  unfold requiredPart
  split
  · rename_i part found
    rw [isStopped_under]
    exact unstopped part found
  · rfl

theorem isStopped_someParts {part : PartReading} (unstopped : part.Unstopped) :
    (someParts part).isStopped = false := by
  refine (isStopped_ensure fun conditions message _ problem => ?_).trans unstopped.2
  split at problem <;> cases problem

theorem isStopped_of_shape? {kind : String} {reading : Checked Condition}
    (ordinary : (Value.object fields).isOrdinary = true)
    (unstopped : ∀ name part, parts.lookup name = some part → part.Unstopped)
    (shape : shape? kind fields parts = some reading) : reading.isStopped = false := by
  have listed {name : String} :
      (requiredPart parts name someParts).isStopped = false :=
    isStopped_requiredPart fun part found => isStopped_someParts (unstopped name part found)
  have single {name : String} : (requiredPart parts name (·.single)).isStopped = false :=
    isStopped_requiredPart fun part found => (unstopped name part found).1
  have hereditary := Value.hereditary_isOrdinary
  unfold shape? at shape
  split at shape <;> cases shape <;>
    simp [listed, single, UnstoppableOn.required hereditary ordinary,
      UnstoppableOn.requiredIs hereditary ordinary, UnstoppableOn.listOfSome hereditary,
      WeaponAbility.unstoppableOn_read hereditary, UnitAbility.unstoppableOn_read hereditary]

theorem isStopped_ofFields {steps : Nat} (ordinary : (Value.object fields).isOrdinary = true)
    (unstopped : ∀ name part, parts.lookup name = some part → part.Unstopped) :
    (ofFields steps fields parts).isStopped = false := by
  unfold ofFields
  split
  · split
    · rename_i shape
      rw [isStopped_nested, isStopped_of_shape? ordinary unstopped shape, Bool.and_false]
    · simp
  · rename_i found
    exact absurd (Value.isScalar_kind ordinary found) Bool.false_ne_true
  · rename_i found
    exact absurd (Value.isScalar_kind ordinary found) Bool.false_ne_true
  · simp
  · simp

mutual

theorem isStopped_readAt : ∀ (value : Value) {spot : Spot}, value.isOrdinary = true →
    (readAt spot value).isStopped = false := by
  intro value spot ordinary
  cases value with
  | object fields =>
      unfold readAt
      exact isStopped_ofFields ordinary fun name part found =>
        unstopped_readFields fields (Value.isOrdinary_field ordinary) found
  | _ =>
      unfold readAt
      simp [reject]

theorem isStopped_readListAt : ∀ (value : Value) {spot : Spot}, value.isOrdinary = true →
    (readListAt spot value).isStopped = false := by
  intro value spot ordinary
  cases value with
  | list items =>
      unfold readListAt
      exact isStopped_itemsFrom (isStopped_readItems items (Value.isOrdinary_item ordinary))
  | _ =>
      unfold readListAt
      exact isStopped_reject nofun

theorem isStopped_readItems : ∀ (items : List Value) {spot : Spot},
    (∀ item ∈ items, item.isOrdinary = true) →
      ∀ reading ∈ readItems spot items, reading.isStopped = false := by
  intro items spot ordinary
  cases items with
  | nil =>
      unfold readItems
      exact fun _ member => (List.not_mem_nil member).elim
  | cons item rest =>
      obtain ⟨first, others⟩ := List.forall_mem_cons.mp ordinary
      unfold readItems
      exact List.forall_mem_cons.mpr
        ⟨isStopped_readAt item first, isStopped_readItems rest others⟩

theorem unstopped_readFields : ∀ (fields : Fields) {spot : Spot} {name : String}
    {part : PartReading}, (∀ field ∈ fields, field.2.isOrdinary = true ∧
      (field.1 = "t" → field.2.isScalar = true)) →
    (readFields spot fields).lookup name = some part → part.Unstopped := by
  intro fields spot name part ordinary found
  cases fields with
  | nil =>
      unfold readFields at found
      cases found
  | cons field rest =>
      obtain ⟨other, value⟩ := field
      obtain ⟨first, others⟩ := List.forall_mem_cons.mp ordinary
      unfold readFields at found
      rw [List.lookup_cons] at found
      split at found
      · cases found
        exact ⟨isStopped_readAt value first.1, isStopped_readListAt value first.1⟩
      · exact unstopped_readFields rest others found

end

theorem readsOrdinary_readBehind (steps : Nat) : ReadsOrdinary (readBehind steps) :=
  fun value => isStopped_readAt value

end Condition

theorem Action.isStopped_of_shape? {kind : String} {readShape : Fields → Checked Action}
    {fields : Fields} (ordinary : (Value.object fields).isOrdinary = true)
    (shape : shape? kind = some readShape) : (readShape fields).isStopped = false := by
  have hereditary := Value.hereditary_isOrdinary
  unfold shape? at shape
  split at shape <;> cases shape <;>
    simp [UnstoppableOn.required hereditary ordinary, UnstoppableOn.defaulted hereditary ordinary,
      WeaponAbility.unstoppableOn_read hereditary, UnitAbility.unstoppableOn_read hereditary]

theorem Effect.readsOrdinary_readAt (steps : Nat) : ReadsOrdinary (readAt steps) := by
  have hereditary := Value.hereditary_isOrdinary
  intro value ordinary
  cases value with
  | object fields =>
      have parts : ReadsOrdinary (Condition.readListAt (.start steps)) :=
        fun value => Condition.isStopped_readListAt value
      unfold readAt ofFields
      dsimp only
      split
      · split
        · rename_i readShape shape
          simp [Action.isStopped_of_shape? ordinary shape, parts,
            UnstoppableOn.defaulted hereditary ordinary]
        · simp
      · rename_i found
        exact absurd (Value.isScalar_kind ordinary found) Bool.false_ne_true
      · rename_i found
        exact absurd (Value.isScalar_kind ordinary found) Bool.false_ne_true
      · simp
      · simp
  | _ =>
      unfold readAt
      simp [reject]

/-! ## Blocks and rules -/

namespace Block

theorem isStopped_ofFields {steps : Nat} {fields : Fields}
    {lists : List (String × Checked (List Block))}
    (ordinary : (Value.object fields).isOrdinary = true)
    (unstopped : ∀ name reading, lists.lookup name = some reading →
      reading.isStopped = false) : (ofFields steps fields lists).isStopped = false := by
  have hereditary := Value.hereditary_isOrdinary
  unfold ofFields
  dsimp only
  split
  · simp [UnstoppableOn.defaulted hereditary ordinary, UnstoppableOn.list hereditary,
      Effect.readsOrdinary_readAt]
  · rw [isStopped_nested, isStopped_seq, isStopped_map,
      UnstoppableOn.required hereditary ordinary (Condition.readsOrdinary_readBehind _),
      Bool.false_or]
    split
    · rename_i reading found
      rw [isStopped_under, isStopped_ensure, unstopped _ reading found, Bool.and_false]
      intro blocks message _ problem
      split at problem <;> cases problem
    · rw [isStopped_rejected, Bool.and_false]
  · exact isStopped_reject nofun
  · exact isStopped_reject nofun

mutual

theorem isStopped_readAt : ∀ (value : Value) {steps : Nat}, value.isOrdinary = true →
    (readAt steps value).isStopped = false := by
  intro value steps ordinary
  cases value with
  | object fields =>
      unfold readAt
      exact isStopped_ofFields ordinary fun name reading found =>
        isStopped_readFields fields (Value.isOrdinary_field ordinary) found
  | _ =>
      unfold readAt
      exact isStopped_reject nofun

theorem isStopped_readListAt : ∀ (value : Value) {steps : Nat}, value.isOrdinary = true →
    (readListAt steps value).isStopped = false := by
  intro value steps ordinary
  cases value with
  | list items =>
      unfold readListAt
      exact isStopped_itemsFrom (isStopped_readItems items (Value.isOrdinary_item ordinary))
  | _ =>
      unfold readListAt
      exact isStopped_reject nofun

theorem isStopped_readItems : ∀ (items : List Value) {steps : Nat},
    (∀ item ∈ items, item.isOrdinary = true) →
      ∀ reading ∈ readItems steps items, reading.isStopped = false := by
  intro items steps ordinary
  cases items with
  | nil =>
      unfold readItems
      exact fun _ member => (List.not_mem_nil member).elim
  | cons item rest =>
      obtain ⟨first, others⟩ := List.forall_mem_cons.mp ordinary
      unfold readItems
      exact List.forall_mem_cons.mpr
        ⟨isStopped_readAt item first, isStopped_readItems rest others⟩

theorem isStopped_readFields : ∀ (fields : Fields) {steps : Nat} {name : String}
    {reading : Checked (List Block)}, (∀ field ∈ fields, field.2.isOrdinary = true ∧
      (field.1 = "t" → field.2.isScalar = true)) →
    (readFields steps fields).lookup name = some reading → reading.isStopped = false := by
  intro fields steps name reading ordinary found
  cases fields with
  | nil =>
      unfold readFields at found
      cases found
  | cons field rest =>
      obtain ⟨other, value⟩ := field
      obtain ⟨first, others⟩ := List.forall_mem_cons.mp ordinary
      unfold readFields at found
      rw [List.lookup_cons] at found
      split at found
      · cases found
        exact isStopped_readListAt value first.1
      · exact isStopped_readFields rest others found

end

theorem readsOrdinary_readList : ReadsOrdinary readList :=
  fun value => isStopped_readListAt value

theorem readsOrdinary_readSome : ReadsOrdinary readSome := by
  intro value ordinary
  refine (isStopped_ensure fun blocks message _ problem => ?_).trans
    (readsOrdinary_readList value ordinary)
  split at problem <;> cases problem

end Block

theorem ChoiceOption.readsOrdinary_read : ReadsOrdinary ChoiceOption.read := by
  have hereditary := Value.hereditary_isOrdinary
  refine .record fun fields ordinary => ?_
  simp [UnstoppableOn.required hereditary ordinary, UnstoppableOn.defaulted hereditary ordinary,
    Block.readsOrdinary_readList]

theorem holdsHalf_of_required {fields : Fields} {name s : String}
    (ordinary : (Value.object fields).isOrdinary = true)
    (accepted : required fields name text = .accepted s) : Text.holdsHalf s = false := by
  obtain ⟨value, found, read⟩ := required_eq_accepted_iff.mp accepted
  obtain rfl := text_eq_accepted_iff.mp read
  exact Value.holdsHalf_of_isOrdinary (Value.hereditary_isOrdinary.of_get? ordinary found)

theorem Choice.holdsHalf_repeatedValue? {options : List ChoiceOption} {value : String}
    (whole : ∀ option ∈ options, Text.holdsHalf option.value = false) {seen : List String}
    (repeated : repeatedValue? seen options = some value) : Text.holdsHalf value = false := by
  induction options generalizing seen with
  | nil => cases repeated
  | cons option rest ih =>
      obtain ⟨here, there⟩ := List.forall_mem_cons.mp whole
      unfold repeatedValue? at repeated
      split at repeated
      · cases repeated
        exact here
      · exact ih there repeated

theorem Choice.readsOrdinary_read : ReadsOrdinary Choice.read := by
  have hereditary := Value.hereditary_isOrdinary
  refine .record fun fields ordinary => ?_
  rw [isStopped_ensure]
  · have lifetime : ReadsOrdinary Choice.readLifetime :=
      .record fun fields ordinary => by simp [UnstoppableOn.defaulted hereditary ordinary]
    simp [UnstoppableOn.required hereditary ordinary, UnstoppableOn.defaulted hereditary ordinary,
      UnstoppableOn.listOfSome hereditary, ChoiceOption.readsOrdinary_read, lifetime]
  · -- The message names the choice and the value that it repeats, both without a half.
    intro choice message accepted problem
    obtain ⟨value, repeated, same⟩ := Option.map_eq_some_iff.mp problem
    cases same
    simp only [seq_eq_accepted_iff, map_eq_accepted_iff] at accepted
    obtain ⟨_, options, ⟨_, _, ⟨_, _, ⟨id, acceptedId, rfl⟩, -, rfl⟩, -, rfl⟩, acceptedOptions,
      rfl⟩ := accepted
    have wholeId := holdsHalf_of_required ordinary acceptedId
    have wholeOptions : ∀ option ∈ options, Text.holdsHalf option.value = false := by
      intro option chosen
      obtain ⟨list, found, listed⟩ := required_eq_accepted_iff.mp acceptedOptions
      obtain ⟨items, item, rfl, member, readItem⟩ :=
        exists_read_of_mem (listOfSome_eq_accepted_iff.mp listed).1 chosen
      have ordinaryItem := Value.isOrdinary_item (hereditary.of_get? ordinary found) item member
      obtain ⟨itemFields, rfl, inner⟩ := record_eq_accepted_iff.mp readItem
      simp only [seq_eq_accepted_iff, map_eq_accepted_iff] at inner
      obtain ⟨_, _, ⟨_, _, ⟨value, acceptedValue, rfl⟩, -, rfl⟩, -, rfl⟩ := inner
      exact holdsHalf_of_required ordinaryItem acceptedValue
    have wholeValue := holdsHalf_repeatedValue? wholeOptions repeated
    simp only [toString]
    rw [Text.holdsHalf_append_plain (by decide), Text.holdsHalf_between (by decide),
      Text.holdsHalf_plain_append (by decide), wholeId, wholeValue]
    rfl

theorem RuleBody.isStopped_of_shape? {kind : String} {readShape : Fields → Checked RuleBody}
    {fields : Fields} (ordinary : (Value.object fields).isOrdinary = true)
    (shape : shape? kind = some readShape) : (readShape fields).isStopped = false := by
  have hereditary := Value.hereditary_isOrdinary
  unfold shape? at shape
  split at shape <;> cases shape <;>
    simp [UnstoppableOn.required hereditary ordinary, Block.readsOrdinary_readSome,
      Choice.readsOrdinary_read]

theorem Trigger.readsOrdinary_read : ReadsOrdinary Trigger.read := by
  have hereditary := Value.hereditary_isOrdinary
  have one : ReadsOrdinary (word : Value → Checked Phase) := unstoppableOn_word
  have phases : ReadsOrdinary Trigger.readPhases := by
    intro value ordinary
    refine isStopped_either ?_ ?_
    · rw [isStopped_map]
      exact one value ordinary
    · rw [isStopped_map]
      exact one.list hereditary value ordinary
  refine .record fun fields ordinary => ?_
  simp [UnstoppableOn.defaulted hereditary ordinary, phases]

theorem Rule.readsOrdinary_read : ReadsOrdinary Rule.read := by
  have hereditary := Value.hereditary_isOrdinary
  refine .tagged fun fields kind readShape ordinary shape => ?_
  obtain ⟨readBody, shapeBody, rfl⟩ := Option.map_eq_some_iff.mp shape
  simp [UnstoppableOn.required hereditary ordinary, UnstoppableOn.defaulted hereditary ordinary,
    RuleBody.isStopped_of_shape? ordinary shapeBody, Trigger.readsOrdinary_read,
    show ReadsOrdinary Condition.read from Condition.readsOrdinary_readBehind 0]

theorem Stratagem.readsOrdinary_read : ReadsOrdinary Stratagem.read := by
  have hereditary := Value.hereditary_isOrdinary
  refine .record fun fields ordinary => ?_
  rw [isStopped_ensure]
  · simp [UnstoppableOn.required hereditary ordinary, UnstoppableOn.defaulted hereditary ordinary,
      UnstoppableOn.list hereditary]
  · intro stratagem message accepted problem
    split at problem
    · cases problem
      simp only [seq_eq_accepted_iff, map_eq_accepted_iff] at accepted
      obtain ⟨_, turn, ⟨_, round, ⟨_, aliases, ⟨_, detachment, ⟨_, faction, ⟨_, effect,
        ⟨_, condition, ⟨_, phase, ⟨_, cost, ⟨_, name, ⟨id, acceptedId, rfl⟩, -, rfl⟩, -, rfl⟩,
        -, rfl⟩, -, rfl⟩, -, rfl⟩, -, rfl⟩, -, rfl⟩, -, rfl⟩, -, rfl⟩, -, rfl⟩ := accepted
      have wholeId := holdsHalf_of_required ordinary acceptedId
      simp only [toString]
      rw [Text.holdsHalf_append_plain (by decide), Text.holdsHalf_plain_append (by decide),
        wholeId]
    · cases problem

end Skirmish
