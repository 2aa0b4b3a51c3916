import Skirmish.Proofs.Content.Warnings
import Skirmish.Proofs.Rulebook.Ordinary

/-!
# Inspections that come to their end

An inspection goes on after whatever it finds.  When all documents can be read, it stops only
at a record whose reading is stopped, at malformed dice that cannot be shown, or at a rule in
which an effect of unknown kind carries conditions.
-/

namespace Skirmish

open Schema

namespace Inspection

variable {α β : Type}

/-- The inspection is not stopped. -/
def Ends (inspection : Inspection α) : Prop :=
  ∃ value, inspection.outcome = .ok value

theorem outcome_bind_eq_ok_iff {first : Inspection α} {next : α → Inspection β} {value : β} :
    (first >>= next).outcome = .ok value ↔
      ∃ middle, first.outcome = .ok middle ∧ (next middle).outcome = .ok value := by
  obtain ⟨found, outcome⟩ := first
  cases outcome with
  | error fault => exact iff_of_false nofun fun ⟨_, reached, _⟩ => nomatch reached
  | ok middle =>
      refine ⟨fun reached => ⟨middle, rfl, reached⟩, ?_⟩
      rintro ⟨_, ⟨⟩, reached⟩
      exact reached

theorem ends_bind_iff {first : Inspection α} {next : α → Inspection β} :
    (first >>= next).Ends ↔ ∃ middle, first.outcome = .ok middle ∧ (next middle).Ends := by
  constructor
  · rintro ⟨value, reached⟩
    obtain ⟨middle, before, after⟩ := outcome_bind_eq_ok_iff.mp reached
    exact ⟨middle, before, value, after⟩
  · rintro ⟨middle, before, value, after⟩
    exact ⟨value, outcome_bind_eq_ok_iff.mpr ⟨middle, before, after⟩⟩

theorem ends_pure (value : α) : (pure value : Inspection α).Ends :=
  ⟨value, rfl⟩

theorem ends_report_bind_iff {findings : List Finding} {next : Unit → Inspection β} :
    (report findings >>= next).Ends ↔ (next ()).Ends :=
  Iff.rfl

theorem ends_bind_iff_and {first : Inspection α} {next : α → Inspection β} {condition : Prop}
    (same : ∀ value, (next value).Ends ↔ condition) :
    (first >>= next).Ends ↔ first.Ends ∧ condition := by
  rw [ends_bind_iff]
  exact ⟨fun ⟨value, before, after⟩ => ⟨⟨value, before⟩, (same value).mp after⟩,
    fun ⟨⟨value, before⟩, holds⟩ => ⟨value, before, (same value).mpr holds⟩⟩

theorem ends_bind_iff_of_ends {first : Inspection α} {next : α → Inspection β}
    (always : ∀ value, (next value).Ends) : (first >>= next).Ends ↔ first.Ends := by
  rw [ends_bind_iff_and fun value => iff_true_intro (always value), and_true]

theorem ends_attempt_iff {outcome : Except Fault α} :
    (attempt outcome).Ends ↔ ∃ value, outcome = .ok value :=
  Iff.rfl

end Inspection

open Inspection

/-! ## Dice -/

/-- The value can be shown where a dice expression is looked for.  An integer is one and is
never shown; of any other value, no integer within it may have more digits than a numeral. -/
def Value.IsShowableDice : Value → Prop
  | .int _ => True
  | dice => ∀ n ∈ dice.integers, n.natAbs < Text.numeralBound

theorem diceFinding?_showable_iff {file : Path} {field : String} {dice : Value} :
    (∀ finding, diceFinding? file field dice = some finding →
      ∀ n ∈ finding.numbers, n.natAbs < Text.numeralBound) ↔ dice.IsShowableDice := by
  cases dice with
  | int n => exact iff_of_true nofun trivial
  | text s =>
      refine iff_of_true (fun finding found n shown => ?_) fun n shown => ?_
      · simp only [diceFinding?] at found
        split at found
        · obtain ⟨column, -, rfl⟩ := Option.map_eq_some_iff.mp found
          exact (List.not_mem_nil shown).elim
        · cases found
          simp [Finding.numbers, Value.integers] at shown
      · simp [Value.integers] at shown
  | bool b =>
      refine iff_of_true nofun fun n shown => ?_
      simp [Value.integers] at shown
  | null | float x | list items | object fields =>
      simp [diceFinding?, Finding.numbers, Value.IsShowableDice]

/-- The findings about the dice of a value can be shown just if all of its dice can. -/
theorem writable_diceFindings_iff {file : Path} {place : String} {content : Value} :
    writable ((diceFindings file place content).flatMap Finding.numbers) = .ok () ↔
      ∀ field dice, (field, dice) ∈ diceValues place content → dice.IsShowableDice := by
  rw [writable_eq_ok_iff]
  constructor
  · intro small field dice listed
    refine (@diceFinding?_showable_iff file field dice).mp fun finding found n shown => ?_
    exact small n (List.mem_flatMap.mpr
      ⟨finding, List.mem_filterMap.mpr ⟨(field, dice), listed, found⟩, shown⟩)
  · intro showable n shown
    obtain ⟨finding, listed, within⟩ := List.mem_flatMap.mp shown
    obtain ⟨⟨field, dice⟩, held, found⟩ := List.mem_filterMap.mp listed
    exact diceFinding?_showable_iff.mpr (showable field dice held) finding found n within

/-! ## Records -/

section Records

variable {α : Type} [Catalogued α]

theorem ends_inspectValues_iff {file : Path} {place : Nat} {values : List Value} :
    (inspectValues α file place values).Ends ↔
      ∀ value ∈ values, (Catalogued.read value : Checked α).isStopped = false := by
  induction values generalizing place with
  | nil => exact iff_of_true (ends_pure []) fun _ member => (List.not_mem_nil member).elim
  | cons value rest ih =>
      rw [List.forall_mem_cons, ← @ih (place + 1), inspectValues]
      cases (Catalogued.read value : Checked α) with
      | accepted record => simp [ends_bind_iff_of_ends, ends_pure]
      | rejected violations => simp [ends_report_bind_iff]
      | stopped obstacle => simp [ends_attempt_iff, Checked.isStopped]

/-- A document can be read, no record in it is stopped, and its dice can be shown. -/
theorem ends_inspectDocument_iff {place : String} {document : Document} :
    (inspectDocument α place document).Ends ↔ ∃ content, document.content = .ok content ∧
      (∀ value ∈ (Catalogued.kind α).recordsOf content,
        (Catalogued.read value : Checked α).isStopped = false) ∧
      ∀ field dice, (field, dice) ∈ diceValues place content → dice.IsShowableDice := by
  rw [inspectDocument, ends_bind_iff]
  refine exists_congr fun content => and_congr Iff.rfl ?_
  refine (ends_bind_iff_and fun records => ?_).trans (and_congr_left' ends_inspectValues_iff)
  rw [ends_bind_iff_of_ends fun _ => ends_report_bind_iff.mpr (ends_pure records),
    ends_attempt_iff, ← @writable_diceFindings_iff document.path]
  exact ⟨fun ⟨_, shown⟩ => shown, fun shown => ⟨(), shown⟩⟩

theorem ends_inspectDocuments_iff {place : String} {documents : List Document} :
    (inspectDocuments α place documents).Ends ↔
      ∀ document ∈ documents, (inspectDocument α place document).Ends := by
  induction documents with
  | nil => exact iff_of_true (ends_pure []) fun _ member => (List.not_mem_nil member).elim
  | cons document rest ih =>
      rw [List.forall_mem_cons, ← ih, inspectDocuments, ends_bind_iff]
      constructor
      · rintro ⟨records, inspected, ends⟩
        rw [ends_bind_iff_of_ends fun _ => ends_pure _] at ends
        exact ⟨⟨records, inspected⟩, ends⟩
      · rintro ⟨⟨records, inspected⟩, ends⟩
        exact ⟨records, inspected, (ends_bind_iff_of_ends fun _ => ends_pure _).mpr ends⟩

/-- A document of a content folder holds the value in the place of a record of a kind. -/
def HoldsRecord (α : Type) [Catalogued α] (documents : List Document) (base : Path)
    (value : Value) : Prop :=
  ∃ document ∈ documents, document.path.isInside (Catalogue.folderOf α base) = true ∧
    ∃ content, document.content = .ok content ∧ value ∈ (Catalogued.kind α).recordsOf content

/-- A document of a content folder that is read for records of a kind holds the value in a
dice field of a weapon. -/
def HoldsDice (kind : RecordKind) (documents : List Document) (base : Path) (dice : Value) :
    Prop :=
  ∃ document ∈ documents, document.path.isInside (base.under kind.folder) = true ∧
    ∃ content, document.content = .ok content ∧
      ∃ field, (field, dice) ∈ diceValues kind.folder content

theorem ends_inspectKind_iff {documents : List Document} {base : Path}
    (readable : ∀ document ∈ documents, ∃ content, document.content = .ok content) :
    (inspectKind α documents base).Ends ↔
      (∀ value, HoldsRecord α documents base value →
        (Catalogued.read value : Checked α).isStopped = false) ∧
      ∀ dice, HoldsDice (Catalogued.kind α) documents base dice → dice.IsShowableDice := by
  rw [inspectKind, ends_inspectDocuments_iff]
  constructor
  · intro ends
    constructor
    · rintro value ⟨document, listed, inside, content, read, held⟩
      obtain ⟨other, readOther, unstopped, -⟩ :=
        ends_inspectDocument_iff.mp (ends document (mem_documentsInside.mpr ⟨listed, inside⟩))
      obtain rfl := ok_unique read readOther
      exact unstopped value held
    · rintro dice ⟨document, listed, inside, content, read, field, held⟩
      obtain ⟨other, readOther, -, showable⟩ :=
        ends_inspectDocument_iff.mp (ends document (mem_documentsInside.mpr ⟨listed, inside⟩))
      obtain rfl := ok_unique read readOther
      exact showable field dice held
  · rintro ⟨unstopped, showable⟩ document member
    obtain ⟨listed, inside⟩ := mem_documentsInside.mp member
    obtain ⟨content, read⟩ := readable document listed
    exact ends_inspectDocument_iff.mpr ⟨content, read,
      fun value held => unstopped value ⟨document, listed, inside, content, read, held⟩,
      fun field dice held =>
        showable dice ⟨document, listed, inside, content, read, field, held⟩⟩

theorem exists_located_iff {documents : List Document} {base : Path}
    {records : List (Located α)}
    (inspected : (inspectKind α documents base).outcome = .ok records) {record : α} :
    (∃ located ∈ records, located.record = record) ↔
      ∃ value, HoldsRecord α documents base value ∧
        Catalogued.read value = Checked.accepted record := by
  have concluded := concludes_of_outcome inspected
  constructor
  · rintro ⟨located, listed, rfl⟩
    obtain ⟨document, member, content, read, ⟨value, held, accepted⟩, -⟩ :=
      exists_document_of_mem concluded listed
    obtain ⟨listed, inside⟩ := mem_documentsInside.mp member
    exact ⟨value, ⟨document, listed, inside, content, read, held⟩, accepted⟩
  · rintro ⟨value, ⟨document, listed, inside, content, read, held⟩, accepted⟩
    exact ⟨_, mem_of_document concluded (mem_documentsInside.mpr ⟨listed, inside⟩) read held
      accepted, rfl⟩

end Records

/-! ## Rules -/

theorem ends_inspectNode_iff {file : Path} {rule : String} {recorded : List String}
    {node : Option Condition} : (inspectNode file rule recorded node).Ends ↔ node ≠ none := by
  cases node with
  | none => exact iff_of_false nofun fun read => read rfl
  | some condition =>
      refine iff_of_true ?_ nofun
      cases condition <;> exact ⟨(), rfl⟩

theorem ends_inspectNodes_iff {file : Path} {rule : String} {recorded : List String}
    {nodes : List (Option Condition)} :
    (inspectNodes file rule recorded nodes).Ends ↔ none ∉ nodes := by
  induction nodes with
  | nil => exact iff_of_true (ends_pure ()) List.not_mem_nil
  | cons node rest ih =>
      rw [inspectNodes, ends_bind_iff_and fun _ => ih, ends_inspectNode_iff, List.mem_cons, not_or]
      exact and_congr_left' ne_comm

/-- Inspecting a rule stops only at an effect of unknown kind that carries conditions. -/
theorem ends_inspectRule_iff {recorded : List String} {located : Located Rule} :
    (inspectRule recorded located).Ends ↔
      ∀ effect ∈ Block.effectsOfAll located.record.blocks, effect.IsPlain := by
  rw [inspectRule, ends_bind_iff]
  constructor
  · rintro ⟨nodes, listed, ends⟩
    rw [ends_bind_iff_of_ends fun _ => ⟨(), rfl⟩] at ends
    have read := ends_inspectNodes_iff.mp ends
    rw [List.mem_append, not_or] at read
    exact Block.isPlain_of_conditionNodesOfAll _ listed read.2
  · intro plain
    have listed := Block.conditionNodesOfAll_of_plain _ plain
    refine ⟨_, listed, ?_⟩
    rw [ends_bind_iff_of_ends fun _ => ⟨(), rfl⟩, ends_inspectNodes_iff, ← List.map_append]
    simp

theorem ends_inspectRules_iff {recorded : List String} {rules : List (Located Rule)} :
    (inspectRules recorded rules).Ends ↔ ∀ located ∈ rules,
      ∀ effect ∈ Block.effectsOfAll located.record.blocks, effect.IsPlain := by
  induction rules with
  | nil => exact iff_of_true (ends_pure ()) fun _ member => (List.not_mem_nil member).elim
  | cons first rest ih =>
      rw [inspectRules, ends_bind_iff_and fun _ => ih, ends_inspectRule_iff, List.forall_mem_cons]

/-! ## The whole folder -/

variable {documents : List Document} {base : Path} {warnUnused : Bool}

theorem ends_inspectFolder_iff :
    (inspectFolder documents base warnUnused).Ends ↔
      ∃ rules, (inspectKind Rule documents base).outcome = .ok rules ∧
        (inspectKind Stratagem documents base).Ends ∧
        (inspectKind Scenario documents base).Ends ∧
        ∀ located ∈ rules,
          ∀ effect ∈ Block.effectsOfAll located.record.blocks, effect.IsPlain := by
  rw [inspectFolder, ends_bind_iff]
  refine exists_congr fun rules => and_congr Iff.rfl ?_
  refine ends_bind_iff_and fun stratagems => ends_bind_iff_and fun scenarios => ?_
  rw [ends_report_bind_iff, ends_report_bind_iff, ends_bind_iff_of_ends, ends_inspectRules_iff]
  intro _
  split
  · exact ⟨(), rfl⟩
  · exact ends_pure ()

/-- Let all documents be readable.  An inspection comes to its end just if no rule and no
stratagem in the folder is stopped while it is read, no effect of unknown kind in its rules
carries conditions, and whatever its weapons hold in the place of dice can be shown.  Ordinary
values do not stop a reading. -/
theorem inspectFolder_ends_iff
    (readable : ∀ document ∈ documents, ∃ content, document.content = .ok content) :
    ((inspectFolder documents base warnUnused).outcome = .ok () ↔
      (∀ value, HoldsRecord Rule documents base value →
        (Rule.read value).isStopped = false ∧ ∀ rule, Rule.read value = .accepted rule →
          ∀ effect ∈ Block.effectsOfAll rule.blocks, effect.IsPlain) ∧
      (∀ value, HoldsRecord Stratagem documents base value →
        (Stratagem.read value).isStopped = false) ∧
      ∀ kind dice, HoldsDice kind documents base dice → dice.IsShowableDice) ∧
    ∀ value : Value, value.isOrdinary = true →
      (Rule.read value).isStopped = false ∧ (Stratagem.read value).isStopped = false := by
  have ends_iff : (inspectFolder documents base warnUnused).outcome = .ok () ↔
      (inspectFolder documents base warnUnused).Ends :=
    ⟨fun reached => ⟨(), reached⟩, fun ⟨_, reached⟩ => reached⟩
  refine ⟨?_, fun value ordinary =>
    ⟨Rule.readsOrdinary_read value ordinary, Stratagem.readsOrdinary_read value ordinary⟩⟩
  rw [ends_iff, ends_inspectFolder_iff]
  constructor
  · rintro ⟨rules, inspected, stratagems, scenarios, plain⟩
    obtain ⟨unstopped, ruleDice⟩ := (ends_inspectKind_iff readable).mp ⟨rules, inspected⟩
    obtain ⟨unstoppedStratagems, stratagemDice⟩ := (ends_inspectKind_iff readable).mp stratagems
    obtain ⟨-, scenarioDice⟩ := (ends_inspectKind_iff readable).mp scenarios
    refine ⟨fun value held => ⟨unstopped value held, fun rule accepted => ?_⟩,
      unstoppedStratagems, fun kind => ?_⟩
    · obtain ⟨located, listed, rfl⟩ :=
        (exists_located_iff inspected).mpr ⟨value, held, accepted⟩
      exact plain located listed
    · cases kind with
      | rule => exact ruleDice
      | stratagem => exact stratagemDice
      | scenario => exact scenarioDice
  · rintro ⟨heldRules, heldStratagems, showable⟩
    obtain ⟨rules, inspected⟩ : (inspectKind Rule documents base).Ends :=
      (ends_inspectKind_iff readable).mpr
        ⟨fun value held => (heldRules value held).1, showable .rule⟩
    have stratagems : (inspectKind Stratagem documents base).Ends :=
      (ends_inspectKind_iff readable).mpr ⟨heldStratagems, showable .stratagem⟩
    have scenarios : (inspectKind Scenario documents base).Ends :=
      (ends_inspectKind_iff readable).mpr
        ⟨fun value _ => Scenario.isStopped_read value, showable .scenario⟩
    refine ⟨rules, inspected, stratagems, scenarios, fun located listed => ?_⟩
    obtain ⟨value, held, accepted⟩ := (exists_located_iff inspected).mp ⟨located, listed, rfl⟩
    exact (heldRules value held).2 located.record accepted

/-- A passive rule with one effect. -/
def gatekeepers (effect : Fields) : Value :=
  .object [("id", .text "gatekeepers"), ("kind", .text "passive"),
    ("name", .text "Gatekeepers"),
    ("then", .list [.object [("t", .text "do"), ("fx", .list [.object effect])]])]

/-- A content folder that holds only this rule. -/
def gatekeepersFolder (effect : Fields) : List Document :=
  [⟨⟨["content", "rules", "a.json"]⟩, .ok (gatekeepers effect)⟩]

/-- An effect of unknown kind without conditions does no harm. -/
theorem gatekeepersFolder_ends :
    (∀ document ∈ gatekeepersFolder [("t", .text "teleport"), ("distance", .int 9)],
      ∃ content, document.content = .ok content) ∧
    (inspectFolder (gatekeepersFolder [("t", .text "teleport"), ("distance", .int 9)])
      ⟨["content"]⟩ false).outcome = .ok () := by
  have readable : ∀ document ∈ gatekeepersFolder [("t", .text "teleport"), ("distance", .int 9)],
      ∃ content, document.content = .ok content :=
    List.forall_mem_singleton.mpr ⟨_, rfl⟩
  obtain ⟨ends_iff, unstopped⟩ := @inspectFolder_ends_iff _ ⟨["content"]⟩ false readable
  refine ⟨readable, ends_iff.mpr ⟨?_, ?_, ?_⟩⟩
  · rintro value ⟨document, listed, -, content, read, held⟩
    cases List.mem_singleton.mp listed
    cases read
    obtain rfl := List.mem_singleton.mp held
    refine ⟨(unstopped _ (by decide +kernel)).1, fun rule accepted => ?_⟩
    cases accepted
    intro effect member
    cases List.mem_singleton.mp member
    rfl
  · rintro value ⟨document, listed, inside, -⟩
    cases List.mem_singleton.mp listed
    exact absurd inside (by decide +kernel)
  · rintro kind dice ⟨document, listed, -, content, read, field, held⟩
    cases List.mem_singleton.mp listed
    cases read
    have none : diceValues kind.folder
        (gatekeepers [("t", .text "teleport"), ("distance", .int 9)]) = [] := by
      cases kind <;> decide +kernel
    rw [none] at held
    exact (List.not_mem_nil held).elim

/-- An effect of unknown kind stops the inspection when it carries a condition, or anything
that is not nothing in the place of conditions, and so does a list in the place of a kind. -/
theorem gatekeepersFolder_stops :
    (inspectFolder (gatekeepersFolder [("t", .text "teleport"), ("conditions", .list [.int 5])])
      ⟨["content"]⟩ false).outcome = .error .rawCondition ∧
    (inspectFolder (gatekeepersFolder [("t", .text "teleport"), ("conditions", .int 5)])
      ⟨["content"]⟩ false).outcome = .error .notIterable ∧
    (inspectFolder (gatekeepersFolder [("t", .list [])])
      ⟨["content"]⟩ false).outcome = .error .unusableKind := by
  decide +kernel

end Skirmish
