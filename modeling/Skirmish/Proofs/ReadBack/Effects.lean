import Skirmish.Proofs.ReadBack.Conditions
import Skirmish.Rulebook.Effect

/-!
# Reading back effects and blocks

An effect is dumped with its limit and its conditions in front of the fields of its own, and
a block with the effects or the blocks within it.
-/

namespace Skirmish

open Schema Checked

/-! ## Actions -/

/-- The dump of an action names its kind, and is read in the same way behind the fields that
all effects have. -/
theorem Action.shape?_readsBack {kind : String} {readShape : Fields → Checked Action}
    {fields : Fields} {action : Action} (shape : shape? kind = some readShape)
    (accepted : readShape fields = .accepted action) :
    action.kind = kind ∧ ∀ limit conditions tag : Value,
      readShape ([("appliesTo", limit), ("conditions", conditions), ("t", tag)] ++
        action.dumpFields) = .accepted action := by
  unfold shape? at shape
  split at shape <;> cases shape
  -- The modifiers of rolls and of the movement.
  case h_1 | h_2 | h_3 | h_4 | h_8 =>
    obtain ⟨add, rfl, again⟩ := readsBack_int.map_required accepted
    exact ⟨rfl, fun _ _ _ => again _ rfl⟩
  -- The modifiers of characteristics.
  case h_5 | h_6 =>
    obtain ⟨stat, add, rfl, again⟩ :=
      readsBack_word.map_required_seq_required readsBack_int accepted
    exact ⟨rfl, fun _ _ _ => again _ rfl rfl⟩
  -- `setDefensiveStat`
  case h_7 =>
    obtain ⟨stat, n, rfl, again⟩ :=
      readsBack_word.map_required_seq_required (readsBack_intFrom 1) accepted
    exact ⟨rfl, fun _ _ _ => again _ rfl rfl⟩
  -- `addWeaponAbility`
  case h_9 =>
    obtain ⟨ability, rfl, again⟩ := WeaponAbility.readsBack.map_required accepted
    exact ⟨rfl, fun _ _ _ => again _ rfl⟩
  -- `addUnitAbility`
  case h_10 =>
    obtain ⟨ability, rfl, again⟩ := UnitAbility.readsBack.map_required accepted
    exact ⟨rfl, fun _ _ _ => again _ rfl⟩
  -- `addKeyword`
  case h_11 =>
    obtain ⟨_, value, acceptedKeyword, -, rfl⟩ := seq_eq_accepted_iff.mp accepted
    obtain ⟨keyword, rfl, again⟩ := readsBack_text.map_required acceptedKeyword
    refine ⟨rfl, fun _ _ _ => seq_eq_accepted_iff.mpr ⟨_, value, again _ rfl, rfl, rfl⟩⟩
  -- The saves that are set.
  case h_12 | h_13 =>
    obtain ⟨n, rfl, again⟩ := (readsBack_intBetween 2 7).map_required accepted
    exact ⟨rfl, fun _ _ _ => again _ rfl⟩
  -- The critical rolls that are set.
  case h_14 | h_15 =>
    obtain ⟨n, rfl, again⟩ := (readsBack_intBetween 2 6).map_required accepted
    exact ⟨rfl, fun _ _ _ => again _ rfl⟩
  -- `reroll`
  case h_16 =>
    obtain ⟨phase, kind, rfl, again⟩ :=
      readsBack_word.map_required_seq_required readsBack_word accepted
    exact ⟨rfl, fun _ _ _ => again _ rfl rfl⟩

/-! ## Effects -/

theorem Effect.ofFields_readsBack {steps : Nat} {fields : Fields} {effect : Effect}
    (accepted : ofFields steps fields = .accepted effect) :
    ∃ again : Fields, effect.dump = .object again ∧
      ofFields steps again = .accepted effect := by
  unfold ofFields at accepted
  split at accepted
  · rename_i kind named
    split at accepted
    · rename_i readShape shape
      obtain ⟨within, accepted⟩ := nested_eq_accepted_iff.mp accepted
      simp only [seq_eq_accepted_iff, map_eq_accepted_iff] at accepted
      obtain ⟨_, action, ⟨_, conditions, ⟨limit, acceptedLimit, rfl⟩, acceptedConditions, rfl⟩,
        acceptedAction, rfl⟩ := accepted
      obtain ⟨rfl, actionAgain⟩ := Action.shape?_readsBack shape acceptedAction
      have limitAgain := readsBack_word.defaulted rfl acceptedLimit
      have conditionsAgain :=
        (Condition.readsBack_readListAt (.start steps)).defaulted rfl acceptedConditions
      refine ⟨_, rfl, ?_⟩
      unfold ofFields
      -- The kind stands behind the limit and the conditions.
      simp only [List.cons_append, List.nil_append, get?_cons, String.reduceEq, if_true,
        if_false, shape]
      refine nested_eq_accepted_iff.mpr ⟨within, ?_⟩
      simp only [seq_eq_accepted_iff, map_eq_accepted_iff]
      exact ⟨_, action, ⟨_, conditions, ⟨limit, defaulted_of_get? rfl limitAgain, rfl⟩,
        defaulted_of_get? rfl conditionsAgain, rfl⟩, actionAgain _ _ _, rfl⟩
    · rename_i unknown
      obtain ⟨rfl, again⟩ := nested_kept_again (by decide) accepted
      refine ⟨_, rfl, ?_⟩
      have namedAgain :
          Fields.get? (("t", .text kind) :: fields.without "t") "t" = some (.text kind) := rfl
      unfold ofFields
      simp only [namedAgain, unknown]
      exact again (.text kind)
  · cases accepted
  · cases accepted
  · exact absurd accepted nested_kept_ne_accepted
  · exact absurd accepted nested_kept_ne_accepted

theorem Effect.readsBack_readAt (steps : Nat) : ReadsBack (readAt steps) dump := by
  intro value effect accepted
  cases value with
  | object fields =>
      obtain ⟨again, dumped, readAgain⟩ := ofFields_readsBack accepted
      rw [dumped]
      exact readAgain
  | _ => simp [readAt, nested_eq_accepted_iff, reject_ne_accepted] at accepted

/-! ## Blocks -/

namespace Block

theorem ofFields_readsBack {steps : Nat} {fields : Fields}
    {lists : List (String × Checked (List Block))} {block : Block}
    (listsBack : ∀ {name reading blocks}, lists.lookup name = some reading →
      reading = .accepted blocks →
        readListAt (guardSteps steps) (.list (dumpAll blocks)) = .accepted blocks)
    (accepted : ofFields steps fields lists = .accepted block) :
    ∃ again : Fields, block.dump = .object again ∧
      ofFields steps again (readFields (guardSteps steps) again) = .accepted block := by
  unfold ofFields at accepted
  dsimp only at accepted
  split at accepted
  · obtain ⟨effects, acceptedEffects, rfl⟩ :=
      map_eq_accepted_iff.mp (under_eq_accepted_iff.mp accepted)
    have effectsAgain :=
      (Effect.readsBack_readAt (steps + 1)).list.defaulted rfl acceptedEffects
    refine ⟨_, by rw [dump], ?_⟩
    refine under_eq_accepted_iff.mpr (map_eq_accepted_iff.mpr ⟨effects, ?_, rfl⟩)
    exact defaulted_of_get? rfl effectsAgain
  · obtain ⟨within, accepted⟩ := nested_eq_accepted_iff.mp accepted
    obtain ⟨_, blocks, acceptedWhen, acceptedBlocks, rfl⟩ := seq_eq_accepted_iff.mp accepted
    obtain ⟨condition, rfl, again⟩ :=
      (Condition.readsBack_readBehind (guardSteps steps)).map_required acceptedWhen
    refine ⟨_, by rw [dump], ?_⟩
    refine nested_eq_accepted_iff.mpr ⟨within, ?_⟩
    refine seq_eq_accepted_iff.mpr ⟨_, blocks, again _ rfl, ?_, rfl⟩
    split at acceptedBlocks
    · rename_i reading found
      obtain ⟨acceptedReading, some⟩ :=
        ensure_eq_accepted_iff.mp (under_eq_accepted_iff.mp acceptedBlocks)
      simp only [readFields]
      exact under_eq_accepted_iff.mpr
        (ensure_eq_accepted_iff.mpr ⟨listsBack found acceptedReading, some⟩)
    · cases acceptedBlocks
  · exact absurd accepted reject_ne_accepted
  · exact absurd accepted reject_ne_accepted

mutual

theorem readAt_dump : ∀ (value : Value) {steps : Nat} {block : Block},
    readAt steps value = .accepted block → readAt steps block.dump = .accepted block := by
  intro value steps block accepted
  cases value with
  | object fields =>
      unfold readAt at accepted
      obtain ⟨again, dumped, readAgain⟩ :=
        ofFields_readsBack (readFields_dump fields) accepted
      rw [dumped]
      unfold readAt
      exact readAgain
  | _ => simp [readAt, reject_ne_accepted] at accepted

theorem readListAt_dump : ∀ (value : Value) {steps : Nat} {blocks : List Block},
    readListAt steps value = .accepted blocks →
      readListAt steps (.list (dumpAll blocks)) = .accepted blocks := by
  intro value steps blocks accepted
  cases value with
  | list items =>
      unfold readListAt at accepted ⊢
      exact itemsFrom_eq_accepted_iff.mpr
        (readItems_dump items (itemsFrom_eq_accepted_iff.mp accepted))
  | _ => simp [readListAt, reject_ne_accepted] at accepted

theorem readItems_dump : ∀ (items : List Value) {steps : Nat} {blocks : List Block},
    List.Forall₂ (fun reading block => reading = .accepted block) (readItems steps items)
        blocks →
      List.Forall₂ (fun reading block => reading = .accepted block)
        (readItems steps (dumpAll blocks)) blocks := by
  intro items steps blocks each
  cases items with
  | nil =>
      unfold readItems at each
      cases each
      unfold dumpAll readItems
      exact .nil
  | cons item rest =>
      unfold readItems at each
      cases each with
      | cons first others =>
          unfold dumpAll readItems
          exact .cons (readAt_dump item first) (readItems_dump rest others)

theorem readFields_dump : ∀ (fields : Fields) {steps : Nat} {name : String}
    {reading : Checked (List Block)} {blocks : List Block},
    (readFields steps fields).lookup name = some reading → reading = .accepted blocks →
      readListAt steps (.list (dumpAll blocks)) = .accepted blocks := by
  intro fields steps name reading blocks found accepted
  cases fields with
  | nil =>
      unfold readFields at found
      cases found
  | cons field rest =>
      obtain ⟨other, value⟩ := field
      unfold readFields at found
      rw [List.lookup_cons] at found
      split at found
      · cases found
        exact readListAt_dump value accepted
      · exact readFields_dump rest found accepted

end

theorem readsBack : ReadsBack read dump :=
  fun value _ => readAt_dump value

theorem readsBack_readList : ReadsBack readList fun blocks => .list (dumpAll blocks) :=
  fun value _ => readListAt_dump value

theorem readsBack_readSome : ReadsBack readSome fun blocks => .list (dumpAll blocks) :=
  readsBack_readList.ensure _

end Block

end Skirmish
