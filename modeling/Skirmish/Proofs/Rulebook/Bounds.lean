import Skirmish.Proofs.Rulebook.Parts
import Skirmish.Proofs.Schema

/-!
# Bounds of what rules set

The reading of a rule checks the numbers that its effects set.  Every effect of a rule that
was accepted, at whatever depth of its blocks or options, was accepted itself, so no rule
sets a characteristic, a save or a critical roll out of its bounds.
-/

namespace Skirmish

open Schema Checked

/-! ## Actions -/

theorem Schema.le_of_intFrom {low n : Int} {value : Value}
    (accepted : intFrom low value = .accepted n) : low ≤ n := by
  have unproblematic := (ensure_eq_accepted_iff.mp accepted).2
  by_contra below
  rw [if_pos (by omega)] at unproblematic
  cases unproblematic

theorem Schema.bounds_of_intBetween {low high n : Int} {value : Value}
    (accepted : intBetween low high value = .accepted n) : low ≤ n ∧ n ≤ high := by
  have unproblematic := (ensure_eq_accepted_iff.mp accepted).2
  by_cases below : n < low
  · rw [if_pos below] at unproblematic
    cases unproblematic
  by_cases above : high < n
  · rw [if_neg below, if_pos above] at unproblematic
    cases unproblematic
  omega

/-- The number that the action sets is within the bounds of what it is set for. -/
def Action.IsBounded : Action → Prop
  | .setDefensiveStat _ n => 1 ≤ n
  | .setInvulnerable n | .setFeelNoPain n => 2 ≤ n ∧ n ≤ 7
  | .setCriticalHit n | .setCriticalWound n => 2 ≤ n ∧ n ≤ 6
  | _ => True

theorem Action.isBounded_of_shape? {kind : String} {readShape : Fields → Checked Action}
    {fields : Fields} {action : Action} (shape : shape? kind = some readShape)
    (accepted : readShape fields = .accepted action) : action.IsBounded := by
  have setBetween {low high : Int} {make : Int → Action}
      (read : make <$> required fields "n" (intBetween low high) = .accepted action) :
      ∃ n, action = make n ∧ low ≤ n ∧ n ≤ high := by
    obtain ⟨n, found, same⟩ := map_eq_accepted_iff.mp read
    obtain ⟨value, -, readNumber⟩ := required_eq_accepted_iff.mp found
    exact ⟨n, same.symm, bounds_of_intBetween readNumber⟩
  unfold shape? at shape
  split at shape <;> cases shape
  -- `setDefensiveStat`
  case h_7 =>
    obtain ⟨_, n, named, found, rfl⟩ := seq_eq_accepted_iff.mp accepted
    obtain ⟨stat, -, rfl⟩ := map_eq_accepted_iff.mp named
    obtain ⟨value, -, readNumber⟩ := required_eq_accepted_iff.mp found
    exact le_of_intFrom readNumber
  -- The saves and the critical rolls that are set.
  case h_12 | h_13 | h_14 | h_15 =>
    obtain ⟨n, rfl, bounds⟩ := setBetween accepted
    exact bounds
  -- The kinds that set no number.
  case h_1 | h_2 | h_3 | h_4 | h_8 | h_9 | h_10 =>
    obtain ⟨_, -, rfl⟩ := map_eq_accepted_iff.mp accepted
    trivial
  case h_5 | h_6 | h_11 | h_16 =>
    obtain ⟨_, _, named, -, rfl⟩ := seq_eq_accepted_iff.mp accepted
    obtain ⟨_, -, rfl⟩ := map_eq_accepted_iff.mp named
    trivial

/-! ## Effects -/

/-- The effect's action is within bounds.  One of unknown kind sets nothing. -/
def Effect.IsBounded : Effect → Prop
  | .known action .. => action.IsBounded
  | .unknown .. => True

theorem Effect.isBounded_of_readAt {steps : Nat} {value : Value} {effect : Effect}
    (accepted : readAt steps value = .accepted effect) : effect.IsBounded := by
  cases value with
  | object fields =>
      unfold readAt ofFields at accepted
      dsimp only at accepted
      split at accepted
      · split at accepted
        · rename_i readShape shape
          obtain ⟨-, accepted⟩ := nested_eq_accepted_iff.mp accepted
          simp only [seq_eq_accepted_iff, map_eq_accepted_iff] at accepted
          obtain ⟨_, action, ⟨_, conditions, ⟨limit, -, rfl⟩, -, rfl⟩, acceptedAction, rfl⟩ :=
            accepted
          exact Action.isBounded_of_shape? shape acceptedAction
        · obtain ⟨-, accepted⟩ := nested_eq_accepted_iff.mp accepted
          obtain ⟨-, accepted⟩ := kept_eq_accepted_iff.mp accepted
          cases accepted
          trivial
      · cases accepted
      · cases accepted
      · simp [nested_eq_accepted_iff, kept_eq_accepted_iff] at accepted
      · simp [nested_eq_accepted_iff, kept_eq_accepted_iff] at accepted
  | _ => simp [readAt, nested_eq_accepted_iff, reject_ne_accepted] at accepted

/-! ## Blocks -/

/-- All effects of the blocks are within bounds. -/
def Block.AllBounded (blocks : List Block) : Prop :=
  ∀ effect ∈ effectsOfAll blocks, effect.IsBounded

namespace Block

theorem ofFields_bounded {steps : Nat} {fields : Fields}
    {lists : List (String × Checked (List Block))} {block : Block}
    (listsBounded : ∀ {name reading blocks}, lists.lookup name = some reading →
      reading = .accepted blocks → AllBounded blocks)
    (accepted : ofFields steps fields lists = .accepted block) :
    ∀ effect ∈ block.effects, effect.IsBounded := by
  unfold ofFields at accepted
  dsimp only at accepted
  split at accepted
  · obtain ⟨effects, acceptedEffects, rfl⟩ :=
      map_eq_accepted_iff.mp (under_eq_accepted_iff.mp accepted)
    intro effect member
    unfold Block.effects at member
    rcases defaulted_eq_accepted_iff.mp acceptedEffects with ⟨value, -, read⟩ | ⟨-, rfl⟩
    · obtain ⟨_, item, -, -, readItem⟩ := exists_read_of_mem read member
      exact Effect.isBounded_of_readAt readItem
    · exact (List.not_mem_nil member).elim
  · obtain ⟨-, accepted⟩ := nested_eq_accepted_iff.mp accepted
    obtain ⟨_, blocks, acceptedWhen, acceptedBlocks, rfl⟩ := seq_eq_accepted_iff.mp accepted
    obtain ⟨condition, -, rfl⟩ := map_eq_accepted_iff.mp acceptedWhen
    split at acceptedBlocks
    · rename_i reading found
      obtain ⟨acceptedReading, -⟩ :=
        ensure_eq_accepted_iff.mp (under_eq_accepted_iff.mp acceptedBlocks)
      unfold Block.effects
      exact listsBounded found acceptedReading
    · cases acceptedBlocks
  · exact absurd accepted reject_ne_accepted
  · exact absurd accepted reject_ne_accepted

mutual

theorem readAt_bounded : ∀ (value : Value) {steps : Nat} {block : Block},
    readAt steps value = .accepted block → ∀ effect ∈ block.effects, effect.IsBounded := by
  intro value steps block accepted
  cases value with
  | object fields =>
      unfold readAt at accepted
      exact ofFields_bounded (readFields_bounded fields) accepted
  | _ => simp [readAt, reject_ne_accepted] at accepted

theorem readListAt_bounded : ∀ (value : Value) {steps : Nat} {blocks : List Block},
    readListAt steps value = .accepted blocks → AllBounded blocks := by
  intro value steps blocks accepted
  cases value with
  | list items =>
      unfold readListAt at accepted
      exact readItems_bounded items (itemsFrom_eq_accepted_iff.mp accepted)
  | _ => simp [readListAt, reject_ne_accepted] at accepted

theorem readItems_bounded : ∀ (items : List Value) {steps : Nat} {blocks : List Block},
    List.Forall₂ (fun reading block => reading = .accepted block) (readItems steps items)
      blocks → AllBounded blocks := by
  intro items steps blocks each
  cases items with
  | nil =>
      unfold readItems at each
      cases each
      exact fun _ member => (List.not_mem_nil member).elim
  | cons item rest =>
      unfold readItems at each
      cases each with
      | cons first others =>
          unfold AllBounded effectsOfAll
          exact List.forall_mem_append.mpr
            ⟨readAt_bounded item first, readItems_bounded rest others⟩

theorem readFields_bounded : ∀ (fields : Fields) {steps : Nat} {name : String}
    {reading : Checked (List Block)} {blocks : List Block},
    (readFields steps fields).lookup name = some reading → reading = .accepted blocks →
      AllBounded blocks := by
  intro fields steps name reading blocks found accepted
  cases fields with
  | nil =>
      unfold readFields at found
      cases found
  | cons field rest =>
      obtain ⟨other, value⟩ := field
      unfold readFields at found
      rw [List.lookup_cons] at found
      split at found
      · cases found
        exact readListAt_bounded value accepted
      · exact readFields_bounded rest found accepted

end

end Block

/-! ## Rules -/

theorem ChoiceOption.allBounded {value : Value} {option : ChoiceOption}
    (accepted : read value = .accepted option) : Block.AllBounded option.blocks := by
  obtain ⟨fields, -, inner⟩ := record_eq_accepted_iff.mp accepted
  simp only [seq_eq_accepted_iff, map_eq_accepted_iff] at inner
  obtain ⟨_, blocks, ⟨_, label, ⟨id, -, rfl⟩, -, rfl⟩, acceptedBlocks, rfl⟩ := inner
  rcases defaulted_eq_accepted_iff.mp acceptedBlocks with ⟨list, -, readBlocks⟩ | ⟨-, rfl⟩
  · exact Block.readListAt_bounded list readBlocks
  · exact fun _ member => (List.not_mem_nil member).elim

theorem Choice.allBounded {value : Value} {choice : Choice}
    (accepted : read value = .accepted choice) :
    Block.AllBounded (choice.options.flatMap (·.blocks)) := by
  obtain ⟨fields, -, checked⟩ := record_eq_accepted_iff.mp accepted
  obtain ⟨inner, -⟩ := ensure_eq_accepted_iff.mp checked
  simp only [seq_eq_accepted_iff, map_eq_accepted_iff] at inner
  obtain ⟨_, options, inner, acceptedOptions, rfl⟩ := inner
  obtain ⟨_, lifetime, ⟨_, prompt, ⟨id, -, rfl⟩, -, rfl⟩, -, rfl⟩ := inner
  obtain ⟨list, -, listed⟩ := required_eq_accepted_iff.mp acceptedOptions
  have readOptions := (listOfSome_eq_accepted_iff.mp listed).1
  intro effect member
  rw [Block.effectsOfAll_eq] at member
  obtain ⟨block, offered, inBlock⟩ := List.mem_flatMap.mp member
  obtain ⟨option, chosen, inOption⟩ := List.mem_flatMap.mp offered
  obtain ⟨_, item, -, -, readItem⟩ := exists_read_of_mem readOptions chosen
  refine ChoiceOption.allBounded readItem effect ?_
  rw [Block.effectsOfAll_eq]
  exact List.mem_flatMap.mpr ⟨block, inOption, inBlock⟩

/-- No effect of an accepted rule sets anything out of its bounds. -/
theorem Rule.allBounded {value : Value} {rule : Rule} (accepted : read value = .accepted rule) :
    Block.AllBounded rule.blocks := by
  obtain ⟨fields, kind, readShape, -, -, shape, inner⟩ := tagged_eq_accepted_iff.mp accepted
  obtain ⟨readBody, shapeBody, rfl⟩ := Option.map_eq_some_iff.mp shape
  simp only [seq_eq_accepted_iff, map_eq_accepted_iff] at inner
  obtain ⟨_, body, inner, acceptedBody, rfl⟩ := inner
  obtain ⟨_, condition, ⟨_, trigger, ⟨_, scope, ⟨_, faction, ⟨_, description, ⟨_, name,
    ⟨id, -, rfl⟩, -, rfl⟩, -, rfl⟩, -, rfl⟩, -, rfl⟩, -, rfl⟩, -, rfl⟩ := inner
  unfold RuleBody.shape? at shapeBody
  split at shapeBody <;> cases shapeBody
  · obtain ⟨blocks, found, rfl⟩ := map_eq_accepted_iff.mp acceptedBody
    obtain ⟨list, -, readBlocks⟩ := required_eq_accepted_iff.mp found
    exact Block.readListAt_bounded list (ensure_eq_accepted_iff.mp readBlocks).1
  · obtain ⟨choice, found, rfl⟩ := map_eq_accepted_iff.mp acceptedBody
    obtain ⟨question, -, readChoice⟩ := required_eq_accepted_iff.mp found
    exact Choice.allBounded readChoice
  · cases acceptedBody
    exact fun _ member => (List.not_mem_nil member).elim

end Skirmish
