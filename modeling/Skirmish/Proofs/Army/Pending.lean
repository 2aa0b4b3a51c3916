import Skirmish.Army.Choices
import Skirmish.Proofs.Combat.Choosing

/-!
# Pending choices over a battle

Whether a choice is still open is read off the states that answer it: whether there is one,
and in which turns they were entered.  So a further state can only close choices, and neither
the order of the states nor how often one is recorded matters.
-/

namespace Skirmish

variable {rules : List Rule} {states more : List ArmyState} {turn : Int}

/-! ## Answers -/

namespace ArmyState

/-- The state was entered for the choice and carries a value. -/
def IsAnswerTo (choiceId : String) (state : ArmyState) : Prop :=
  state.state = choiceId ∧ state.hasAnswer = true

theorem hasAnswer_iff {state : ArmyState} :
    state.hasAnswer = true ↔ ∃ value, state.choiceValue = some value ∧ value ≠ "" := by
  simp only [hasAnswer, Option.isSome_iff_exists, answer?_eq_some_iff]

theorem findAnswer?_eq_none_iff {choiceId : String} :
    findAnswer? states choiceId = none ↔ ∀ state ∈ states, ¬state.IsAnswerTo choiceId := by
  let counts (state : ArmyState) : Bool := state.state = choiceId && state.hasAnswer
  have counts_iff (state : ArmyState) :
      counts state = true ↔ state.IsAnswerTo choiceId := by
    simp [counts, IsAnswerTo]
  have isBest : IsBest counts states (states.foldl (laterAnswer choiceId) none) :=
    isBest_foldl counts states
  unfold findAnswer?
  cases best : states.foldl (laterAnswer choiceId) none with
  | none =>
      rw [best] at isBest
      refine iff_of_true rfl fun state member answers => ?_
      rw [← counts_iff, isBest state member] at answers
      exact Bool.false_ne_true answers
  | some latest =>
      rw [best] at isBest
      obtain ⟨position, isLatest⟩ := isBest
      have answers := (counts_iff latest).mp isLatest.eligible
      refine iff_of_false (fun missing => ?_) fun none =>
        none latest (List.mem_of_getElem? isLatest.found) answers
      have has := answers.2
      rw [hasAnswer, show latest.answer? = none from missing] at has
      exact Bool.false_ne_true has

end ArmyState

/-! ## Open choices -/

/-- The rule's choice is open in the command phase of a turn: a choice made once per battle is
open in the first turn only, and any answer that there is comes from an earlier turn and
belongs to a choice that is made anew every turn. -/
structure Rule.IsOpenIn (rule : Rule) (choice : Choice) (states : List ArmyState) (turn : Int) :
    Prop where
  inTime : rule.trigger.limit = .oncePerBattle → turn = 1
  outdated : ∀ state ∈ states, state.IsAnswerTo choice.id →
    rule.isPerTurn choice = true ∧ state.activatedTurn < turn

theorem Rule.isOpen_iff {rule : Rule} {choice : Choice} :
    rule.isOpen choice states turn = true ↔ rule.IsOpenIn choice states turn := by
  have answered : rule.IsOpenIn choice states turn ↔
      (rule.trigger.limit = .oncePerBattle → turn = 1) ∧
        ∀ state ∈ states.filter fun state => state.state == choice.id && state.hasAnswer,
          rule.isPerTurn choice = true ∧ state.activatedTurn < turn := by
    simp only [List.mem_filter, Bool.and_eq_true, beq_iff_eq, and_imp]
    constructor
    · intro isOpen
      exact ⟨isOpen.inTime, fun state member same has =>
        isOpen.outdated state member ⟨same, has⟩⟩
    · rintro ⟨inTime, outdated⟩
      exact ⟨inTime, fun state member answers =>
        outdated state member answers.1 answers.2⟩
  rw [answered]
  unfold isOpen
  generalize states.filter _ = answers
  by_cases once : rule.trigger.limit = .oncePerBattle
  · -- Such a choice is not made anew, so it has no answer at all.
    have never : rule.isPerTurn choice = false := by simp [isPerTurn, once]
    simp [once, never, List.eq_nil_iff_forall_not_mem]
  · cases answers with
    | nil => simp [once]
    | cons first rest => simp +contextual [once, forall_and]

theorem mem_pendingCommandChoices_iff {rule : Rule} :
    rule ∈ pendingCommandChoices rules states turn ↔
      rule ∈ rules ∧ ∃ choice, rule.choice? = some choice ∧ rule.isCommandChoice = true ∧
        rule.IsOpenIn choice states turn := by
  unfold pendingCommandChoices
  rw [List.mem_filter]
  cases rule.choice? with
  | none => simp
  | some choice => simp [Rule.isOpen_iff]

theorem mem_pendingStartOfBattleChoices_iff {rule : Rule} :
    rule ∈ pendingStartOfBattleChoices rules states ↔
      rule ∈ rules ∧ ∃ choice, rule.choice? = some choice ∧ rule.isStartOfBattle = true ∧
        ∀ state ∈ states, ¬state.IsAnswerTo choice.id := by
  unfold pendingStartOfBattleChoices
  rw [List.mem_filter]
  cases rule.choice? with
  | none => simp
  | some choice => simp [ArmyState.findAnswer?_eq_none_iff]

/-! ## Further states -/

theorem Rule.IsOpenIn.of_subset {rule : Rule} {choice : Choice}
    (isOpen : rule.IsOpenIn choice more turn) (subset : states ⊆ more) :
    rule.IsOpenIn choice states turn :=
  ⟨isOpen.inTime, fun state member => isOpen.outdated state (subset member)⟩

/-- The more states there are, the fewer choices are open in the command phase. -/
theorem pendingCommandChoices_sublist (subset : states ⊆ more) :
    (pendingCommandChoices rules more turn).Sublist
      (pendingCommandChoices rules states turn) := by
  refine List.monotone_filter_right rules fun rule pending => ?_
  cases offered : rule.choice? with
  | none => simp [offered] at pending
  | some choice =>
      simp only [offered, Bool.and_eq_true, Rule.isOpen_iff] at pending ⊢
      exact ⟨pending.1, pending.2.of_subset subset⟩

theorem pendingStartOfBattleChoices_sublist (subset : states ⊆ more) :
    (pendingStartOfBattleChoices rules more).Sublist
      (pendingStartOfBattleChoices rules states) := by
  refine List.monotone_filter_right rules fun rule pending => ?_
  cases offered : rule.choice? with
  | none => simp [offered] at pending
  | some choice =>
      simp only [offered, Bool.and_eq_true, Option.isNone_iff_eq_none,
        ArmyState.findAnswer?_eq_none_iff] at pending ⊢
      exact ⟨pending.1, fun state member => pending.2 state (subset member)⟩

/-- An answer of the turn, or of a later one, closes a choice in the command phase. -/
theorem not_mem_pendingCommandChoices {state : ArmyState} {rule : Rule} {choice : Choice}
    (member : state ∈ states) (answers : state.IsAnswerTo choice.id)
    (recent : turn ≤ state.activatedTurn) (offered : rule.choice? = some choice) :
    rule ∉ pendingCommandChoices rules states turn := by
  intro pending
  obtain ⟨-, again, offers, -, isOpen⟩ := mem_pendingCommandChoices_iff.mp pending
  obtain rfl := Option.some.inj (offered.symm.trans offers)
  have earlier := (isOpen.outdated state member answers).2
  omega

theorem not_mem_pendingStartOfBattleChoices {state : ArmyState} {rule : Rule} {choice : Choice}
    (member : state ∈ states) (answers : state.IsAnswerTo choice.id)
    (offered : rule.choice? = some choice) :
    rule ∉ pendingStartOfBattleChoices rules states := by
  intro pending
  obtain ⟨-, again, offers, -, unanswered⟩ := mem_pendingStartOfBattleChoices_iff.mp pending
  obtain rfl := Option.some.inj (offered.symm.trans offers)
  exact unanswered state member answers

theorem pendingChoices_perm (same : more.Perm states) :
    pendingCommandChoices rules more turn = pendingCommandChoices rules states turn ∧
      pendingStartOfBattleChoices rules more = pendingStartOfBattleChoices rules states :=
  ⟨(pendingCommandChoices_sublist same.symm.subset).antisymm
      (pendingCommandChoices_sublist same.subset),
    (pendingStartOfBattleChoices_sublist same.symm.subset).antisymm
      (pendingStartOfBattleChoices_sublist same.subset)⟩

/-- Only a choice that is not made before the battle is open in a command phase. -/
theorem pendingCommandChoices_disjoint (others : List Rule) (answers : List ArmyState) :
    (pendingCommandChoices rules states turn).Disjoint
      (pendingStartOfBattleChoices others answers) := by
  intro rule inCommand atStart
  obtain ⟨-, _, -, isCommand, -⟩ := mem_pendingCommandChoices_iff.mp inCommand
  obtain ⟨-, _, -, isStart, -⟩ := mem_pendingStartOfBattleChoices_iff.mp atStart
  simp [Rule.isCommandChoice, isStart] at isCommand

/-- The choices that are pending in a command phase and before the battle.  A further state,
wherever it is listed, only closes choices, and all those that it answers for the turn or for a
later one; the order of the states does not matter, and the rules keep theirs.  No rule is
pending both in a command phase and before a battle. -/
theorem pendingChoices_only_close (rules : List Rule) (states : List ArmyState) (turn : Int) :
    (∀ rule, rule ∈ pendingCommandChoices rules states turn ↔
      rule ∈ rules ∧ ∃ choice, rule.choice? = some choice ∧ rule.isCommandChoice = true ∧
        rule.IsOpenIn choice states turn) ∧
    (∀ rule, rule ∈ pendingStartOfBattleChoices rules states ↔
      rule ∈ rules ∧ ∃ choice, rule.choice? = some choice ∧ rule.isStartOfBattle = true ∧
        ∀ state ∈ states, ¬state.IsAnswerTo choice.id) ∧
    (∀ state more, more.Perm (state :: states) →
      (pendingCommandChoices rules more turn).Sublist
        (pendingCommandChoices rules states turn) ∧
      (pendingStartOfBattleChoices rules more).Sublist
        (pendingStartOfBattleChoices rules states) ∧
      ∀ value, state.choiceValue = some value → value ≠ "" →
        ∀ rule choice, rule.choice? = some choice → choice.id = state.state →
          rule ∉ pendingStartOfBattleChoices rules more ∧
          (turn ≤ state.activatedTurn → rule ∉ pendingCommandChoices rules more turn)) ∧
    (∀ others, others.Perm states →
      pendingCommandChoices rules others turn = pendingCommandChoices rules states turn ∧
      pendingStartOfBattleChoices rules others = pendingStartOfBattleChoices rules states) ∧
    (pendingCommandChoices rules states turn).Sublist rules ∧
    (pendingStartOfBattleChoices rules states).Sublist rules ∧
    ∀ others answers, (pendingCommandChoices rules states turn).Disjoint
      (pendingStartOfBattleChoices others answers) := by
  refine ⟨fun _ => mem_pendingCommandChoices_iff, fun _ => mem_pendingStartOfBattleChoices_iff,
    fun state more added => ?_, fun _ => pendingChoices_perm, List.filter_sublist,
    List.filter_sublist, pendingCommandChoices_disjoint⟩
  have listed : state ∈ more := added.mem_iff.mpr List.mem_cons_self
  have subset : states ⊆ more := fun _ member =>
    added.mem_iff.mpr (List.mem_cons_of_mem _ member)
  refine ⟨pendingCommandChoices_sublist subset, pendingStartOfBattleChoices_sublist subset,
    fun value chosen nonempty rule choice offered named => ?_⟩
  have answers : state.IsAnswerTo choice.id :=
    ⟨named.symm, ArmyState.hasAnswer_iff.mpr ⟨value, chosen, nonempty⟩⟩
  exact ⟨not_mem_pendingStartOfBattleChoices listed answers offered,
    fun recent => not_mem_pendingCommandChoices listed answers recent offered⟩

/-- A doctrine that the army chooses anew in every turn. -/
def Rule.combatDoctrines : Rule where
  id := "doctrines"
  name := "Combat doctrines"
  scope := .army
  trigger := { kind := .manual, phase := .one .command, turn := .own }
  body := .choice {
    id := "doctrine"
    prompt := "Which doctrine?"
    lifetime := .turn
    options := [{ value := "assault", label := "Assault" }] }

/-- The doctrine chosen in a turn. -/
def ArmyState.assaultIn (turn : Int) : ArmyState where
  id := "doctrine"
  armyId := "wolves"
  state := "doctrine"
  activatedTurn := turn
  choiceValue := some "assault"

/-- The answer of the first turn leaves the choice open in the second one, and an answer of the
second turn closes it, although it is listed first. -/
theorem combatDoctrines_close :
    (pendingCommandChoices [.combatDoctrines] [.assaultIn 1] 2).map (·.id) = ["doctrines"] ∧
    Rule.combatDoctrines ∉
      pendingCommandChoices [.combatDoctrines] [.assaultIn 2, .assaultIn 1] 2 := by
  obtain ⟨-, -, closes, -⟩ := pendingChoices_only_close [.combatDoctrines] [.assaultIn 1] 2
  obtain ⟨-, -, closed⟩ := closes (.assaultIn 2) [.assaultIn 2, .assaultIn 1] (.refl _)
  exact ⟨by decide,
    (closed "assault" rfl (by decide) .combatDoctrines _ rfl rfl).2 (by decide)⟩

end Skirmish
