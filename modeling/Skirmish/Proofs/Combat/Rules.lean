import Skirmish.Combat.Evaluation
import Skirmish.Proofs.Combat.Judgement

/-!
# What a rule does to a board

Behind its condition a rule performs blocks, and the view alone decides which: its own,
those of the option that was chosen, or none.  The view also decides what becomes of the
rule, so two boards can only differ in whether its condition holds.
-/

namespace Skirmish

variable {view : View} {board final : Board}

theorem Evaluation.returns_holds_iff {condition : Condition} {answer : Bool} :
    Returns (Evaluation.holds view condition) board answer final ↔
      (condition.judge view board).outcome = .ok answer ∧
        final = board.noteUnknown (condition.judge view board).unknownKinds := by
  simp only [Evaluation.holds, returns_bind_iff, returns_get_iff, returns_modify_iff,
    returns_lift_iff]
  constructor
  · rintro ⟨_, _, ⟨rfl, rfl⟩, _, _, rfl, judged, rfl⟩
    exact ⟨judged, rfl⟩
  · rintro ⟨judged, rfl⟩
    exact ⟨_, _, ⟨rfl, rfl⟩, (), _, rfl, judged, rfl⟩

namespace Rule

/-- The option that is chosen in a view among those that the rule offers. -/
def optionFor? (view : View) (rule : Rule) : Option ChoiceOption :=
  match rule.body with
  | .choice choice => (rule.chosenValue? choice view).bind choice.optionFor?
  | .passive _ | .reminder => none

/-- The blocks that the rule performs in a view when its condition holds. -/
def blocksFor (view : View) (rule : Rule) : List Block :=
  match rule.body with
  | .passive blocks => blocks
  | .choice _ => ((rule.optionFor? view).map (·.blocks)).getD []
  | .reminder => []

theorem blocksFor_subset (rule : Rule) (view : View) : rule.blocksFor view ⊆ rule.blocks := by
  unfold blocksFor blocks
  cases body : rule.body with
  | reminder => exact List.Subset.refl _
  | passive blocks => exact List.Subset.refl _
  | choice choice =>
      intro block member
      simp only [optionFor?, body] at member
      cases found : (rule.chosenValue? choice view).bind choice.optionFor? with
      | none =>
          rw [found] at member
          exact (List.not_mem_nil member).elim
      | some option =>
          rw [found] at member
          obtain ⟨value, -, chosen⟩ := Option.bind_eq_some_iff.mp found
          exact List.mem_flatMap.mpr ⟨option, List.mem_of_find?_eq_some chosen, member⟩

/-- What becomes of the rule in a view when its condition holds. -/
def resolutionFor (view : View) (rule : Rule) : Resolution :=
  match rule.body with
  | .passive _ => { rule, status := .passiveApplied }
  | .choice choice =>
    match rule.optionFor? view with
    | some option => ⟨rule, .choiceApplied, some option.value⟩
    | none => ⟨rule, .choicePending, rule.chosenValue? choice view⟩
  | .reminder => { rule, status := .reminderApplicable }

/-- The evaluation of a rule, its remarks aside. -/
theorem evaluate_eq (rule : Rule) (view : View) : ∃ met unmet : String,
    rule.evaluate view = do
      if ← Evaluation.holds view rule.condition then
        Block.evaluateAll view rule.id (rule.blocksFor view)
        Evaluation.note "Rule" met
        return rule.resolutionFor view
      else
        Evaluation.note "Rule" unmet
        return { rule, status := .notApplicable } := by
  unfold evaluate blocksFor resolutionFor
  cases body : rule.body with
  | reminder =>
      simp only [Block.evaluateAll, pure_bind]
      exact ⟨_, _, rfl⟩
  | passive blocks => exact ⟨_, _, rfl⟩
  | choice choice =>
      simp only [evaluateChoice, optionFor?, body]
      cases (rule.chosenValue? choice view).bind choice.optionFor? with
      | some option => exact ⟨_, _, rfl⟩
      | none =>
          simp only [Option.map_none, Option.getD_none, Block.evaluateAll, pure_bind]
          cases rule.chosenValue? choice view with
          | some value => exact ⟨_, _, rfl⟩
          | none => exact ⟨_, _, rfl⟩

/-- A rule whose condition does not hold is not applicable and does nothing.  Any other
one performs its blocks. -/
theorem returns_evaluate {rule : Rule} {resolution : Resolution}
    (returns : Returns (rule.evaluate view) board resolution final) :
    ((rule.condition.judge view board).outcome = .ok false ∧ board.Retraced final ∧
      resolution = { rule, status := .notApplicable }) ∨
    ((rule.condition.judge view board).outcome = .ok true ∧
      (∃ noted after, board.Retraced noted ∧
        Returns (Block.evaluateAll view rule.id (rule.blocksFor view)) noted () after ∧
        after.Retraced final) ∧
      resolution = rule.resolutionFor view) := by
  obtain ⟨met, unmet, eq⟩ := rule.evaluate_eq view
  rw [eq, returns_bind_iff] at returns
  obtain ⟨holds, noted, judged, returns⟩ := returns
  obtain ⟨answered, rfl⟩ := Evaluation.returns_holds_iff.mp judged
  cases holds with
  | false =>
      rw [if_neg Bool.false_ne_true] at returns
      obtain ⟨rfl, rfl⟩ := Evaluation.returns_noted_iff.mp returns
      exact .inl ⟨answered, (Board.Retraced.noteUnknown _ _).trans (.note _ _ _), rfl⟩
  | true =>
      rw [if_pos rfl, returns_bind_iff] at returns
      obtain ⟨_, after, performed, remarked⟩ := returns
      obtain ⟨rfl, rfl⟩ := Evaluation.returns_noted_iff.mp remarked
      exact .inr ⟨answered, ⟨_, after, .noteUnknown _ _, performed, .note _ _ _⟩, rfl⟩

theorem returns_evaluateAll_cons_iff {rule : Rule} {rest : List Rule}
    {resolutions : List Resolution} :
    Returns (evaluateAll view (rule :: rest)) board resolutions final ↔
      ∃ resolution middle others, Returns (rule.evaluate view) board resolution middle ∧
        Returns (evaluateAll view rest) middle others final ∧
        resolutions = resolution :: others := by
  rw [evaluateAll]
  simp only [returns_bind_iff, returns_pure_iff]
  constructor
  · rintro ⟨resolution, middle, evaluated, others, _, ranOthers, rfl, rfl⟩
    exact ⟨resolution, middle, others, evaluated, ranOthers, rfl⟩
  · rintro ⟨resolution, middle, others, evaluated, ranOthers, rfl⟩
    exact ⟨resolution, middle, evaluated, others, _, ranOthers, rfl, rfl⟩

theorem rule_resolutionFor (rule : Rule) (view : View) :
    (rule.resolutionFor view).rule = rule := by
  unfold resolutionFor
  cases rule.body with
  | reminder => rfl
  | passive blocks => rfl
  | choice choice =>
      dsimp only
      cases rule.optionFor? view <;> rfl

theorem map_rule_of_returns_evaluateAll {rules : List Rule} {resolutions : List Resolution}
    (returns : Returns (evaluateAll view rules) board resolutions final) :
    resolutions.map (·.rule) = rules := by
  induction rules generalizing board resolutions with
  | nil =>
      obtain ⟨rfl, -⟩ := returns_pure_iff.mp returns
      rfl
  | cons rule rest ih =>
      obtain ⟨resolution, _, others, evaluated, ranOthers, rfl⟩ :=
        returns_evaluateAll_cons_iff.mp returns
      have own : resolution.rule = rule := by
        rcases returns_evaluate evaluated with ⟨-, -, rfl⟩ | ⟨-, -, rfl⟩
        · rfl
        · exact rule_resolutionFor rule view
      rw [List.map_cons, own, ih ranOthers]

end Rule

end Skirmish
