import Skirmish.Combat.Evaluation
import Skirmish.Proofs.Combat.Judgement

/-!
# Views that rules cannot tell apart

Rules ask a view for its role, its circumstances, its army states, whether its own unit is
a leader, and for the answers of conditions.  In two views that are alike in all of these,
rules are evaluated in the same way, step by step.  Combats that differ only in the
characteristics of the weapon and of the target's models are seen in such views.
-/

namespace Skirmish

variable {view other : View}

/-- Whatever rules ask for is the same in both views. -/
structure View.Resembles (view other : View) : Prop where
  role : view.role = other.role
  circumstances : view.circumstances = other.circumstances
  armyStates : view.armyStates = other.armyStates
  leader : view.ownUnit.leader = other.ownUnit.leader
  answers : ∀ (leaf : Condition) (board : Board),
    leaf.judgeLeaf view board = leaf.judgeLeaf other board

/-! ## Conditions -/

theorem Condition.judge_resembling (alike : view.Resembles other) (condition : Condition)
    (board : Board) : condition.judge view board = condition.judge other board :=
  condition.judge_congr fun node _ => alike.answers node board

theorem Condition.judgeAll_resembling (alike : view.Resembles other) (parts : List Condition)
    (board : Board) : judgeAll view board parts = judgeAll other board parts :=
  judgeAll_congr parts fun node _ => alike.answers node board

theorem Evaluation.holds_resembling (alike : view.Resembles other) (condition : Condition) :
    holds view condition = holds other condition := by
  simp only [holds, condition.judge_resembling alike]

/-! ## Effects -/

theorem Effect.obstacle_resembling (alike : view.Resembles other) (effect : Effect) :
    effect.obstacle? view = effect.obstacle? other := by
  have limits (limit : String) :
      limitObstacle? limit view.ownUnit = limitObstacle? limit other.ownUnit := by
    simp only [limitObstacle?, alike.leader]
  have conditions : effect.conditionsObstacle? view = effect.conditionsObstacle? other := by
    cases effect with
    | known action limit conditions =>
        simp only [conditionsObstacle?, Condition.judgeAll_resembling alike]
    | unknown kind extras => rfl
  simp only [obstacle?, alike.role, limits, conditions]

theorem Effect.apply_resembling (alike : view.Resembles other) (effect : Effect)
    (source : String) : effect.apply view source = effect.apply other source := by
  have writes (action : Action) : action.write view source = action.write other source := by
    have told : action.toldOn view source = action.toldOn other source := by
      funext board
      simp only [Action.toldOn, alike.role]
    simp only [Action.write, told]
  simp only [Effect.apply, effect.obstacle_resembling alike, writes]

theorem applyEffects_resembling (alike : view.Resembles other) (source : String)
    (effects : List Effect) :
    applyEffects view source effects = applyEffects other source effects := by
  induction effects with
  | nil => rfl
  | cons effect rest ih =>
      rw [applyEffects, applyEffects, effect.apply_resembling alike, ih]

/-! ## Blocks -/

mutual

theorem Block.evaluate_resembling (alike : view.Resembles other) (source : String) :
    ∀ block : Block, block.evaluate view source = block.evaluate other source := by
  intro block
  cases block with
  | perform effects =>
      unfold Block.evaluate
      exact applyEffects_resembling alike source effects
  | guarded condition blocks =>
      unfold Block.evaluate
      rw [Evaluation.holds_resembling alike, Block.evaluateAll_resembling alike source blocks]

theorem Block.evaluateAll_resembling (alike : view.Resembles other) (source : String) :
    ∀ blocks : List Block,
      Block.evaluateAll view source blocks = Block.evaluateAll other source blocks := by
  intro blocks
  cases blocks with
  | nil =>
      unfold Block.evaluateAll
      rfl
  | cons block rest =>
      unfold Block.evaluateAll
      rw [Block.evaluate_resembling alike source block,
        Block.evaluateAll_resembling alike source rest]

end

/-! ## Rules -/

namespace Rule

theorem evaluate_resembling (alike : view.Resembles other) (rule : Rule) :
    rule.evaluate view = rule.evaluate other := by
  have blocks (source : String) (blocks : List Block) :
      Block.evaluateAll view source blocks = Block.evaluateAll other source blocks :=
    Block.evaluateAll_resembling alike source blocks
  have choices (choice : Choice) :
      rule.evaluateChoice choice view = rule.evaluateChoice choice other := by
    have chosen : rule.chosenValue? choice view = rule.chosenValue? choice other := by
      simp only [chosenValue?, alike.circumstances, alike.armyStates]
    simp only [evaluateChoice, chosen, blocks, alike.role]
  simp only [evaluate, Evaluation.holds_resembling alike, blocks, choices, alike.role]

/-- Rules are evaluated alike in views that they cannot tell apart. -/
theorem evaluateAll_resembling (alike : view.Resembles other) (rules : List Rule) :
    evaluateAll view rules = evaluateAll other rules := by
  induction rules with
  | nil => rfl
  | cons rule rest ih => rw [evaluateAll, evaluateAll, rule.evaluate_resembling alike, ih]

end Rule

end Skirmish
