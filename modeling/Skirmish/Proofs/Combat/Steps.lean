import Skirmish.Proofs.Combat.Effects
import Skirmish.Proofs.Combat.Rules
import Skirmish.Proofs.Rulebook.Parts

/-!
# The steps of an evaluation

To evaluate blocks is to ask their conditions and to apply their effects, and an effect
either writes, is skipped for one of a few reasons, or is ignored.  A relation between
boards that holds across each of these steps holds across the evaluation of a rule, whether
it returns or stops.
-/

namespace Skirmish

variable {view : View} {source : String} {relation : Board → Board → Prop}

/-! ## Parts -/

namespace Rule

variable {rule : Rule}

theorem mem_conditions_of_blocksFor {condition : Condition}
    (member : condition ∈ Block.conditionsOfAll (rule.blocksFor view)) :
    condition ∈ rule.conditions := by
  rw [Block.conditionsOfAll_eq] at member
  obtain ⟨block, performed, inBlock⟩ := List.mem_flatMap.mp member
  refine List.mem_cons_of_mem _ ?_
  rw [Block.conditionsOfAll_eq]
  exact List.mem_flatMap.mpr ⟨block, rule.blocksFor_subset view performed, inBlock⟩

theorem mem_effects_of_blocksFor {effect : Effect}
    (member : effect ∈ Block.effectsOfAll (rule.blocksFor view)) :
    effect ∈ Block.effectsOfAll rule.blocks := by
  rw [Block.effectsOfAll_eq] at member ⊢
  obtain ⟨block, performed, inBlock⟩ := List.mem_flatMap.mp member
  exact List.mem_flatMap.mpr ⟨block, rule.blocksFor_subset view performed, inBlock⟩

end Rule

/-! ## Effects -/

/-- The view lets the action write: it is one that helps the side of the view, or either
side. -/
def View.Admits (view : View) (action : Action) : Prop :=
  action.intent.obstacle? view.role = none

/-- An action moves boards as its writing does, but if its value cannot be told, it stops
where its modifier is added. -/
theorem Action.moves_write [IsPreorder Board relation] {action : Action}
    (added : action.isOversized = true → ∀ board, relation board (action.addedOn source board))
    (written : ∀ board, relation board (action.writtenOn view source board)) :
    Moves relation (action.write view source) := by
  unfold write
  split
  · exact moves_throw _
  · cases oversized : action.isOversized with
    | false =>
        rw [writable_value_iff.mpr oversized]
        exact moves_modify written
    | true =>
        refine moves_bind (moves_modify (added oversized)) fun _ => ?_
        cases told : writable [action.entry.value] with
        | error fault => exact moves_throw fault
        | ok _ =>
            rw [writable_value_iff.mp told] at oversized
            cases oversized

namespace Effect

theorem admits_of_not_barred {action : Action} {limit : AppliesTo}
    {conditions : List Condition}
    (free : (known action limit conditions).isBarred view = false) : view.Admits action := by
  unfold isBarred at free
  have own := (Bool.or_eq_false_iff.mp free).1
  rwa [Option.isSome_eq_false_iff, Option.isNone_iff_eq_none] at own

variable {board final : Board}

theorem conditionsObstacle?_mem_skipReasons {effect : Effect} {reason : String}
    (returns : Returns (effect.conditionsObstacle? view) board (some reason) final) :
    reason ∈ skipReasons := by
  have own : reason = conditionObstacle → reason ∈ skipReasons := by
    rintro rfl
    decide
  cases effect with
  | known action limit conditions =>
      obtain ⟨met, -, same, -⟩ := returns_conditionsObstacle_known_iff.mp returns
      cases met with
      | true => cases same
      | false => exact own (Option.some.inj same)
  | unknown kind extras =>
      unfold conditionsObstacle? at returns
      dsimp only at returns
      split at returns
      · cases (returns_pure_iff.mp returns).1
      · simp only [returns_bind_iff, returns_modify_iff, returns_pure_iff] at returns
        obtain ⟨_, _, -, same, -⟩ := returns
        exact own (Option.some.inj same)
      · exact (not_returns_throw returns).elim

/-- An effect moves boards as its steps do: it asks its own conditions, is skipped, writes,
or is ignored. -/
theorem moves_apply_of_steps [IsPreorder Board relation] {effect : Effect}
    (asks : Moves relation (effect.conditionsObstacle? view))
    (skipped : ∀ reason ∈ skipReasons,
      Moves relation (Evaluation.note "Fx" s!"{source}: {effect.kind} {reason}"))
    (writes : ∀ {action limit conditions}, effect = .known action limit conditions →
      view.Admits action → Moves relation (action.write view source))
    (ignored : ∀ {kind extras}, effect = .unknown kind extras →
      Moves relation (Evaluation.note "Fx" s!"{source}: unknown effect kind '{kind}'; ignored")) :
    Moves relation (effect.apply view source) := by
  have skips : ∀ reason ∈ skipReasons, Moves relation (do
      Evaluation.note "Fx" s!"{source}: {effect.kind} {reason}"
      return false : Evaluation Bool) :=
    fun reason member => moves_bind (skipped reason member) fun _ => moves_pure _
  unfold Effect.apply
  cases barred : effect.isBarred view with
  | true =>
      obtain ⟨reason, member, eq⟩ := obstacle?_of_barred barred
      rw [eq, pure_bind]
      exact skips reason member
  | false =>
      rw [obstacle?_of_not_barred barred]
      refine moves_bind_of_returns asks fun {_ reason _} asked => ?_
      cases reason with
      | some reason => exact skips reason (conditionsObstacle?_mem_skipReasons asked)
      | none =>
          cases effect with
          | known action limit conditions =>
              exact moves_bind (writes rfl (admits_of_not_barred barred)) fun _ => moves_pure _
          | unknown kind extras => exact moves_bind (ignored rfl) fun _ => moves_pure _

end Effect

/-! ## Blocks and rules -/

/-- The relation holds across the steps that blocks make on behalf of a source, when these
are all their effects and conditions. -/
structure View.Carries (view : View) (source : String) (relation : Board → Board → Prop)
    (effects : List Effect) (conditions : List Condition) : Prop where
  applies : ∀ effect ∈ effects, Moves relation (effect.apply view source)
  asks : ∀ condition ∈ conditions, Moves relation (Evaluation.holds view condition)
  shut : Moves relation (Evaluation.note "Fx" s!"{source}: if-block condition not met")

theorem View.Carries.mono {effects fewer : List Effect} {conditions others : List Condition}
    (carries : view.Carries source relation effects conditions) (subset : fewer ⊆ effects)
    (subsetOthers : others ⊆ conditions) : view.Carries source relation fewer others where
  applies effect member := carries.applies effect (subset member)
  asks condition member := carries.asks condition (subsetOthers member)
  shut := carries.shut

variable [IsPreorder Board relation]

theorem moves_applyEffects {effects : List Effect}
    (applies : ∀ effect ∈ effects, Moves relation (effect.apply view source)) :
    Moves relation (applyEffects view source effects) := by
  induction effects with
  | nil => exact moves_pure _
  | cons effect rest ih =>
      obtain ⟨here, there⟩ := List.forall_mem_cons.mp applies
      unfold applyEffects
      exact moves_bind here fun _ => ih there

namespace Block

mutual

theorem moves_evaluate : ∀ block : Block,
    view.Carries source relation block.effects block.conditions →
      Moves relation (block.evaluate view source) := by
  intro block carries
  cases block with
  | perform effects =>
      unfold Block.effects at carries
      unfold evaluate
      exact moves_applyEffects carries.applies
  | guarded condition blocks =>
      unfold Block.effects Block.conditions at carries
      unfold evaluate
      refine moves_bind (carries.asks condition (List.mem_cons_self ..)) fun holds => ?_
      cases holds with
      | true =>
          exact moves_evaluateAll blocks
            (carries.mono (List.Subset.refl _) (List.subset_cons_self _ _))
      | false => exact carries.shut

theorem moves_evaluateAll : ∀ blocks : List Block,
    view.Carries source relation (effectsOfAll blocks) (conditionsOfAll blocks) →
      Moves relation (evaluateAll view source blocks) := by
  intro blocks carries
  cases blocks with
  | nil =>
      unfold evaluateAll
      exact moves_pure _
  | cons block rest =>
      unfold effectsOfAll conditionsOfAll at carries
      unfold evaluateAll
      refine moves_bind (moves_evaluate block ?_) fun _ => moves_evaluateAll rest ?_
      · exact carries.mono (List.subset_append_left _ _) (List.subset_append_left _ _)
      · exact carries.mono (List.subset_append_right _ _) (List.subset_append_right _ _)

end

end Block

namespace Rule

/-- A rule moves boards as its steps and its remarks do. -/
theorem moves_evaluate {rule : Rule}
    (carries : view.Carries rule.id relation (Block.effectsOfAll rule.blocks) rule.conditions)
    (remarks : ∀ message, Moves relation (Evaluation.note "Rule" message)) :
    Moves relation (rule.evaluate view) := by
  obtain ⟨met, unmet, eq⟩ := rule.evaluate_eq view
  rw [eq]
  refine moves_bind (carries.asks rule.condition (List.mem_cons_self ..)) fun holds => ?_
  cases holds with
  | true =>
      have works : view.Carries rule.id relation (Block.effectsOfAll (rule.blocksFor view))
          (Block.conditionsOfAll (rule.blocksFor view)) :=
        carries.mono (fun _ => mem_effects_of_blocksFor) (fun _ => mem_conditions_of_blocksFor)
      refine moves_bind (Block.moves_evaluateAll _ works) fun _ => ?_
      exact moves_bind (remarks met) fun _ => moves_pure _
  | false => exact moves_bind (remarks unmet) fun _ => moves_pure _

theorem moves_evaluateAll {rules : List Rule}
    (moves : ∀ rule ∈ rules, Moves relation (rule.evaluate view)) :
    Moves relation (evaluateAll view rules) := by
  induction rules with
  | nil => exact moves_pure _
  | cons rule rest ih =>
      obtain ⟨here, there⟩ := List.forall_mem_cons.mp moves
      rw [evaluateAll]
      refine moves_bind here fun resolution => ?_
      exact moves_bind (ih there) fun _ => moves_pure _

end Rule

end Skirmish
