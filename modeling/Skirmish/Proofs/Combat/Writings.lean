import Skirmish.Proofs.Combat.Steps

/-!
# What evaluation may write

All that evaluation does to a board is to take notes and to write actions that help the
side of the view.  So a relation between boards that notes and such writings respect is
respected by every evaluation, whether it returns or stops: what was written before a
fault was written by the same steps.
-/

namespace Skirmish

variable {view : View} {source : String} {relation : Board → Board → Prop}

/-! ## Notes and writings -/

section

variable (notes : ∀ {board other : Board}, board.Retraced other → relation board other)
include notes

theorem Evaluation.moves_note (tag message : String) :
    Moves relation (Evaluation.note tag message) :=
  moves_modify fun board => notes (.note board tag message)

variable [IsPreorder Board relation]

theorem Evaluation.moves_holds (condition : Condition) :
    Moves relation (Evaluation.holds view condition) := by
  refine moves_bind moves_get fun _ => moves_bind ?_ fun _ => moves_lift _
  exact moves_modify fun board => notes (.noteUnknown board _)

theorem Effect.moves_conditionsObstacle (effect : Effect) :
    Moves relation (effect.conditionsObstacle? view) := by
  unfold conditionsObstacle?
  cases effect with
  | known action limit conditions =>
      refine moves_bind moves_get fun _ => moves_bind ?_ fun _ => ?_
      · exact moves_modify fun board => notes (.noteUnknown board _)
      · exact moves_bind (moves_lift _) fun _ => moves_pure _
  | unknown kind extras =>
      dsimp only
      split
      · exact moves_pure _
      · refine moves_bind ?_ fun _ => moves_pure _
        exact moves_modify fun board => notes (.noteUnknown board _)
      · exact moves_throw _

/-- What an action adds before it stops differs from what it would write in its notes only. -/
theorem Action.moves_write_of_notes {action : Action}
    (written : ∀ board, relation board (action.writtenOn view source board)) :
    Moves relation (action.write view source) := by
  refine moves_write (fun oversized board => ?_) written
  have retraced : (action.writtenOn view source board).Retraced (action.addedOn source board) := by
    refine ⟨board.trace, ?_⟩
    simp [writtenOn, toldOn, granted?_of_isOversized oversized, addedOn, Board.note]
  exact trans_of relation (written board) (notes retraced)

/-- A rule moves boards as notes do and as the writings of its own actions do. -/
theorem Rule.moves_evaluate_of_writes {rule : Rule}
    (writes : ∀ {action limit conditions},
      .known action limit conditions ∈ Block.effectsOfAll rule.blocks → view.Admits action →
        ∀ board, relation board (action.writtenOn view rule.id board)) :
    Moves relation (rule.evaluate view) := by
  refine Rule.moves_evaluate ⟨fun effect member => ?_, fun condition _ => ?_, ?_⟩
    (Evaluation.moves_note notes "Rule")
  · refine Effect.moves_apply_of_steps (Effect.moves_conditionsObstacle notes effect)
      (fun _ _ => Evaluation.moves_note notes _ _) ?_ (fun _ => Evaluation.moves_note notes _ _)
    rintro action limit conditions rfl admitted
    exact Action.moves_write_of_notes notes (writes member admitted)
  · exact Evaluation.moves_holds notes condition
  · exact Evaluation.moves_note notes _ _

end

/-! ## All that a view admits -/

/-- The relation holds across the single steps of an evaluation on behalf of a source. -/
structure View.Respects (view : View) (source : String) (relation : Board → Board → Prop) :
    Prop where
  note : ∀ {board other : Board}, board.Retraced other → relation board other
  write : ∀ {action : Action} (board : Board), view.Admits action →
    relation board (action.writtenOn view source board)

variable [IsPreorder Board relation]

theorem Effect.moves_apply (respects : view.Respects source relation) (effect : Effect) :
    Moves relation (effect.apply view source) :=
  moves_apply_of_steps (moves_conditionsObstacle respects.note effect)
    (fun _ _ => Evaluation.moves_note respects.note _ _)
    (fun _ admitted => Action.moves_write_of_notes respects.note
      fun board => respects.write board admitted)
    (fun _ => Evaluation.moves_note respects.note _ _)

theorem View.Respects.carries (respects : view.Respects source relation)
    (effects : List Effect) (conditions : List Condition) :
    view.Carries source relation effects conditions where
  applies effect _ := effect.moves_apply respects
  asks condition _ := Evaluation.moves_holds respects.note condition
  shut := Evaluation.moves_note respects.note _ _

theorem View.Respects.moves_rule {rule : Rule} (respects : view.Respects rule.id relation) :
    Moves relation (rule.evaluate view) :=
  Rule.moves_evaluate (respects.carries _ _) (Evaluation.moves_note respects.note "Rule")

end Skirmish
