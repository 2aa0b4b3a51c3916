import Skirmish.Combat.Numbers
import Skirmish.Proofs.Combat.Effects
import Skirmish.Proofs.Combat.Rules

/-!
# Evaluation beside its trace

Evaluation writes into the trace and never reads it.  Begun on two boards that differ in
their traces only, it comes to the same outcome, be it a result or a fault, and leaves two
boards that differ in their traces only.  More can be said of the two traces: whatever
their notes preserve is preserved by a whole evaluation.
-/

namespace Skirmish

variable {view : View} {source : String} {board other : Board}

/-! ## Boards -/

/-- Related boards differ in their traces only, and stay related while the same notes are
taken and the same modifiers written on both of them. -/
structure Board.Parallel (relation : Board → Board → Prop) : Prop where
  retraced : ∀ {board other : Board}, relation board other → board.Retraced other
  note : ∀ {board other : Board}, relation board other → ∀ tag message : String,
    relation (board.note tag message) (other.note tag message)
  write : ∀ {board other : Board}, relation board other →
    ∀ (ledger : Ledger) (granted : List Ability),
      relation { board with ledger, granted } { other with ledger, granted }

theorem Board.parallel_retraced : Board.Parallel Board.Retraced where
  retraced := id
  note := by
    rintro board _ ⟨trace, rfl⟩ tag message
    exact ⟨Trace.note trace tag message, rfl⟩
  write := by
    rintro board _ ⟨trace, rfl⟩ ledger granted
    exact ⟨trace, rfl⟩

theorem Condition.judge_retraced (retraced : board.Retraced other) (condition : Condition) :
    condition.judge view board = condition.judge view other := by
  obtain ⟨_, rfl⟩ := retraced
  refine condition.judge_congr fun node _ => ?_
  cases node <;> rfl

theorem Condition.judgeAll_retraced (retraced : board.Retraced other)
    (parts : List Condition) :
    Condition.judgeAll view board parts = Condition.judgeAll view other parts := by
  obtain ⟨_, rfl⟩ := retraced
  refine Condition.judgeAll_congr parts fun node _ => ?_
  cases node <;> rfl

variable {relation : Board → Board → Prop}

theorem Board.Parallel.noteUnknown (parallel : Board.Parallel relation)
    (related : relation board other) (kinds : List String) :
    relation (board.noteUnknown kinds) (other.noteUnknown kinds) := by
  induction kinds generalizing board other with
  | nil => exact related
  | cons kind kinds ih => exact ih (parallel.note related _ _)

theorem Board.Parallel.addedOn (parallel : Board.Parallel relation)
    (related : relation board other) (action : Action) :
    relation (action.addedOn source board) (action.addedOn source other) := by
  obtain ⟨trace, rfl⟩ := parallel.retraced related
  exact parallel.write related _ _

theorem Board.Parallel.toldOn (parallel : Board.Parallel relation)
    (related : relation board other) (action : Action) :
    relation (action.toldOn view source board) (action.toldOn view source other) := by
  obtain ⟨trace, rfl⟩ := parallel.retraced related
  exact parallel.note (parallel.write related _ _) _ _

/-! ## Runs -/

section

variable (parallel : Board.Parallel relation)

include parallel

namespace Evaluation

theorem agree_note (tag message : String) :
    Agree relation (note tag message) (note tag message) :=
  agree_modify fun _ _ related => parallel.note related tag message

theorem agree_noteUnknown (kinds : List String) :
    Agree relation (modify (·.noteUnknown kinds) : Evaluation Unit)
      (modify (·.noteUnknown kinds)) :=
  agree_modify fun _ _ related => parallel.noteUnknown related kinds

theorem agree_holds (condition : Condition) :
    Agree relation (holds view condition) (holds view condition) := by
  refine agree_get fun start other related => ?_
  rw [condition.judge_retraced (parallel.retraced related)]
  exact agree_bind (agree_noteUnknown parallel _) (fun _ => agree_lift _) start other related

end Evaluation

theorem Action.agree_write (action : Action) :
    Agree relation (action.write view source) (action.write view source) := by
  unfold write
  split
  · exact agree_throw _
  · refine agree_bind (agree_modify fun _ _ related => parallel.addedOn related action) fun _ => ?_
    refine agree_bind (agree_lift _) fun _ => ?_
    exact agree_modify fun _ _ related => parallel.toldOn related action

namespace Effect

theorem agree_conditionsObstacle (effect : Effect) :
    Agree relation (effect.conditionsObstacle? view)
      (effect.conditionsObstacle? view) := by
  unfold conditionsObstacle?
  cases effect with
  | known action limit conditions =>
      refine agree_get fun start other related => ?_
      rw [Condition.judgeAll_retraced (parallel.retraced related)]
      refine agree_bind (Evaluation.agree_noteUnknown parallel _) (fun _ => ?_) start other related
      exact agree_bind (agree_lift _) fun _ => agree_pure _
  | unknown kind extras =>
      dsimp only
      split
      · exact agree_pure _
      · exact agree_bind (Evaluation.agree_noteUnknown parallel _) fun _ => agree_pure _
      · exact agree_throw _

theorem agree_obstacle (effect : Effect) :
    Agree relation (effect.obstacle? view) (effect.obstacle? view) := by
  unfold obstacle?
  split
  · exact agree_pure _
  · split
    · exact agree_pure _
    · exact agree_conditionsObstacle parallel effect

theorem agree_apply (effect : Effect) :
    Agree relation (effect.apply view source) (effect.apply view source) := by
  unfold Effect.apply
  refine agree_bind (agree_obstacle parallel effect) fun reason => ?_
  cases reason with
  | some reason => exact agree_bind (Evaluation.agree_note parallel _ _) fun _ => agree_pure _
  | none =>
      cases effect with
      | known action limit conditions =>
          exact agree_bind (Action.agree_write parallel action) fun _ => agree_pure _
      | unknown kind extras =>
          exact agree_bind (Evaluation.agree_note parallel _ _) fun _ => agree_pure _

end Effect

theorem agree_applyEffects (effects : List Effect) :
    Agree relation (applyEffects view source effects)
      (applyEffects view source effects) := by
  induction effects with
  | nil => exact agree_pure _
  | cons effect rest ih =>
      unfold applyEffects
      exact agree_bind (effect.agree_apply parallel) fun _ => ih

end

mutual

theorem Block.agree_evaluate (parallel : Board.Parallel relation) : ∀ block : Block,
    Agree relation (block.evaluate view source) (block.evaluate view source) := by
  intro block
  cases block with
  | perform effects =>
      unfold Block.evaluate
      exact agree_applyEffects parallel effects
  | guarded condition blocks =>
      unfold Block.evaluate
      refine agree_bind (Evaluation.agree_holds parallel condition) fun holds => ?_
      cases holds with
      | true => exact Block.agree_evaluateAll parallel blocks
      | false => exact Evaluation.agree_note parallel _ _

theorem Block.agree_evaluateAll (parallel : Board.Parallel relation) : ∀ blocks : List Block,
    Agree relation (Block.evaluateAll view source blocks)
      (Block.evaluateAll view source blocks) := by
  intro blocks
  cases blocks with
  | nil =>
      unfold Block.evaluateAll
      exact agree_pure _
  | cons block rest =>
      unfold Block.evaluateAll
      exact agree_bind (Block.agree_evaluate parallel block) fun _ =>
        Block.agree_evaluateAll parallel rest

end

namespace Rule

theorem agree_evaluate (parallel : Board.Parallel relation) (rule : Rule) :
    Agree relation (rule.evaluate view) (rule.evaluate view) := by
  obtain ⟨met, unmet, eq⟩ := rule.evaluate_eq view
  rw [eq]
  refine agree_bind (Evaluation.agree_holds parallel rule.condition) fun holds => ?_
  cases holds with
  | true =>
      refine agree_bind (Block.agree_evaluateAll parallel _) fun _ => ?_
      exact agree_bind (Evaluation.agree_note parallel _ _) fun _ => agree_pure _
  | false => exact agree_bind (Evaluation.agree_note parallel _ _) fun _ => agree_pure _

/-- Rules come to the same on related boards, and leave related boards. -/
theorem agree_evaluateAll (parallel : Board.Parallel relation) (rules : List Rule) :
    Agree relation (evaluateAll view rules) (evaluateAll view rules) := by
  induction rules with
  | nil => exact agree_pure _
  | cons rule rest ih =>
      rw [evaluateAll]
      exact agree_bind (rule.agree_evaluate parallel) fun _ => agree_bind ih fun _ => agree_pure _

end Rule

end Skirmish
