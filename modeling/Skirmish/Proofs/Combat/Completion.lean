import Skirmish.Proofs.Combat.Effects
import Skirmish.Proofs.Combat.Rules

/-!
# When rules can be evaluated

A rule stops the evaluation only through an effect that is broken and open when the
evaluation reaches it: one that grants a keyword under a name that no grant may have, one
that writes a value with more digits than a numeral may have, or one of unknown kind whose
conditions are not made of parts.  All of them pass the schema of rules.
-/

namespace Skirmish

variable {view : View} {source : String} {board final : Board}

/-! ## Effects -/

/-- The effect stops the evaluation when it is open. -/
def Effect.isBroken : Effect → Bool
  | .known action .. => action.isBroken
  | .unknown _ extras => rawConditions extras == .notIterable

/-- The effect does not stop the evaluation on a board. -/
def Effect.IsSafe (view : View) (board : Board) (effect : Effect) : Prop :=
  effect.opens view board = .ok true → effect.isBroken = false

theorem Evaluation.completes_noted {α : Type} (tag message : String) (value : α) :
    Completes (do Evaluation.note tag message; return value) board :=
  ⟨value, _, Evaluation.returns_noted_iff.mpr ⟨rfl, rfl⟩⟩

namespace Effect

theorem completes_apply_of_barred {effect : Effect} (barred : effect.isBarred view = true) :
    Completes (effect.apply view source) board := by
  obtain ⟨reason, -, eq⟩ := obstacle?_of_barred barred
  unfold Effect.apply
  rw [eq, completes_bind_iff]
  exact ⟨_, _, returns_pure_iff.mpr ⟨rfl, rfl⟩, Evaluation.completes_noted _ _ _⟩

theorem completes_apply_known_iff (legible : view.IsLegible) {action : Action}
    {limit : AppliesTo} {conditions : List Condition} :
    Completes ((known action limit conditions).apply view source) board ↔
      (known action limit conditions).IsSafe view board := by
  constructor
  · rintro ⟨wrote, final, returns⟩ isOpen
    obtain ⟨opens, noted, -, written⟩ := returns_apply_known returns
    rw [opens, Except.ok.injEq] at isOpen
    rw [isOpen, if_pos rfl] at written
    exact written.1
  · intro safe
    cases barred : (known action limit conditions).isBarred view with
    | true => exact completes_apply_of_barred barred
    | false =>
        obtain ⟨met, judged⟩ := @Condition.judgeAll_ok view board legible conditions
        have answer := (opens_known barred).trans judged
        cases met with
        | true => exact ⟨_, _, returns_apply_of_opens answer (safe answer)⟩
        | false =>
            unfold Effect.apply
            rw [obstacle?_of_not_barred barred, completes_bind_iff]
            exact ⟨_, _, returns_conditionsObstacle_known_iff.mpr ⟨false, judged, rfl, rfl⟩,
              Evaluation.completes_noted _ _ _⟩

theorem completes_apply_unknown_iff {kind : String} {extras : Fields} :
    Completes ((unknown kind extras).apply view source) board ↔
      (unknown kind extras).IsSafe view board := by
  cases barred : (unknown kind extras).isBarred view with
  | true =>
      refine iff_of_true (completes_apply_of_barred barred) ?_
      intro isOpen
      rw [opens_of_barred barred] at isOpen
      cases isOpen
  | false =>
      rw [IsSafe, opens_unknown barred]
      unfold Effect.apply isBroken
      rw [obstacle?_of_not_barred barred, completes_bind_iff]
      unfold conditionsObstacle?
      dsimp only
      cases rawConditions extras with
      | absent =>
          refine iff_of_true ⟨none, board, returns_pure_iff.mpr ⟨rfl, rfl⟩, ?_⟩ fun _ => rfl
          exact Evaluation.completes_noted _ _ _
      | present =>
          refine iff_of_true ⟨some conditionObstacle, board.noteUnknown ["None"], ?_, ?_⟩
            fun _ => rfl
          · exact returns_bind_iff.mpr ⟨(), _, returns_modify_iff.mpr rfl,
              returns_pure_iff.mpr ⟨rfl, rfl⟩⟩
          · exact Evaluation.completes_noted _ _ _
      | notIterable =>
          refine iff_of_false ?_ fun safe => by cases safe rfl
          rintro ⟨_, _, returns, -⟩
          exact not_returns_throw returns

/-- An effect stops the evaluation exactly when it is broken and open. -/
theorem completes_apply_iff (legible : view.IsLegible) (effect : Effect) :
    Completes (effect.apply view source) board ↔ effect.IsSafe view board := by
  cases effect with
  | known action limit conditions => exact completes_apply_known_iff legible
  | unknown kind extras => exact completes_apply_unknown_iff

end Effect

/-! ## Blocks -/

/-- While the effects are applied in order, beginning on a board, the effect `reached` is
applied on the board `found`. -/
def effectsReach (view : View) (source : String) (reached : Effect) (found : Board) :
    List Effect → Board → Prop
  | [], _ => False
  | effect :: rest, board =>
    (reached = effect ∧ found = board) ∨
      ∃ wrote middle, Returns (effect.apply view source) board wrote middle ∧
        effectsReach view source reached found rest middle

mutual

/-- While the block is evaluated on a board, the effect `reached` is applied on the board
`found`. -/
def Block.Reaches (view : View) (source : String) (reached : Effect) (found : Board) :
    Block → Board → Prop
  | .perform effects, board => effectsReach view source reached found effects board
  | .guarded condition blocks, board =>
    ∃ middle, Returns (Evaluation.holds view condition) board true middle ∧
      Block.AllReach view source reached found blocks middle

/-- While the blocks are evaluated in order, the effect `reached` is applied on the board
`found`. -/
def Block.AllReach (view : View) (source : String) (reached : Effect) (found : Board) :
    List Block → Board → Prop
  | [], _ => False
  | block :: rest, board =>
    Block.Reaches view source reached found block board ∨
      ∃ middle, Returns (block.evaluate view source) board () middle ∧
        Block.AllReach view source reached found rest middle

end

theorem completes_applyEffects_iff (legible : view.IsLegible) (effects : List Effect)
    (board : Board) :
    Completes (applyEffects view source effects) board ↔
      ∀ reached found, effectsReach view source reached found effects board →
        reached.IsSafe view found := by
  induction effects generalizing board with
  | nil => exact iff_of_true (completes_pure ()) fun _ _ never => never.elim
  | cons effect rest ih =>
      unfold applyEffects
      rw [completes_bind_iff_forall, effect.completes_apply_iff legible]
      constructor
      · rintro ⟨safe, completes⟩ reached found (⟨rfl, rfl⟩ | ⟨wrote, middle, returns, later⟩)
        · exact safe
        · exact (ih middle).mp (completes wrote middle returns) reached found later
      · intro safe
        refine ⟨safe effect board (.inl ⟨rfl, rfl⟩), fun wrote middle returns => ?_⟩
        refine (ih middle).mpr fun reached found later => ?_
        exact safe reached found (.inr ⟨wrote, middle, returns, later⟩)

theorem completes_holds (legible : view.IsLegible) (condition : Condition) (board : Board) :
    Completes (Evaluation.holds view condition) board := by
  obtain ⟨answer, judged⟩ := @Condition.judge_ok view board legible condition
  exact ⟨answer, _, Evaluation.returns_holds_iff.mpr ⟨judged, rfl⟩⟩

mutual

theorem Block.completes_evaluate_iff (legible : view.IsLegible) :
    ∀ (block : Block) (board : Board), Completes (block.evaluate view source) board ↔
      ∀ reached found, block.Reaches view source reached found board →
        reached.IsSafe view found := by
  intro block board
  cases block with
  | perform effects =>
      unfold Block.evaluate Block.Reaches
      exact completes_applyEffects_iff legible effects board
  | guarded condition blocks =>
      unfold Block.evaluate Block.Reaches
      rw [completes_bind_iff_forall]
      constructor
      · rintro ⟨-, completes⟩ reached found ⟨middle, holds, later⟩
        exact (Block.completes_evaluateAll_iff legible blocks middle).mp
          (completes true middle holds) reached found later
      · intro safe
        refine ⟨completes_holds legible condition board, fun answer middle holds => ?_⟩
        cases answer with
        | false => exact ⟨(), _, returns_modify_iff.mpr rfl⟩
        | true =>
            refine (Block.completes_evaluateAll_iff legible blocks middle).mpr ?_
            exact fun reached found later => safe reached found ⟨middle, holds, later⟩

theorem Block.completes_evaluateAll_iff (legible : view.IsLegible) :
    ∀ (blocks : List Block) (board : Board),
      Completes (Block.evaluateAll view source blocks) board ↔
        ∀ reached found, Block.AllReach view source reached found blocks board →
          reached.IsSafe view found := by
  intro blocks board
  cases blocks with
  | nil =>
      unfold Block.evaluateAll Block.AllReach
      exact iff_of_true (completes_pure ()) fun _ _ never => never.elim
  | cons block rest =>
      unfold Block.evaluateAll Block.AllReach
      rw [completes_bind_iff_forall, Block.completes_evaluate_iff legible block board]
      constructor
      · rintro ⟨safe, completes⟩ reached found (here | ⟨middle, returns, later⟩)
        · exact safe reached found here
        · exact (Block.completes_evaluateAll_iff legible rest middle).mp
            (completes () middle returns) reached found later
      · intro safe
        refine ⟨fun reached found here => safe reached found (.inl here),
          fun value middle returns => ?_⟩
        refine (Block.completes_evaluateAll_iff legible rest middle).mpr ?_
        exact fun reached found later => safe reached found (.inr ⟨middle, returns, later⟩)

end

/-! ## Rules -/

/-- While the rule is evaluated on a board, the effect `reached` is applied on the board
`found`. -/
def Rule.Reaches (view : View) (rule : Rule) (board : Board) (reached : Effect)
    (found : Board) : Prop :=
  ∃ middle, Returns (Evaluation.holds view rule.condition) board true middle ∧
    Block.AllReach view rule.id reached found (rule.blocksFor view) middle

/-- When the weapon's keywords are legible, the evaluation of a rule returns exactly when
no effect that it reaches is open there and broken. -/
theorem Rule.completes_iff_unbroken (legible : view.IsLegible) (rule : Rule) (board : Board) :
    Completes (rule.evaluate view) board ↔
      ∀ reached found, rule.Reaches view board reached found →
        reached.opens view found = .ok true → reached.isBroken = false := by
  obtain ⟨met, unmet, eq⟩ := rule.evaluate_eq view
  rw [eq, completes_bind_iff_forall]
  constructor
  · rintro ⟨-, completes⟩ reached found ⟨middle, holds, later⟩
    have performed := completes true middle holds
    rw [if_pos rfl, completes_bind_iff_forall] at performed
    exact (Block.completes_evaluateAll_iff legible _ middle).mp performed.1 reached found later
  · intro safe
    refine ⟨completes_holds legible rule.condition board, fun answer middle holds => ?_⟩
    cases answer with
    | false => exact Evaluation.completes_noted _ _ _
    | true =>
        rw [if_pos rfl, completes_bind_iff_forall]
        refine ⟨?_, fun _ _ _ => Evaluation.completes_noted _ _ _⟩
        refine (Block.completes_evaluateAll_iff legible _ middle).mpr ?_
        exact fun reached found later => safe reached found ⟨middle, holds, later⟩

/-- A shooting attack as its attacker sees it. -/
def shootingView : View :=
  Encounter.view
    { attacker := { id := "hunters", armyId := "wolves" }
      defender := { id := "boyz", armyId := "orks" }
      weapon := { name := "Boltgun", range := 24 } }
    .attacker

/-- A rule that grants a keyword with a plus sign in its name. -/
def vehicleHunters : Rule where
  id := "vehicle-hunters"
  name := "Vehicle hunters"
  body := .passive [.perform [.known (.addKeyword "Anti-Vehicle 4+" 0) .all []]]

/-- The plus sign stops the evaluation. -/
theorem vehicleHunters_stop : shootingView.IsLegible ∧
    ¬ Completes (vehicleHunters.evaluate shootingView) (shootingView.board none) := by
  have legible : shootingView.IsLegible := ⟨{}, rfl⟩
  refine ⟨legible, fun completes => ?_⟩
  have reached : vehicleHunters.Reaches shootingView (shootingView.board none)
      (.known (.addKeyword "Anti-Vehicle 4+" 0) .all []) (shootingView.board none) :=
    ⟨_, rfl, .inl (.inl ⟨rfl, rfl⟩)⟩
  have sound := (vehicleHunters.completes_iff_unbroken legible _).mp completes _ _ reached rfl
  exact absurd sound (by decide)

/-- A rule with an effect of unknown kind, whose conditions are a number. -/
def teleporters : Value :=
  .object [("kind", .text "passive"), ("id", .text "teleporters"),
    ("name", .text "Teleporters"),
    ("then", .list [.object [("t", .text "do"),
      ("fx", .list [.object [("t", .text "teleport"), ("conditions", .int 5)]])]])]

/-- The rule passes the schema, and its effect of unknown kind stops the evaluation. -/
theorem teleporters_stop : ∃ rule, Rule.read teleporters = .accepted rule ∧
    ¬ Completes (rule.evaluate shootingView) (shootingView.board none) := by
  refine ⟨_, rfl, ?_⟩
  rintro ⟨resolution, final, returns⟩
  cases returns

end Skirmish
