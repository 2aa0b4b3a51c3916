import Skirmish.Proofs.Combat.Attack
import Skirmish.Proofs.Combat.Tracing
import Skirmish.Proofs.Volley.Tracing

/-!
# Attacks with a trace and without one

An attack may be resolved with a trace or without one.  The trace passes through the views
of both sides, through every rule and through every phase of the volley, and nothing reads
it on the way.  So both attacks roll the same dice and come to the same result, or stop with
the same fault, and what the attack notes stands behind the lines that were there before.
-/

namespace Skirmish

variable {lines : List String} {kept unkept : Trace}

/-! ## Boards -/

/-- The board as it is when no trace is kept. -/
def Board.untraced (board : Board) : Board :=
  { board with trace := none }

def Side.untraced (side : Side) : Side :=
  { side with board := side.board.untraced }

/-- The combat as it is when no trace is kept. -/
def PreparedCombat.untraced (combat : PreparedCombat) : PreparedCombat :=
  { combat with attacker := combat.attacker.untraced, defender := combat.defender.untraced }

/-- The result as it is when no trace is kept. -/
def AttackResult.untraced (result : AttackResult) : AttackResult :=
  { result with traceLines := [] }

/-- The boards differ in their traces only.  The first one keeps a trace behind the lines,
the second one keeps none. -/
structure Board.Beside (lines : List String) (board other : Board) : Prop where
  retraced : board.Retraced other
  trace : Trace.Beside lines board.trace other.trace

theorem Board.Beside.eq_untraced {board other : Board} (beside : Board.Beside lines board other) :
    other = board.untraced := by
  obtain ⟨⟨trace, rfl⟩, unkept, -⟩ := beside
  obtain rfl : trace = none := unkept
  rfl

theorem Board.parallel_beside (lines : List String) : Board.Parallel (Board.Beside lines) where
  retraced beside := beside.retraced
  note beside tag message :=
    ⟨parallel_retraced.note beside.retraced tag message, beside.trace.note tag message⟩
  write beside ledger granted :=
    ⟨parallel_retraced.write beside.retraced ledger granted, beside.trace⟩

/-! ## Preparation -/

/-- The outcomes are the same, but for what is forgotten of them.  The first one came with a
trace behind the lines, the second one with none. -/
structure AlikeBeside {α : Type} (lines : List String) (forget : α → α)
    (first second : Except Fault α × Trace) : Prop where
  outcome : second.1 = first.1.map forget
  trace : Trace.Beside lines first.2 second.2

theorem evaluateSide_beside {view : View} {board other : Board}
    (beside : Board.Beside lines board other) (rules : List Rule) :
    AlikeBeside lines Side.untraced (evaluateSide view board rules)
      (evaluateSide view other rules) := by
  have agree : Agree (Board.Beside lines) (Rule.evaluateAll view rules)
      (Rule.evaluateAll view rules) :=
    Rule.agree_evaluateAll (Board.parallel_beside lines) rules
  obtain ⟨same, besideAfter⟩ := agree board other beside
  refine ⟨?_, besideAfter.trace⟩
  have boards := besideAfter.eq_untraced
  change ((outcomeOf (Rule.evaluateAll view rules) other).1.map fun resolutions =>
      (⟨view, (outcomeOf (Rule.evaluateAll view rules) other).2, resolutions⟩ : Side)) =
    ((outcomeOf (Rule.evaluateAll view rules) board).1.map fun resolutions =>
      (⟨view, (outcomeOf (Rule.evaluateAll view rules) board).2, resolutions⟩ : Side)).map
        Side.untraced
  rw [← same, boards]
  cases (outcomeOf (Rule.evaluateAll view rules) board).1 <;> rfl

theorem joinSides_untraced (encounter : Encounter) (attacker defender : Side) :
    joinSides encounter attacker.untraced defender.untraced =
      (joinSides encounter attacker defender).map PreparedCombat.untraced := by
  have merged : mergeNumbers encounter attacker.untraced.board defender.untraced.board
        (encounter.view .attacker) =
      mergeNumbers encounter attacker.board defender.board (encounter.view .attacker) :=
    rfl
  unfold joinSides
  rw [merged]
  cases mergeNumbers encounter attacker.board defender.board (encounter.view .attacker) <;> rfl

theorem prepareDefence_beside (traces : Trace.Beside lines kept unkept) (encounter : Encounter)
    (defenderRules : List Rule) (attacker : Side) :
    AlikeBeside lines PreparedCombat.untraced
      (prepareDefence encounter defenderRules attacker kept)
      (prepareDefence encounter defenderRules attacker.untraced unkept) := by
  obtain ⟨same, tracesAfter⟩ :=
    @evaluateSide_beside lines (encounter.view .defender) { trace := kept } { trace := unkept }
      ⟨⟨unkept, rfl⟩, traces⟩ defenderRules
  refine ⟨?_, tracesAfter⟩
  unfold prepareDefence
  dsimp only
  rw [same]
  cases (evaluateSide (encounter.view .defender) { trace := kept } defenderRules).1 with
  | error fault => rfl
  | ok defender => exact joinSides_untraced encounter attacker defender

/-- A combat is prepared alike with a trace and without one. -/
theorem prepare_beside (traces : Trace.Beside lines kept unkept) (encounter : Encounter)
    (attackerRules defenderRules : List Rule) :
    AlikeBeside lines PreparedCombat.untraced
      (prepare encounter attackerRules defenderRules kept)
      (prepare encounter attackerRules defenderRules unkept) := by
  have opened : Trace.Beside lines (encounter.opened kept) (encounter.opened unkept) :=
    (traces.note _ _).note _ _
  obtain ⟨same, tracesAfter⟩ :=
    @evaluateSide_beside lines (encounter.view .attacker) { trace := encounter.opened kept }
      { trace := encounter.opened unkept } ⟨⟨_, rfl⟩, opened⟩ attackerRules
  rw [prepare_eq, prepare_eq]
  generalize evaluateSide (encounter.view .attacker) { trace := encounter.opened kept }
    attackerRules = evaluated at *
  generalize evaluateSide (encounter.view .attacker) { trace := encounter.opened unkept }
    attackerRules = evaluatedOther at *
  obtain ⟨outcome, keptAfter⟩ := evaluated
  obtain ⟨outcomeOther, unkeptAfter⟩ := evaluatedOther
  obtain rfl : outcomeOther = outcome.map Side.untraced := same
  cases outcome with
  | error fault => exact ⟨rfl, tracesAfter⟩
  | ok attacker => exact prepareDefence_beside tracesAfter encounter defenderRules attacker

/-! ## Attacks -/

variable {σ : Type}

theorem outcomeOf_prepareAtTable (encounter : Encounter)
    (attackerRules defenderRules : List Rule) (start : Table σ) :
    outcomeOf (prepareAtTable encounter attackerRules defenderRules) start =
      ((prepare encounter attackerRules defenderRules start.trace).1,
        { start with trace := (prepare encounter attackerRules defenderRules start.trace).2 }) := by
  unfold prepareAtTable
  rw [outcomeOf_bind, outcomeOf_get]
  dsimp only
  cases prepare encounter attackerRules defenderRules start.trace with
  | mk outcome trace => cases outcome <;> rfl

theorem agree_prepareAtTable (encounter : Encounter) (attackerRules defenderRules : List Rule) :
    Agree (Table.Beside lines)
      (PreparedCombat.untraced <$>
        (prepareAtTable encounter attackerRules defenderRules : Roll σ PreparedCombat))
      (PreparedCombat.untraced <$> prepareAtTable encounter attackerRules defenderRules) := by
  intro start other beside
  obtain ⟨same, traces⟩ := prepare_beside beside.trace encounter attackerRules defenderRules
  rw [outcomeOf_map, outcomeOf_map, outcomeOf_prepareAtTable, outcomeOf_prepareAtTable, same]
  refine ⟨?_, beside.retrace traces⟩
  cases (prepare encounter attackerRules defenderRules start.trace).1 <;> rfl

variable [DiceSource σ]

theorem agree_rollVolley (encounter : Encounter) (combat : PreparedCombat) :
    Agree (Table.Beside lines) (rollVolley encounter combat : Roll σ VolleyResult)
      (rollVolley encounter combat) := by
  have parallel := @Table.parallel_beside σ lines
  unfold rollVolley
  refine agree_bind (agree_countAttacks parallel _ _ _ _ _) fun attacks => ?_
  refine agree_bind (agree_rollHits parallel _ _ _ _ _ _ _) fun hits => ?_
  refine agree_bind (agree_rollWounds parallel _ _ _ _ _ _) fun wounds => ?_
  refine agree_bind (agree_rollSaves parallel _ _ _) fun saves => ?_
  refine agree_bind (agree_rollDamage parallel _ _ _ _ _) fun damage => ?_
  refine agree_bind (agree_rollFeelNoPain parallel _ _) fun feelNoPain => ?_
  refine agree_bind (agree_lift _) fun woundsOfModel => ?_
  exact Roll.agree_writableNoted parallel _ _ _ _

/-- Beside each other, an attack with a trace and one without come to the same, the lines
of the result aside. -/
theorem agree_resolveAttack (encounter : Encounter) (attackerRules defenderRules : List Rule) :
    Agree (Table.Beside lines)
      (AttackResult.untraced <$>
        (resolveAttack encounter attackerRules defenderRules : Roll σ AttackResult))
      (AttackResult.untraced <$> resolveAttack encounter attackerRules defenderRules) := by
  unfold resolveAttack
  simp only [map_bind, map_pure]
  -- Behind the preparation nothing looks at the traces of the combat's boards.
  refine agree_bind_forget PreparedCombat.untraced (fun combat => rfl)
    (agree_prepareAtTable encounter attackerRules defenderRules) fun combat => ?_
  refine agree_bind (agree_rollVolley encounter combat) fun volley => ?_
  refine agree_bind (agree_lift _) fun _ => agree_bind (agree_lift _) fun _ => ?_
  exact agree_get fun start other beside => ⟨rfl, beside⟩

theorem traceLines_of_resolveAttack {encounter : Encounter}
    {attackerRules defenderRules : List Rule} {start final : Table σ} {result : AttackResult}
    (returns : Returns (resolveAttack encounter attackerRules defenderRules) start result final) :
    result.traceLines = final.trace.lines := by
  simp only [resolveAttack, returns_bind_iff, returns_pure_iff, returns_get_iff] at returns
  obtain ⟨_, _, -, _, _, -, _, _, -, _, _, -, _, _, ⟨rfl, rfl⟩, rfl, rfl⟩ := returns
  rfl

/-- From any dice, an attack with a trace and one without draw the same faces and leave
the same dice, and come to the same outcome, but for the lines of its trace in a result.
The trace goes on where it stood before the attack. -/
theorem resolveAttack_with_or_without_trace (encounter : Encounter)
    (attackerRules defenderRules : List Rule) (dice : σ) (drawn : List Nat)
    (lines : List String) :
    ∃ (outcome : Except Fault AttackResult) (diceLeft : σ) (drawnAfter : List Nat)
      (added : List String),
      outcomeOf (resolveAttack encounter attackerRules defenderRules)
          ⟨dice, drawn, some lines⟩ =
        (outcome, ⟨diceLeft, drawnAfter, some (lines ++ added)⟩) ∧
      outcomeOf (resolveAttack encounter attackerRules defenderRules) ⟨dice, drawn, none⟩ =
        (outcome.map AttackResult.untraced, ⟨diceLeft, drawnAfter, none⟩) ∧
      ∀ result, outcome = .ok result → result.traceLines = lines ++ added := by
  obtain ⟨same, tables⟩ := agree_resolveAttack encounter attackerRules defenderRules
    ⟨dice, drawn, some lines⟩ ⟨dice, drawn, none⟩ ⟨rfl, rfl, Trace.beside_some lines⟩
  rw [outcomeOf_map, outcomeOf_map] at same tables
  rcases ran : outcomeOf (resolveAttack encounter attackerRules defenderRules)
    ⟨dice, drawn, some lines⟩ with ⟨outcome, diceLeft, drawnAfter, kept⟩
  rcases ranOther : outcomeOf (resolveAttack encounter attackerRules defenderRules)
    ⟨dice, drawn, none⟩ with ⟨outcomeOther, diceOther, drawnOther, unkept⟩
  rw [ran, ranOther] at same tables
  dsimp only at same tables
  obtain ⟨sameDice, sameDrawn, rfl, added, rfl⟩ := tables
  obtain rfl : diceOther = diceLeft := sameDice
  obtain rfl : drawnOther = drawnAfter := sameDrawn
  have sameOther : outcomeOther = outcome.map AttackResult.untraced := by
    rw [same]
    cases outcomeOther with
    | error fault => rfl
    | ok result =>
        have unlined : result.traceLines = [] := traceLines_of_resolveAttack ranOther
        exact congrArg (fun traceLines => Except.ok { result with traceLines }) unlined
  refine ⟨outcome, diceOther, drawnOther, added, rfl, by rw [sameOther], ?_⟩
  rintro result rfl
  exact traceLines_of_resolveAttack ran

end Skirmish
