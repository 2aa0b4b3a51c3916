import Skirmish.Combat.Attack
import Skirmish.Proofs.Combat.Numbers
import Skirmish.Proofs.Volley.Phases

/-!
# The run of an attack

An attack that returns went through its preparation and six phases.  `AttackRun`
holds what each of them returned and the table it left, with the result that the attack
made of it.  Everything about results of attacks is proved from such a run.
-/

namespace Skirmish

/-! ## Preparation -/

theorem merged_of_prepare {encounter : Encounter} {attackerRules defenderRules : List Rule}
    {trace : Trace} {combat : PreparedCombat}
    (prepared : (prepare encounter attackerRules defenderRules trace).1 = .ok combat) :
    mergeNumbers encounter combat.attacker.board combat.defender.board
      (encounter.view .attacker) = .ok combat.numbers :=
  (sides_of_prepare prepared).2.2

variable {σ : Type} [DiceSource σ] {start final : Table σ}

omit [DiceSource σ] in
/-- The preparation rolls nothing. -/
theorem returns_prepareAtTable {encounter : Encounter}
    {attackerRules defenderRules : List Rule} {combat : PreparedCombat}
    (returns : Returns (prepareAtTable encounter attackerRules defenderRules) start combat
      final) :
    (prepare encounter attackerRules defenderRules start.trace).1 = .ok combat ∧
      start.Retraced final := by
  simp only [prepareAtTable, returns_bind_iff, returns_get_iff, returns_set_iff,
    returns_lift_iff] at returns
  obtain ⟨_, _, ⟨rfl, rfl⟩, _, _, rfl, prepared, rfl⟩ := returns
  exact ⟨prepared, _, rfl⟩

/-! ## Phases -/

/-- The course of an attack that returned: what its preparation and each of its phases
returned, the table that each of them left, and the result that was made of all this. -/
structure AttackRun (encounter : Encounter) (attackerRules defenderRules : List Rule)
    (table : Table σ) (result : AttackResult) (final : Table σ) where
  combat : PreparedCombat
  prepared : (prepare encounter attackerRules defenderRules table.trace).1 = .ok combat
  atReady : Table σ
  ready : table.Retraced atReady
  attacks : Int × PhaseLog
  afterAttacks : Table σ
  ranAttacks : Returns (attackPhase encounter combat.numbers) atReady attacks afterAttacks
  hits : HitOutcome
  afterHits : Table σ
  ranHits : Returns (hitPhase encounter combat.numbers attacks.1) afterAttacks hits afterHits
  wounds : WoundOutcome
  afterWounds : Table σ
  ranWounds : Returns (woundPhase combat.numbers hits) afterHits wounds afterWounds
  saves : Int × PhaseLog
  afterSaves : Table σ
  ranSaves : Returns (savePhase combat.numbers wounds) afterWounds saves afterSaves
  damage : List Int × PhaseLog
  afterDamage : Table σ
  ranDamage : Returns (damagePhase encounter combat.numbers (saves.1 + wounds.bypassing))
    afterSaves damage afterDamage
  feelNoPain : List Int × PhaseLog
  afterFeelNoPain : Table σ
  ranFeelNoPain : Returns (rollFeelNoPain damage.1 combat.numbers.feelNoPain) afterDamage
    feelNoPain afterFeelNoPain
  woundsOfModel : Int
  knownWounds : combat.woundsOfModel encounter.defender = .ok woundsOfModel
  done : afterFeelNoPain.Retraced final
  logs : result.phases =
    [attacks.2, hits.log, wounds.log, saves.2, damage.2, feelNoPain.2]
  summary : result.summary = {
    attacks := attacks.1
    hits := hits.log.successes + combat.numbers.keywords.sustainedHits * hits.log.criticals
    wounds := wounds.log.successes
    unsaved := saves.1 + wounds.bypassing
    damage := sumOf damage.1
    damageAfterFeelNoPain := sumOf feelNoPain.1
    damageApplied :=
      (allocate feelNoPain.1 (max 1 woundsOfModel) encounter.defender.modelCount).applied
    modelsDestroyed :=
      (allocate feelNoPain.1 (max 1 woundsOfModel) encounter.defender.modelCount).destroyed }

/-- Every attack that returns has a run. -/
theorem AttackRun.of_returns {encounter : Encounter} {attackerRules defenderRules : List Rule}
    {table : Table σ} {result : AttackResult}
    (returns : Returns (resolveAttack encounter attackerRules defenderRules) table result
      final) :
    Nonempty (AttackRun encounter attackerRules defenderRules table result final) := by
  simp only [resolveAttack, rollVolley, returns_bind_iff, returns_lift_iff,
    Roll.returns_writable_iff, Roll.returns_note_iff, returns_pure_iff,
    returns_get_iff] at returns
  obtain ⟨combat, atReady, prepared, volley, _, ranVolley, _, _, ⟨-, rfl⟩, _, _, ⟨-, rfl⟩,
    _, _, ⟨rfl, rfl⟩, rfl, rfl⟩ := returns
  obtain ⟨attacks, afterAttacks, ranAttacks, hits, afterHits, ranHits, wounds, afterWounds,
    ranWounds, saves, afterSaves, ranSaves, damage, afterDamage, ranDamage, feelNoPain,
    _, ranFeelNoPain, woundsOfModel, _, ⟨knownWounds, rfl⟩, _, _, ⟨-, rfl⟩, _, _,
    rfl, rfl, rfl⟩ := ranVolley
  obtain ⟨prepared, ready⟩ := returns_prepareAtTable prepared
  exact ⟨{
    combat, prepared, atReady, ready, attacks, afterAttacks, ranAttacks, hits, afterHits,
    ranHits, wounds, afterWounds, ranWounds, saves, afterSaves, ranSaves, damage, afterDamage,
    ranDamage, feelNoPain, ranFeelNoPain, woundsOfModel, knownWounds
    afterFeelNoPain := _
    done := ⟨_, rfl⟩
    logs := rfl
    summary := rfl }⟩

theorem AttackRun.testLogs {encounter : Encounter} {attackerRules defenderRules : List Rule}
    {result : AttackResult}
    (run : AttackRun encounter attackerRules defenderRules start result final) :
    result.hits = run.hits.log ∧ result.wounds = run.wounds.log ∧ result.saves = run.saves.2 := by
  have logs := run.logs
  simp only [AttackResult.phases, List.cons.injEq] at logs
  obtain ⟨-, hitsLog, woundsLog, savesLog, -⟩ := logs
  exact ⟨hitsLog, woundsLog, savesLog⟩

end Skirmish
