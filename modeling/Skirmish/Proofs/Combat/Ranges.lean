import Skirmish.Proofs.Combat.Attack
import Skirmish.Proofs.Combat.Growth
import Skirmish.Proofs.Combat.Written
import Skirmish.Proofs.Rulebook.Bounds
import Skirmish.Proofs.Volley.Ranges

/-!
# The ranges of an attack

Critical hits and wounds are all sixes until a rule sets them, and accepted rules set them
to faces from two on.  So the thresholds of critical hits lie on the die, those of critical
wounds never lie beyond it, and the records of hits, wounds and saves agree with their
natural rolls, whatever the characteristics, the rules and the dice are.
-/

namespace Skirmish

/-! ## The entries of critical rolls -/

/-- The stats of the critical rolls. -/
def criticalStats : List String := ["critHit", "critWound"]

/-- The modifier sets a critical roll to a face from two to six. -/
structure Modifier.SetsCritical (modifier : Modifier) : Prop where
  operation : modifier.operation = .set
  low : 2 ≤ modifier.amount
  high : modifier.amount ≤ 6

theorem not_mem_criticalStats {stat : String} (foreign : stat.toList.take 2 ≠ ['c', 'r']) :
    stat ∉ criticalStats := by
  have letters : ∀ stat ∈ criticalStats, stat.toList.take 2 = ['c', 'r'] := by decide
  exact fun own => foreign (letters stat own)

/-- Only the actions that set a critical roll write its stat, and within bounds they set it
to a face. -/
theorem Action.setsCritical_modifier {action : Action} (bounded : action.IsBounded)
    (source : String) (own : action.entry.stat ∈ criticalStats) :
    (action.modifier source).SetsCritical := by
  cases action with
  | setCriticalHit n => exact ⟨rfl, bounded.1, bounded.2⟩
  | setCriticalWound n => exact ⟨rfl, bounded.1, bounded.2⟩
  | modHit | modWound | modHitAgainst | modWoundAgainst | modMove | setInvulnerable
  | setFeelNoPain => simp [entry, criticalStats] at own
  | modWeaponStat stat add | modDefensiveStat stat add | setDefensiveStat stat n =>
      cases stat <;> simp [entry, criticalStats, Vocabulary.word] at own
  | addWeaponAbility ability | addUnitAbility ability =>
      refine (not_mem_criticalStats ?_ own).elim
      rw [entry, Ability.stat, take_grant (by decide)]
      decide
  | addKeyword keyword value =>
      refine (not_mem_criticalStats ?_ own).elim
      rw [entry, take_grant (by decide)]
      decide
  | reroll phase kind =>
      refine (not_mem_criticalStats ?_ own).elim
      cases phase <;> cases kind <;> decide

/-- Accepted rules only set critical rolls, and to faces from two to six. -/
theorem Side.Evaluates.allSetCriticals {side : Side} {view : View} {rules : List Rule}
    (evaluates : side.Evaluates view rules)
    (accepted : ∀ rule ∈ rules, ∃ value, Rule.read value = .accepted rule) :
    side.board.ledger.AllEntries fun stat entry => stat ∈ criticalStats → entry.SetsCritical := by
  refine evaluates.allEntries fun rule member {action limit conditions} inRule _ own => ?_
  obtain ⟨value, read⟩ := accepted rule member
  have bounded := Rule.allBounded read _ inRule
  exact action.setsCritical_modifier bounded rule.id own

/-- A critical roll that starts from six stays on the die. -/
theorem Ledger.criticalRoll_bounds {ledger : Ledger} {stat : String} {value : Int}
    (written : ∀ entry ∈ ledger.entriesFor stat, entry.IsWritten)
    (sets : ∀ entry ∈ ledger.entriesFor stat, entry.SetsCritical)
    (applied : ledger.applyInt stat 6 = .ok value) : 2 ≤ value ∧ value ≤ 6 := by
  have reached := applyInt_eq_settled written applied
  unfold settled at reached
  cases found : lastSet? (ledger.entriesFor stat) with
  | some last =>
      have critical := sets last (mem_of_lastSet? found).1
      rw [found] at reached
      exact reached ▸ ⟨critical.low, critical.high⟩
  | none =>
      have bonuses := isBonus_of_lastSet?_eq_none written found
      have empty : ledger.entriesFor stat = [] := by
        refine List.eq_nil_iff_forall_not_mem.mpr fun entry member => ?_
        have both := (bonuses entry member).operation.symm.trans (sets entry member).operation
        cases both
      rw [found, empty] at reached
      simp only [sumOfAmounts] at reached
      omega

/-! ## Numbers -/

/-- The numbers of a combat that are kept within bounds. -/
structure CombatNumbers.InRange (numbers : CombatNumbers) : Prop where
  criticalHit : 2 ≤ numbers.criticalHit ∧ numbers.criticalHit ≤ 6
  criticalWound : numbers.criticalWound ≤ 6
  armourPenetration : numbers.armourPenetration ≤ 0
  toughness : 1 ≤ numbers.toughness

theorem inRange_of_prepare {encounter : Encounter} {attackerRules defenderRules : List Rule}
    {trace : Trace} {combat : PreparedCombat}
    (accepted : ∀ rule ∈ attackerRules, ∃ value, Rule.read value = .accepted rule)
    (prepared : (prepare encounter attackerRules defenderRules trace).1 = .ok combat) :
    combat.numbers.InRange := by
  have evaluates := (evaluates_of_prepare prepared).1
  have merged := Merged.of_mergeNumbers (merged_of_prepare prepared)
  have bounds : ∀ {stat value}, stat ∈ criticalStats →
      combat.attacker.board.ledger.applyInt stat 6 = .ok value → 2 ≤ value ∧ value ≤ 6 := by
    intro stat value own applied
    refine Ledger.criticalRoll_bounds (evaluates.allWritten stat) ?_ applied
    exact fun entry member => evaluates.allSetCriticals accepted stat entry member own
  constructor
  · exact bounds (by decide) merged.criticalHit
  · obtain ⟨value, applied, reached⟩ := merged.criticalWound
    have high := (bounds (by decide) applied).2
    rw [reached]
    split
    · exact Int.le_trans (Int.min_le_left _ _) high
    · exact high
  · obtain ⟨value, -, reached⟩ := merged.armourPenetration
    omega
  · obtain ⟨value, -, reached⟩ := merged.toughness
    omega

/-! ## Attacks -/

/-- The log tests its rolls against a threshold between two bounds.  It counts those that
pass, and its natural rolls come out as they must. -/
def PhaseLog.TestsWithin (log : PhaseLog) (low high critical automatic : Int) : Prop :=
  ∃ threshold, log.threshold = some threshold ∧ low ≤ threshold ∧ threshold ≤ high ∧
    log.Counts (passes threshold critical) automatic ∧ log.Natural (passes threshold critical)

/-- The log tests its rolls against a save that is seven at most, counts those that save,
and never counts a natural one. -/
def PhaseLog.SavesWithin (log : PhaseLog) : Prop :=
  ∃ threshold, log.threshold = some threshold ∧ threshold ≤ 7 ∧
    log.Counts (saves threshold) 0 ∧
    ∀ record ∈ log.rolls, record.value = 1 → saves threshold record.value = false

variable {σ : Type} [DiceSource σ] {start final : Table σ} {encounter : Encounter}
  {attackerRules defenderRules : List Rule} {result : AttackResult}

/-- The hits that a torrent scores without rolls. -/
def AttackRun.torrentHits
    (run : AttackRun encounter attackerRules defenderRules start result final) : Int :=
  if run.combat.numbers.keywords.hasAbility .torrent then result.summary.attacks else 0

/-- The numbers and the logs of an attack are within their ranges. -/
structure AttackRun.InRange
    (run : AttackRun encounter attackerRules defenderRules start result final) : Prop where
  numbers : run.combat.numbers.InRange
  hits : result.hits.TestsWithin 2 7 run.combat.numbers.criticalHit run.torrentHits
  wounds : result.wounds.TestsWithin 2 6 run.combat.numbers.criticalWound run.hits.autoWounds
  saves : result.saves.SavesWithin

/-- Every attack by accepted rules that returns is within the ranges. -/
theorem resolveAttack_inRange
    (accepted : ∀ rule ∈ attackerRules, ∃ value, Rule.read value = .accepted rule)
    (returns : Returns (resolveAttack encounter attackerRules defenderRules) start result
      final) :
    ∃ run : AttackRun encounter attackerRules defenderRules start result final,
      run.InRange := by
  obtain ⟨run⟩ := AttackRun.of_returns returns
  have numbers := inRange_of_prepare accepted run.prepared
  obtain ⟨hitsLog, woundsLog, savesLog⟩ := run.testLogs
  refine ⟨run, numbers, ?_, ?_, ?_⟩
  · have bounds := clampThreshold_bounds encounter.weapon.skill run.combat.numbers.hit
    unfold AttackRun.torrentHits
    rw [hitsLog, run.summary]
    exact ⟨_, threshold_rollHits run.ranHits, bounds.1, bounds.2, counts_rollHits run.ranHits,
      (marks_rollHits run.ranHits).natural numbers.criticalHit.2⟩
  · have needed := woundThreshold_le_six run.combat.numbers.strength run.combat.numbers.toughness
    rw [woundsLog]
    exact ⟨_, threshold_rollWounds run.ranWounds, (clampThreshold_bounds _ _).1,
      clampThreshold_le_six _ needed, counts_rollWounds run.ranWounds,
      (marks_rollWounds run.ranWounds).natural numbers.criticalWound⟩
  · rw [savesLog]
    refine ⟨_, (threshold_rollSaves run.ranSaves).1, saveThreshold_le_seven _ _ _,
      counts_rollSaves run.ranSaves, fun record _ shown => ?_⟩
    rw [shown]
    rfl

/-- By this rule hits are critical on a five. -/
def Rule.sharpshooters : Rule :=
  passiveRule "sharpshooters" .always (.setCriticalHit 5)

/-- Three shots that find it hard to hit and hard to wound. -/
def longShots : Encounter where
  attacker := { id := "hunters", armyId := "wolves" }
  defender := { id := "wagon", armyId := "orks"
                models := [{ toughness := 12, save := 9, wounds := 8 }] }
  weapon := { name := "Boltgun", range := 24, attacks := "3", skill := 8 }

/-- The dice rolled for the long shots. -/
def longShotsTable : Table Script where
  dice := { faces := #[1, 5, 6, 6, 1] }

/-- The characteristic is out of reach, so only the critical five and six hit.  Of their
wound rolls the six is critical and the one fails, and no save is possible. -/
theorem longShots_inRange :
    ∃ (result : AttackResult) (final : Table Script)
      (run : AttackRun longShots [.sharpshooters] [] longShotsTable result final),
      (∃ value, Rule.read value = .accepted .sharpshooters) ∧
      Returns (resolveAttack longShots [.sharpshooters] []) longShotsTable result final ∧
      (result.hits.threshold, result.hits.successes, result.hits.criticals) = (some 7, 2, 2) ∧
      (result.wounds.threshold, result.wounds.successes, result.wounds.criticals) =
        (some 6, 1, 1) ∧
      result.saves.threshold = some 7 ∧ run.InRange := by
  have readHere : Rule.read Rule.sharpshooters.dump = .accepted .sharpshooters := rfl
  have accepted : ∀ rule ∈ [Rule.sharpshooters], ∃ value, Rule.read value = .accepted rule := by
    intro rule member
    obtain rfl := List.mem_singleton.mp member
    exact ⟨_, readHere⟩
  have ran : (outcomeOf (resolveAttack longShots [.sharpshooters] [])
      longShotsTable).1.toOption.map (fun result =>
        ((result.hits.threshold, result.hits.successes, result.hits.criticals),
          (result.wounds.threshold, result.wounds.successes, result.wounds.criticals),
          result.saves.threshold)) =
      some ((some 7, 2, 2), (some 6, 1, 1), some 7) := by
    decide +kernel
  obtain ⟨result, final, returns, shown⟩ := exists_returns_of_shown ran
  obtain ⟨hits, others⟩ := Prod.mk.inj shown
  obtain ⟨wounds, save⟩ := Prod.mk.inj others
  obtain ⟨run, inRange⟩ := resolveAttack_inRange accepted returns
  exact ⟨result, final, run, ⟨_, readHere⟩, returns, hits, wounds, save, inRange⟩

end Skirmish
