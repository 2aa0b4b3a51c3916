import Skirmish.Proofs.Combat.Attack
import Skirmish.Proofs.Combat.Numbers
import Skirmish.Proofs.Rulebook.Keywords
import Skirmish.Proofs.Volley.Tallies

/-!
# The balance of an attack

Nothing gets lost between the phases of an attack.  The hits are those that are rolled
to wound and those that wound at once, the wounds are those that are saved and those
that do damage, the damage is what is negated and what is left, and what is applied
pays for the models destroyed and the wounds that the next one has lost.
-/

namespace Skirmish

variable {σ : Type} [DiceSource σ] {start final : Table σ}

/-! ## Phases -/

theorem countAttacks_nonneg {attacks : String} {models modifier rapidFire blast : Int}
    {outcome : Int × PhaseLog}
    (returns : Returns (countAttacks attacks models modifier rapidFire blast) start outcome
      final) : 0 ≤ outcome.1 := by
  obtain ⟨_, _, -, -, total, -⟩ := returns_countAttacks returns
  rw [total]
  exact le_max_left _ _

theorem rollHits_sound {attacks threshold critical sustained : Int} {reroll : Reroll}
    {torrent lethal : Bool} {outcome : HitOutcome} (someAttacks : 0 ≤ attacks)
    (nonneg : 0 ≤ sustained)
    (returns : Returns (rollHits attacks threshold critical reroll torrent sustained lethal)
      start outcome final) : outcome.tally.Sound sustained lethal := by
  rcases returns_rollHits returns with
    ⟨-, -, -, counted⟩ | ⟨-, records, _, -, -, -, counted⟩
  · rw [counted]
    exact ⟨by simp, by simp, someAttacks, le_refl _⟩
  · rw [counted]
    have none : HitTally.Sound sustained lethal {} := ⟨by simp, by simp, le_refl _, le_refl _⟩
    exact none.foldl nonneg _ records

theorem rollWounds_sound {hits autoWounds threshold critical : Int} {reroll : Reroll}
    {devastating : Bool} {outcome : WoundOutcome} (someAutoWounds : 0 ≤ autoWounds)
    (returns : Returns (rollWounds hits autoWounds threshold critical reroll devastating)
      start outcome final) :
    outcome.log.rolls.length = hits.toNat ∧
      (outcome.tally autoWounds).Sound autoWounds hits.toNat := by
  obtain ⟨records, _, rolled, -, logged, counted⟩ := returns_rollWounds returns
  have length := Roll.length_times rolled
  have none : WoundTally.Sound autoWounds 0 { wounds := autoWounds } :=
    ⟨by simp, someAutoWounds, le_refl _, le_refl _, le_refl _⟩
  have sound := none.foldl (passes threshold critical) devastating records
  rw [length, Nat.zero_add] at sound
  rw [logged, counted]
  exact ⟨length, sound⟩

theorem rollSaves_split {wounds threshold : Int} {invulnerable : Bool}
    {outcome : Int × PhaseLog} (nonneg : 0 ≤ wounds)
    (returns : Returns (rollSaves wounds threshold invulnerable) start outcome final) :
    outcome.2.successes + outcome.1 = wounds ∧ 0 ≤ outcome.1 := by
  rcases returns_rollSaves returns with
    ⟨-, -, unsaved, -, saved⟩ | ⟨-, faces, _, rolled, -, unsaved, -, saved⟩
  · omega
  · have length := Roll.length_times rolled
    have split := List.length_eq_countP_add_countP
      (fun (face : Nat) => saves threshold face) (l := faces)
    rw [unsaved, saved]
    simp only [Bool.not_eq_true, Bool.decide_eq_false] at split
    omega

theorem rollDamage_positive {instances modifier melta : Int} {damage : String}
    {reroll : Reroll} {outcome : List Int × PhaseLog}
    (returns : Returns (rollDamage instances damage modifier melta reroll) start outcome
      final) :
    outcome.1.length = instances.toNat ∧ ∀ damage ∈ outcome.1, 1 ≤ damage := by
  obtain ⟨_, records, _, -, -, rolled, -, damages, -⟩ := returns_rollDamage returns
  rw [damages, List.length_map, Roll.length_times rolled]
  refine ⟨rfl, fun damage member => ?_⟩
  obtain ⟨record, -, rfl⟩ := List.mem_map.mp member
  exact le_max_left _ _

theorem negatedPoints_within (needed : Int) (faces : List Nat) :
    0 ≤ negatedPoints needed faces ∧ negatedPoints needed faces ≤ faces.length := by
  unfold negatedPoints
  have bound := List.countP_le_length (l := faces) (p := fun (face : Nat) => needed ≤ (face : Int))
  omega

theorem rollFeelNoPain_split {damages : List Int} {threshold : Option Int}
    {outcome : List Int × PhaseLog} (nonneg : ∀ damage ∈ damages, 0 ≤ damage)
    (returns : Returns (rollFeelNoPain damages threshold : Roll σ (List Int × PhaseLog)) start
      outcome final) :
    outcome.2.successes + sumOf outcome.1 = sumOf damages ∧ ∀ left ∈ outcome.1, 0 ≤ left := by
  rcases returns_rollFeelNoPain returns with
    ⟨-, -, remaining, -, negated⟩ | ⟨needed, rolled, _, -, -, ran, -, remaining, -, negated⟩
  · rw [remaining, negated, zero_add]
    exact ⟨rfl, nonneg⟩
  · rw [remaining, negated]
    exact negated_add_remaining (negatedPoints_within needed)
      (forall₂_of_returns_mapM Roll.length_times ran) nonneg

/-! ## Attacks -/

variable {encounter : Encounter} {attackerRules defenderRules : List Rule}
  {result : AttackResult}

/-- The wounds that it takes to destroy a model of the target, one at least. -/
def AttackRun.woundsPerModel
    (run : AttackRun encounter attackerRules defenderRules start result final) : Int :=
  max 1 run.woundsOfModel

/-- The summary and the logs of an attack balance. -/
structure AttackRun.Balances
    (run : AttackRun encounter attackerRules defenderRules start result final) : Prop where
  hits_split : result.summary.hits = run.hits.hits + run.hits.autoWounds
  hits_rolled : (result.wounds.rolls.length : Int) = run.hits.hits
  autoWounds_eq : run.hits.autoWounds =
    if run.combat.numbers.keywords.hasAbility .lethalHits then result.hits.criticals else 0
  wounds_nonneg : 0 ≤ result.summary.wounds
  wounds_le_hits : result.summary.wounds ≤ result.summary.hits
  saves_split : result.saves.successes + result.summary.unsaved = result.summary.wounds
  unsaved_le_damage : result.summary.unsaved ≤ result.summary.damage
  feelNoPain_split : result.feelNoPain.successes + result.summary.damageAfterFeelNoPain =
    result.summary.damage
  applied_le_left : result.summary.damageApplied ≤ result.summary.damageAfterFeelNoPain
  destroyed_le_models : result.summary.modelsDestroyed ≤ encounter.defender.modelCount
  destroyed_paid :
    result.summary.modelsDestroyed * run.woundsPerModel ≤ result.summary.damageApplied
  no_further_paid :
    result.summary.damageApplied < (result.summary.modelsDestroyed + 1) * run.woundsPerModel
  applied_le_models :
    result.summary.damageApplied ≤ run.woundsPerModel * encounter.defender.modelCount

theorem AttackRun.sustainedHits_nonneg
    (run : AttackRun encounter attackerRules defenderRules start result final) :
    0 ≤ run.combat.numbers.keywords.sustainedHits :=
  Keywords.sustainedHits_nonneg (Merged.of_mergeNumbers (merged_of_prepare run.prepared)).keywords

theorem AttackRun.wounds_nonneg
    (run : AttackRun encounter attackerRules defenderRules start result final) :
    0 ≤ run.wounds.wounds := by
  obtain ⟨-, autoWounds_eq, -, criticals_nonneg⟩ :=
    rollHits_sound (countAttacks_nonneg run.ranAttacks) run.sustainedHits_nonneg run.ranHits
  dsimp only [HitOutcome.tally] at autoWounds_eq criticals_nonneg
  have someAutoWounds : 0 ≤ run.hits.autoWounds := by
    rw [autoWounds_eq]
    split_ifs <;> omega
  exact (rollWounds_sound someAutoWounds run.ranWounds).2.wounds_nonneg

/-- Every attack that returns balances, whatever the rules of both sides, the weapon
and the dice are. -/
theorem resolveAttack_balances
    (returns : Returns (resolveAttack encounter attackerRules defenderRules) start result
      final) :
    ∃ run : AttackRun encounter attackerRules defenderRules start result final,
      run.Balances := by
  obtain ⟨run⟩ := AttackRun.of_returns returns
  refine ⟨run, ?_⟩
  have logs := run.logs
  simp only [AttackResult.phases, List.cons.injEq, and_true] at logs
  obtain ⟨-, hitsLog, woundsLog, savesLog, -, feelNoPainLog⟩ := logs
  obtain ⟨hitsSplit, autoWounds_eq, hits_nonneg, criticals_nonneg⟩ :=
    rollHits_sound (countAttacks_nonneg run.ranAttacks) run.sustainedHits_nonneg run.ranHits
  dsimp only [HitOutcome.tally] at hitsSplit autoWounds_eq hits_nonneg criticals_nonneg
  have someAutoWounds : 0 ≤ run.hits.autoWounds := by
    rw [autoWounds_eq]
    split_ifs <;> omega
  obtain ⟨rolled, woundsSplit, wounds_nonneg, -, successes_nonneg, successes_le⟩ :=
    rollWounds_sound someAutoWounds run.ranWounds
  dsimp only [WoundOutcome.tally] at woundsSplit wounds_nonneg successes_nonneg successes_le
  obtain ⟨savesSplit, unsaved_nonneg⟩ := rollSaves_split wounds_nonneg run.ranSaves
  obtain ⟨instances, positive⟩ := rollDamage_positive run.ranDamage
  have damageSum := length_le_sumOf positive
  obtain ⟨feelNoPainSplit, left_nonneg⟩ :=
    rollFeelNoPain_split (fun damage member => by linarith [positive damage member])
      run.ranFeelNoPain
  have someWounds : 0 < run.woundsPerModel := lt_of_lt_of_le one_pos (le_max_left _ _)
  obtain ⟨allocation, applied_le⟩ :=
    allocate_sound encounter.defender.modelCount someWounds left_nonneg
  obtain ⟨destroyed_paid, no_further_paid, applied_le_models⟩ := allocation.paid
  have summary := run.summary
  rw [← AttackRun.woundsPerModel] at summary
  constructor <;> simp only [summary, hitsLog, woundsLog, savesLog, feelNoPainLog]
  · omega
  · omega
  · exact autoWounds_eq
  · omega
  · omega
  · omega
  · omega
  · exact feelNoPainSplit
  · exact applied_le
  · exact allocation.destroyed_le
  · exact destroyed_paid
  · exact no_further_paid
  · exact applied_le_models

/-- Three shots at two models of two wounds, with automatic wounds and further hits. -/
def threeShots : Encounter where
  attacker := { id := "hunters", armyId := "wolves" }
  defender := { id := "boyz", armyId := "orks"
                models := [{ wounds := 2, feelNoPain := some 5 }, { wounds := 2 }] }
  weapon := { name := "Boltgun", range := 24, attacks := "3", damage := "D3"
              keywords := ["Lethal Hits", "Sustained Hits 1"] }

/-- The dice rolled for the three shots. -/
def threeShotsTable : Table Script where
  dice := { faces := #[6, 3, 5, 4, 2, 5, 2, 1, 6, 3, 2, 5, 1, 2, 6, 3] }

/-- One of the shots is a critical hit.  It wounds at once and hits once more, two wounds
are not saved, and of their five points of damage two are negated. -/
theorem threeShots_balances :
    ∃ (result : AttackResult) (final : Table Script)
      (run : AttackRun threeShots [] [] threeShotsTable result final),
      Returns (resolveAttack threeShots [] []) threeShotsTable result final ∧
      result.summary = ⟨3, 4, 3, 2, 5, 3, 3, 1⟩ ∧ run.Balances := by
  have ran : (outcomeOf (resolveAttack threeShots [] []) threeShotsTable).1.toOption.map
      AttackResult.summary = some ⟨3, 4, 3, 2, 5, 3, 3, 1⟩ := by
    decide +kernel
  obtain ⟨result, final, returns, shown⟩ := exists_returns_of_shown ran
  obtain ⟨run, balances⟩ := resolveAttack_balances returns
  exact ⟨result, final, run, returns, shown, balances⟩

end Skirmish
