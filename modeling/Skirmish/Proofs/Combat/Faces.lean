import Skirmish.Proofs.Combat.Attack

/-!
# The faces drawn in an attack

The logs of an attack account for its dice.  Between its first and its last die, an
attack draws the faces of its phases one phase after the other, and the phases that test
face by face draw exactly the faces that their logs show.  Attacks and damage are
expressions, whose logs show totals; without dice in them, they draw nothing.
-/

namespace Skirmish

variable {σ : Type} [DiceSource σ] {start final : Table σ}

/-! ## Phases -/

theorem faces_of_values (faces : List Nat) :
    (faces.map fun (face : Nat) => ({ value := face } : RollRecord)).flatMap RollRecord.faces =
      faces.flatMap fun (face : Nat) => [(face : Int)] := by
  rw [List.flatMap_map]
  rfl

theorem faces_countAttacks {attacks : String} {models modifier rapidFire blast : Int}
    {outcome : Int × PhaseLog}
    (returns : Returns (countAttacks attacks models modifier rapidFire blast) start outcome
      final) :
    ∃ drawn, final.faces = start.faces ++ drawn ∧
      (mentionsDice attacks = false → drawn = []) := by
  obtain ⟨_, middle, rolled, retraced, -⟩ := returns_countAttacks returns
  rw [retraced.faces_eq]
  refine faces_of_moves ?_ (fun free => ?_) rolled
  · exact moves_times (moves_orFallback (fun same => same.keeps.extends)
      (extends_rollText attacks)) _
  · exact moves_times (moves_orFallback (fun same => same.keeps) (keeps_rollText free)) _

theorem faces_rollHits {attacks threshold critical sustained : Int} {reroll : Reroll}
    {torrent lethal : Bool} {outcome : HitOutcome}
    (returns : Returns (rollHits attacks threshold critical reroll torrent sustained lethal)
      start outcome final) : final.faces = start.faces ++ outcome.log.faces := by
  unfold PhaseLog.faces
  rcases returns_rollHits returns with
    ⟨-, retraced, logged, -⟩ | ⟨-, records, middle, rolled, retraced, logged, -⟩
  · rw [retraced.faces_eq, logged, List.flatMap_nil, List.append_nil]
  · rw [retraced.faces_eq, logged]
    exact Roll.faces_times faces_rollPass rolled

theorem faces_rollWounds {hits autoWounds threshold critical : Int} {reroll : Reroll}
    {devastating : Bool} {outcome : WoundOutcome}
    (returns : Returns (rollWounds hits autoWounds threshold critical reroll devastating)
      start outcome final) : final.faces = start.faces ++ outcome.log.faces := by
  obtain ⟨records, middle, rolled, retraced, logged, -⟩ := returns_rollWounds returns
  unfold PhaseLog.faces
  rw [retraced.faces_eq, logged]
  exact Roll.faces_times faces_rollPass rolled

theorem faces_rollSaves {wounds threshold : Int} {invulnerable : Bool}
    {outcome : Int × PhaseLog}
    (returns : Returns (rollSaves wounds threshold invulnerable) start outcome final) :
    final.faces = start.faces ++ outcome.2.faces := by
  unfold PhaseLog.faces
  rcases returns_rollSaves returns with
    ⟨-, retraced, -, logged, -⟩ | ⟨-, faces, middle, rolled, retraced, -, logged, -⟩
  · rw [retraced.faces_eq, logged, List.flatMap_nil, List.append_nil]
  · rw [retraced.faces_eq, logged, faces_of_values]
    exact Roll.faces_times Roll.faces_die rolled

theorem faces_rollDamage {instances modifier melta : Int} {damage : String}
    {reroll : Reroll} {outcome : List Int × PhaseLog}
    (returns : Returns (rollDamage instances damage modifier melta reroll) start outcome
      final) :
    ∃ drawn, final.faces = start.faces ++ drawn ∧
      (mentionsDice damage = false → drawn = []) := by
  obtain ⟨_, _, middle, -, -, rolled, retraced, -⟩ := returns_rollDamage returns
  rw [retraced.faces_eq]
  refine faces_of_moves ?_ (fun free => ?_) rolled
  · exact moves_times (moves_rollDamageOnce (fun same => same.keeps.extends)
      (extends_rollText damage)) _
  · exact moves_times (moves_rollDamageOnce (fun same => same.keeps) (keeps_rollText free)) _

theorem faces_rollFeelNoPain {damages : List Int} {threshold : Option Int}
    {outcome : List Int × PhaseLog}
    (returns : Returns (rollFeelNoPain damages threshold : Roll σ (List Int × PhaseLog)) start
      outcome final) : final.faces = start.faces ++ outcome.2.faces := by
  unfold PhaseLog.faces
  rcases returns_rollFeelNoPain returns with
    ⟨-, rfl, -, logged, -⟩ | ⟨needed, rolled, middle, -, -, ran, retraced, -, logged, -⟩
  · rw [logged, List.flatMap_nil, List.append_nil]
  · rw [retraced.faces_eq, logged, faces_of_values, List.flatten_eq_flatMap,
      List.flatMap_assoc]
    exact Roll.faces_mapM (Roll.faces_times Roll.faces_die) ran

/-! ## Attacks -/

variable {encounter : Encounter} {attackerRules defenderRules : List Rule}
  {result : AttackResult}

/-- The faces drawn in each phase of an attack: those that the attacks and the damage
drew, and in the other phases those that the log shows. -/
structure AttackRun.Draws
    (run : AttackRun encounter attackerRules defenderRules start result final)
    (attackFaces damageFaces : List Int) : Prop where
  preparing : run.atReady.faces = start.faces
  attacks : run.afterAttacks.faces = run.atReady.faces ++ attackFaces
  hits : run.afterHits.faces = run.afterAttacks.faces ++ result.hits.faces
  wounds : run.afterWounds.faces = run.afterHits.faces ++ result.wounds.faces
  saves : run.afterSaves.faces = run.afterWounds.faces ++ result.saves.faces
  damage : run.afterDamage.faces = run.afterSaves.faces ++ damageFaces
  feelNoPain : run.afterFeelNoPain.faces = run.afterDamage.faces ++ result.feelNoPain.faces
  closing : final.faces = run.afterFeelNoPain.faces

/-- The faces that an attack draws are those of its six phases in order.  The tests of
hits, wounds, saves and Feel No Pain draw what their logs show, and attacks and damage
draw nothing when their expressions have no dice. -/
theorem resolveAttack_draws
    (returns : Returns (resolveAttack encounter attackerRules defenderRules) start result
      final) :
    ∃ (run : AttackRun encounter attackerRules defenderRules start result final)
      (attackFaces damageFaces : List Int),
      run.Draws attackFaces damageFaces ∧
      final.faces = start.faces ++ (attackFaces ++ result.hits.faces ++ result.wounds.faces ++
        result.saves.faces ++ damageFaces ++ result.feelNoPain.faces) ∧
      (mentionsDice encounter.weapon.attacks = false → attackFaces = []) ∧
      (mentionsDice encounter.weapon.damage = false → damageFaces = []) := by
  obtain ⟨run⟩ := AttackRun.of_returns returns
  obtain ⟨attackFaces, attacks, noAttackDice⟩ := faces_countAttacks run.ranAttacks
  obtain ⟨damageFaces, damage, noDamageDice⟩ := faces_rollDamage run.ranDamage
  have logs := run.logs
  simp only [AttackResult.phases, List.cons.injEq, and_true] at logs
  obtain ⟨-, hitsLog, woundsLog, savesLog, -, feelNoPainLog⟩ := logs
  have draws : run.Draws attackFaces damageFaces := by
    constructor
    · exact run.ready.faces_eq
    · exact attacks
    · rw [hitsLog]
      exact faces_rollHits run.ranHits
    · rw [woundsLog]
      exact faces_rollWounds run.ranWounds
    · rw [savesLog]
      exact faces_rollSaves run.ranSaves
    · exact damage
    · rw [feelNoPainLog]
      exact faces_rollFeelNoPain run.ranFeelNoPain
    · exact run.done.faces_eq
  refine ⟨run, attackFaces, damageFaces, draws, ?_, noAttackDice, noDamageDice⟩
  rw [draws.closing, draws.feelNoPain, draws.damage, draws.saves, draws.wounds, draws.hits,
    draws.attacks, draws.preparing]
  simp only [List.append_assoc]

/-- A random number of shots with a twin-linked weapon. -/
def twinShots : Encounter where
  attacker := { id := "hunters", armyId := "wolves" }
  defender := { id := "warboss", armyId := "orks"
                models := [{ wounds := 3, feelNoPain := some 5 }] }
  weapon := { name := "Twin boltgun", range := 24, attacks := "D3", damage := "2"
              keywords := ["Twin-linked"] }

/-- The dice rolled for the twin-linked weapon. -/
def twinShotsTable : Table Script where
  dice := { faces := #[2, 4, 5, 2, 5, 4, 1, 2, 5, 1, 3, 6] }

/-- The wound roll that is made again shows both of its faces, and the damage, which is
fixed, draws none. -/
theorem twinShots_draws :
    ∃ (result : AttackResult) (final : Table Script)
      (run : AttackRun twinShots [] [] twinShotsTable result final)
      (attackFaces : List Int),
      Returns (resolveAttack twinShots [] []) twinShotsTable result final ∧
      run.Draws attackFaces [] ∧
      result.wounds.faces = [2, 5, 4] ∧ result.feelNoPain.faces = [5, 1, 3, 6] := by
  have ran : (outcomeOf (resolveAttack twinShots [] []) twinShotsTable).1.toOption.map
      (fun result => (result.wounds.faces, result.feelNoPain.faces)) =
      some ([2, 5, 4], [5, 1, 3, 6]) := by
    decide +kernel
  obtain ⟨result, final, returns, shown⟩ := exists_returns_of_shown ran
  obtain ⟨run, attackFaces, damageFaces, draws, -, -, fixed⟩ := resolveAttack_draws returns
  obtain rfl := fixed (by decide +kernel)
  obtain ⟨wounds, feelNoPain⟩ := Prod.mk.inj shown
  exact ⟨result, final, run, attackFaces, returns, draws, wounds, feelNoPain⟩

end Skirmish
