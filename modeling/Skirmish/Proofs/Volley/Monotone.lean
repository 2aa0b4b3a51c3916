import Skirmish.Proofs.Volley.Ranges
import Skirmish.Proofs.Volley.Tracing

/-!
# The same dice against other thresholds

Two rolls from the same dice show the same faces as long as no face is rolled again because
it failed.  So a lower wound threshold never wounds less, and a higher save threshold never
saves more: against one that is out of reach no dice are rolled, and nothing is saved.
-/

namespace Skirmish

/-! ## Thresholds -/

theorem clampThreshold_mono {base higher : Int} (modifier : Int) (le : base ≤ higher) :
    clampThreshold base modifier ≤ clampThreshold higher modifier := by
  unfold clampThreshold impossible
  split_ifs <;> omega

theorem woundThreshold_anti {strength stronger toughness frailer : Int}
    (strengthLe : strength ≤ stronger) (toughnessLe : frailer ≤ toughness) :
    woundThreshold stronger frailer ≤ woundThreshold strength toughness := by
  unfold woundThreshold
  split_ifs <;> omega

/-- The second threshold is no better than the first.  None at all is the worst. -/
def NoBetter (threshold other : Option Int) : Prop :=
  ∀ n ∈ other, ∃ m ∈ threshold, m ≤ n

/-- A worse armour save, a lower armour penetration and a worse invulnerable save never lower
the save threshold. -/
theorem saveThreshold_mono {save worse armourPenetration lower : Int}
    {invulnerable other : Option Int} (saveLe : save ≤ worse)
    (penetrationLe : lower ≤ armourPenetration) (noBetter : NoBetter invulnerable other) :
    (saveThreshold save armourPenetration invulnerable).threshold ≤
      (saveThreshold worse lower other).threshold := by
  unfold saveThreshold impossible
  cases other with
  | none =>
      cases invulnerable with
      | none => dsimp only; split_ifs <;> omega
      | some m => dsimp only; split_ifs <;> omega
  | some n =>
      obtain ⟨m, rfl, le⟩ := noBetter n rfl
      dsimp only
      split_ifs <;> omega

theorem passes_mono {threshold lower critical face : Int} (le : lower ≤ threshold)
    (passed : passes threshold critical face = true) : passes lower critical face = true := by
  simp only [passes, Bool.and_eq_true, Bool.or_eq_true, decide_eq_true_eq] at passed ⊢
  exact ⟨passed.1, passed.2.imp_right (Int.le_trans le)⟩

theorem not_saves_mono {threshold higher face : Int} (le : threshold ≤ higher)
    (failed : (!saves threshold face) = true) : (!saves higher face) = true := by
  simp only [saves, Bool.not_eq_true', Bool.and_eq_false_iff, decide_eq_false_iff_not]
    at failed ⊢
  exact failed.imp_right fun below reached => below (Int.le_trans le reached)

/-! ## Tests -/

variable {σ : Type}

/-- Only a reroll of failures asks whether a face is a success. -/
theorem Reroll.covers_congr {reroll : Reroll} (blind : reroll ≠ .granted .failed) (face : Int)
    (success other : Bool) : reroll.covers face success = reroll.covers face other := by
  cases reroll with
  | granted kind =>
      cases kind with
      | failed => exact absurd rfl blind
      | ones | all => rfl
  | none | other word => rfl

theorem Roll.times_map {α β : Type} (change : α → β) (action : Roll σ α) (count : Nat) :
    times count (change <$> action) = List.map change <$> times count action := by
  induction count with
  | zero => simp [times]
  | succ count ih => simp [times, ih, map_bind]

variable [DiceSource σ]

theorem rollTest_congr {reroll : Reroll} (blind : reroll ≠ .granted .failed)
    (success other : Int → Bool) (critical : Int) :
    (rollTest success reroll critical : Roll σ RollRecord) = rollTest other reroll critical := by
  have same (face : Int) : reroll.covers face (success face) = reroll.covers face (other face) :=
    Reroll.covers_congr blind face _ _
  simp only [rollTest, same]

theorem map_value_rollPass (threshold critical : Int) (reroll : Reroll) :
    (·.value) <$> (rollPass threshold critical reroll : Roll σ RollRecord) =
      (·.value) <$> rollTest (passes threshold critical) reroll critical := by
  unfold rollPass
  rw [map_bind]
  rfl

variable {start startOther final finalOther : Table σ}

/-- From the same dice, tests against two thresholds come to the same values. -/
theorem values_of_rollPass {threshold other critical : Int} {reroll : Reroll}
    (blind : reroll ≠ .granted .failed) {count : Nat} {records recordsOther : List RollRecord}
    (retraced : start.Retraced startOther)
    (returns : Returns (Roll.times count (rollPass threshold critical reroll)) start records
      final)
    (returnsOther : Returns (Roll.times count (rollPass other critical reroll)) startOther
      recordsOther finalOther) :
    records.map (·.value) = recordsOther.map (·.value) := by
  have agree : Agree Table.Retraced
      ((·.value) <$> (rollPass threshold critical reroll : Roll σ RollRecord))
      ((·.value) <$> rollPass other critical reroll) := by
    rw [map_value_rollPass, map_value_rollPass, rollTest_congr blind _ (passes other critical)]
    exact agree_map _ (agree_rollTest Table.parallel_retraced _ _ _)
  have values : Returns (Roll.times count ((·.value) <$> rollPass threshold critical reroll))
      start (records.map (·.value)) final := by
    rw [Roll.times_map, returns_map_iff]
    exact ⟨records, returns, rfl⟩
  have valuesOther : Returns (Roll.times count ((·.value) <$> rollPass other critical reroll))
      startOther (recordsOther.map (·.value)) finalOther := by
    rw [Roll.times_map, returns_map_iff]
    exact ⟨recordsOther, returnsOther, rfl⟩
  exact ((Roll.agree_times agree count).unique retraced values valuesOther).1

/-! ## Phases -/

/-- From the same dice, and without a reroll of failures, a lower threshold wounds at least as
often. -/
theorem successes_rollWounds_mono {hits autoWounds threshold lower critical : Int}
    {reroll : Reroll} {devastating : Bool} {outcome other : WoundOutcome}
    (le : lower ≤ threshold) (blind : reroll ≠ .granted .failed)
    (retraced : start.Retraced startOther)
    (returns : Returns (rollWounds hits autoWounds threshold critical reroll devastating) start
      outcome final)
    (returnsOther : Returns (rollWounds hits autoWounds lower critical reroll devastating)
      startOther other finalOther) :
    outcome.log.successes ≤ other.log.successes := by
  have counts := (counts_rollWounds returns).successes
  have countsOther := (counts_rollWounds returnsOther).successes
  obtain ⟨records, _, rolled, -, logged, -⟩ := returns_rollWounds returns
  obtain ⟨recordsOther, _, rolledOther, -, loggedOther, -⟩ := returns_rollWounds returnsOther
  have values := values_of_rollPass blind retraced rolled rolledOther
  have countP_value (passed : Int → Bool) (records : List RollRecord) :
      records.countP (fun record => passed record.value) =
        (records.map (·.value)).countP passed := by
    rw [List.countP_map]
    rfl
  have mono : (records.map (·.value)).countP (passes threshold critical) ≤
      (records.map (·.value)).countP (passes lower critical) :=
    List.countP_mono_left fun _ _ => passes_mono le
  rw [counts, countsOther, logged, loggedOther, countP_value, countP_value, ← values]
  omega

theorem unsaved_rollSaves_mono {wounds threshold higher : Int}
    {invulnerable invulnerableOther : Bool} {outcome other : Int × PhaseLog}
    (nonneg : 0 ≤ wounds) (le : threshold ≤ higher) (retraced : start.Retraced startOther)
    (returns : Returns (rollSaves wounds threshold invulnerable) start outcome final)
    (returnsOther : Returns (rollSaves wounds higher invulnerableOther) startOther other
      finalOther) : outcome.1 ≤ other.1 := by
  rcases returns_rollSaves returns with
    ⟨hopeless, -, unsaved, -⟩ | ⟨-, faces, _, rolled, -, unsaved, -⟩ <;>
  rcases returns_rollSaves returnsOther with
    ⟨-, -, unsavedOther, -⟩ | ⟨hopeful, facesOther, _, rolledOther, -, unsavedOther, -⟩
  · omega
  · omega
  · -- No dice are rolled against the higher threshold, so no wound is saved.
    have length := Roll.length_times rolled
    have most := List.countP_le_length (l := faces)
      (p := fun (face : Nat) => !saves threshold face)
    omega
  · have dice := Roll.agree_times (Roll.agree_die (@Table.parallel_retraced σ) 6) wounds.toNat
    obtain ⟨rfl, -⟩ := dice.unique retraced rolled rolledOther
    have mono : faces.countP (fun (face : Nat) => !saves threshold face) ≤
        faces.countP (fun (face : Nat) => !saves higher face) :=
      List.countP_mono_left fun _ _ => not_saves_mono le
    omega

end Skirmish
