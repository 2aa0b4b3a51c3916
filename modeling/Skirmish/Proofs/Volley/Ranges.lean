import Skirmish.Proofs.Volley.Phases

/-!
# Thresholds and natural rolls

Whatever the characteristics and the modifiers are, a threshold lies on the die or just
beyond it.  A die that shows a one fails every roll.  One that shows a six succeeds
critically, as long as critical successes do not start beyond it: so the records of a log
tell which of them were counted.
-/

namespace Skirmish

/-! ## Thresholds -/

theorem clampThreshold_bounds (base modifier : Int) :
    2 ≤ clampThreshold base modifier ∧ clampThreshold base modifier ≤ 7 := by
  unfold clampThreshold impossible
  split <;> omega

theorem clampThreshold_le_six {base : Int} (modifier : Int) (reachable : base ≤ 6) :
    clampThreshold base modifier ≤ 6 := by
  unfold clampThreshold
  rw [if_neg (by omega)]
  omega

theorem woundThreshold_le_six (strength toughness : Int) :
    woundThreshold strength toughness ≤ 6 := by
  unfold woundThreshold
  split_ifs <;> decide

theorem saveThreshold_le_seven (save armourPenetration : Int) (invulnerable : Option Int) :
    (saveThreshold save armourPenetration invulnerable).threshold ≤ 7 := by
  unfold saveThreshold impossible
  dsimp only
  split <;> omega

/-! ## Records -/

/-- The log counts the records whose value passes, besides successes that came without a
roll, and its critical records are among them. -/
structure PhaseLog.Counts (log : PhaseLog) (passed : Int → Bool) (automatic : Int) : Prop where
  successes : log.successes = automatic + log.rolls.countP fun record => passed record.value
  criticals : log.criticals = log.rolls.countP (·.critical)
  critical_passes : ∀ record ∈ log.rolls, record.critical = true → passed record.value = true

/-- In the log a natural six is a critical success, and a natural one is a failure and not
critical. -/
structure PhaseLog.Natural (log : PhaseLog) (passed : Int → Bool) : Prop where
  six : ∀ record ∈ log.rolls, record.value = 6 →
    passed record.value = true ∧ record.critical = true
  one : ∀ record ∈ log.rolls, record.value = 1 →
    passed record.value = false ∧ record.critical = false

theorem HitTally.foldl_count {success : Int → Bool} {sustained : Int} {lethal : Bool}
    {records : List RollRecord} (tally : HitTally)
    (marked : ∀ record ∈ records, record.critical = true → success record.value = true) :
    (records.foldl (HitTally.count success sustained lethal) tally).successes =
        tally.successes + records.countP (fun record => success record.value) ∧
      (records.foldl (HitTally.count success sustained lethal) tally).criticals =
        tally.criticals + records.countP (·.critical) := by
  induction records generalizing tally with
  | nil => simp
  | cons record records ih =>
      obtain ⟨here, there⟩ := List.forall_mem_cons.mp marked
      obtain ⟨successes, criticals⟩ := ih (tally.count success sustained lethal record) there
      rw [List.foldl_cons, successes, criticals, List.countP_cons, List.countP_cons]
      unfold HitTally.count
      cases passed : success record.value <;> cases critical : record.critical
      · simp
      · rw [here critical] at passed
        cases passed
      · simp
        omega
      · simp
        omega

theorem WoundTally.foldl_count {success : Int → Bool} {devastating : Bool}
    {records : List RollRecord} (tally : WoundTally)
    (marked : ∀ record ∈ records, record.critical = true → success record.value = true) :
    (records.foldl (WoundTally.count success devastating) tally).successes =
        tally.successes + records.countP (fun record => success record.value) ∧
      (records.foldl (WoundTally.count success devastating) tally).criticals =
        tally.criticals + records.countP (·.critical) := by
  induction records generalizing tally with
  | nil => simp
  | cons record records ih =>
      obtain ⟨here, there⟩ := List.forall_mem_cons.mp marked
      obtain ⟨successes, criticals⟩ := ih (tally.count success devastating record) there
      rw [List.foldl_cons, successes, criticals, List.countP_cons, List.countP_cons]
      unfold WoundTally.count
      cases passed : success record.value <;> cases critical : record.critical
      · simp
      · rw [here critical] at passed
        cases passed
      · simp
        omega
      · simp
        omega

/-! ## Phases -/

variable {σ : Type} [DiceSource σ] {start final : Table σ}

/-- A record is critical when its value reaches the threshold of critical successes and
passes. -/
theorem critical_of_returns_rollPass {threshold critical : Int} {reroll : Reroll}
    {record : RollRecord}
    (returns : Returns (rollPass threshold critical reroll) start record final) :
    record.critical =
      (decide (critical ≤ record.value) && passes threshold critical record.value) := by
  simp only [rollPass, rollTest, returns_bind_iff, returns_pure_iff] at returns
  obtain ⟨tested, _, ⟨face, _, ranFace, returns⟩, rfl, rfl⟩ := returns
  split at returns
  · simp only [returns_bind_iff, returns_pure_iff] at returns
    obtain ⟨again, _, ranAgain, rfl, rfl⟩ := returns
    rfl
  · obtain ⟨rfl, rfl⟩ := returns_pure_iff.mp returns
    rfl

/-- The records of a log are critical when their values reach the threshold of critical
successes and pass. -/
def PhaseLog.Marks (log : PhaseLog) (threshold critical : Int) : Prop :=
  ∀ record ∈ log.rolls, record.critical =
    (decide (critical ≤ record.value) && passes threshold critical record.value)

namespace PhaseLog.Marks

variable {log : PhaseLog} {threshold critical : Int}

theorem passes (marks : log.Marks threshold critical) :
    ∀ record ∈ log.rolls, record.critical = true →
      Skirmish.passes threshold critical record.value = true := by
  intro record member isCritical
  rw [marks record member, Bool.and_eq_true] at isCritical
  exact isCritical.2

theorem natural (marks : log.Marks threshold critical) (onDie : critical ≤ 6) :
    log.Natural (Skirmish.passes threshold critical) where
  six record member shown := by
    have passed : Skirmish.passes threshold critical 6 = true := by
      simp [Skirmish.passes, onDie]
    rw [marks record member, shown, passed]
    exact ⟨rfl, by simpa using onDie⟩
  one record member shown := by
    have failed : Skirmish.passes threshold critical 1 = false := rfl
    rw [marks record member, shown, failed]
    exact ⟨rfl, Bool.and_false _⟩

end PhaseLog.Marks

theorem threshold_rollHits {attacks threshold critical sustained : Int} {reroll : Reroll}
    {torrent lethal : Bool} {outcome : HitOutcome}
    (returns : Returns (rollHits attacks threshold critical reroll torrent sustained lethal)
      start outcome final) : outcome.log.threshold = some threshold := by
  cases torrent with
  | true =>
      simp only [rollHits, if_true, returns_bind_iff, returns_pure_iff] at returns
      obtain ⟨_, _, -, _, _, -, rfl, -⟩ := returns
      rfl
  | false =>
      simp only [rollHits, Bool.false_eq_true, if_false, returns_bind_iff,
        returns_pure_iff] at returns
      obtain ⟨_, _, -, _, _, -, _, _, -, rfl, -⟩ := returns
      rfl

theorem threshold_rollWounds {hits autoWounds threshold critical : Int} {reroll : Reroll}
    {devastating : Bool} {outcome : WoundOutcome}
    (returns : Returns (rollWounds hits autoWounds threshold critical reroll devastating)
      start outcome final) : outcome.log.threshold = some threshold := by
  simp only [rollWounds, returns_bind_iff, returns_pure_iff] at returns
  obtain ⟨_, _, -, _, _, -, _, _, -, rfl, -⟩ := returns
  rfl

theorem reroll_rollWounds {hits autoWounds threshold critical : Int} {reroll : Reroll}
    {devastating : Bool} {outcome : WoundOutcome}
    (returns : Returns (rollWounds hits autoWounds threshold critical reroll devastating)
      start outcome final) : outcome.log.reroll = reroll := by
  simp only [rollWounds, returns_bind_iff, returns_pure_iff] at returns
  obtain ⟨_, _, -, _, _, -, _, _, -, rfl, -⟩ := returns
  rfl

theorem threshold_rollSaves {wounds threshold : Int} {invulnerable : Bool}
    {outcome : Int × PhaseLog}
    (returns : Returns (rollSaves wounds threshold invulnerable) start outcome final) :
    outcome.2.threshold = some threshold ∧ outcome.2.criticals = 0 := by
  unfold rollSaves at returns
  dsimp only at returns
  split at returns <;> simp only [returns_bind_iff, returns_pure_iff] at returns
  · obtain ⟨_, _, -, _, _, -, rfl, -⟩ := returns
    exact ⟨rfl, rfl⟩
  · obtain ⟨_, _, -, _, _, -, _, _, -, rfl, -⟩ := returns
    exact ⟨rfl, rfl⟩

theorem marks_rollHits {attacks threshold critical sustained : Int} {reroll : Reroll}
    {torrent lethal : Bool} {outcome : HitOutcome}
    (returns : Returns (rollHits attacks threshold critical reroll torrent sustained lethal)
      start outcome final) : outcome.log.Marks threshold critical := by
  unfold PhaseLog.Marks
  rcases returns_rollHits returns with ⟨-, -, logged, -⟩ | ⟨-, records, _, rolled, -, logged, -⟩
  · simp [logged]
  · rw [logged]
    exact Roll.forall_mem_times critical_of_returns_rollPass rolled

/-- Without a roll only the attacks of a torrent hit. -/
theorem counts_rollHits {attacks threshold critical sustained : Int} {reroll : Reroll}
    {torrent lethal : Bool} {outcome : HitOutcome}
    (returns : Returns (rollHits attacks threshold critical reroll torrent sustained lethal)
      start outcome final) :
    outcome.log.Counts (passes threshold critical) (if torrent then attacks else 0) := by
  have passed := (marks_rollHits returns).passes
  rcases returns_rollHits returns with
    ⟨rfl, -, logged, tallied⟩ | ⟨rfl, records, _, -, -, logged, tallied⟩
  · have successes : outcome.log.successes = attacks := congrArg HitTally.successes tallied
    have criticals : outcome.log.criticals = 0 := congrArg HitTally.criticals tallied
    exact ⟨by simp [logged, successes], by simp [logged, criticals], passed⟩
  · rw [logged] at passed
    obtain ⟨successes, criticals⟩ := HitTally.foldl_count {} passed
    rw [← tallied] at successes criticals
    rw [← logged] at successes criticals passed
    exact ⟨successes, criticals.trans (Int.zero_add _), passed⟩

theorem marks_rollWounds {hits autoWounds threshold critical : Int} {reroll : Reroll}
    {devastating : Bool} {outcome : WoundOutcome}
    (returns : Returns (rollWounds hits autoWounds threshold critical reroll devastating)
      start outcome final) : outcome.log.Marks threshold critical := by
  obtain ⟨records, _, rolled, -, logged, -⟩ := returns_rollWounds returns
  unfold PhaseLog.Marks
  rw [logged]
  exact Roll.forall_mem_times critical_of_returns_rollPass rolled

theorem counts_rollWounds {hits autoWounds threshold critical : Int} {reroll : Reroll}
    {devastating : Bool} {outcome : WoundOutcome}
    (returns : Returns (rollWounds hits autoWounds threshold critical reroll devastating)
      start outcome final) :
    outcome.log.Counts (passes threshold critical) autoWounds := by
  have passed := (marks_rollWounds returns).passes
  obtain ⟨records, _, -, -, logged, tallied⟩ := returns_rollWounds returns
  rw [logged] at passed
  obtain ⟨successes, criticals⟩ :=
    @WoundTally.foldl_count _ devastating _ { wounds := autoWounds } passed
  rw [← tallied] at successes criticals
  rw [← logged] at successes criticals passed
  simp only [WoundOutcome.tally] at successes criticals
  exact ⟨by omega, by omega, passed⟩

theorem counts_rollSaves {wounds threshold : Int} {invulnerable : Bool}
    {outcome : Int × PhaseLog}
    (returns : Returns (rollSaves wounds threshold invulnerable) start outcome final) :
    outcome.2.Counts (saves threshold) 0 := by
  have criticals := (threshold_rollSaves returns).2
  rcases returns_rollSaves returns with
    ⟨-, -, -, logged, successes⟩ | ⟨-, faces, _, -, -, -, logged, successes⟩
  · exact ⟨by simp [logged, successes], by simp [logged, criticals], by simp [logged]⟩
  · refine ⟨?_, ?_, by simp [logged]⟩
    · rw [successes, logged, List.countP_map, Int.zero_add]
      rfl
    · rw [criticals, logged, List.countP_map]
      simp [Function.comp_def]

end Skirmish
