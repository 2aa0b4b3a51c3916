import Skirmish.Proofs.Dice.Rollable
import Skirmish.Proofs.Volley.Ranges
import Skirmish.Proofs.Volley.Tallies

/-!
# Hits and wounds die by die

The rolls to hit and to wound leave one record for every die.  The record tells on its own
whether the die was rolled again, whether it succeeded and whether that was critical, and
all numbers of the phase follow from the counts of successes and critical successes.

With dice that never run out there is only one thing that can stop such a phase: a number
that its notes write may have more digits than a numeral may have.
-/

namespace Skirmish

/-! ## Laws of a die -/

/-- A value succeeds when it is not a one and reaches either threshold. -/
def Succeeds (threshold critical value : Int) : Prop :=
  value ≠ 1 ∧ (threshold ≤ value ∨ critical ≤ value)

instance (threshold critical value : Int) : Decidable (Succeeds threshold critical value) :=
  inferInstanceAs (Decidable (_ ∧ _))

theorem passes_eq_true_iff {threshold critical value : Int} :
    passes threshold critical value = true ↔ Succeeds threshold critical value := by
  simp only [passes, Succeeds, Bool.and_eq_true, Bool.or_eq_true, bne_iff_ne,
    decide_eq_true_eq]
  tauto

theorem countP_passes (threshold critical : Int) (records : List RollRecord) :
    records.countP (fun record => passes threshold critical record.value) =
      records.countP fun record => decide (Succeeds threshold critical record.value) :=
  List.countP_congr fun record _ => by rw [passes_eq_true_iff, decide_eq_true_iff]

/-- The first value of a die qualifies to be rolled again. -/
def Reroll.Qualifies (threshold critical first : Int) : Reroll → Prop
  | .granted .all => True
  | .granted .failed => ¬ Succeeds threshold critical first
  | .granted .ones => first = 1
  | .none | .other _ => False

theorem Reroll.covers_eq_true_iff {threshold critical first : Int} {reroll : Reroll} :
    reroll.covers first (passes threshold critical first) = true ↔
      reroll.Qualifies threshold critical first := by
  unfold covers Qualifies
  split
  · exact iff_of_true rfl trivial
  · rw [Bool.not_eq_true', ← Bool.not_eq_true, passes_eq_true_iff]
  · exact beq_iff_eq
  · exact iff_of_false Bool.false_ne_true id
  · exact iff_of_false Bool.false_ne_true id

/-- The value that the die of a record showed first. -/
def RollRecord.first (record : RollRecord) : Int :=
  record.replaced.getD record.value

/-- The record follows the laws of a die: it is rolled again when its first value qualifies,
and it is critical when its final value succeeds and reaches the critical threshold. -/
structure RollRecord.Lawful (threshold critical : Int) (reroll : Reroll)
    (record : RollRecord) : Prop where
  first_range : 1 ≤ record.first ∧ record.first ≤ 6
  value_range : 1 ≤ record.value ∧ record.value ≤ 6
  rerolled_iff : record.replaced.isSome = true ↔ reroll.Qualifies threshold critical record.first
  critical_iff : record.critical = true ↔
    Succeeds threshold critical record.value ∧ critical ≤ record.value

variable {σ : Type} [DiceSource σ] {start middle final : Table σ}

theorem Roll.d6_range {face : Nat} (returns : Returns d6 start face final) :
    1 ≤ (face : Int) ∧ (face : Int) ≤ 6 := by
  obtain ⟨dice, drawn, -⟩ := returns_die_iff.mp returns
  have range := DiceSource.draw_range (by decide) drawn
  omega

/-- A die is rolled again exactly when its first value qualifies. -/
theorem lawful_of_returns_rollPass {threshold critical : Int} {reroll : Reroll}
    {record : RollRecord}
    (returns : Returns (rollPass threshold critical reroll) start record final) :
    record.Lawful threshold critical reroll := by
  have marked : record.critical = true ↔
      Succeeds threshold critical record.value ∧ critical ≤ record.value := by
    rw [critical_of_returns_rollPass returns, Bool.and_eq_true, passes_eq_true_iff,
      decide_eq_true_eq, and_comm]
  simp only [rollPass, rollTest, returns_bind_iff, returns_pure_iff] at returns
  obtain ⟨tested, _, ⟨_, _, ⟨face, _, ranFace, rfl, rfl⟩, returns⟩, rfl, rfl⟩ := returns
  have faceRange := Roll.d6_range ranFace
  split at returns
  · rename_i covered
    simp only [returns_bind_iff, returns_pure_iff] at returns
    obtain ⟨_, _, ⟨again, _, ranAgain, rfl, rfl⟩, rfl, rfl⟩ := returns
    exact ⟨faceRange, Roll.d6_range ranAgain,
      iff_of_true rfl (Reroll.covers_eq_true_iff.mp covered), marked⟩
  · rename_i kept
    obtain ⟨rfl, rfl⟩ := returns_pure_iff.mp returns
    exact ⟨faceRange, faceRange,
      iff_of_false Bool.false_ne_true fun qualifies =>
        kept (Reroll.covers_eq_true_iff.mpr qualifies), marked⟩

/-! ## Laws of a log -/

/-- The log has a lawful record for each of the given number of dice, and the dice that it
shows are all that were rolled. -/
structure PhaseLog.Lawful (log : PhaseLog) (dice : Nat) (threshold critical : Int)
    (reroll : Reroll) (start final : Table σ) : Prop where
  length : log.rolls.length = dice
  records : ∀ record ∈ log.rolls, record.Lawful threshold critical reroll
  faces : final.faces = start.faces ++ log.faces

theorem PhaseLog.Lawful.of_returns_times {log : PhaseLog} {dice : Nat}
    {threshold critical : Int} {reroll : Reroll}
    (rolled : Returns (Roll.times dice (rollPass threshold critical reroll)) start log.rolls
      middle) (retraced : middle.Retraced final) :
    log.Lawful dice threshold critical reroll start final where
  length := Roll.length_times rolled
  records := Roll.forall_mem_times lawful_of_returns_rollPass rolled
  faces := retraced.faces_eq.trans (Roll.faces_times faces_rollPass rolled)

/-- The number of records whose final value succeeds. -/
def PhaseLog.passed (log : PhaseLog) (threshold critical : Int) : Int :=
  log.rolls.countP fun record => decide (Succeeds threshold critical record.value)

theorem PhaseLog.Counts.successes_eq {log : PhaseLog} {threshold critical automatic : Int}
    (counts : log.Counts (passes threshold critical) automatic) :
    log.successes = automatic + log.passed threshold critical := by
  rw [counts.successes, PhaseLog.passed, countP_passes]

/-! ## Hits -/

/-- The outcome of the hit rolls, in terms of its records. -/
structure HitOutcome.Exact (outcome : HitOutcome) (threshold critical sustained : Int)
    (lethal : Bool) : Prop where
  successes : outcome.log.successes = outcome.log.passed threshold critical
  criticals : outcome.log.criticals = outcome.log.rolls.countP (·.critical)
  autoWounds : outcome.autoWounds = if lethal then outcome.log.criticals else 0
  hits : outcome.hits =
    outcome.log.successes - outcome.autoWounds + sustained * outcome.log.criticals

theorem exact_rollHits {attacks threshold critical sustained : Int} {reroll : Reroll}
    {lethal : Bool} {outcome : HitOutcome} (nonneg : 0 ≤ sustained)
    (returns : Returns (rollHits attacks threshold critical reroll false sustained lethal)
      start outcome final) :
    outcome.log.Lawful attacks.toNat threshold critical reroll start final ∧
      outcome.Exact threshold critical sustained lethal := by
  have counts := counts_rollHits returns
  obtain ⟨torrent, -⟩ | ⟨-, records, middle, rolled, retraced, rfl, tallied⟩ :=
    returns_rollHits returns
  · cases torrent
  · have empty : HitTally.Sound sustained lethal {} :=
      ⟨by simp, by simp, le_refl _, le_refl _⟩
    have sound := empty.foldl nonneg (passes threshold critical) outcome.log.rolls
    rw [← tallied] at sound
    obtain ⟨split, autoWounds, -, -⟩ := sound
    simp only [HitOutcome.tally] at split autoWounds
    refine ⟨.of_returns_times rolled retraced, ?_, counts.criticals, autoWounds, by omega⟩
    simpa using counts.successes_eq

/-! ## Wounds -/

theorem WoundTally.foldl_bypassing (success : Int → Bool) {devastating : Bool}
    (records : List RollRecord) {tally : WoundTally}
    (bypassing : tally.bypassing = if devastating then tally.criticals else 0) :
    (records.foldl (count success devastating) tally).bypassing =
      if devastating then (records.foldl (count success devastating) tally).criticals
      else 0 := by
  induction records generalizing tally with
  | nil => exact bypassing
  | cons record records ih =>
      refine ih ?_
      unfold count
      split_ifs at bypassing ⊢ <;> first | exact bypassing | (dsimp only; omega)

/-- The outcome of the wound rolls, in terms of its records and of the wounds before them. -/
structure WoundOutcome.Exact (outcome : WoundOutcome) (threshold critical autoWounds : Int)
    (devastating : Bool) : Prop where
  successes : outcome.log.successes = autoWounds + outcome.log.passed threshold critical
  criticals : outcome.log.criticals = outcome.log.rolls.countP (·.critical)
  bypassing : outcome.bypassing = if devastating then outcome.log.criticals else 0
  wounds : outcome.wounds =
    autoWounds + outcome.log.passed threshold critical - outcome.bypassing

theorem WoundTally.foldl_split (success : Int → Bool) (devastating : Bool)
    (records : List RollRecord) (tally : WoundTally) :
    (records.foldl (count success devastating) tally).wounds +
        (records.foldl (count success devastating) tally).bypassing -
        (records.foldl (count success devastating) tally).successes =
      tally.wounds + tally.bypassing - tally.successes := by
  induction records generalizing tally with
  | nil => rfl
  | cons record records ih =>
      rw [List.foldl_cons, ih]
      unfold count
      split_ifs <;> dsimp only <;> omega

theorem exact_rollWounds {hits autoWounds threshold critical : Int} {reroll : Reroll}
    {devastating : Bool} {outcome : WoundOutcome}
    (returns : Returns (rollWounds hits autoWounds threshold critical reroll devastating)
      start outcome final) :
    outcome.log.Lawful hits.toNat threshold critical reroll start final ∧
      outcome.Exact threshold critical autoWounds devastating := by
  have counts := counts_rollWounds returns
  obtain ⟨records, middle, rolled, retraced, rfl, tallied⟩ := returns_rollWounds returns
  have start : ({ wounds := autoWounds } : WoundTally).bypassing =
      if devastating then ({ wounds := autoWounds } : WoundTally).criticals else 0 := by
    simp
  have bypassing := WoundTally.foldl_bypassing (passes threshold critical) outcome.log.rolls start
  have split := WoundTally.foldl_split (passes threshold critical) devastating outcome.log.rolls
    { wounds := autoWounds }
  rw [← tallied] at bypassing split
  simp only [WoundOutcome.tally] at bypassing split
  have successes := counts.successes_eq
  exact ⟨.of_returns_times rolled retraced, successes, counts.criticals, bypassing, by omega⟩

/-! ## Completion -/

omit [DiceSource σ] in
/-- A phase whose rolls are made completes when its numbers can be written. -/
theorem completes_of_rolled_iff {α : Type} {rolls : Roll σ (List RollRecord)}
    {numbers : List RollRecord → List Int} {rest : List RollRecord → Roll σ α}
    {records : List RollRecord} (rolled : Returns rolls start records middle)
    (completes : Completes (rest records) middle) :
    Completes (do
      let records ← rolls
      Roll.writable (numbers records)
      rest records) start ↔
      ∀ number ∈ numbers records, number.natAbs < Text.numeralBound := by
  rw [← writable_eq_ok_iff, completes_bind_iff]
  constructor
  · rintro ⟨_, _, again, completed⟩
    obtain ⟨rfl, rfl⟩ := rolled.unique again
    obtain ⟨_, _, written, -⟩ := completes_bind_iff.mp completed
    exact (Roll.returns_writable_iff.mp written).1
  · intro written
    exact ⟨records, middle, rolled, completes_bind_iff.mpr
      ⟨(), middle, Roll.returns_writable_iff.mpr ⟨written, rfl⟩, completes⟩⟩

omit [DiceSource σ] in
theorem Roll.completes_noted {α : Type} (tag message : String) (value : α) :
    Completes (do note tag message; return value : Roll σ α) start :=
  completes_bind_iff.mpr ⟨(), _, returns_note_iff.mpr rfl, completes_pure value⟩

theorem Roll.completes_d6 (unending : DiceSource.Unending σ) (start : Table σ) :
    Completes d6 start := by
  obtain ⟨⟨face, dice⟩, drawn⟩ := Option.isSome_iff_exists.mp
    (unending 6 start.dice (by decide))
  exact ⟨face, _, returns_die_iff.mpr ⟨dice, drawn, rfl⟩⟩

theorem completes_rollPass (unending : DiceSource.Unending σ) (threshold critical : Int)
    (reroll : Reroll) (start : Table σ) :
    Completes (rollPass threshold critical reroll) start := by
  unfold rollPass rollTest
  obtain ⟨face, middle, ranFace⟩ := Roll.completes_d6 unending start
  refine completes_bind_iff_forall.mpr ⟨?_, fun _ _ _ => completes_pure _⟩
  refine completes_bind_iff.mpr ⟨(face : Int), middle, ?_, ?_⟩
  · exact returns_bind_iff.mpr ⟨face, middle, ranFace, returns_pure_iff.mpr ⟨rfl, rfl⟩⟩
  split
  · obtain ⟨again, last, ranAgain⟩ := Roll.completes_d6 unending middle
    refine completes_bind_iff.mpr ⟨(again : Int), last, ?_, completes_pure _⟩
    exact returns_bind_iff.mpr ⟨again, last, ranAgain, returns_pure_iff.mpr ⟨rfl, rfl⟩⟩
  · exact completes_pure _

omit [DiceSource σ] in
theorem Roll.completes_times {α : Type} {action : Roll σ α}
    (completes : ∀ start, Completes action start) (count : Nat) (start : Table σ) :
    Completes (times count action) start := by
  induction count generalizing start with
  | zero => exact completes_pure []
  | succ count ih =>
      unfold times
      refine completes_bind_iff_forall.mpr ⟨completes start, fun _ middle _ => ?_⟩
      exact completes_bind_iff_forall.mpr ⟨ih middle, fun _ _ _ => completes_pure _⟩

theorem passes_of_critical {threshold critical : Int} {reroll : Reroll} {dice : Nat}
    {records : List RollRecord}
    (rolled : Returns (Roll.times dice (rollPass threshold critical reroll)) start records
      middle) :
    ∀ record ∈ records, record.critical = true → passes threshold critical record.value = true :=
  fun record member isCritical =>
    have lawful := Roll.forall_mem_times lawful_of_returns_rollPass rolled record member
    passes_eq_true_iff.mpr (lawful.critical_iff.mp isCritical).1

/-- Rolls to hit that were made are followed by notes, which write the number of attacks, both
thresholds and the further hits. -/
theorem completes_rollHits_iff {attacks threshold critical sustained : Int} {reroll : Reroll}
    {lethal : Bool} {records : List RollRecord}
    (rolled : Returns (Roll.times attacks.toNat (rollPass threshold critical reroll)) start
      records middle) :
    Completes (rollHits attacks threshold critical reroll false sustained lethal) start ↔
      ∀ number ∈ [attacks, threshold, critical, sustained * records.countP (·.critical)],
        number.natAbs < Text.numeralBound := by
  have criticals := (@HitTally.foldl_count _ sustained lethal _ {}
    (passes_of_critical rolled)).2
  rw [Int.zero_add] at criticals
  rw [← criticals]
  exact completes_of_rolled_iff rolled (Roll.completes_noted _ _ _)

/-- Rolls to wound that were made are followed by notes, which write the numbers of hits and of
automatic wounds, both thresholds and the number of successes. -/
theorem completes_rollWounds_iff {hits autoWounds threshold critical : Int} {reroll : Reroll}
    {devastating : Bool} {records : List RollRecord}
    (rolled : Returns (Roll.times hits.toNat (rollPass threshold critical reroll)) start
      records middle) :
    Completes (rollWounds hits autoWounds threshold critical reroll devastating) start ↔
      ∀ number ∈ [hits, autoWounds, threshold, critical, autoWounds + records.countP
          fun record => decide (Succeeds threshold critical record.value)],
        number.natAbs < Text.numeralBound := by
  have successes := (@WoundTally.foldl_count _ devastating _ { wounds := autoWounds }
    (passes_of_critical rolled)).1
  rw [Int.zero_add, countP_passes] at successes
  rw [← successes, Int.add_comm autoWounds]
  exact completes_of_rolled_iff rolled (Roll.completes_noted _ _ _)

/-! ## Exactness -/

/-- The rolls to hit without Torrent and the rolls to wound are exact for each die: whatever
they return has one lawful record for every die and follows from the records.  With dice that
never run out they return exactly when the numbers that their notes write have as many digits
as a numeral may have. -/
theorem rollHits_and_rollWounds_exact (threshold critical : Int) (reroll : Reroll)
    (start : Table σ) :
    (∀ (attacks sustained : Int) (lethal : Bool), 0 ≤ sustained →
      (∀ outcome final,
        Returns (rollHits attacks threshold critical reroll false sustained lethal) start outcome
          final →
        outcome.log.Lawful attacks.toNat threshold critical reroll start final ∧
          outcome.Exact threshold critical sustained lethal) ∧
      (DiceSource.Unending σ → ∃ records middle,
        Returns (Roll.times attacks.toNat (rollPass threshold critical reroll)) start records
          middle ∧
        (Completes (rollHits attacks threshold critical reroll false sustained lethal) start ↔
          ∀ number ∈ [attacks, threshold, critical, sustained * records.countP (·.critical)],
            number.natAbs < Text.numeralBound))) ∧
    (∀ (hits autoWounds : Int) (devastating : Bool),
      (∀ outcome final,
        Returns (rollWounds hits autoWounds threshold critical reroll devastating) start outcome
          final →
        outcome.log.Lawful hits.toNat threshold critical reroll start final ∧
          outcome.Exact threshold critical autoWounds devastating) ∧
      (DiceSource.Unending σ → ∃ records middle,
        Returns (Roll.times hits.toNat (rollPass threshold critical reroll)) start records
          middle ∧
        (Completes (rollWounds hits autoWounds threshold critical reroll devastating) start ↔
          ∀ number ∈ [hits, autoWounds, threshold, critical, autoWounds + records.countP
              fun record => decide (Succeeds threshold critical record.value)],
            number.natAbs < Text.numeralBound))) := by
  have rolls : DiceSource.Unending σ → ∀ dice : Nat, ∃ records middle,
      Returns (Roll.times dice (rollPass threshold critical reroll)) start records middle :=
    fun unending dice =>
      Roll.completes_times (completes_rollPass unending threshold critical reroll) dice start
  refine ⟨fun attacks sustained lethal nonneg => ⟨fun _ _ => exact_rollHits nonneg, ?_⟩,
    fun hits autoWounds devastating => ⟨fun _ _ => exact_rollWounds, ?_⟩⟩
  · intro unending
    obtain ⟨records, middle, rolled⟩ := rolls unending attacks.toNat
    exact ⟨records, middle, rolled, completes_rollHits_iff rolled⟩
  · intro unending
    obtain ⟨records, middle, rolled⟩ := rolls unending hits.toNat
    exact ⟨records, middle, rolled, completes_rollWounds_iff rolled⟩

/-- A six is critical, a one is rolled again and fails all the same, and a five succeeds; then
a two is rolled again into a critical wound, and a four wounds. -/
theorem fewDice_exact :
    ∃ hit middle wound final,
      Returns (rollHits 3 4 6 (.granted .ones) false 2 false)
        ({ dice := ⟨[6, 1, 3, 5, 2, 6, 4]⟩ } : Table Faces) hit middle ∧
      hit.hits = 4 ∧ hit.Exact 4 6 2 false ∧
      hit.log.Lawful 3 4 6 (.granted .ones)
        ({ dice := ⟨[6, 1, 3, 5, 2, 6, 4]⟩ } : Table Faces) middle ∧
      Returns (rollWounds 2 1 4 6 (.granted .failed) true)
        ({ dice := ⟨[2, 6, 4]⟩ } : Table Faces) wound final ∧
      (wound.wounds, wound.bypassing, wound.log.successes) = (2, 1, 3) ∧
      wound.Exact 4 6 1 true ∧
      wound.log.Lawful 2 4 6 (.granted .failed) ({ dice := ⟨[2, 6, 4]⟩ } : Table Faces)
        final := by
  have ranHits : (outcomeOf (rollHits 3 4 6 (.granted .ones) false 2 false)
      ({ dice := ⟨[6, 1, 3, 5, 2, 6, 4]⟩ } : Table Faces)).1.toOption.map (·.hits) =
      some 4 := by
    decide +kernel
  have ranWounds : (outcomeOf (rollWounds 2 1 4 6 (.granted .failed) true)
      ({ dice := ⟨[2, 6, 4]⟩ } : Table Faces)).1.toOption.map
      (fun wound => (wound.wounds, wound.bypassing, wound.log.successes)) =
      some (2, 1, 3) := by
    decide +kernel
  obtain ⟨hit, middle, returnsHit, hits⟩ := exists_returns_of_shown ranHits
  obtain ⟨wound, final, returnsWound, wounds⟩ := exists_returns_of_shown ranWounds
  have exactHit := ((rollHits_and_rollWounds_exact 4 6 (.granted .ones) _).1 3 2 false
    (by decide)).1 hit middle returnsHit
  have exactWound := ((rollHits_and_rollWounds_exact 4 6 (.granted .failed) _).2 2 1 true).1
    wound final returnsWound
  exact ⟨hit, middle, wound, final, returnsHit, hits, exactHit.2, exactHit.1, returnsWound,
    wounds, exactWound.2, exactWound.1⟩

/-- Two critical hits that score the largest number of further hits that can be written do not
return: together these have a digit too many. -/
theorem sustainedHits_oversized :
    0 ≤ ((Text.numeralBound - 1 : Nat) : Int) ∧
      ¬ Completes (rollHits 2 4 6 .none false ((Text.numeralBound - 1 : Nat) : Int) false)
        ({ dice := { faces := #[6] } } : Table Script) := by
  refine ⟨Int.natCast_nonneg _, fun completes => ?_⟩
  have ran : (outcomeOf (Roll.times (2 : Int).toNat (rollPass 4 6 .none))
      ({ dice := { faces := #[6] } } : Table Script)).1.toOption.map
      (·.countP (·.critical)) = some 2 := by
    decide +kernel
  obtain ⟨records, middle, rolled, criticals⟩ := exists_returns_of_shown ran
  have further := List.mem_singleton_self
    (((Text.numeralBound - 1 : Nat) : Int) * records.countP (·.critical))
  have small := (completes_rollHits_iff rolled).mp completes _
    (List.mem_cons_of_mem _ (List.mem_cons_of_mem _ (List.mem_cons_of_mem _ further)))
  rw [criticals, ← Int.natCast_mul, Int.natAbs_natCast] at small
  exact absurd small (by decide +kernel)

end Skirmish
