import Skirmish.Proofs.Dice.Drawn

/-!
# What the phases of a volley do

One lemma for each phase says all that a run of the phase amounts to: the rolls it
made, in a run of their own, and how its numbers and its log follow from them.  What a
phase does after its rolls concerns the trace only.  Proofs about volleys cite these
lemmas and do not open the phases.
-/

namespace Skirmish

variable {σ : Type} [DiceSource σ] {start final : Table σ}

/-- The attacks are those of every model, and a bonus, but never below none. -/
theorem returns_countAttacks {attacks : String} {models modifier rapidFire blast : Int}
    {outcome : Int × PhaseLog}
    (returns : Returns (countAttacks attacks models modifier rapidFire blast) start outcome
      final) :
    ∃ bases middle,
      Returns (Roll.times models.toNat (rollTextOr attacks 0 "attacks")) start bases middle ∧
      middle.Retraced final ∧
      outcome.1 = max 0 (sumOf (bases.map fun base => max 0 (base + modifier + rapidFire)) +
        if 0 < models then blast else 0) ∧
      outcome.2.successes = outcome.1 := by
  simp only [countAttacks, returns_bind_iff, Roll.returns_writable_iff,
    Roll.returns_note_iff, returns_pure_iff] at returns
  obtain ⟨bases, middle, rolled, _, _, ⟨_, rfl⟩, _, _, rfl, rfl, rfl⟩ := returns
  exact ⟨bases, _, rolled, ⟨_, rfl⟩, rfl, rfl⟩

/-- The numbers of an outcome as the hit rolls are counted. -/
def HitOutcome.tally (outcome : HitOutcome) : HitTally where
  hits := outcome.hits
  autoWounds := outcome.autoWounds
  successes := outcome.log.successes
  criticals := outcome.log.criticals

/-- The numbers of an outcome as the wound rolls are counted.  The log counts the
automatic wounds as successes besides. -/
def WoundOutcome.tally (outcome : WoundOutcome) (autoWounds : Int) : WoundTally where
  wounds := outcome.wounds
  bypassing := outcome.bypassing
  successes := outcome.log.successes - autoWounds
  criticals := outcome.log.criticals

/-- Torrent weapons hit without rolls.  All others roll once for every attack, and the
numbers are counted from the records. -/
theorem returns_rollHits {attacks threshold critical sustained : Int} {reroll : Reroll}
    {torrent lethal : Bool} {outcome : HitOutcome}
    (returns : Returns (rollHits attacks threshold critical reroll torrent sustained lethal)
      start outcome final) :
    (torrent = true ∧ start.Retraced final ∧ outcome.log.rolls = [] ∧
      outcome.tally = { hits := attacks, successes := attacks }) ∨
    (torrent = false ∧ ∃ records middle,
      Returns (Roll.times attacks.toNat (rollPass threshold critical reroll)) start records
        middle ∧
      middle.Retraced final ∧ outcome.log.rolls = records ∧
      outcome.tally =
        records.foldl (HitTally.count (passes threshold critical) sustained lethal) {}) := by
  cases torrent with
  | true =>
      simp only [rollHits, if_true, returns_bind_iff, Roll.returns_writable_iff,
        Roll.returns_note_iff, returns_pure_iff] at returns
      obtain ⟨_, _, ⟨_, rfl⟩, _, _, rfl, rfl, rfl⟩ := returns
      exact .inl ⟨rfl, ⟨_, rfl⟩, rfl, rfl⟩
  | false =>
      simp only [rollHits, Bool.false_eq_true, if_false, returns_bind_iff,
        Roll.returns_writable_iff, Roll.returns_note_iff, returns_pure_iff] at returns
      obtain ⟨records, middle, rolled, _, _, ⟨_, rfl⟩, _, _, rfl, rfl, rfl⟩ := returns
      exact .inr ⟨rfl, records, _, rolled, ⟨_, rfl⟩, rfl, rfl⟩

/-- Every hit that did not wound at once is rolled for, and the numbers are counted from
the records. -/
theorem returns_rollWounds {hits autoWounds threshold critical : Int} {reroll : Reroll}
    {devastating : Bool} {outcome : WoundOutcome}
    (returns : Returns (rollWounds hits autoWounds threshold critical reroll devastating)
      start outcome final) :
    ∃ records middle,
      Returns (Roll.times hits.toNat (rollPass threshold critical reroll)) start records
        middle ∧
      middle.Retraced final ∧ outcome.log.rolls = records ∧
      outcome.tally autoWounds =
        records.foldl (WoundTally.count (passes threshold critical) devastating)
          { wounds := autoWounds } := by
  simp only [rollWounds, returns_bind_iff, Roll.returns_writable_iff, Roll.returns_note_iff,
    returns_pure_iff] at returns
  obtain ⟨records, middle, rolled, _, _, ⟨_, rfl⟩, _, _, rfl, rfl, rfl⟩ := returns
  exact ⟨records, _, rolled, ⟨_, rfl⟩, rfl, by simp [WoundOutcome.tally]⟩

/-- A save that is out of reach is not rolled for; every other one is rolled once for
every wound. -/
theorem returns_rollSaves {wounds threshold : Int} {invulnerable : Bool}
    {outcome : Int × PhaseLog}
    (returns : Returns (rollSaves wounds threshold invulnerable) start outcome final) :
    (impossible ≤ threshold ∧ start.Retraced final ∧ outcome.1 = wounds ∧
      outcome.2.rolls = [] ∧ outcome.2.successes = 0) ∨
    (threshold < impossible ∧ ∃ (faces : List Nat) (middle : Table σ),
      Returns (Roll.times wounds.toNat Roll.d6) start faces middle ∧
      middle.Retraced final ∧
      outcome.1 = faces.countP (fun (face : Nat) => !saves threshold face) ∧
      outcome.2.rolls = faces.map (fun (face : Nat) => { value := face }) ∧
      outcome.2.successes = faces.countP (fun (face : Nat) => saves threshold face)) := by
  by_cases reachable : impossible ≤ threshold
  · simp only [rollSaves, reachable, if_true, returns_bind_iff, Roll.returns_writable_iff,
      Roll.returns_note_iff, returns_pure_iff] at returns
    obtain ⟨_, _, ⟨_, rfl⟩, _, _, rfl, rfl, rfl⟩ := returns
    exact .inl ⟨reachable, ⟨_, rfl⟩, rfl, rfl, rfl⟩
  · simp only [rollSaves, reachable, if_false, returns_bind_iff, Roll.returns_writable_iff,
      Roll.returns_note_iff, returns_pure_iff] at returns
    obtain ⟨faces, middle, rolled, _, _, ⟨_, rfl⟩, _, _, rfl, rfl, rfl⟩ := returns
    exact .inr ⟨by omega, faces, _, rolled, ⟨_, rfl⟩, rfl, rfl, rfl⟩

/-- Damage is rolled once for every instance, and each instance does its modified
damage, but never less than one point.  The mean of the expression is known when the
expression has dice. -/
theorem returns_rollDamage {instances modifier melta : Int} {damage : String}
    {reroll : Reroll} {outcome : List Int × PhaseLog}
    (returns : Returns (rollDamage instances damage modifier melta reroll) start outcome
      final) :
    ∃ mean records middle,
      mean.isSome = (mentionsDice damage && isDiceText damage) ∧
      (∀ known ∈ mean, meanOfText damage = .ok known) ∧
      Returns (Roll.times instances.toNat (rollDamageOnce damage mean reroll)) start records
        middle ∧
      middle.Retraced final ∧
      outcome.1 = records.map (fun record => max 1 (record.value + modifier + melta)) ∧
      outcome.2.rolls = records ∧ outcome.2.successes = sumOf outcome.1 := by
  unfold rollDamage at returns
  split at returns
  · rename_i dice
    simp only [returns_bind_iff, returns_map_iff, returns_lift_iff, Roll.returns_writable_iff,
      Roll.returns_note_iff, returns_pure_iff] at returns
    obtain ⟨_, _, ⟨mean, ⟨known, rfl⟩, rfl⟩, records, middle, rolled, _, _, ⟨_, rfl⟩, _, _, rfl,
      rfl, rfl⟩ := returns
    exact ⟨some mean, records, _, by simp [dice], by simpa using known, rolled, ⟨_, rfl⟩, rfl,
      rfl, rfl⟩
  · rename_i fixed
    simp only [returns_bind_iff, Roll.returns_writable_iff, Roll.returns_note_iff,
      returns_pure_iff] at returns
    obtain ⟨_, _, ⟨rfl, rfl⟩, records, middle, rolled, _, _, ⟨_, rfl⟩, _, _, rfl, rfl, rfl⟩ :=
      returns
    exact ⟨none, records, _, by simpa using fixed, by simp, rolled, ⟨_, rfl⟩, rfl, rfl, rfl⟩

/-- The faces among those rolled for an instance of damage that negate a point. -/
def negatedPoints (needed : Int) (faces : List Nat) : Int :=
  faces.countP fun (face : Nat) => needed ≤ (face : Int)

/-- Without a threshold in reach nothing is rolled and all damage is left.  Otherwise a
die is rolled for every point of every instance, and the negated points are taken off. -/
theorem returns_rollFeelNoPain {damages : List Int} {threshold : Option Int}
    {outcome : List Int × PhaseLog}
    (returns : Returns (rollFeelNoPain damages threshold : Roll σ (List Int × PhaseLog)) start
      outcome final) :
    ((∀ needed ∈ threshold, 6 < needed) ∧ final = start ∧ outcome.1 = damages ∧
      outcome.2.rolls = [] ∧ outcome.2.successes = 0) ∨
    (∃ (needed : Int) (rolled : List (List Nat)) (middle : Table σ),
      threshold = some needed ∧ needed ≤ 6 ∧
      Returns (damages.mapM fun damage => Roll.times damage.toNat Roll.d6) start rolled
        middle ∧
      middle.Retraced final ∧
      outcome.1 = damages.zipWith (fun damage faces => damage - negatedPoints needed faces)
        rolled ∧
      outcome.2.rolls = rolled.flatten.map (fun (face : Nat) => { value := face }) ∧
      outcome.2.successes = sumOf (rolled.map (negatedPoints needed))) := by
  cases threshold with
  | none =>
      obtain ⟨rfl, rfl⟩ := returns_pure_iff.mp returns
      exact .inl ⟨by simp, rfl, rfl, rfl, rfl⟩
  | some needed =>
      by_cases outOfReach : 6 < needed
      · simp only [rollFeelNoPain, outOfReach, if_true, returns_pure_iff] at returns
        obtain ⟨rfl, rfl⟩ := returns
        exact .inl ⟨by simpa using outOfReach, rfl, rfl, rfl, rfl⟩
      · simp only [rollFeelNoPain, outOfReach, if_false, returns_bind_iff,
          Roll.returns_writable_iff, Roll.returns_note_iff, returns_pure_iff] at returns
        obtain ⟨rolled, middle, ran, _, _, ⟨_, rfl⟩, _, _, rfl, rfl, rfl⟩ := returns
        exact .inr ⟨needed, rolled, _, rfl, by omega, ran, ⟨_, rfl⟩, rfl, rfl, rfl⟩

end Skirmish
