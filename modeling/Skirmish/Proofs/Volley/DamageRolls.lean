import Skirmish.Proofs.Dice.Grammar
import Skirmish.Proofs.Volley.EachDie

/-!
# Damage record by record

Damage is evaluated once for every instance, and a second time when the first value may be
rolled again.  That is decided before any modifier is added: ones are rolled again when only
ones may be, and else all values below the mean of the expression.  The second value is final.
Expressions without dice, and texts that are no expressions, are never evaluated again.
-/

namespace Skirmish

/-- The text is a dice expression with dice among its terms. -/
def HasDiceTerm (text : String) : Prop :=
  ∃ terms, Spells text.toList terms ∧ ∃ signed ∈ terms, signed.term.isDice = true

theorem hasDiceTerm_iff {text : String} :
    HasDiceTerm text ↔ (mentionsDice text && isDiceText text) = true := by
  rw [HasDiceTerm, Bool.and_eq_true]
  constructor
  · rintro ⟨terms, spells, dice⟩
    obtain ⟨expression, read, rfl⟩ := exists_read?_iff.mpr spells
    exact ⟨(DiceExpression.mentionsDice_iff read).mpr dice,
      isDiceText_eq_true_iff.mpr ⟨_, spells⟩⟩
  · rintro ⟨mentioned, accepted⟩
    obtain ⟨terms, spells⟩ := isDiceText_eq_true_iff.mp accepted
    obtain ⟨expression, read, rfl⟩ := exists_read?_iff.mpr spells
    exact ⟨_, spells, (DiceExpression.mentionsDice_iff read).mp mentioned⟩

/-- The first value of an expression with dice is rolled again. -/
def Reroll.Improves (damage : String) (first : Int) : Reroll → Prop
  | .none => False
  | .granted .ones => first = 1
  | .granted .failed | .granted .all | .other _ =>
    ∃ mean, meanOfText damage = .ok mean ∧ Number.lt (.int first) (.float mean) = true

variable {σ : Type} [DiceSource σ]

/-- The evaluations of a damage expression behind a row of records.  Each record stands for
one evaluation, or for two of them, and then the value of the second one counts. -/
inductive DamageEvaluated (damage : String) : Table σ → List RollRecord → Table σ → Prop
  | nothing {table : Table σ} : DamageEvaluated damage table [] table
  | once {start middle final : Table σ} {value : Int} {records : List RollRecord}
      (evaluated : Returns (rollTextOr damage 1 "damage") start value middle)
      (others : DamageEvaluated damage middle records final) :
      DamageEvaluated damage start ({ value } :: records) final
  | twice {start middle further final : Table σ} {first second : Int}
      {records : List RollRecord}
      (evaluated : Returns (rollTextOr damage 1 "damage") start first middle)
      (again : Returns (rollTextOr damage 1 "damage") middle second further)
      (others : DamageEvaluated damage further records final) :
      DamageEvaluated damage start ({ value := second, replaced := some first } :: records) final

/-- What the damage of some unsaved wounds amounts to, in terms of its records. -/
structure DamageRolled (instances modifier melta : Int) (damage : String) (reroll : Reroll)
    (start : Table σ) (outcome : List Int × PhaseLog) (final : Table σ) : Prop where
  records : outcome.2.rolls.length = instances.toNat
  damages : outcome.1 = outcome.2.rolls.map fun record => max 1 (record.value + modifier + melta)
  successes : outcome.2.successes = sumOf outcome.1
  rerolled_iff : ∀ record ∈ outcome.2.rolls,
    record.replaced.isSome = true ↔ HasDiceTerm damage ∧ reroll.Improves damage record.first
  evaluated : ∃ middle, DamageEvaluated damage start outcome.2.rolls middle ∧
    middle.Retraced final

/-! ## One record -/

variable {start final : Table σ} {damage : String} {reroll : Reroll} {mean : Option Binary64}

theorem rerollsDamage_iff {known : Binary64} (found : meanOfText damage = .ok known)
    (first : Int) : rerollsDamage reroll known first = true ↔ reroll.Improves damage first := by
  have below : (∃ mean, meanOfText damage = .ok mean ∧
      Number.lt (.int first) (.float mean) = true) ↔
        Number.lt (.int first) (.float known) = true := by
    constructor
    · rintro ⟨mean, again, less⟩
      rwa [ok_unique found again]
    · exact fun less => ⟨known, found, less⟩
  cases reroll with
  | none => exact iff_of_false Bool.false_ne_true id
  | other word => exact below.symm
  | granted kind =>
      cases kind with
      | ones => exact beq_iff_eq
      | failed => exact below.symm
      | all => exact below.symm

/-- Damage is evaluated once, or twice when there is a mean and the first value may be rolled
again. -/
theorem returns_rollDamageOnce {record : RollRecord}
    (returns : Returns (rollDamageOnce damage mean reroll) start record final) :
    (∃ value, Returns (rollTextOr damage 1 "damage") start value final ∧ record = { value } ∧
      ∀ known ∈ mean, rerollsDamage reroll known value = false) ∨
    (∃ first middle second, Returns (rollTextOr damage 1 "damage") start first middle ∧
      Returns (rollTextOr damage 1 "damage") middle second final ∧
      record = { value := second, replaced := some first } ∧
      ∃ known ∈ mean, rerollsDamage reroll known first = true) := by
  rw [rollDamageOnce, returns_bind_iff] at returns
  obtain ⟨first, middle, evaluated, returns⟩ := returns
  cases mean with
  | none =>
      obtain ⟨rfl, rfl⟩ := returns_pure_iff.mp returns
      exact .inl ⟨first, evaluated, rfl, by simp⟩
  | some known =>
      dsimp only at returns
      split at returns
      · rename_i repeated
        simp only [returns_bind_iff, returns_pure_iff] at returns
        obtain ⟨second, _, again, rfl, rfl⟩ := returns
        exact .inr ⟨first, middle, second, evaluated, again, rfl, known, rfl, repeated⟩
      · rename_i kept
        obtain ⟨rfl, rfl⟩ := returns_pure_iff.mp returns
        exact .inl ⟨first, evaluated, rfl, by simpa using kept⟩

/-! ## All records -/

theorem damageEvaluated_of_returns {count : Nat} {records : List RollRecord}
    (returns : Returns (Roll.times count (rollDamageOnce damage mean reroll)) start records
      final) : DamageEvaluated damage start records final := by
  induction count generalizing start records with
  | zero =>
      obtain ⟨rfl, rfl⟩ := returns_pure_iff.mp returns
      exact .nothing
  | succ count ih =>
      simp only [Roll.times, returns_bind_iff, returns_pure_iff] at returns
      obtain ⟨record, middle, rolled, others, _, rolledOthers, rfl, rfl⟩ := returns
      rcases returns_rollDamageOnce rolled with
        ⟨value, evaluated, rfl, -⟩ | ⟨first, _, second, evaluated, again, rfl, -⟩
      · exact .once evaluated (ih rolledOthers)
      · exact .twice evaluated again (ih rolledOthers)

/-- A record shows a second evaluation exactly when there is a mean and the first value may be
rolled again. -/
theorem replaced_iff_of_returns {record : RollRecord}
    (known : mean.isSome = true ↔ HasDiceTerm damage)
    (found : ∀ known ∈ mean, meanOfText damage = .ok known)
    (returns : Returns (rollDamageOnce damage mean reroll) start record final) :
    record.replaced.isSome = true ↔ HasDiceTerm damage ∧ reroll.Improves damage record.first := by
  rw [← known]
  rcases returns_rollDamageOnce returns with
    ⟨value, -, rfl, kept⟩ | ⟨first, _, second, -, -, rfl, mean, rfl, repeated⟩
  · refine iff_of_false Bool.false_ne_true fun ⟨isKnown, improves⟩ => ?_
    obtain ⟨mean, rfl⟩ := Option.isSome_iff_exists.mp isKnown
    have repeated := (rerollsDamage_iff (found mean rfl) value).mpr improves
    rw [kept mean rfl] at repeated
    cases repeated
  · exact iff_of_true rfl ⟨rfl, (rerollsDamage_iff (found mean rfl) first).mp repeated⟩

/-- Damage follows the reroll and the modifiers: there is one record for each instance, which
stands for one evaluation, or for two when the first value of an expression with dice may be
rolled again.  What is done is the final value with its modifiers, and a point at least. -/
theorem rollDamage_follows_rerolls {instances modifier melta : Int}
    {outcome : List Int × PhaseLog}
    (returns : Returns (rollDamage instances damage modifier melta reroll) start outcome
      final) : DamageRolled instances modifier melta damage reroll start outcome final := by
  obtain ⟨mean, records, middle, isKnown, found, rolled, retraced, damages, rfl, successes⟩ :=
    returns_rollDamage returns
  have known : mean.isSome = true ↔ HasDiceTerm damage := by rw [isKnown, hasDiceTerm_iff]
  exact {
    records := Roll.length_times rolled
    damages
    successes
    rerolled_iff := Roll.forall_mem_times (replaced_iff_of_returns known found) rolled
    evaluated := ⟨middle, damageEvaluated_of_returns rolled, retraced⟩ }

/-- The mean of the expression is 4.5: a two is rolled again into a six, a five stands, and a
four is rolled again into a four. -/
theorem threeWounds_follow_rerolls :
    ∃ outcome final,
      Returns (rollDamage 3 "D6+1" (-1) 2 (.granted .failed))
        ({ dice := ⟨[1, 5, 4, 3, 3]⟩ } : Table Faces) outcome final ∧
      (outcome.1, outcome.2.rolls) = ([7, 6, 5], [{ value := 6, replaced := some 2 },
        { value := 5 }, { value := 4, replaced := some 4 }]) ∧
      DamageRolled 3 (-1) 2 "D6+1" (.granted .failed)
        ({ dice := ⟨[1, 5, 4, 3, 3]⟩ } : Table Faces) outcome final := by
  have ran : (outcomeOf (rollDamage 3 "D6+1" (-1) 2 (.granted .failed))
      ({ dice := ⟨[1, 5, 4, 3, 3]⟩ } : Table Faces)).1.toOption.map
      (fun outcome => (outcome.1, outcome.2.rolls)) =
      some ([7, 6, 5], [{ value := 6, replaced := some 2 }, { value := 5 },
        { value := 4, replaced := some 4 }]) := by
    decide +kernel
  obtain ⟨outcome, final, returns, shown⟩ := exists_returns_of_shown ran
  exact ⟨outcome, final, returns, shown, rollDamage_follows_rerolls returns⟩

end Skirmish
