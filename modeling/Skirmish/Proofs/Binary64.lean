import Mathlib.Algebra.Order.Field.Power
import Mathlib.Algebra.Order.Field.Rat
import Mathlib.Data.Nat.Cast.Order.Field
import Mathlib.Tactic.Linarith
import Mathlib.Tactic.Positivity
import Mathlib.Tactic.Ring
import Skirmish.Number

/-!
# Exact floating arithmetic

Floating arithmetic rounds.  Where the exact result is the value of some floating number,
rounding changes nothing: the result is that value.  This is shown for quotients first, since
all other operations end in rounding one.
-/

namespace Skirmish

/-- The value with a sign in front of it. -/
def signedBy (negative : Bool) (value : ℚ) : ℚ :=
  if negative then -value else value

theorem signedBy_not (negative : Bool) (value : ℚ) :
    signedBy (!negative) value = -signedBy negative value := by
  cases negative <;> simp [signedBy]

theorem abs_signedBy (negative : Bool) (value : ℚ) : |signedBy negative value| = |value| := by
  cases negative <;> simp [signedBy]

theorem signedBy_mul (negative : Bool) (value factor : ℚ) :
    signedBy negative value * factor = signedBy negative (value * factor) := by
  cases negative <;> simp [signedBy]

theorem signedBy_abs (n : Int) : signedBy (n < 0) |(n : ℚ)| = n := by
  by_cases below : n < 0
  · simp [signedBy, below, abs_of_neg (Int.cast_lt_zero.mpr below)]
  · simp [signedBy, below, abs_of_nonneg (Int.cast_nonneg (Int.not_lt.mp below))]

namespace Binary64

/-- The exact value of a floating number. -/
def Is : Binary64 → ℚ → Prop
  | .finite negative significand exponent, value =>
    value = signedBy negative (significand * 2 ^ exponent)
  | .infinite _, _ | .nan, _ => False

/-- The number is the value of a floating number. -/
def Representable (value : ℚ) : Prop :=
  ∃ (significand : Nat) (exponent : Int), significand < 2 ^ 53 ∧ leastExponent ≤ exponent ∧
    exponent ≤ greatestExponent ∧ |value| = significand * 2 ^ exponent

@[simp]
theorem representable_abs {value : ℚ} : Representable |value| ↔ Representable value := by
  rw [Representable, abs_abs]
  rfl

@[simp]
theorem representable_signedBy {negative : Bool} {value : ℚ} :
    Representable (signedBy negative value) ↔ Representable value := by
  rw [← representable_abs, abs_signedBy, representable_abs]

theorem Representable.lt {value : ℚ} (representable : Representable value) :
    |value| < 2 ^ 1024 := by
  obtain ⟨significand, exponent, small, -, greatest, shown⟩ := representable
  have cast : (significand : ℚ) < 2 ^ 53 := by exact_mod_cast small
  have power : (2 : ℚ) ^ exponent ≤ 2 ^ greatestExponent :=
    zpow_le_zpow_right₀ (by norm_num) greatest
  calc |value| = significand * 2 ^ exponent := shown
    _ < 2 ^ 53 * 2 ^ exponent := by gcongr
    _ ≤ 2 ^ 53 * 2 ^ greatestExponent := by gcongr
    _ = 2 ^ 1024 := by
      rw [← zpow_natCast, ← zpow_natCast, ← zpow_add₀ two_ne_zero]
      rfl

/-- Halves of integers are values as long as the integers are small. -/
theorem representable_half {n : Int} (small : n.natAbs < 2 ^ 53) :
    Representable ((n : ℚ) / 2) := by
  refine ⟨n.natAbs, -1, small, by decide, by decide, ?_⟩
  rw [abs_div, Nat.cast_natAbs, Int.cast_abs, abs_of_pos (by norm_num : (0 : ℚ) < 2),
    zpow_neg_one]
  rfl

/-! ## Quotients -/

theorem zpow_eq_div (exponent : Int) :
    (2 : ℚ) ^ exponent = 2 ^ exponent.toNat / 2 ^ (-exponent).toNat := by
  rcases Int.le_total 0 exponent with nonneg | nonpos
  · rw [Int.toNat_of_nonpos (by omega : -exponent ≤ 0), pow_zero, div_one, ← zpow_natCast,
      Int.toNat_of_nonneg nonneg]
  · rw [Int.toNat_of_nonpos nonpos, pow_zero, one_div, ← zpow_natCast,
      Int.toNat_of_nonneg (by omega), zpow_neg, inv_inv]

theorem cast_scaleNumerator (value : Nat) (exponent : Int) :
    (scaleNumerator 2 value exponent : ℚ) = value * 2 ^ exponent.toNat := by
  simp [scaleNumerator]

theorem cast_scale_div_scale (numerator denominator : Nat) (exponent : Int) :
    (scaleNumerator 2 numerator (-exponent) : ℚ) / scaleNumerator 2 denominator exponent =
      numerator / denominator / 2 ^ exponent := by
  rw [cast_scaleNumerator, cast_scaleNumerator, zpow_eq_div, div_div_div_eq]

/-- A quotient that is a whole number is not rounded. -/
theorem roundQuotient_mul (quotient : Nat) {denominator : Nat} (positive : 0 < denominator) :
    roundQuotient (quotient * denominator) denominator = quotient := by
  simp [roundQuotient, Nat.mul_div_cancel _ positive, positive]

/-- The exponent at which a quotient has 53 significant bits. -/
def fullExponent (numerator denominator : Nat) : Int :=
  let guess : Int := numerator.log2 - denominator.log2 - 52
  if scaleNumerator 2 numerator (-guess) / scaleNumerator 2 denominator guess < Nat.pow 2 52
  then guess - 1 else guess

theorem ofRatio_eq {numerator denominator : Nat} (negative : Bool) (nonzero : numerator ≠ 0)
    {exponent : Int} (chosen : exponent = max leastExponent (fullExponent numerator denominator))
    {significand : Nat}
    (rounded : significand = roundQuotient (scaleNumerator 2 numerator (-exponent))
      (scaleNumerator 2 denominator exponent)) :
    ofRatio negative numerator denominator =
      if significand = Nat.pow 2 53 then
        if greatestExponent < exponent + 1 then .infinite negative
        else .finite negative (Nat.pow 2 52) (exponent + 1)
      else
        if greatestExponent < exponent then .infinite negative
        else .finite negative significand exponent := by
  subst rounded chosen
  rw [ofRatio, if_neg nonzero]
  unfold fullExponent
  dsimp only
  -- First the choice of the exponent is resolved, then that of a carry out of the last bit.
  split <;> split <;> rfl

/-- At its full exponent a quotient has 53 significant bits at least. -/
theorem le_of_fullExponent {numerator denominator : Nat} (some : numerator ≠ 0)
    (positive : 0 < denominator) :
    (2 : ℚ) ^ 52 * 2 ^ fullExponent numerator denominator ≤ numerator / denominator := by
  have below : (0 : ℚ) < denominator := by exact_mod_cast positive
  unfold fullExponent
  set guess : Int := numerator.log2 - denominator.log2 - 52 with guessed
  dsimp only
  split
  · -- The quotient is at least the quotient of the leading bits.
    have least : (2 : ℚ) ^ numerator.log2 ≤ numerator := by
      exact_mod_cast Nat.log2_self_le some
    have most : (denominator : ℚ) ≤ 2 ^ (denominator.log2 + 1) := by
      exact_mod_cast Nat.lt_log2_self.le
    rw [le_div_iff₀ below]
    calc (2 : ℚ) ^ 52 * 2 ^ (guess - 1) * denominator
        ≤ 2 ^ 52 * 2 ^ (guess - 1) * 2 ^ (denominator.log2 + 1) := by gcongr
      _ = 2 ^ numerator.log2 := by
          simp only [← zpow_natCast, ← zpow_add₀ (two_ne_zero : (2 : ℚ) ≠ 0)]
          congr 1
          push_cast
          omega
      _ ≤ numerator := least
  · rename_i full
    have scaled : ((2 ^ 52 : Nat) : ℚ) ≤ (scaleNumerator 2 numerator (-guess) : ℚ) /
        scaleNumerator 2 denominator guess :=
      le_trans (by exact_mod_cast Nat.le_of_not_lt full) Nat.cast_div_le
    rw [cast_scale_div_scale, le_div_iff₀ (by positivity)] at scaled
    exact_mod_cast scaled

/-- A quotient that is the value of a floating number is not rounded. -/
theorem ofRatio_is {numerator denominator : Nat} (negative : Bool) (positive : 0 < denominator)
    (representable : Representable ((numerator : ℚ) / denominator)) :
    (ofRatio negative numerator denominator).Is
      (signedBy negative ((numerator : ℚ) / denominator)) := by
  rcases Nat.eq_zero_or_pos numerator with rfl | some
  · cases negative <;> simp [ofRatio, zero, Is, signedBy]
  obtain ⟨bits, own, small, least, greatest, shown⟩ := representable
  rw [abs_of_nonneg (by positivity)] at shown
  set exponent := max leastExponent (fullExponent numerator denominator) with chosen
  -- The number's own exponent is not below the one that is chosen for the quotient.
  have le_own : exponent ≤ own := by
    refine max_le least (Int.lt_add_one_iff.mp ?_)
    have enough := le_of_fullExponent some.ne' positive
    have below : (bits : ℚ) < 2 ^ 53 := by exact_mod_cast small
    have less : (2 : ℚ) ^ 52 * 2 ^ fullExponent numerator denominator < 2 ^ 53 * 2 ^ own := by
      exact (enough.trans_eq shown).trans_lt (mul_lt_mul_of_pos_right below (by positivity))
    rw [← zpow_natCast, ← zpow_natCast, ← zpow_add₀ two_ne_zero, ← zpow_add₀ two_ne_zero,
      zpow_lt_zpow_iff_right₀ (by norm_num)] at less
    push_cast at less
    omega
  have whole : scaleNumerator 2 numerator (-exponent) =
      bits * 2 ^ (own - exponent).toNat * scaleNumerator 2 denominator exponent := by
    have scaled := cast_scale_div_scale numerator denominator exponent
    have nonzero : (scaleNumerator 2 denominator exponent : ℚ) ≠ 0 := by
      rw [cast_scaleNumerator]
      positivity
    rw [shown, mul_div_assoc, ← zpow_sub₀ two_ne_zero, div_eq_iff nonzero,
      ← Int.toNat_of_nonneg (by omega : 0 ≤ own - exponent), zpow_natCast] at scaled
    exact_mod_cast scaled
  have positiveScale : 0 < scaleNumerator 2 denominator exponent := by
    exact Nat.mul_pos positive (Nat.pow_pos (by decide))
  have rounded := roundQuotient_mul (bits * 2 ^ (own - exponent).toNat) positiveScale
  rw [← whole] at rounded
  rw [ofRatio_eq negative some.ne' chosen rounded.symm]
  have value : (numerator : ℚ) / denominator =
      (bits * 2 ^ (own - exponent).toNat : Nat) * 2 ^ exponent := by
    rw [shown]
    push_cast
    rw [mul_assoc, ← zpow_natCast, ← zpow_add₀ two_ne_zero, Int.toNat_of_nonneg (by omega)]
    congr 2
    omega
  have bounded : exponent ≤ greatestExponent := le_own.trans greatest
  split
  · -- A carry means that the number's own exponent is above the chosen one.
    rename_i carry
    have above : exponent + 1 ≤ own := by
      refine Int.add_one_le_iff.mpr (lt_of_le_of_ne le_own fun same => ?_)
      rw [same, sub_self, Int.toNat_zero, pow_zero, mul_one] at carry
      exact small.ne carry
    rw [if_neg (by omega)]
    rw [Is, value, carry]
    congr 1
    rw [zpow_add_one₀ two_ne_zero]
    push_cast
    ring
  · rw [if_neg (by omega), Is, value]

theorem ofInt?_is {n : Int} (representable : Representable n) :
    ∃ x, ofInt? n = some x ∧ x.Is n := by
  have magnitude : |(n : ℚ)| = n.natAbs := by rw [Nat.cast_natAbs, Int.cast_abs]
  have is := @ofRatio_is n.natAbs 1 (n < 0) one_pos
    (by rwa [Nat.cast_one, div_one, ← magnitude, representable_abs])
  have value : signedBy (n < 0) ((n.natAbs : ℚ) / (1 : Nat)) = n := by
    rw [Nat.cast_one, div_one, ← magnitude, signedBy_abs]
  rw [value] at is
  unfold ofInt?
  split
  · rename_i infinite
    rw [infinite] at is
    exact is.elim
  · exact ⟨_, rfl, is⟩

theorem ofHalves?_is {n : Nat} (representable : Representable ((n : ℚ) / 2)) :
    ∃ x, ofHalves? n = some x ∧ x.Is ((n : ℚ) / 2) := by
  have is := @ofRatio_is n 2 false two_pos (by exact_mod_cast representable)
  unfold ofHalves?
  split
  · rename_i infinite
    rw [infinite] at is
    exact is.elim
  · exact ⟨_, rfl, by exact_mod_cast is⟩

/-! ## Sums -/

theorem Is.neg {x : Binary64} {value : ℚ} (is : x.Is value) : x.neg.Is (-value) := by
  cases x with
  | finite negative significand exponent => rw [Binary64.neg, Is, signedBy_not, is]
  | infinite negative => exact is.elim
  | nan => exact is.elim

/-- A scaled significand is the value divided by the power of two that it is scaled by. -/
theorem cast_signedAt {exponent own : Int} (below : exponent ≤ own) (negative : Bool)
    (significand : Nat) :
    (signedAt exponent negative significand own : ℚ) * 2 ^ exponent =
      signedBy negative (significand * 2 ^ own) := by
  have scaled : (scaleNumerator 2 significand (own - exponent) : ℚ) * 2 ^ exponent =
      significand * 2 ^ own := by
    rw [cast_scaleNumerator, ← zpow_natCast, Int.toNat_of_nonneg (by omega), mul_assoc,
      ← zpow_add₀ two_ne_zero, sub_add_cancel]
  cases negative <;> simp [signedAt, signedBy, ← scaled]

theorem ofScaled_is {significand : Nat} {exponent : Int} (negative : Bool)
    (representable : Representable ((significand : ℚ) * 2 ^ exponent)) :
    (ofScaled negative significand exponent).Is
      (signedBy negative (significand * 2 ^ exponent)) := by
  have scaled := cast_scale_div_scale significand 1 (-exponent)
  rw [neg_neg, Nat.cast_one, div_one, zpow_neg, div_inv_eq_mul] at scaled
  rw [← scaled] at representable ⊢
  exact ofRatio_is negative (Nat.mul_pos one_pos (Nat.pow_pos (by decide))) representable

theorem Is.add {x y : Binary64} {first second : ℚ} (isFirst : x.Is first) (isSecond : y.Is second)
    (representable : Representable (first + second)) : (x.add y).Is (first + second) := by
  cases x with
  | infinite _ => exact isFirst.elim
  | nan => exact isFirst.elim
  | finite a m e =>
      cases y with
      | infinite _ => exact isSecond.elim
      | nan => exact isSecond.elim
      | finite b n f =>
          rw [Is] at isFirst isSecond
          rw [isFirst, isSecond, ← cast_signedAt (min_le_left e f) a m,
            ← cast_signedAt (min_le_right e f) b n, ← add_mul, ← Int.cast_add] at representable ⊢
          rw [Binary64.add]
          generalize signedAt (min e f) a m e + signedAt (min e f) b n f = sum
            at representable ⊢
          split
          · rename_i nothing
            cases a <;> cases b <;> simp [nothing, zero, Is, signedBy]
          · have magnitude : (sum.natAbs : ℚ) = |(sum : ℚ)| := by
              rw [Nat.cast_natAbs, Int.cast_abs]
            have is := @ofScaled_is sum.natAbs (min e f) (sum < 0)
              (by rwa [magnitude, ← abs_of_pos (zpow_pos two_pos _ : (0 : ℚ) < _), ← abs_mul,
                representable_abs])
            have value : signedBy (sum < 0) ((sum.natAbs : ℚ) * 2 ^ min e f) =
                sum * 2 ^ min e f := by
              rw [magnitude, ← signedBy_mul, signedBy_abs]
            rwa [value] at is

/-! ## Integers -/

theorem Is.truncate? {x : Binary64} {n : Int} (is : x.Is n) : x.truncate? = some n := by
  cases x with
  | infinite _ => exact is.elim
  | nan => exact is.elim
  | finite negative significand exponent =>
      rw [Is] at is
      have positive : 0 < scaleNumerator 2 1 (-exponent) :=
        Nat.mul_pos one_pos (Nat.pow_pos (by decide))
      have scaled := cast_scale_div_scale significand 1 (-exponent)
      rw [neg_neg, Nat.cast_one, div_one, zpow_neg, div_inv_eq_mul] at scaled
      have magnitude : (significand : ℚ) * 2 ^ exponent = (n.natAbs : Nat) := by
        rw [Nat.cast_natAbs, Int.cast_abs, is, abs_signedBy, abs_of_nonneg (by positivity)]
      rw [magnitude, div_eq_iff (by exact_mod_cast positive.ne')] at scaled
      have whole : scaleNumerator 2 significand exponent =
          n.natAbs * scaleNumerator 2 1 (-exponent) := by exact_mod_cast scaled
      rw [Binary64.truncate?, whole, Nat.mul_div_cancel _ positive, Option.some.injEq,
        ← Int.cast_inj (α := ℚ), is, magnitude]
      cases negative <;> simp [signedBy]

end Binary64

end Skirmish
