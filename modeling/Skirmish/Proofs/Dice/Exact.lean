import Skirmish.Proofs.Binary64
import Skirmish.Proofs.Dice.Range

/-!
# Exact sums

The sum of an expression is an integer until a floating number is added to it.  From there
on it may be rounded, unless the numbers are small: no sum is rounded that is the value of a
floating number.  Every number has an exact value here, and numbers that are added exactly
have the sum of their exact values.
-/

namespace Skirmish

open Binary64 (Representable)

/-! ## Numbers -/

namespace Number

/-- The exact value of a number. -/
def Is : Number → ℚ → Prop
  | .int n, value => value = n
  | .float x, value => x.Is value

/-- The number is a floating one. -/
def isFloat : Number → Bool
  | .int _ => false
  | .float _ => true

variable {number other : Number} {value added : ℚ}

theorem Is.neg (is : number.Is value) : number.neg.Is (-value) := by
  cases number with
  | int n =>
      rw [Is] at is
      rw [Number.neg, Is, is, Int.cast_neg]
  | float x => exact Binary64.Is.neg is

theorem isFloat_neg (number : Number) : number.neg.isFloat = number.isFloat := by
  cases number <;> rfl

theorem Is.toFloat? (is : number.Is value) (representable : Representable value) :
    ∃ x, number.toFloat? = some x ∧ x.Is value := by
  cases number with
  | int n =>
      rw [Is] at is
      rw [is] at representable ⊢
      exact Binary64.ofInt?_is representable
  | float x => exact ⟨x, rfl, is⟩

/-- A sum is only rounded when a floating number is in it and the exact sum is no value of
one. -/
theorem Is.add? (is : number.Is value) (isAdded : other.Is added)
    (exact : (number.isFloat || other.isFloat) = true →
      Representable value ∧ Representable added ∧ Representable (value + added)) :
    ∃ sum, number.add? other = some sum ∧ sum.Is (value + added) ∧
      sum.isFloat = (number.isFloat || other.isFloat) := by
  have rounded (mixed : (number.isFloat || other.isFloat) = true) :
      ∃ x y, number.toFloat? = some x ∧ other.toFloat? = some y ∧
        (x.add y).Is (value + added) := by
    obtain ⟨first, second, both⟩ := exact mixed
    obtain ⟨x, converted, isFirst⟩ := is.toFloat? first
    obtain ⟨y, convertedAdded, isSecond⟩ := isAdded.toFloat? second
    exact ⟨x, y, converted, convertedAdded, isFirst.add isSecond both⟩
  cases number with
  | int m =>
      cases other with
      | int n =>
          rw [Is] at is isAdded
          exact ⟨_, rfl, by rw [is, isAdded, Is, Int.cast_add], rfl⟩
      | float y =>
          obtain ⟨x, y, converted, convertedAdded, sum⟩ := rounded rfl
          refine ⟨.float (x.add y), ?_, sum, rfl⟩
          simp only [Number.add?, converted, convertedAdded]
          rfl
  | float x =>
      obtain ⟨x, y, converted, convertedAdded, sum⟩ := rounded rfl
      refine ⟨.float (x.add y), ?_, sum, rfl⟩
      simp only [Number.add?, converted, convertedAdded]
      rfl

end Number

/-! ## Sums -/

/-- Summands are added to a sum one after the other, each given by its exact value and by
whether it is a floating number.  As soon as the sum or a summand is one, the sum, the summand
and what they add up to have to be values of floating numbers. -/
def AddsExactly (floating : Bool) (sum : ℚ) : List (Bool × ℚ) → Prop
  | [] => True
  | (isFloat, value) :: rest =>
    ((floating || isFloat) = true →
      Representable sum ∧ Representable value ∧ Representable (sum + value)) ∧
    AddsExactly (floating || isFloat) (sum + value) rest

theorem AddsExactly.representable {floating : Bool} {sum : ℚ} {summands : List (Bool × ℚ)}
    (exact : AddsExactly floating sum summands) :
    ∀ summand ∈ summands, summand.1 = true → Representable summand.2 := by
  induction summands generalizing floating sum with
  | nil => exact fun summand member => (List.not_mem_nil member).elim
  | cons summand rest ih =>
      refine List.forall_mem_cons.mpr ⟨fun isFloat => ?_, ih exact.2⟩
      exact (exact.1 (by rw [isFloat, Bool.or_true])).2.1

/-- The number with its sign is a summand. -/
def IsSummand (signed : Bool × Number) (summand : Bool × ℚ) : Prop :=
  signed.2.isFloat = summand.1 ∧ (if signed.1 then signed.2.neg else signed.2).Is summand.2

theorem IsSummand.isFloat_eq {signed : Bool × Number} {summand : Bool × ℚ}
    (is : IsSummand signed summand) :
    (if signed.1 then signed.2.neg else signed.2).isFloat = summand.1 := by
  cases signed.1
  · exact is.1
  · exact (Number.isFloat_neg _).trans is.1

/-- Numbers that are added exactly have the sum of the exact values. -/
theorem exists_foldlM_is {values : List (Bool × Number)} {summands : List (Bool × ℚ)}
    (are : List.Forall₂ IsSummand values summands) {start : Number} {sum : ℚ} (is : start.Is sum)
    (exact : AddsExactly start.isFloat sum summands) :
    ∃ total, values.foldlM (fun (sum : Number) (value : Bool × Number) =>
        sum.add? (if value.1 then value.2.neg else value.2)) start = some total ∧
      total.Is (sum + (summands.map Prod.snd).sum) := by
  induction are generalizing start sum with
  | nil => exact ⟨start, rfl, by simpa using is⟩
  | @cons signed summand values summands first _ ih =>
      obtain ⟨here, there⟩ := exact
      rw [← first.isFloat_eq] at here there
      obtain ⟨next, added, isNext, floating⟩ := is.add? first.2 here
      rw [← floating] at there
      obtain ⟨total, folded, isTotal⟩ := ih isNext there
      refine ⟨total, ?_, ?_⟩
      · rw [List.foldlM_cons, added]
        exact folded
      · rwa [List.map_cons, List.sum_cons, ← add_assoc]

theorem exists_total?_is {values : List (Bool × Number)} {summands : List (Bool × ℚ)}
    (are : List.Forall₂ IsSummand values summands) (exact : AddsExactly false 0 summands) :
    ∃ total, DiceExpression.total? values = some total ∧
      total.Is (summands.map Prod.snd).sum := by
  cases are with
  | nil => exact ⟨.int 0, rfl, by simp [Number.Is]⟩
  | @cons signed summand values summands first others =>
      obtain ⟨-, there⟩ := exact
      rw [zero_add, Bool.false_or, ← first.isFloat_eq] at there
      exact exists_foldlM_is others first.2 there

/-- A sum whose exact value is an integer has that integer as its integer part. -/
theorem wholeTotal_is {total : Number} {n : Int} (is : total.Is n) : wholeTotal total = .ok n := by
  cases total with
  | int m =>
      rw [Number.Is, Int.cast_inj] at is
      rw [is]
      rfl
  | float x =>
      rw [Number.Is] at is
      have finite : Number.float x ≠ .float .nan := by
        rintro ⟨⟩
        exact is
      have whole : (Number.float x).truncate? = some n := is.truncate?
      rw [wholeTotal, if_neg finite, whole]

/-! ## Constants -/

/-- A numeral with a common digit other than zero in front is at least the power of ten that
its further digits make. -/
theorem pow_le_numeral {c : Char} (common : Text.isCommonDigit c = true) (nonzero : c ≠ '0')
    (digits : List Char) : 10 ^ digits.length ≤ Text.numeral (c :: digits) := by
  induction digits using List.reverseRecOn with
  | nil =>
      have range : '0' ≤ c ∧ c ≤ '9' := by simpa [Text.isCommonDigit] using common
      have above : '0'.toNat < c.toNat := by
        refine lt_of_le_of_ne range.1 fun same => nonzero ?_
        exact (Char.toNat_inj.mp same).symm
      have value : Text.numeral [c] = c.toNat - '0'.toNat := by
        simp [Text.numeral, Text.digitValue?, range]
      rw [value, List.length_nil, pow_zero]
      omega
  | append_singleton digits d ih =>
      have folded : Text.numeral (c :: (digits ++ [d])) =
          10 * Text.numeral (c :: digits) + (Text.digitValue? d).getD 0 := by
        rw [← List.cons_append]
        simp [Text.numeral]
      rw [folded, List.length_append, List.length_singleton, pow_succ]
      omega

/-- Three bits fit into each decimal digit. -/
theorem lt_ten_pow {n bits places : Nat} (below : (n : ℚ) < 2 ^ bits)
    (fit : bits ≤ 3 * places) : n < 10 ^ places :=
  calc n < 2 ^ bits := by exact_mod_cast below
    _ ≤ 2 ^ (3 * places) := Nat.pow_le_pow_right (by decide) fit
    _ = (2 ^ 3) ^ places := pow_mul 2 3 places
    _ ≤ 10 ^ places := Nat.pow_le_pow_left (by decide) places

theorem numeral_dropWhile_zero (digits : List Char) :
    Text.numeral (digits.dropWhile (· == '0')) = Text.numeral digits := by
  induction digits with
  | nil => rfl
  | cons c rest ih =>
      rw [List.dropWhile_cons]
      split
      · rename_i zero
        rw [ih, beq_iff_eq.mp zero]
        rfl
      · rfl

/-- A run of digits without a point or an exponent is the nearest floating number, and too
large for a finite one with more than 400 digits behind the zeros in front. -/
theorem toBinary64_digits {digits own : List Char} (stripped : digits.dropWhile (· == '0') = own) :
    DecimalText.toBinary64 ⟨none, digits, none, none⟩ =
      if own = [] then .zero false
      else if 400 < own.length then .infinite false
      else .ofRatio false (Text.numeral own) 1 := by
  subst stripped
  have few : ¬ ((digits.dropWhile (· == '0')).length : Int) < -400 := by omega
  simp [DecimalText.toBinary64, DecimalText.exponentValue, Binary64.scaleNumerator, few]

/-- A constant that is the value of a floating number is that number, however many digits it
has. -/
theorem constantNumber_is {digits : List Char} (common : ∀ c ∈ digits, Text.isCommonDigit c = true)
    (representable : Text.isOversized digits = true → Representable (Text.numeral digits)) :
    (constantNumber digits).Is (Text.numeral digits) := by
  unfold constantNumber
  split
  · rename_i oversized
    have exact := representable oversized
    have below : (Text.numeral digits : ℚ) < 2 ^ 1024 := by
      simpa [abs_of_nonneg] using exact.lt
    have same := numeral_dropWhile_zero digits
    rw [Number.Is]
    cases own : digits.dropWhile (· == '0') with
    | nil =>
        rw [toBinary64_digits own, ← same, own]
        simp [Binary64.zero, Binary64.Is, signedBy, Text.numeral]
    | cons c rest =>
        have member : c ∈ digits :=
          (List.dropWhile_sublist (· == '0')).subset (own ▸ List.mem_cons_self ..)
        have nonzero : c ≠ '0' := by
          have first := List.head?_dropWhile_not (· == '0') digits
          rw [own] at first
          simpa using first
        rw [own] at same
        have large := pow_le_numeral (common c member) nonzero rest
        have short : (c :: rest).length ≤ 400 := by
          by_contra long
          rw [List.length_cons] at long
          exact absurd (lt_ten_pow below (by omega)) (Nat.not_lt.mpr (large.trans_eq same))
        rw [toBinary64_digits own, if_neg (List.cons_ne_nil c rest), if_neg (Nat.not_lt.mpr short),
          same]
        have is := Binary64.ofRatio_is false one_pos
          (by rwa [Nat.cast_one, div_one] : Representable ((Text.numeral digits : ℚ) / (1 : Nat)))
        rwa [Nat.cast_one, div_one] at is
  · rfl

end Skirmish
