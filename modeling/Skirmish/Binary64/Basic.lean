/-!
# Binary floating numbers

Stat adjustments may be fractions, and the mean of a die is one.  They are kept
as binary floating numbers with 53 significant bits and an exponent from -1074
to 971.  A finite number is held exactly, so its arithmetic is integer
arithmetic followed by one rounding to the nearest number, where a tie goes to
the even significand.
-/

namespace Skirmish

/-- A binary floating number.  The finite ones have the value
`± significand · 2 ^ exponent`. -/
inductive Binary64 where
  | finite (negative : Bool) (significand : Nat) (exponent : Int)
  | infinite (negative : Bool)
  | nan
  deriving DecidableEq, Repr

namespace Binary64

/-- The least exponent, which every number below `2 ^ -1022` has. -/
def leastExponent : Int := -1074

def greatestExponent : Int := 971

def zero (negative : Bool) : Binary64 :=
  .finite negative 0 leastExponent

/-- The natural number nearest to `numerator / denominator`, where a tie goes
to the even one. -/
def roundQuotient (numerator denominator : Nat) : Nat :=
  let quotient := numerator / denominator
  let remainder := numerator % denominator
  if 2 * remainder < denominator then quotient
  else if denominator < 2 * remainder then quotient + 1
  else quotient + quotient % 2

/-- The numerator of `value · base ^ exponent` over the matching denominator. -/
def scaleNumerator (base value : Nat) (exponent : Int) : Nat :=
  value * base.pow exponent.toNat

/-- The number nearest to `numerator / denominator`. -/
def ofRatio (negative : Bool) (numerator denominator : Nat) : Binary64 :=
  if numerator = 0 then
    zero negative
  else
    let atExponent (exponent : Int) : Nat × Nat :=
      (scaleNumerator 2 numerator (-exponent), scaleNumerator 2 denominator exponent)
    let guess : Int := numerator.log2 - denominator.log2 - 52
    let full : Int :=
      let (above, below) := atExponent guess
      if above / below < Nat.pow 2 52 then guess - 1 else guess
    let exponent := max leastExponent full
    let (above, below) := atExponent exponent
    let significand := roundQuotient above below
    let (significand, exponent) :=
      if significand = Nat.pow 2 53 then (Nat.pow 2 52, exponent + 1) else (significand, exponent)
    if greatestExponent < exponent then .infinite negative
    else .finite negative significand exponent

/-- The number nearest to `± significand · 2 ^ exponent`. -/
def ofScaled (negative : Bool) (significand : Nat) (exponent : Int) : Binary64 :=
  ofRatio negative (scaleNumerator 2 significand exponent)
    (scaleNumerator 2 1 (-exponent))

/-- The number nearest to an integer, unless the integer is too large for a
finite one. -/
def ofInt? (n : Int) : Option Binary64 :=
  match ofRatio (n < 0) n.natAbs 1 with
  | .infinite _ => none
  | number => some number

/-- The number nearest to `numerator / 2`, unless it is too large for a finite
one. -/
def ofHalves? (numerator : Nat) : Option Binary64 :=
  match ofRatio false numerator 2 with
  | .infinite _ => none
  | number => some number

/-- The signed significand of a finite number at a given exponent, which is not
above its own. -/
def signedAt (exponent : Int) (negative : Bool) (significand : Nat) (own : Int) : Int :=
  let magnitude : Int := scaleNumerator 2 significand (own - exponent)
  if negative then -magnitude else magnitude

def add : Binary64 → Binary64 → Binary64
  | .nan, _ | _, .nan => .nan
  | .infinite a, .infinite b => if a = b then .infinite a else .nan
  | .infinite a, _ | _, .infinite a => .infinite a
  | .finite a m e, .finite b n f =>
    let exponent := min e f
    let sum := signedAt exponent a m e + signedAt exponent b n f
    if sum = 0 then zero (a && b)
    else ofScaled (sum < 0) sum.natAbs exponent

def neg : Binary64 → Binary64
  | .finite negative significand exponent => .finite (!negative) significand exponent
  | .infinite negative => .infinite (!negative)
  | .nan => .nan

/-- The order of the numbers.  A number that is `nan` is not below any and none
is below it, and the two zeros are equal. -/
def lt : Binary64 → Binary64 → Bool
  | .nan, _ | _, .nan => false
  | .infinite a, .infinite b => a && !b
  | .infinite a, .finite .. => a
  | .finite .., .infinite b => !b
  | .finite a m e, .finite b n f =>
    let exponent := min e f
    signedAt exponent a m e < signedAt exponent b n f

def toInt? : Binary64 → Option Int
  | .finite negative significand exponent =>
    let divisor := scaleNumerator 2 1 (-exponent)
    let magnitude := scaleNumerator 2 significand exponent
    if magnitude % divisor = 0 then
      some (if negative then -(magnitude / divisor : Nat) else (magnitude / divisor : Nat))
    else
      none
  | .infinite _ | .nan => none

def truncate? : Binary64 → Option Int
  | .finite negative significand exponent =>
    let magnitude :=
      scaleNumerator 2 significand exponent / scaleNumerator 2 1 (-exponent)
    some (if negative then -(magnitude : Int) else magnitude)
  | .infinite _ | .nan => none

end Binary64

end Skirmish
