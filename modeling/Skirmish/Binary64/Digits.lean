import Skirmish.Binary64.Basic

/-!
# Decimal digits of binary floating numbers

A number is written with the fewest decimal digits that read back as the same
number, the nearest such decimal first.  A grid of decimals with `d` digits has
two neighbours around the number, and if any of its points reads back then one
of those two does, so it is enough to look at them for `d` from 1 to 17.
-/

namespace Skirmish.Binary64

/-- The digits of a decimal, without trailing zeros, and the place of its point:
the value is `0.digits · 10 ^ point`. -/
structure Decimal where
  digits : List Char
  point : Int

def digitCount (n : Nat) : Nat :=
  (Nat.toDigits 10 n).length

/-- The place of the decimal point of a positive fraction: the least `point`
with `numerator / denominator < 10 ^ point`. -/
def pointOf (numerator denominator : Nat) : Int :=
  if denominator ≤ numerator then digitCount (numerator / denominator)
  else 1 - (digitCount ((denominator - 1) / numerator) : Int)

def decimalOf (count : Nat) (exponent : Int) : Decimal :=
  let digits := Nat.toDigits 10 count
  let kept := (digits.reverse.dropWhile (· == '0')).reverse
  ⟨kept, exponent + digits.length⟩

/-- A decimal among the two neighbours with `places` digits that reads back as
the number `quarters · 2 ^ exponent / 4`.  All that lies strictly between
`quarters - below` and `quarters + 2` reads back, and so do the ends when they
are `closed`. -/
def neighbour? (quarters below : Nat) (closed : Bool) (exponent : Int)
    (places : Nat) : Option Decimal :=
  let unit := scaleNumerator 2 1 (exponent - 2)
  let whole := scaleNumerator 2 1 (2 - exponent)
  let point := pointOf (quarters * unit) whole
  let grid : Int := point - places
  -- one grid step, in units of `1 / (whole * fine)`
  let fine := scaleNumerator 10 1 (-grid)
  let step := scaleNumerator 10 1 grid * whole
  let value := quarters * unit * fine
  let low := (quarters - below) * unit * fine
  let high := (quarters + 2) * unit * fine
  let readsBack (count : Nat) : Bool :=
    let place := count * step
    if closed then low ≤ place && place ≤ high else low < place && place < high
  let down := value / step
  let up := down + 1
  let downGap := value - down * step
  let upGap := up * step - value
  let preferDown :=
    downGap < upGap || (downGap == upGap && down % 2 == 0)
  match readsBack down, readsBack up with
  | true, true => some (decimalOf (if preferDown then down else up) grid)
  | true, false => some (decimalOf down grid)
  | false, true => some (decimalOf up grid)
  | false, false => none

/-- The shortest decimal that reads back as the positive number
`significand · 2 ^ exponent`. -/
def shortest (significand : Nat) (exponent : Int) : Decimal :=
  let below := if significand = Nat.pow 2 52 ∧ leastExponent < exponent then 1 else 2
  let closed := significand % 2 == 0
  match (List.range 17).findSome? fun places =>
      neighbour? (4 * significand) below closed exponent (places + 1) with
  | some decimal => decimal
  | none => decimalOf significand exponent

/-- The decimal with at most `places` digits nearest to the positive number
`significand · 2 ^ exponent`. -/
def nearest (places significand : Nat) (exponent : Int) : Decimal :=
  let numerator := scaleNumerator 2 significand exponent
  let denominator := scaleNumerator 2 1 (-exponent)
  let grid : Int := pointOf numerator denominator - places
  decimalOf
    (roundQuotient (scaleNumerator 10 numerator (-grid))
      (scaleNumerator 10 denominator grid))
    grid

/-- How a decimal is laid out: positionally while the exponent of its first
digit is at least `-4` and below `positionalEnd`, with the point kept after a
whole number or not; otherwise with an exponent of at least two digits. -/
structure Layout where
  positionalEnd : Int
  keepPoint : Bool

/-- Values are written positionally below `10 ^ 16` and always show a point or
an exponent. -/
def Layout.value : Layout := ⟨16, true⟩

/-- Granted amounts are written positionally below `10 ^ 6`, and a whole number
shows no point. -/
def Layout.amount : Layout := ⟨6, false⟩

/-- The text of the exponent `e`, with its sign and at least two digits. -/
def exponentText (e : Int) : List Char :=
  let digits := Nat.toDigits 10 e.natAbs
  'e' :: (if e < 0 then '-' else '+') ::
    (List.replicate (2 - digits.length) '0' ++ digits)

def Decimal.text (layout : Layout) (decimal : Decimal) : List Char :=
  let ⟨digits, point⟩ := decimal
  if -4 ≤ point - 1 ∧ point - 1 < layout.positionalEnd then
    if point ≤ 0 then
      ['0', '.'] ++ List.replicate point.natAbs '0' ++ digits
    else
      let whole := digits.take point.toNat
      let rest := digits.drop point.toNat
      let padded := whole ++ List.replicate (point.toNat - whole.length) '0'
      if rest.isEmpty then
        if layout.keepPoint then padded ++ ['.', '0'] else padded
      else
        padded ++ '.' :: rest
  else
    let mantissa :=
      match digits with
      | [] => []
      | [digit] => [digit]
      | digit :: rest => digit :: '.' :: rest
    mantissa ++ exponentText (point - 1)

/-- The text of a number: its sign, then the decimal chosen by `choose` from its
significand and exponent. -/
def textBy (layout : Layout) (choose : Nat → Int → Decimal) : Binary64 → String
  | .nan => "nan"
  | .infinite negative => if negative then "-inf" else "inf"
  | .finite negative significand exponent =>
    let decimal :=
      if significand = 0 then ⟨['0'], 1⟩ else choose significand exponent
    String.ofList ((if negative then ['-'] else []) ++ decimal.text layout)

/-- The text of a number with the fewest digits that read back. -/
def text : Binary64 → String :=
  textBy .value shortest

/-- The text of a number rounded to six significant digits. -/
def amountText : Binary64 → String :=
  textBy .amount (nearest 6)

end Skirmish.Binary64
