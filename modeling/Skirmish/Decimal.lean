import Skirmish.Text.Digit
import Skirmish.Binary64.Basic

/-!
# Numbers written in decimal

The common shape of a written number: a sign, digits before and after a point,
and an exponent.  Each reader of numbers decides which of these parts it allows
or requires.
-/

namespace Skirmish

/-- The parts of a number written in decimal. -/
structure DecimalText where
  sign : Option Char
  whole : List Char
  fraction : Option (List Char)
  exponent : Option (Option Char × List Char)
  deriving DecidableEq, Repr

namespace DecimalText

/-- A sign in front of `chars`, and what follows it. -/
def splitSign : List Char → Option Char × List Char
  | '-' :: rest => (some '-', rest)
  | '+' :: rest => (some '+', rest)
  | chars => (none, chars)

/-- The leading common digits of `chars`, and what follows them. -/
def splitDigits (chars : List Char) : List Char × List Char :=
  (chars.takeWhile Text.isCommonDigit, chars.dropWhile Text.isCommonDigit)

/-- A point and digits in front of `chars`, and what follows them. -/
def splitFraction : List Char → Option (List Char) × List Char
  | '.' :: rest => ((splitDigits rest).1, (splitDigits rest).2)
  | chars => (none, chars)

/-- The exponent that makes up all of `chars`; `none` for anything else than an
exponent or nothing at all. -/
def wholeExponent? : List Char → Option (Option (Option Char × List Char))
  | [] => some none
  | mark :: rest =>
    let (sign, digits) := splitSign rest
    if (mark = 'e' ∨ mark = 'E') ∧ !digits.isEmpty ∧ digits.all Text.isCommonDigit then
      some (some (sign, digits))
    else
      none

/-- The parts of the number that makes up all of `chars`. -/
def read? (chars : List Char) : Option DecimalText :=
  let (sign, unsigned) := splitSign chars
  let (whole, afterWhole) := splitDigits unsigned
  let (fraction, afterFraction) := splitFraction afterWhole
  (wholeExponent? afterFraction).map fun exponent =>
    { sign, whole, fraction, exponent }

def exponentValue (number : DecimalText) : Int :=
  match number.exponent with
  | none => 0
  | some (sign, digits) =>
    if sign = some '-' then -(Text.numeral digits : Int) else Text.numeral digits

/-- The binary floating number nearest to the written one.  Beyond 400 places
on either side of the point the answer no longer depends on the digits. -/
def toBinary64 (number : DecimalText) : Binary64 :=
  let negative := number.sign = some '-'
  let fraction := number.fraction.getD []
  let digits := (number.whole ++ fraction).dropWhile (· == '0')
  let scale := number.exponentValue - fraction.length
  if digits.isEmpty ∨ scale + digits.length < -400 then .zero negative
  else if 400 < scale + digits.length then .infinite negative
  else
    .ofRatio negative (Binary64.scaleNumerator 10 (Text.numeral digits) scale)
      (Binary64.scaleNumerator 10 1 (-scale))

end DecimalText

end Skirmish
