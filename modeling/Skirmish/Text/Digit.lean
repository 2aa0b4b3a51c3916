/-!
# Decimal digits

Every script that writes numbers in base ten has ten consecutive code points
for its digits, so the digits are known from the places of the zeros.  A dice
expression or a keyword may spell its numbers in any of them.
-/

namespace Skirmish.Text

/-- The code points of the zeros other than the common one. -/
def foreignZeros : List Nat := [
  0x660, 0x6f0, 0x7c0, 0x966, 0x9e6, 0xa66, 0xae6, 0xb66, 0xbe6, 0xc66, 0xce6,
  0xd66, 0xde6, 0xe50, 0xed0, 0xf20, 0x1040, 0x1090, 0x17e0, 0x1810, 0x1946,
  0x19d0, 0x1a80, 0x1a90, 0x1b50, 0x1bb0, 0x1c40, 0x1c50, 0xa620, 0xa8d0,
  0xa900, 0xa9d0, 0xa9f0, 0xaa50, 0xabf0, 0xff10, 0x104a0, 0x10d30, 0x11066,
  0x110f0, 0x11136, 0x111d0, 0x112f0, 0x11450, 0x114d0, 0x11650, 0x116c0,
  0x11730, 0x118e0, 0x11950, 0x11c50, 0x11d50, 0x11da0, 0x16a60, 0x16ac0,
  0x16b50, 0x1d7ce, 0x1d7d8, 0x1d7e2, 0x1d7ec, 0x1d7f6, 0x1e140, 0x1e2f0,
  0x1e950, 0x1fbf0]

/-- The value of a decimal digit of any script. -/
def digitValue? (c : Char) : Option Nat :=
  if '0' ≤ c ∧ c ≤ '9' then
    some (c.toNat - '0'.toNat)
  else
    (foreignZeros.find? fun first => first ≤ c.toNat && c.toNat < first + 10).map
      (c.toNat - ·)

/-- A decimal digit of any script. -/
def isDigit (c : Char) : Bool :=
  (digitValue? c).isSome

/-- One of the ten common digits `0` to `9`. -/
def isCommonDigit (c : Char) : Bool :=
  '0' ≤ c && c ≤ '9'

/-- The number that a run of decimal digits spells in base ten.  A character
that is no digit counts as a zero. -/
def numeral (digits : List Char) : Nat :=
  digits.foldl (fun value c => 10 * value + (digitValue? c).getD 0) 0

def numeralLimit : Nat := 4300

/-- Digits that are more than a numeral may have. -/
def isOversized (digits : List Char) : Bool :=
  numeralLimit < digits.length

/-- The least number with more digits than a numeral may have. -/
def numeralBound : Nat := Nat.pow 10 numeralLimit

/-- A number with more digits than a numeral may have. -/
def exceedsNumerals (n : Nat) : Bool :=
  numeralBound ≤ n

/-- The characters without their low lines, which must be single and stand
inside. -/
def ungroup? (chars : List Char) : Option (List Char) :=
  let doubled := (chars.zip (chars.drop 1)).contains ('_', '_')
  if chars.head? = some '_' ∨ chars.getLast? = some '_' ∨ doubled then none
  else some (chars.filter (· != '_'))

theorem isDigit_of_isCommonDigit {c : Char} (common : isCommonDigit c = true) :
    isDigit c = true := by
  simp only [isCommonDigit, Bool.and_eq_true, decide_eq_true_eq] at common
  simp [isDigit, digitValue?, common]

end Skirmish.Text
