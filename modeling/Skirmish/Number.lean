import Skirmish.Binary64.Digits

/-!
# Numbers

A stat adjustment is an integer of any size or a binary floating number.
Integers stay exact until they meet a floating number; an integer that is too
large to become one stops the calculation.
-/

namespace Skirmish

/-- An integer or a binary floating number. -/
inductive Number where
  | int (n : Int)
  | float (x : Binary64)
  deriving DecidableEq, Repr

namespace Number

/-- The nearest floating number, unless an integer is too large for one. -/
def toFloat? : Number → Option Binary64
  | .int n => Binary64.ofInt? n
  | .float x => some x

/-- The sum, unless an integer is too large to be added to a floating number. -/
def add? : Number → Number → Option Number
  | .int m, .int n => some (.int (m + n))
  | x, y => return .float ((← x.toFloat?).add (← y.toFloat?))

def neg : Number → Number
  | .int n => .int (-n)
  | .float x => .float x.neg

/-- The exact order between numbers of either kind. -/
def lt : Number → Number → Bool
  | .int m, .int n => m < n
  | .float x, .float y => x.lt y
  | .int m, .float x => (exact m).lt x
  | .float x, .int n => x.lt (exact n)
where
  /-- The integer as an unrounded binary number. -/
  exact (n : Int) : Binary64 := .finite (n < 0) n.natAbs 0

/-- The number is above zero. -/
def isPositive (number : Number) : Bool :=
  lt (.int 0) number

/-- The number with an integral floating number replaced by the integer it
equals, unless an integer is too large to be compared with floating numbers. -/
def normalize? : Number → Option Number
  | .int n => (Binary64.ofInt? n).map fun _ => .int n
  | .float x =>
    match x.toInt? with
    | some n => some (.int n)
    | none => some (.float x)

/-- The integer part, unless the number is infinite or `nan`. -/
def truncate? : Number → Option Int
  | .int n => some n
  | .float x => x.truncate?

/-- The written form: the shortest one that reads back. -/
def text : Number → String
  | .int n => toString n
  | .float x => x.text

end Number

end Skirmish
