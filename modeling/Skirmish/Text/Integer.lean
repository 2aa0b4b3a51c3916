import Skirmish.Text.Blank
import Skirmish.Text.Digit

/-!
# Integers written as text

A text spells an integer plainly when it is nothing but common digits without a
superfluous zero, perhaps behind a minus.  Any other text gets a second, looser
reading: white space around it and a plus are dropped, then superfluous zeros
with the low lines among them, then a fraction of zeros only, and last the low
lines between digits.  What is left must be plain.  A numeral with too many
digits is told apart from no numeral at all, but only in the plain reading.
-/

namespace Skirmish.Text

/-- What a text says about an integer. -/
inductive IntegerReading where
  | value (n : Int)
  | oversized
  | unreadable
  deriving DecidableEq, Repr

/-- A common digit other than the zero. -/
def isSignificantDigit (c : Char) : Bool :=
  '1' ≤ c && c ≤ '9'

/-- A minus in front of `chars`, and what follows it. -/
def splitMinus : List Char → Bool × List Char
  | '-' :: rest => (true, rest)
  | chars => (false, chars)

/-- The plain reading.  A numeral with too many digits is oversized whatever
follows it. -/
def plainInteger (chars : List Char) : IntegerReading :=
  let (negative, magnitude) := splitMinus chars
  let digits := magnitude.takeWhile isCommonDigit
  if magnitude = ['0'] then .value 0
  else if !(magnitude.head?.map isSignificantDigit).getD false then .unreadable
  else if isOversized digits then .oversized
  else if digits.length < magnitude.length then .unreadable
  else .value (if negative then -(numeral digits : Int) else numeral digits)

/-- The characters from the first one on that is neither a zero nor a low line;
`last` is the one in front of them.  A point keeps the zero in front of it, and a
text of zeros keeps the last one. -/
def dropZeros? (last : Char) : List Char → Option (List Char)
  | [] => some [last]
  | c :: rest =>
    if c = '0' ∨ c = '_' then dropZeros? c rest
    else if isSignificantDigit c ∨ c = '-' then some (c :: rest)
    else if c = '.' then some (last :: c :: rest)
    else none

/-- The characters without superfluous zeros in front.  Only a digit or a minus
may come first. -/
def withoutZeros? : List Char → Option (List Char)
  | [] => none
  | c :: rest =>
    if c = '0' then dropZeros? c rest
    else if isSignificantDigit c ∨ c = '-' then some (c :: rest)
    else none

/-- The characters without a fraction of zeros only. -/
def withoutZeroFraction (chars : List Char) : List Char :=
  let fraction := (chars.dropWhile (· != '.')).drop 1
  if !fraction.isEmpty && fraction.all (· == '0') then chars.takeWhile (· != '.')
  else chars

/-- The plain form that the looser reading makes of characters without a sign. -/
def plainForm? (chars : List Char) : Option (List Char) :=
  (withoutZeros? chars).map fun significant =>
    let whole := withoutZeroFraction significant
    (ungroup? whole).getD whole

/-- The characters that the looser reading takes for a plain numeral. -/
def looseForm? (chars : List Char) : Option (List Char) :=
  match trimBy isWhiteSpace chars with
  | '+' :: '-' :: _ => none
  | '+' :: unsigned => plainForm? unsigned
  | '-' :: unsigned => (plainForm? unsigned).map ('-' :: ·)
  | unsigned => plainForm? unsigned

def readInteger (text : String) : IntegerReading :=
  match plainInteger text.toList with
  | .unreadable =>
    match (looseForm? text.toList).map plainInteger with
    | some (.value n) => .value n
    | _ => .unreadable
  | reading => reading

end Skirmish.Text
