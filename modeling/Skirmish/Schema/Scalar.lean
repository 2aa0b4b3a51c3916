import Skirmish.Decimal
import Skirmish.Number
import Skirmish.Schema.Checked
import Skirmish.Text.Integer
import Skirmish.Value.Basic

/-!
# Reading scalars

Texts are taken as they are.  Integers, floating numbers and truth values are
also read from what can be taken for one without a doubt: an integral floating
number, a truth value, or a text that spells the value.  A text that holds half of
a pair of code units spells nothing.
-/

namespace Skirmish.Schema

/-- The words for an infinite number and for no number, in lower case. -/
def floatWord? (negative : Bool) (word : String) : Option Binary64 :=
  if word = "inf" ∨ word = "infinity" then some (.infinite negative)
  else if word = "nan" then some .nan
  else none

/-- The floating number that trimmed characters spell: decimal, with at least
one digit before the exponent, or a word. -/
def spelledPlainFloat? (chars : List Char) : Option Binary64 :=
  let (sign, unsigned) := DecimalText.splitSign chars
  match floatWord? (sign = some '-') (String.ofList (unsigned.map Char.toLower)) with
  | some x => some x
  | none =>
    (DecimalText.read? chars).bind fun number =>
      if number.whole.isEmpty && (number.fraction.getD []).isEmpty then none
      else some number.toBinary64

/-- The floating number that a text spells.  White space around it is dropped, or
low lines inside it, but not both. -/
def spelledFloat? (text : String) : Option Binary64 :=
  match spelledPlainFloat? (Text.trimBy Text.isWhiteSpace text.toList) with
  | some x => some x
  | none => (Text.ungroup? text.toList).bind spelledPlainFloat?

/-- The bound from which on floating numbers are not taken for integers, and
integers not for truth values. -/
def wordBound : Int := 0x8000000000000000

def text : Value → Checked String
  | .text s => .accepted s
  | _ => .reject .notText

def intOfText (s : String) : Checked Int :=
  if Text.holdsHalf s then .reject .brokenText
  else
    match Text.readInteger s with
    | .value n => .accepted n
    | .oversized => .reject .oversizedInt
    | .unreadable => .reject .unreadableInt

def int : Value → Checked Int
  | .int n => .accepted n
  | .bool b => .accepted (if b then 1 else 0)
  | .float x =>
    match x, x.toInt? with
    | .finite .., some n =>
      if -wordBound < n ∧ n < wordBound then .accepted n
      else .reject .oversizedInt
    | .finite .., none => .reject .fractionalInt
    | _, _ => .reject .notFinite
  | .text s => intOfText s
  | _ => .reject .notInt

def intFrom (low : Int) (value : Value) : Checked Int :=
  (int value).ensure fun n => if n < low then some .tooSmall else none

def intBetween (low high : Int) (value : Value) : Checked Int :=
  (int value).ensure fun n =>
    if n < low then some .tooSmall else if high < n then some .tooLarge else none

/-- The texts that are read as a truth value, in lower case. -/
def spelledBool? (text : String) : Option Bool :=
  let word := String.ofList (text.toList.map Char.toLower)
  if ["1", "on", "t", "true", "y", "yes"].contains word then some true
  else if ["0", "off", "f", "false", "n", "no"].contains word then some false
  else none

def boolOfInt (n : Int) : Checked Bool :=
  if n = 0 then .accepted false
  else if n = 1 then .accepted true
  else .reject .unreadableBool

def boolOfText (s : String) : Checked Bool :=
  if Text.holdsHalf s then .reject .brokenText
  else
    match spelledBool? s with
    | some b => .accepted b
    | none => .reject .unreadableBool

def bool : Value → Checked Bool
  | .bool b => .accepted b
  | .int n =>
    if -wordBound ≤ n ∧ n < wordBound then boolOfInt n else .reject .notBool
  | .float x =>
    match x.toInt? with
    | some n => if -wordBound < n ∧ n < wordBound then boolOfInt n else .reject .notBool
    | none => .reject .notBool
  | .text s => boolOfText s
  | _ => .reject .notBool

/-- Both alternatives of a number failed, each for a reason of its own. -/
def rejectNumber (asInt asFloat : Problem) : Checked Number :=
  .rejected [⟨[.name "int"], asInt⟩, ⟨[.name "float"], asFloat⟩]

/-- The number that a text spells: an integer if it spells one, a floating number
otherwise. -/
def numberOfText (s : String) : Checked Number :=
  if Text.holdsHalf s then rejectNumber .brokenText .brokenText
  else
    match Text.readInteger s, spelledFloat? s with
    | .value n, _ => .accepted (.int n)
    | _, some x => .accepted (.float x)
    | .oversized, none => rejectNumber .oversizedInt .unreadableFloat
    | .unreadable, none => rejectNumber .unreadableInt .unreadableFloat

/-- A number: an integer if it can be one, a floating number otherwise.  A
floating number stays one even when it is integral. -/
def number : Value → Checked Number
  | .int n => .accepted (.int n)
  | .float x => .accepted (.float x)
  | .bool b => .accepted (.int (if b then 1 else 0))
  | .text s => numberOfText s
  | _ => rejectNumber .notInt .notFloat

end Skirmish.Schema
