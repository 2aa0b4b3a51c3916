import Skirmish.Decimal
import Skirmish.Text.Integer
import Skirmish.Value.Reader

/-!
# The strict dialect

Documents of the strict dialect are made of texts between double quotes, numbers
in decimal, three constants and the words for numbers that are not finite.  Two
escaped code units that make up a pair stand for one character; half a pair is
kept.  Saved settings are written in the same dialect, but held to narrower
limits.
-/

namespace Skirmish.Value

/-! ## Tokens -/

/-- Where the scanner stands: between tokens, inside a bare word, inside a text,
after its backslash, or among the four digits of a code unit.  Words and texts
hold what was read so far, the last part first. -/
inductive StrictState where
  | between
  | inWord (read : List Char) (start : Place)
  | inText (read : List Nat) (start : Place)
  | afterBackslash (read : List Nat) (start : Place)
  | inCodeUnit (read : List Nat) (start : Place) (digits unit : Nat)

/-- Code points with code units among them; a leading and a trailing unit side by
side make one code point. -/
def joinUnits : List Nat → List Nat
  | high :: low :: rest =>
    if 0xd800 ≤ high ∧ high < 0xdc00 ∧ 0xdc00 ≤ low ∧ low < 0xe000 then
      (0x10000 + (high - 0xd800) * 0x400 + (low - 0xdc00)) :: joinUnits rest
    else
      high :: joinUnits (low :: rest)
  | points => points

/-- The character that a backslash and `c` stand for. -/
def escaped? (c : Char) : Option Char :=
  match c with
  | '"' => some '"'
  | '\\' => some '\\'
  | '/' => some '/'
  | 'b' => some '\x08'
  | 'f' => some '\x0c'
  | 'n' => some '\n'
  | 'r' => some '\r'
  | 't' => some '\t'
  | _ => none

def isGap (c : Char) : Bool :=
  c == ' ' || c == '\t' || c == '\n' || c == '\r'

namespace StrictState

/-- The word that ends here, if the scanner is inside one. -/
def ended : StrictState → List PlacedToken
  | .inWord read start => [⟨.word read.reverse, start⟩]
  | _ => []

def stepOutside (place : Place) (state : StrictState) (c : Char) : ScanStep StrictState :=
  if c = '"' then .go state.ended (.inText [] place)
  else if isGap c then .go state.ended .between
  else
    match punctuation? c, state with
    | some token, _ => .go (state.ended ++ [⟨token, place⟩]) .between
    | none, .inWord read start => .go [] (.inWord (c :: read) start)
    | none, _ => .go [] (.inWord [c] place)

def step (place : Place) (state : StrictState) (c : Char) : ScanStep StrictState :=
  match state with
  | .between | .inWord .. => state.stepOutside place c
  | .inText read start =>
    if c = '"' then .go [⟨.text (joinUnits read.reverse), start⟩] .between
    else if c = '\\' then .go [] (.afterBackslash read start)
    else if c.toNat < 0x20 then .stop .malformed
    else .go [] (.inText (c.toNat :: read) start)
  | .afterBackslash read start =>
    if c = 'u' then .go [] (.inCodeUnit read start 0 0)
    else
      match escaped? c with
      | some plain => .go [] (.inText (plain.toNat :: read) start)
      | none => .stop .malformed
  | .inCodeUnit read start digits unit =>
    match hexValue? c with
    | none => .stop .malformed
    | some digit =>
      let unit := 16 * unit + digit
      if digits = 3 then .go [] (.inText (unit :: read) start)
      else .go [] (.inCodeUnit read start (digits + 1) unit)

def scanner : Scanner StrictState where
  step place state c _ := state.step place c
  finish place
    | .between => []
    | .inWord read start => (StrictState.inWord read start).ended
    | _ => [⟨.broken .malformed, place⟩]
  endsLine c := c == '\n'

end StrictState

/-! ## Words -/

/-- The number that a bare word spells: no sign but a minus, no superfluous
leading zero, and digits on both sides of a point. -/
def number? (number : DecimalText) : Option Value :=
  let wellFormed :=
    number.sign ≠ some '+' ∧ !number.whole.isEmpty ∧
      (number.whole.length = 1 ∨ number.whole.head? ≠ some '0') ∧
      number.fraction ≠ some []
  if wellFormed then
    match number.fraction, number.exponent with
    | none, none =>
      let magnitude : Int := Text.numeral number.whole
      some (.int (if number.sign = some '-' then -magnitude else magnitude))
    | _, _ => some (.float number.toBinary64)
  else
    none

/-- The value of a word that is a constant or a plain number. -/
def plainWord? (chars : List Char) : Option Value :=
  match String.ofList chars with
  | "null" => some .null
  | "true" => some (.bool true)
  | "false" => some (.bool false)
  | _ => (DecimalText.read? chars).bind number?

/-- A digit, or a sign and a digit, comes first. -/
def startsExponent : List Char → Bool
  | '+' :: c :: _ | '-' :: c :: _ | c :: _ => Text.isCommonDigit c
  | [] => false

/-- The number goes on behind its whole part. -/
def continuesNumber : List Char → Bool
  | '.' :: c :: _ => Text.isCommonDigit c
  | 'e' :: rest | 'E' :: rest => startsExponent rest
  | _ => false

/-- The digits of the integer at the front of a word, whatever follows it. -/
def leadingInteger (chars : List Char) : List Char :=
  let (digits, rest) := DecimalText.splitDigits (Text.splitMinus chars).2
  if digits.head? = some '0' then ['0']
  else if continuesNumber rest then []
  else digits

def strictWord (chars : List Char) : Except Defect Value :=
  let digits := leadingInteger chars
  if Text.isOversized digits then .error (.oversizedNumeral digits.length)
  else
    match String.ofList chars with
    | "NaN" => .ok (.float .nan)
    | "Infinity" => .ok (.float (.infinite false))
    | "-Infinity" => .ok (.float (.infinite true))
    | _ =>
      match plainWord? chars with
      | some value => .ok value
      | none => .error .malformed

/-- The digits of a number's whole part. -/
def wholePart (chars : List Char) : List Char :=
  (Text.splitMinus chars).2.takeWhile Text.isCommonDigit

namespace Dialect

def strict : Dialect where
  tokens := StrictState.scanner.tokens .between
  word := strictWord
  text points := .ok (.text (Text.ofPoints points))
  deepest := 989

/-- The dialect of saved settings: there is no half of a pair, and no number with
more digits in front of its point than a numeral may have. -/
def settings : Dialect where
  tokens := StrictState.scanner.tokens .between
  word chars := if Text.isOversized (wholePart chars) then .error .malformed else strictWord chars
  text points :=
    if points.any Text.isHalf then .error .malformed else .ok (.text (Text.ofPoints points))
  deepest := 200
  emptyIsFlat := true

end Dialect

def readStrict (document : String) : Except Defect Value :=
  Dialect.strict.read document.toList

def readSettings (document : String) : Except Defect Value :=
  Dialect.settings.read document.toList

end Skirmish.Value
