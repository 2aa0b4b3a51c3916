import Skirmish.Text.Range
import Skirmish.Value.Strict

/-!
# The loose dialect

Documents of the loose dialect hold printable characters only.  A text may go on
over several lines, which are then joined.  Tabs do not stand between tokens.  A
field's name is close to its colon and on the same line.  A bare number with an
exponent is only a number when it also has a point and a signed exponent.

Integers are converted last, when the whole document was found to be well formed,
those that lie less deep first.

The dialect is the part of the language of such documents in which lists and objects
stand between brackets and integers are written in base ten.  A document in block style,
or one with an integer in another base, is refused as malformed.
-/

namespace Skirmish.Value

/-! ## Characters -/

/-- Carriage returns, with or without a line feed, as line feeds. -/
def unifyBreaks : List Char → List Char
  | '\r' :: '\n' :: rest => '\n' :: unifyBreaks rest
  | '\r' :: rest => '\n' :: unifyBreaks rest
  | c :: rest => c :: unifyBreaks rest
  | [] => []

/-- The ranges of code points that may stand in a document. -/
def admittedRanges : List (Nat × Nat) :=
  [(0x09, 0x0a), (0x0d, 0x0d), (0x20, 0x7e), (0x85, 0x85), (0xa0, 0xd7ff),
    (0xe000, 0xfffd), (0x10000, 0x10ffff)]

/-- A character that ends a line. -/
def isLineBreak (c : Char) : Bool :=
  c == '\n' || c == '\u0085' || c == '\u2028' || c == '\u2029'

/-- A space or a tab. -/
def isPadding (c : Char) : Bool :=
  c == ' ' || c == '\t'

/-- The code point that a line break stands for when it is kept. -/
def keptBreak (c : Char) : Nat :=
  if c == '\u0085' then '\n'.toNat else c.toNat

/-- Three hyphens or points as a word of their own, which separates documents. -/
def startsSeparator : List Char → Bool
  | a :: b :: c :: rest =>
    ([a, b, c] == ['-', '-', '-'] || [a, b, c] == ['.', '.', '.']) &&
      (rest.head?.map fun next => isPadding next || isLineBreak next).getD true
  | _ => false

/-! ## Tokens -/

/-- The joint of two lines of a text: what stands for it when the lines are
neighbours, and what when there are empty lines between them. -/
structure LineJoint where
  alone : List Nat
  behindOthers : List Nat

/-- The joint at a line break.  A plain break between neighbours is a space. -/
def LineJoint.ofBreak (c : Char) : LineJoint :=
  if keptBreak c = '\n'.toNat then ⟨[' '.toNat], []⟩ else ⟨[c.toNat], [c.toNat]⟩

/-- Where the scanner stands: between tokens, in a comment, inside a bare word, or
inside a text.  Within a text it may be among blanks that count only when the line
goes on, at the joint of two lines with the empty lines passed so far, after a
backslash, or among the digits of a code point.  What was read so far is held with
its last part first. -/
inductive LooseState where
  | between
  | inComment
  | inWord (read : List Char) (start : Place)
  | inText (read : List Nat) (start : Place)
  | inBlanks (read blanks : List Nat) (start : Place)
  | atJoint (read : List Nat) (joint : LineJoint) (breaks : List Nat) (start : Place)
  | afterBackslash (read : List Nat) (start : Place)
  | inCodePoint (read : List Nat) (start : Place) (missing point : Nat)

/-- The code point that a backslash and `c` stand for. -/
def looseEscape? (c : Char) : Option Nat :=
  match c with
  | '0' => some 0x00
  | 'a' => some 0x07
  | 'v' => some 0x0b
  | 'e' => some 0x1b
  | ' ' => some 0x20
  | '\t' => some 0x09
  | 'N' => some 0x85
  | '_' => some 0xa0
  | 'L' => some 0x2028
  | 'P' => some 0x2029
  | _ => (escaped? c).map Char.toNat

/-- The number of hexadecimal digits that follow a backslash and `c`. -/
def escapeDigits? (c : Char) : Option Nat :=
  match c with
  | 'x' => some 2
  | 'u' => some 4
  | 'U' => some 8
  | _ => none

namespace LooseState

/-- The word that ends here, if the scanner is inside one. -/
def ended : LooseState → List PlacedToken
  | .inWord read start => [⟨.word read.reverse, start⟩]
  | _ => []

/-- A character outside of texts and comments. -/
def stepOutside (place : Place) (state : LooseState) (c : Char) : ScanStep LooseState :=
  if c = '"' then .go state.ended (.inText [] place)
  else if c = '\t' then .stop .brokenToken
  else if c = ' ' ∨ isLineBreak c ∨ (c = '\ufeff' ∧ place.offset = 0) then
    .go state.ended .between
  else
    match punctuation? c, state with
    | some token, _ => .go (state.ended ++ [⟨token, place⟩]) .between
    | none, .inWord read start => .go [] (.inWord (c :: read) start)
    | none, _ => if c = '#' then .go [] .inComment else .go [] (.inWord [c] place)

/-- A character of a text that neither is a blank nor ends a line. -/
def stepText (read : List Nat) (start : Place) (c : Char) : ScanStep LooseState :=
  if c = '"' then .go [⟨.text read.reverse, start⟩] .between
  else if c = '\\' then .go [] (.afterBackslash read start)
  else .go [] (.inText (c.toNat :: read) start)

/-- The state behind a line break within a text, unless a separator of documents
follows. -/
def startLine (next : LooseState) (rest : List Char) : ScanStep LooseState :=
  if startsSeparator rest then .stop .brokenToken else .go [] next

/-- A character within a text, behind blanks of its line. -/
def stepBlanks (read blanks : List Nat) (start : Place) (c : Char) (rest : List Char) :
    ScanStep LooseState :=
  if isPadding c then .go [] (.inBlanks read (c.toNat :: blanks) start)
  else if isLineBreak c then startLine (.atJoint read (.ofBreak c) [] start) rest
  else stepText (blanks ++ read) start c

def step (place : Place) (state : LooseState) (c : Char) (rest : List Char) :
    ScanStep LooseState :=
  match state with
  | .between | .inWord .. => state.stepOutside place c
  | .inComment => .go [] (if isLineBreak c then .between else .inComment)
  | .inText read start => stepBlanks read [] start c rest
  | .inBlanks read blanks start => stepBlanks read blanks start c rest
  | .atJoint read joint breaks start =>
    if isPadding c then .go [] state
    else if isLineBreak c then
      startLine (.atJoint read joint (keptBreak c :: breaks) start) rest
    else if breaks.isEmpty then stepText (joint.alone ++ read) start c
    else stepText (breaks ++ joint.behindOthers ++ read) start c
  | .afterBackslash read start =>
    if isLineBreak c then startLine (.atJoint read ⟨[], []⟩ [] start) rest
    else
      match escapeDigits? c, looseEscape? c with
      | some digits, _ => .go [] (.inCodePoint read start digits 0)
      | none, some point => .go [] (.inText (point :: read) start)
      | none, none => .stop .brokenToken
  | .inCodePoint read start missing point =>
    match hexValue? c with
    | none => .stop .brokenToken
    | some digit =>
      let point := 16 * point + digit
      if 1 < missing then .go [] (.inCodePoint read start (missing - 1) point)
      else if point < Text.pointBound then .go [] (.inText (point :: read) start)
      else .stop .foreignPoint

def scanner : Scanner LooseState where
  step := step
  finish place
    | .between | .inComment => []
    | .inWord read start => (LooseState.inWord read start).ended
    | _ => [⟨.broken .brokenToken, place⟩]
  endsLine := isLineBreak

end LooseState

/-! ## Words -/

/-- A written number with an exponent counts as a number only with a point and a
signed exponent. -/
def isLooseNumber (number : DecimalText) : Bool :=
  match number.exponent with
  | none => true
  | some (sign, _) => sign.isSome && number.fraction.isSome

/-- A word that is a number in the strict dialect but a text in the loose one. -/
def isTextual (chars : List Char) : Bool :=
  ["NaN", "Infinity", "-Infinity"].contains (String.ofList chars) ||
    ((DecimalText.read? chars).map fun number => !isLooseNumber number).getD false

def looseWord (chars : List Char) : Except Defect Value :=
  if isTextual chars then .ok (.text (String.ofList chars))
  else
    match plainWord? chars with
    | some value => .ok value
    | none => .error .malformed

/-- The most characters between the start of a field's name and its colon. -/
def nameReach : Nat := 1024

def Dialect.loose : Dialect where
  tokens := LooseState.scanner.tokens .between
  word := looseWord
  text points := .ok (.text (Text.ofPoints points))
  deepest := 485
  joins name colon := name.line == colon.line && colon.offset ≤ name.offset + nameReach

/-! ## Integers -/

mutual

/-- The numbers of digits of the oversized integers in a value, each with the depth
at which it lies. -/
def oversizedAt (depth : Nat) : Value → List (Nat × Nat)
  | .int n =>
    if Text.exceedsNumerals n.natAbs then [(depth, (toString n.natAbs).length)] else []
  | .list items => oversizedInItems (depth + 1) items
  | .object fields => oversizedInFields (depth + 1) fields
  | _ => []

def oversizedInItems (depth : Nat) : List Value → List (Nat × Nat)
  | [] => []
  | item :: rest => oversizedAt depth item ++ oversizedInItems depth rest

def oversizedInFields (depth : Nat) : List (String × Value) → List (Nat × Nat)
  | [] => []
  | (_, value) :: rest => oversizedAt depth value ++ oversizedInFields depth rest

end

/-- The first of the entries with the least depth. -/
def shallowest? (found : List (Nat × Nat)) : Option (Nat × Nat) :=
  (found.map (·.1)).min?.bind fun depth => found.find? (·.1 == depth)

/-- The value of a document's characters in the loose dialect; `none` stands for a
document without anything in it. -/
def readLoose (document : String) : Except Defect (Option Value) :=
  let chars := unifyBreaks document.toList
  if !chars.all (Text.inRanges admittedRanges) then .error .foreignCharacter
  else if (Dialect.loose.tokens chars).isEmpty then .ok none
  else
    match Dialect.loose.read chars with
    | .error defect => .error defect
    | .ok value =>
      match shallowest? (oversizedAt 0 value) with
      | some (_, digits) => .error (.oversizedNumeral digits)
      | none => .ok (some value)

end Skirmish.Value
