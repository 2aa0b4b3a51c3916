import Skirmish.Schema.Checked
import Skirmish.Text.Digit
import Skirmish.Text.Quoted

/-!
# Faults

What stops a calculation.  Each fault is a cause; its wording, where it has one,
is given by one function.
-/

namespace Skirmish

inductive RecordKind where
  | rule
  | stratagem
  | scenario
  deriving DecidableEq, Repr

/-- The kinds of record, in the order in which they are read. -/
def RecordKind.all : List RecordKind :=
  [.rule, .stratagem, .scenario]

def RecordKind.singular : RecordKind → String
  | .rule => "rule"
  | .stratagem => "stratagem"
  | .scenario => "scenario"

def RecordKind.folder : RecordKind → String
  | .rule => "rules"
  | .stratagem => "stratagems"
  | .scenario => "scenarios"

/-- A cause that stops a calculation. -/
inductive Fault where
  /-- A value does not fit its schema. -/
  | violations (violations : List Schema.Violation)
  /-- A list or an object stands in the place of a node's kind. -/
  | unusableKind
  /-- A text that is to be written holds half of a pair of code units. -/
  | unwritable
  /-- What messages show as given is no dice expression. -/
  | malformedDice (shown : String)
  /-- A dice expression has a die without sides. -/
  | dieSize (expression : String)
  /-- The settled text of a dice expression holds a digit of another script. -/
  | foreignDigit (column : Nat) (settled : String)
  /-- A die was asked for and there is none. -/
  | outOfDice
  /-- An integer is too large for a floating number. -/
  | tooLarge
  /-- The conditions of an unknown effect are neither a list nor nothing. -/
  | notIterable
  /-- An unknown effect holds a condition that no schema was applied to. -/
  | rawCondition
  /-- There is no record with a given id. -/
  | missingId (id : String)
  /-- There are no rules with some of the given ids. -/
  | missingRules (ids : List String)
  /-- Two records of one kind have the same id. -/
  | duplicate (kind : RecordKind) (id file : String)
  /-- The tokens of a document of the strict dialect do not make up a value. -/
  | unreadableDocument
  /-- The tokens of a document of the loose dialect do not make up a value. -/
  | unreadableLooseDocument
  /-- Some characters of a document of the loose dialect do not make up a token. -/
  | unreadableToken
  /-- A document of the loose dialect holds a character that it may not hold. -/
  | unreadableCharacter
  /-- A document of the loose dialect names a code point beyond the last one. -/
  | foreignPoint
  /-- The lists and objects of a document lie too deep within one another. -/
  | deepDocument
  /-- A written integer has so many digits, more than a numeral may have. -/
  | oversizedNumeral (digits : Nat)
  /-- An integer would have more digits than a numeral may have. -/
  | oversizedInteger
  /-- A floating number that is no number stands for an integer. -/
  | notANumber
  /-- There is no file under a given path. -/
  | missingFile
  /-- A file stands where a folder is needed. -/
  | notAFolder
  /-- A folder stands where a file is needed. -/
  | isAFolder
  /-- A file stands where a folder is to be made. -/
  | occupied
  /-- A path, or a name in it, takes more bytes than it may take. -/
  | longPath
  /-- A path holds the character with the code point zero. -/
  | voidInPath
  deriving DecidableEq, Repr

/-- How a numeral with too many digits is complained about; `found` tells what was
found. -/
def oversizedText (found : String) : String :=
  s!"Exceeds the limit ({Text.numeralLimit} digits) for integer string conversion" ++
    found ++ "; use sys.set_int_max_str_digits() to increase the limit"

def Fault.message? : Fault → Option String
  | .malformedDice shown => some ("Invalid dice expression: " ++ shown)
  | .dieSize expression => some ("Invalid die size in " ++ Text.quoted expression)
  | .foreignDigit column settled =>
    some s!"parse error [column {column}]: unknown character, expression: {settled}"
  | .missingId id => some id
  | .missingRules ids => some ("Unknown rule id(s): " ++ ", ".intercalate ids)
  | .duplicate kind id file => some s!"Duplicate {kind.singular} id {id} in {file}"
  | .oversizedNumeral digits => some (oversizedText s!": value has {digits} digits")
  | .oversizedInteger => some (oversizedText "")
  | .notANumber => some "cannot convert float NaN to integer"
  | .foreignPoint => some "chr() arg not in range(0x110000)"
  | .voidInPath => some "embedded null byte"
  | .violations _ | .unusableKind | .unwritable | .outOfDice | .tooLarge | .notIterable
  | .rawCondition | .unreadableDocument | .unreadableLooseDocument | .unreadableToken
  | .unreadableCharacter | .deepDocument | .missingFile | .notAFolder | .isAFolder
  | .occupied | .longPath => none

/-- The fault lies in a number or an expression, and a fallback may take its
place. -/
def Fault.allowsFallback : Fault → Bool
  | .malformedDice _ | .dieSize _ | .oversizedNumeral _ | .oversizedInteger
  | .notANumber => true
  | _ => false

/-- The number that digits spell, unless they are more than a numeral may have. -/
def readNumeral (digits : List Char) : Except Fault Nat :=
  if Text.isOversized digits then .error (.oversizedNumeral digits.length)
  else .ok (Text.numeral digits)

/-- Numbers that are to be written; one with more digits than a numeral may have
cannot be. -/
def writable (numbers : List Int) : Except Fault Unit :=
  if numbers.any (Text.exceedsNumerals ·.natAbs) then .error .oversizedInteger else .ok ()

def Schema.Obstacle.fault : Schema.Obstacle → Fault
  | .unusableKind => .unusableKind
  | .unwritable => .unwritable

/-- The outcome of reading a value, as a calculation that may stop. -/
def Schema.Checked.orFault {α : Type} : Schema.Checked α → Except Fault α
  | .accepted value => .ok value
  | .rejected violations => .error (.violations violations)
  | .stopped obstacle => .error obstacle.fault

end Skirmish
