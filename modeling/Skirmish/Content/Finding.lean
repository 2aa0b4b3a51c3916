import Skirmish.Content.Catalogue
import Skirmish.Value.Printer

/-!
# Findings

What an inspection of content finds: errors, which make the content unfit, and
warnings about parts that can have no effect.
-/

namespace Skirmish

/-- A finding about content.  Files are named by their paths, records by their
places in a file or their ids. -/
inductive Finding where
  /-- A record does not fit its schema. -/
  | misfit (file : Path) (place : Nat) (violations : List Schema.Violation)
  /-- A characteristic of a weapon is no dice expression. -/
  | malformedDice (file : Path) (field : String) (value : Value)
  /-- A dice expression holds a digit of another script, at a column of the text
  that has a one in the place of every dice letter. -/
  | foreignDigit (file : Path) (field : String) (column : Nat) (probe : String)
  /-- A record has the id of an earlier one of its kind. -/
  | repeatedId (kind : RecordKind) (id : String) (file first : Path)
  /-- Scenarios refer to a rule that is not there. -/
  | missingRule (id : String) (files : List String)
  /-- A rule has a condition that never holds. -/
  | unknownCondition (file : Path) (rule kind : String)
  /-- A rule asks for an army state that no rule and no scenario brings about. -/
  | unrecordedState (file : Path) (rule state : String)
  /-- A rule has an effect that does nothing. -/
  | unknownEffect (file : Path) (rule kind : String)
  /-- No scenario refers to a rule. -/
  | unusedRule (id : String)
  deriving Repr

namespace Finding

/-- The finding makes the content unfit. -/
def isError : Finding → Bool
  | .misfit .. | .malformedDice .. | .foreignDigit .. | .repeatedId .. | .missingRule .. => true
  | .unknownCondition .. | .unrecordedState .. | .unknownEffect .. | .unusedRule _ => false

/-- The integers of the content that the finding shows. -/
def numbers : Finding → List Int
  | .malformedDice _ _ value => value.integers
  | _ => []

/-- What stands in the place of the violations of a record. -/
def misfitText : String := "<validation error>"

def text : Finding → String
  | .misfit file place _ => s!"{file.text}[{place}]: {misfitText}"
  | .malformedDice file field value =>
    s!"{file.text}:{field}: invalid dice expression {value.message} " ++
      "(expected e.g. 2, d6, 2d6, d3+3)"
  | .foreignDigit file field column probe =>
    s!"{file.text}:{field}: invalid dice expression syntax: " ++
      ((Fault.foreignDigit column probe).message?.getD "")
  | .repeatedId kind id file first =>
    s!"Duplicate {kind.singular} id '{id}' in {file.text} (first defined in {first.text})"
  | .missingRule id files =>
    s!"Missing rule id '{id}' referenced from: " ++ ", ".intercalate files
  | .unknownCondition file rule kind =>
    s!"{file.text}: rule '{rule}' has unknown condition kind '{kind}' (always false)"
  | .unrecordedState file rule state =>
    s!"{file.text}: rule '{rule}' checks army state '{state}' that nothing records"
  | .unknownEffect file rule kind =>
    s!"{file.text}: rule '{rule}' has unknown effect kind '{kind}' (ignored)"
  | .unusedRule id => s!"Rule id not used by any scenario: {id}"

def line (finding : Finding) : String :=
  (if finding.isError then "[ERROR] " else "[WARN] ") ++ finding.text

end Finding

end Skirmish
