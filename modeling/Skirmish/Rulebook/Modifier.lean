import Skirmish.Rulebook.Effect
import Skirmish.Text.Quoted
import Skirmish.Text.Word

/-!
# Modifiers

A modifier adjusts one stat on behalf of one source.  The stat is a
characteristic, a derived roll, a grant of a keyword or an ability, or a grant
of a reroll.
-/

namespace Skirmish

/-- How a modifier changes the value it meets. -/
inductive Operation where
  | add
  | subtract
  | set
  | clampMin
  | clampMax
  deriving DecidableEq, Repr

instance : Vocabulary Operation where
  all := [.add, .subtract, .set, .clampMin, .clampMax]
  word
    | .add => "add"
    | .subtract => "subtract"
    | .set => "set"
    | .clampMin => "clamp-min"
    | .clampMax => "clamp-max"

/-- An adjustment of one stat by one source. -/
structure Modifier where
  source : String
  stat : String
  value : Number
  operation : Operation := .add
  priority : Int := 0
  deriving DecidableEq, Repr

/-! ## Stat keys -/

/-- The characteristics and derived rolls, in alphabetical order, capitals
first. -/
def plainStats : List String :=
  ["A", "AP", "D", "FNP", "INV", "M", "S", "SV", "T", "W", "WS",
    "critHit", "critWound", "hit", "wound"]

/-- The beginnings of the stats that grant a keyword or an ability. -/
def grantBeginnings : List String :=
  ["keyword:", "weaponAbility:", "unitAbility:"]

/-- A grant's name: a common letter or digit, then word characters, hyphens and
spaces.  A line break may end it. -/
def isGrantName : List Char → Bool
  | [] => false
  | c :: rest =>
    let rest := if rest.getLast? = some '\n' then rest.dropLast else rest
    c.isAlphanum && rest.all fun c => Text.isWord c || c == '-' || c == ' '

def rerollStats : List String :=
  (Vocabulary.words RerollPhase).flatMap fun phase =>
    (Vocabulary.words RerollKind).map fun kind => s!"reroll:{phase}:{kind}"

/-- The text is a stat that modifiers may adjust. -/
def isStatKey (stat : String) : Bool :=
  plainStats.contains stat ||
    grantBeginnings.any (fun start =>
      start.toList.isPrefixOf stat.toList && isGrantName (stat.toList.drop start.length)) ||
    rerollStats.any fun key => stat == key || stat == key ++ "\n"

namespace Modifier

def complaints (modifier : Modifier) : List String :=
  let listed := "[" ++ ", ".intercalate (plainStats.map Text.quoted) ++ "]"
  (if isStatKey modifier.stat then []
    else [s!"stat key '{modifier.stat}' not allowed; use one of {listed} " ++
      "or keyword:/weaponAbility:/unitAbility:/reroll:<phase>:<kind>"]) ++
  (if "reroll:".toList.isPrefixOf modifier.stat.toList && modifier.operation != .set then
    ["reroll grants only support operation 'set'"] else [])

def problem? (modifier : Modifier) : Option Schema.Problem :=
  match modifier.complaints with
  | [] => none
  | complaints => some (.inconsistent ("; ".intercalate complaints))

/-- The check of a modifier as a whole, once its fields are read. -/
def checked (modifier : Schema.Checked Modifier) : Schema.Checked Modifier :=
  modifier.ensure problem?

open Schema in
def read : Value → Checked Modifier :=
  record fun fields =>
    checked
      (Modifier.mk <$> required fields "source" text <*> required fields "stat" text
        <*> required fields "value" number
        <*> defaulted fields "operation" .add word
        <*> defaulted fields "priority" 0 int)

def dumpNumber : Number → Value
  | .int n => .int n
  | .float x => .float x

def dump (modifier : Modifier) : Value :=
  .object [("source", .text modifier.source), ("stat", .text modifier.stat),
    ("value", dumpNumber modifier.value),
    ("operation", .text (Vocabulary.word modifier.operation)),
    ("priority", .int modifier.priority)]

/-- What the modifier contributes to a sum.  Only additions and subtractions
contribute; the others contribute a floating zero. -/
def signedValue (modifier : Modifier) : Number :=
  match modifier.operation with
  | .add => modifier.value
  | .subtract => modifier.value.neg
  | .set | .clampMin | .clampMax => .float (.zero false)

end Modifier

end Skirmish
