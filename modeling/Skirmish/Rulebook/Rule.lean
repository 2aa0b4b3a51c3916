import Skirmish.Rulebook.Effect
import Skirmish.Text.Quoted

/-!
# Rules

A rule belongs to a scope and is triggered in certain phases.  When its
condition holds it does its work at once, or asks its player for a choice among
options, or only reminds the player of itself.
-/

namespace Skirmish

inductive Scope where
  | weapon
  | model
  | unit
  | detachment
  | army
  deriving DecidableEq, Repr

instance : Vocabulary Scope where
  all := [.weapon, .model, .unit, .detachment, .army]
  word
    | .weapon => "weapon"
    | .model => "model"
    | .unit => "unit"
    | .detachment => "detachment"
    | .army => "army"

/-- How a rule comes into play. -/
inductive TriggerKind where
  | automatic
  | manual
  | reactive
  deriving DecidableEq, Repr

instance : Vocabulary TriggerKind where
  all := [.automatic, .manual, .reactive]
  word
    | .automatic => "automatic"
    | .manual => "manual"
    | .reactive => "reactive"

inductive Limit where
  | none
  | oncePerTurn
  | oncePerBattle
  deriving DecidableEq, Repr

instance : Vocabulary Limit where
  all := [.none, .oncePerTurn, .oncePerBattle]
  word
    | .none => "none"
    | .oncePerTurn => "once-per-turn"
    | .oncePerBattle => "once-per-battle"

/-- How long the answer to a choice lasts. -/
inductive Lifetime where
  | roll
  | phase
  | turn
  | game
  deriving DecidableEq, Repr

instance : Vocabulary Lifetime where
  all := [.roll, .phase, .turn, .game]
  word
    | .roll => "roll"
    | .phase => "phase"
    | .turn => "turn"
    | .game => "game"

/-- The phases of a trigger: one phase, or a list of them. -/
inductive TriggerPhases where
  | one (phase : Phase)
  | several (phases : List Phase)
  deriving DecidableEq, Repr

/-- When a rule comes into play. -/
structure Trigger where
  kind : TriggerKind := .automatic
  phase : TriggerPhases := .one .any
  turn : Turn := .both
  limit : Limit := .none
  deriving DecidableEq, Repr

structure ChoiceOption where
  value : String
  label : String
  blocks : List Block := []
  deriving Repr

structure Choice where
  id : String
  prompt : String
  lifetime : Lifetime := .game
  options : List ChoiceOption
  deriving Repr

/-- What a rule does when its condition holds. -/
inductive RuleBody where
  | passive (blocks : List Block)
  | choice (choice : Choice)
  | reminder
  deriving Repr

structure Rule where
  id : String
  name : String
  description : String := ""
  faction : String := ""
  scope : Scope := .unit
  trigger : Trigger := {}
  condition : Condition := .always
  body : RuleBody
  deriving Repr

namespace Trigger

def phases (trigger : Trigger) : List Phase :=
  match trigger.phase with
  | .one phase => [phase]
  | .several phases => phases

/-- The rule comes into play in the phase named by `word`. -/
def includesPhase (trigger : Trigger) (word : String) : Bool :=
  trigger.phases.any fun phase => Vocabulary.word phase == word || phase == .any

open Schema in
/-- Read the phases of a trigger: one of them, or a list. -/
def readPhases (value : Value) : Checked TriggerPhases :=
  let literal := "literal[" ++ ",".intercalate ((Vocabulary.words Phase).map Text.quoted) ++ "]"
  Checked.either literal ("list[" ++ literal ++ "]")
    (.one <$> word value) (.several <$> list word value)

open Schema in
def read : Value → Checked Trigger :=
  record fun fields =>
    Trigger.mk <$> defaulted fields "t" .automatic word
      <*> defaulted fields "phase" (.one .any) readPhases
      <*> defaulted fields "turn" .both word
      <*> defaulted fields "limit" .none word

def dump (trigger : Trigger) : Value :=
  let phase : Value :=
    match trigger.phase with
    | .one phase => .text (Vocabulary.word phase)
    | .several phases => .texts (phases.map Vocabulary.word)
  .object [("t", .text (Vocabulary.word trigger.kind)), ("phase", phase),
    ("turn", .text (Vocabulary.word trigger.turn)),
    ("limit", .text (Vocabulary.word trigger.limit))]

end Trigger

namespace ChoiceOption

open Schema in
def read : Value → Checked ChoiceOption :=
  record fun fields =>
    ChoiceOption.mk <$> required fields "v" text <*> required fields "label" text
      <*> defaulted fields "then" [] Block.readList

def dump (option : ChoiceOption) : Value :=
  .object [("v", .text option.value), ("label", .text option.label),
    ("then", .list (Block.dumpAll option.blocks))]

end ChoiceOption

namespace Choice

/-- The first value that a list of options offers a second time. -/
def repeatedValue? (seen : List String) : List ChoiceOption → Option String
  | [] => none
  | option :: rest =>
    if seen.contains option.value then some option.value
    else repeatedValue? (option.value :: seen) rest

def optionFor? (choice : Choice) (value : String) : Option ChoiceOption :=
  choice.options.find? (·.value == value)

open Schema in
def readLifetime : Value → Checked Lifetime :=
  record fun fields => defaulted fields "t" .game word

open Schema in
/-- Read a choice, whose options must have different values. -/
def read : Value → Checked Choice :=
  record fun fields =>
    Checked.ensure
      (fun choice =>
        (repeatedValue? [] choice.options).map fun value =>
          .inconsistent s!"choice '{choice.id}' has duplicate option value '{value}'")
      (Choice.mk <$> required fields "id" text <*> required fields "prompt" text
        <*> defaulted fields "lifetime" .game readLifetime
        <*> required fields "options" (listOfSome ChoiceOption.read))

def dump (choice : Choice) : Value :=
  .object [("id", .text choice.id), ("prompt", .text choice.prompt),
    ("lifetime", .object [("t", .text (Vocabulary.word choice.lifetime))]),
    ("options", .list (choice.options.map ChoiceOption.dump))]

end Choice

namespace RuleBody

def kind : RuleBody → String
  | .passive _ => "passive"
  | .choice _ => "choice"
  | .reminder => "reminder"

open Schema in
def shape? (kind : String) : Option (Fields → Checked RuleBody) :=
  match kind with
  | "passive" => some fun fields => .passive <$> required fields "then" Block.readSome
  | "choice" => some fun fields => .choice <$> required fields "choice" Choice.read
  | "reminder" => some fun _ => pure .reminder
  | _ => none

def dumpFields : RuleBody → Fields
  | .passive blocks => [("then", .list (Block.dumpAll blocks))]
  | .choice question => [("choice", question.dump)]
  | .reminder => []

end RuleBody

namespace Rule

def choice? (rule : Rule) : Option Choice :=
  match rule.body with
  | .choice choice => some choice
  | _ => none

def isReminder (rule : Rule) : Bool :=
  match rule.body with
  | .reminder => true
  | _ => false

/-- The blocks that the rule may perform: its own, or those of every option. -/
def blocks (rule : Rule) : List Block :=
  match rule.body with
  | .passive blocks => blocks
  | .choice choice => choice.options.flatMap (·.blocks)
  | .reminder => []

open Schema in
/-- Read a rule, whose kind is the field `kind`. -/
def read : Value → Checked Rule :=
  tagged "kind" fun kind =>
    (RuleBody.shape? kind).map fun body fields =>
      Rule.mk <$> required fields "id" text <*> required fields "name" text
        <*> defaulted fields "description" "" text
        <*> defaulted fields "faction" "" text
        <*> defaulted fields "scope" .unit word
        <*> defaulted fields "trigger" {} Trigger.read
        <*> defaulted fields "when" .always Condition.read
        <*> body fields

def dump (rule : Rule) : Value :=
  .object ([("id", .text rule.id), ("name", .text rule.name),
    ("description", .text rule.description), ("faction", .text rule.faction),
    ("scope", .text (Vocabulary.word rule.scope)), ("trigger", rule.trigger.dump),
    ("when", rule.condition.dump), ("kind", .text rule.body.kind)] ++ rule.body.dumpFields)

end Rule

end Skirmish
