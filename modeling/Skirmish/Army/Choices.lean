import Skirmish.Army.State
import Skirmish.Rulebook.Rule

/-!
# Choices and reminders over a battle

Which choices a player still has to make, which reminders to show, and which
rules may be used in reaction.
-/

namespace Skirmish

def rulesForPhase (rules : List Rule) (phase : String) : List Rule :=
  rules.filter (·.trigger.includesPhase phase)

/-- The rules without the later ones of each id. -/
def distinctRules (rules : List Rule) : List Rule :=
  go [] rules
where
  /-- The rules whose ids were not seen yet. -/
  go (seen : List String) : List Rule → List Rule
    | [] => []
    | rule :: rest =>
      if seen.contains rule.id then go seen rest
      else rule :: go (rule.id :: seen) rest

/-- The rules of one side for a phase: all rules of the army, and the rules of
the unit that belong to the phase. -/
def sideRules (armyRules unitRules : List Rule) (phase : String) : List Rule :=
  distinctRules (armyRules ++ rulesForPhase unitRules phase)

/-! ## Pending choices -/

def Rule.isStartOfBattle (rule : Rule) : Bool :=
  rule.trigger.phases.contains .startOfBattle

def Rule.isPerTurn (rule : Rule) (choice : Choice) : Bool :=
  (choice.lifetime == .turn || choice.lifetime == .phase) &&
    rule.trigger.limit != .oncePerBattle

/-- The rule offers a choice to its army in the army's own command phase. -/
def Rule.isCommandChoice (rule : Rule) : Bool :=
  rule.scope == .army && !rule.isStartOfBattle &&
    rule.trigger.phases.contains .command && rule.trigger.turn == .own

/-- A choice is open in the command phase of a turn: it has no answer yet, or is
made anew every turn and all its answers are from earlier turns.  A choice made
once per battle is open on the first turn only. -/
def Rule.isOpen (rule : Rule) (choice : Choice) (states : List ArmyState) (turn : Int) :
    Bool :=
  let answers := states.filter fun state => state.state == choice.id && state.hasAnswer
  if rule.trigger.limit == .oncePerBattle then
    turn == 1 && answers.isEmpty
  else
    answers.isEmpty ||
      (rule.isPerTurn choice && answers.all fun state => state.activatedTurn < turn)

/-- The rules whose choices the player still has to make in the command phase of
a turn. -/
def pendingCommandChoices (rules : List Rule) (states : List ArmyState) (turn : Int) :
    List Rule :=
  rules.filter fun rule =>
    match rule.choice? with
    | some choice => rule.isCommandChoice && rule.isOpen choice states turn
    | none => false

def pendingStartOfBattleChoices (rules : List Rule) (states : List ArmyState) :
    List Rule :=
  rules.filter fun rule =>
    match rule.choice? with
    | some choice =>
      rule.isStartOfBattle && (ArmyState.findAnswer? states choice.id).isNone
    | none => false

/-! ## Reminders and reactions -/

/-- A rule for a given turn matches the turn that the caller asks about. -/
def Turn.matches (turn : Turn) (asked : String) : Bool :=
  asked == Vocabulary.word Turn.both || turn == .both || Vocabulary.word turn == asked

/-- No required state is named, or one of those named is live. -/
def meetsRequiredStates (condition : Condition) (states : List ArmyState) : Bool :=
  let required := condition.requiredStates
  required.isEmpty || states.any fun state => required.contains state.state

/-- The reminders for a phase and a turn, one of each id.  With the id of an army
the states are first narrowed to those of the army that are live. -/
def remindersFor (rules : List Rule) (phase turn : String) (states : List ArmyState)
    (armyId : Option String) (currentTurn : Option Int) : List Rule :=
  let states :=
    match armyId.filter (!·.isEmpty) with
    | some armyId => ArmyState.forArmy states armyId currentTurn (some phase)
    | none => states
  distinctRules <| rules.filter fun rule =>
    rule.isReminder && rule.trigger.includesPhase phase &&
      rule.trigger.turn.matches turn && meetsRequiredStates rule.condition states

/-- The rules that may be used in reaction during a phase, one of each id. -/
def reactiveRulesFor (rules : List Rule) (phase : String) : List Rule :=
  distinctRules <| rules.filter fun rule =>
    rule.trigger.kind == .reactive && rule.trigger.includesPhase phase

end Skirmish
