import Skirmish.Rulebook.Phase
import Skirmish.Schema.Field

/-!
# Army states

During a battle an army enters states: a doctrine is active, an oath has been
sworn against a unit.  A state is live from the turn of its activation on, until
the end of the phase in which it expires, if there is one.
-/

namespace Skirmish

/-- A state of an army.  A state that answers a choice carries the value
chosen. -/
structure ArmyState where
  id : String
  armyId : String
  state : String
  activatedTurn : Int := 1
  choiceValue : Option String := none
  targetUnitId : Option String := none
  expiresPhase : Option Phase := none
  expiresTurn : Option Int := none
  deriving DecidableEq, Repr

namespace ArmyState

open Schema in
def read : Value → Checked ArmyState :=
  record fun fields =>
    ArmyState.mk <$> required fields "id" text <*> required fields "army_id" text
      <*> required fields "state" text
      <*> defaulted fields "activated_turn" 1 int
      <*> defaulted fields "choice_value" none (optional text)
      <*> defaulted fields "target_unit_id" none (optional text)
      <*> defaulted fields "expires_phase" none (optional word)
      <*> defaulted fields "expires_turn" none (optional int)

def dump (state : ArmyState) : Value :=
  .object [("id", .text state.id), ("army_id", .text state.armyId),
    ("state", .text state.state), ("activated_turn", .int state.activatedTurn),
    ("choice_value", .optional .text state.choiceValue),
    ("target_unit_id", .optional .text state.targetUnitId),
    ("expires_phase", .optional (fun phase => .text (Vocabulary.word phase)) state.expiresPhase),
    ("expires_turn", .optional .int state.expiresTurn)]

/-- The value chosen, unless it is missing or empty. -/
def answer? (state : ArmyState) : Option String :=
  state.choiceValue.filter (!·.isEmpty)

def hasAnswer (state : ArmyState) : Bool :=
  state.answer?.isSome

/-- The state is live in a turn and a phase; without a phase, any moment of the
turn counts up to its end. -/
def isLive (state : ArmyState) (turn : Int) (phase : Option String) : Bool :=
  if turn < state.activatedTurn then
    false
  else
    match state.expiresPhase with
    | none => true
    | some expiry =>
      let lastTurn := state.expiresTurn.getD state.activatedTurn
      if turn < lastTurn then true
      else if lastTurn < turn then false
      else
        match phase with
        | none => true
        | some phase => phaseIndex phase ≤ expiry.index

/-- The states of one army, narrowed to those live at a given moment.  An army
without an id has no states. -/
def forArmy (states : List ArmyState) (armyId : String) (turn : Option Int)
    (phase : Option String) : List ArmyState :=
  if armyId.isEmpty then
    []
  else
    let own := states.filter (·.armyId == armyId)
    match turn with
    | none => own
    | some turn => own.filter (·.isLive turn phase)

/-- The later of the best answer so far and a further state: a state wins when it
answers the choice and was not activated before the best one. -/
def laterAnswer (choiceId : String) (best : Option ArmyState) (state : ArmyState) :
    Option ArmyState :=
  if state.state = choiceId && state.hasAnswer &&
      (best.all fun best => best.activatedTurn ≤ state.activatedTurn) then
    some state
  else
    best

/-- The answer recorded for a choice: the latest one by turn, and the last one in
the list among those of a turn. -/
def findAnswer? (states : List ArmyState) (choiceId : String) : Option String :=
  (states.foldl (laterAnswer choiceId) none).bind (·.answer?)

end ArmyState

end Skirmish
