import Skirmish.Army.State
import Skirmish.Dice.Table
import Skirmish.Rulebook.Keywords
import Skirmish.Rulebook.Scenario

/-!
# The view of one side

A combat is seen from one role at a time.  The view holds what does not change
while the side's rules are evaluated; the board holds what they write: the
ledger, the abilities granted through it, and the trace.
-/

namespace Skirmish

/-- What one side sees of a combat. -/
structure View where
  attacker : BattleUnit
  defender : BattleUnit
  weapon : Weapon
  game : Game
  circumstances : Circumstances
  role : Role
  armyStates : List ArmyState

/-- What the rules of one side have written so far. -/
structure Board where
  ledger : Ledger := .empty
  granted : List Ability := []
  trace : Trace := none

/-- A combat before it is seen from either side. -/
structure Encounter where
  attacker : BattleUnit
  defender : BattleUnit
  weapon : Weapon
  game : Game := {}
  circumstances : Circumstances := {}
  armyStates : List ArmyState := []

namespace View

def ownUnit (view : View) : BattleUnit :=
  match view.role with
  | .attacker => view.attacker
  | .defender => view.defender

def opposingUnit (view : View) : BattleUnit :=
  match view.role with
  | .attacker => view.defender
  | .defender => view.attacker

end View

namespace Encounter

def unitOf (encounter : Encounter) : Role → BattleUnit
  | .attacker => encounter.attacker
  | .defender => encounter.defender

/-- The view of a role.  Of the army states it keeps those of the role's own army
that are live at the moment of the combat. -/
def view (encounter : Encounter) (role : Role) : View where
  attacker := encounter.attacker
  defender := encounter.defender
  weapon := encounter.weapon
  game := encounter.game
  circumstances := encounter.circumstances
  role := role
  armyStates :=
    ArmyState.forArmy encounter.armyStates (encounter.unitOf role).armyId
      (some encounter.game.currentTurn)
      (some (Vocabulary.word encounter.game.currentPhase))

end Encounter

def View.opening (view : View) : String :=
  let unit := view.ownUnit
  let shown := if unit.name.isEmpty then unit.id else unit.name
  s!"{Vocabulary.word view.role} view: {shown} ({view.armyStates.length} live army states)"

/-- An empty board for a view, whose opening is noted in the trace. -/
def View.board (view : View) (trace : Trace) : Board :=
  { trace := trace.note "Context" view.opening }

namespace Board

def grantedUnder (board : Board) (stat : String) : List Ability :=
  board.granted.filter (·.stat == stat)

def keywords (board : Board) (view : View) : Except Fault Keywords :=
  Keywords.effective view.weapon.keywords board.ledger board.granted

def note (board : Board) (tag message : String) : Board :=
  { board with trace := board.trace.note tag message }

end Board

end Skirmish
