import Skirmish.Army.State
import Skirmish.Rulebook.Unit

/-!
# Scenarios and settings

A scenario is a stored attack: both units, the weapon, the moment of the battle,
the circumstances, and the rules that each side brings.
-/

namespace Skirmish

/-- The circumstances of an attack. -/
structure Circumstances where
  modelsFiring : Option Int := none
  withinHalfRange : Bool := false
  blastBonusAttacks : Int := 0
  unitHasCharged : Bool := false
  unitRemainedStationary : Bool := false
  userInputs : List (String × String) := []
  deriving DecidableEq, Repr

/-- The moment of the battle, and whose turn it is when that is known. -/
structure Game where
  id : String := "game"
  currentTurn : Int := 1
  currentPhase : Phase := .shooting
  activeArmyId : Option String := none
  deriving DecidableEq, Repr

structure Scenario where
  id : String
  name : String := ""
  attacker : BattleUnit
  defender : BattleUnit
  weapon : Weapon
  game : Game := {}
  circumstances : Circumstances := {}
  attackerRules : List String := []
  defenderRules : List String := []
  armyStates : List ArmyState := []
  deriving DecidableEq, Repr

inductive SeedMode where
  | fixed
  | random
  deriving DecidableEq, Repr

instance : Vocabulary SeedMode where
  all := [.fixed, .random]
  word
    | .fixed => "fixed"
    | .random => "random"

structure Settings where
  seedMode : SeedMode := .fixed
  fixedSeed : Int := 1337
  traceEnabled : Bool := false
  contentFolder : Option String := none
  deriving DecidableEq, Repr

namespace Circumstances

/-- The player's answer to a choice, if it was given. -/
def input? (circumstances : Circumstances) (id : String) : Option String :=
  circumstances.userInputs.lookup id

open Schema in
def read : Value → Checked Circumstances :=
  record fun fields =>
    Circumstances.mk <$> defaulted fields "models_firing" none (optional int)
      <*> defaulted fields "within_half_range" false bool
      <*> defaulted fields "blast_bonus_attacks" 0 int
      <*> defaulted fields "unit_has_charged" false bool
      <*> defaulted fields "unit_remained_stationary" false bool
      <*> defaulted fields "user_inputs" [] (mapping text)

def dump (circumstances : Circumstances) : Value :=
  .object [("models_firing", .optional .int circumstances.modelsFiring),
    ("within_half_range", .bool circumstances.withinHalfRange),
    ("blast_bonus_attacks", .int circumstances.blastBonusAttacks),
    ("unit_has_charged", .bool circumstances.unitHasCharged),
    ("unit_remained_stationary", .bool circumstances.unitRemainedStationary),
    ("user_inputs",
      .object (circumstances.userInputs.map fun (id, answer) => (id, .text answer)))]

end Circumstances

namespace Game

open Schema in
def read : Value → Checked Game :=
  record fun fields =>
    Game.mk <$> defaulted fields "id" "game" text
      <*> defaulted fields "current_turn" 1 int
      <*> defaulted fields "current_phase" .shooting word
      <*> defaulted fields "active_army_id" none (optional text)

def dump (game : Game) : Value :=
  .object [("id", .text game.id), ("current_turn", .int game.currentTurn),
    ("current_phase", .text (Vocabulary.word game.currentPhase)),
    ("active_army_id", .optional .text game.activeArmyId)]

end Game

namespace Scenario

open Schema in
def read : Value → Checked Scenario :=
  record fun fields =>
    Scenario.mk <$> required fields "id" text <*> defaulted fields "name" "" text
      <*> required fields "attacker" BattleUnit.read
      <*> required fields "defender" BattleUnit.read
      <*> required fields "weapon" Weapon.read
      <*> defaulted fields "game" {} Game.read
      <*> defaulted fields "options" {} Circumstances.read
      <*> defaulted fields "attacker_rules" [] (list text)
      <*> defaulted fields "defender_rules" [] (list text)
      <*> defaulted fields "army_states" [] (list ArmyState.read)

def dump (scenario : Scenario) : Value :=
  .object [("id", .text scenario.id), ("name", .text scenario.name),
    ("attacker", scenario.attacker.dump), ("defender", scenario.defender.dump),
    ("weapon", scenario.weapon.dump), ("game", scenario.game.dump),
    ("options", scenario.circumstances.dump),
    ("attacker_rules", .texts scenario.attackerRules),
    ("defender_rules", .texts scenario.defenderRules),
    ("army_states", .list (scenario.armyStates.map ArmyState.dump))]

end Scenario

namespace Settings

open Schema in
def read : Value → Checked Settings :=
  record fun fields =>
    Settings.mk <$> defaulted fields "rng_seed_mode" .fixed word
      <*> defaulted fields "fixed_seed" 1337 int
      <*> defaulted fields "trace_enabled" false bool
      <*> defaulted fields "content_dir" none (optional text)

def dump (settings : Settings) : Value :=
  .object [("rng_seed_mode", .text (Vocabulary.word settings.seedMode)),
    ("fixed_seed", .int settings.fixedSeed),
    ("trace_enabled", .bool settings.traceEnabled),
    ("content_dir", .optional .text settings.contentFolder)]

end Settings

end Skirmish
