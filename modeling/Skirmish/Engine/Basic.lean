import Skirmish.Army.Choices
import Skirmish.Combat.Attack
import Skirmish.Content.Bundled.Documents
import Skirmish.Dice.Twister

/-!
# The engine

The engine resolves attacks with the rules of a catalogue.  Rules are referred to
by their ids or given themselves.  Rules of an army or of a detachment always ride
along; the others count in the phase in which the weapon is used.
-/

namespace Skirmish

/-- A catalogue with the settings under which it is used. -/
structure Engine where
  settings : Settings := {}
  catalogue : Catalogue := {}

inductive RuleReference where
  | id (id : String)
  | rule (rule : Rule)

def Scenario.encounter (scenario : Scenario) : Encounter where
  attacker := scenario.attacker
  defender := scenario.defender
  weapon := scenario.weapon
  game := scenario.game
  circumstances := scenario.circumstances
  armyStates := scenario.armyStates

def Rule.isArmyWide (rule : Rule) : Bool :=
  rule.scope == .army || rule.scope == .detachment

namespace Settings

def contentPath? (settings : Settings) : Option Path :=
  (settings.contentFolder.filter (!·.isEmpty)).map Path.ofText

/-- The seed of the dice; `fresh` is used when it is not fixed. -/
def seed (settings : Settings) (fresh : Int) : Int :=
  match settings.seedMode with
  | .fixed => settings.fixedSeed
  | .random => fresh

end Settings

namespace Engine

/-- The engine for a content folder: the one that is named, or the one that the
settings name, or the bundled content. -/
def start (settings : Settings) (folder : Folder) (named : Option Path) :
    Except Fault Engine := do
  let catalogue ←
    match named.or settings.contentPath? with
    | some base => Catalogue.load (← folder.documents base) base
    | none => Catalogue.load Bundled.documents Bundled.base
  return { settings, catalogue }

/-- The trace of an attack, if one is asked for or the settings want one. -/
def newTrace (engine : Engine) (traced : Bool) : Trace :=
  if traced || engine.settings.traceEnabled then some [] else none

def rule (engine : Engine) : RuleReference → Except Fault Rule
  | .id id => engine.catalogue.rule id
  | .rule given => .ok given

def rules (engine : Engine) (references : List RuleReference) : Except Fault (List Rule) :=
  references.mapM engine.rule

def sideRules (engine : Engine) (references : List RuleReference) (weapon : Weapon) :
    Except Fault (List Rule) := do
  let rules ← engine.rules references
  return Skirmish.sideRules (rules.filter Rule.isArmyWide) (rules.filter (!Rule.isArmyWide ·))
    (Vocabulary.word weapon.combatPhase)

section Attacks

variable {σ : Type} [DiceSource σ]

def resolveAttack (engine : Engine) (encounter : Encounter)
    (attackerRules defenderRules : List RuleReference) (traced : Bool) :
    Roll σ AttackResult := do
  let attackerRules ← (engine.sideRules attackerRules encounter.weapon : Except Fault _)
  let defenderRules ← (engine.sideRules defenderRules encounter.weapon : Except Fault _)
  modify fun table => { table with trace := engine.newTrace traced }
  Skirmish.resolveAttack encounter attackerRules defenderRules

def runScenario (engine : Engine) (scenario : Scenario) (traced : Bool) :
    Roll σ AttackResult :=
  engine.resolveAttack scenario.encounter (scenario.attackerRules.map .id)
    (scenario.defenderRules.map .id) traced

end Attacks

/-! ## Choices -/

def pendingCommandChoices (engine : Engine) (armyId : String)
    (references : List RuleReference) (states : List ArmyState) (turn : Int) :
    Except Fault (List Rule) := do
  return Skirmish.pendingCommandChoices (← engine.rules references)
    (ArmyState.forArmy states armyId none none) turn

def pendingStartOfBattleChoices (engine : Engine) (armyId : String)
    (references : List RuleReference) (states : List ArmyState) :
    Except Fault (List Rule) := do
  return Skirmish.pendingStartOfBattleChoices (← engine.rules references)
    (ArmyState.forArmy states armyId none none)

/-! ## Stratagems -/

def stratagems (engine : Engine) (faction detachment : Option String) : List Stratagem :=
  Stratagem.available engine.catalogue.stratagems faction detachment

def usableStratagems (engine : Engine) (faction detachment : Option String)
    (phase : String) (ownTurn : Bool) (round : Option Int) : List Stratagem :=
  Stratagem.usable engine.catalogue.stratagems faction detachment phase ownTurn round

def stratagemDrawer (engine : Engine) (faction detachment : Option String)
    (ownTurn : Bool) : List (Stratagem × Bool) :=
  Stratagem.drawer (engine.stratagems faction detachment) ownTurn

end Engine

end Skirmish
