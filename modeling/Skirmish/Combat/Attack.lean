import Skirmish.Combat.Numbers
import Skirmish.Volley.Phases

/-!
# Resolving an attack

An attack is prepared by the rules of both sides and then goes through the
phases of a volley.  Its result holds the log of every phase, a summary, and what
the rules did.
-/

namespace Skirmish

/-- The numbers of an attack from one end to the other. -/
structure Summary where
  attacks : Int
  hits : Int
  wounds : Int
  unsaved : Int
  damage : Int
  damageAfterFeelNoPain : Int
  damageApplied : Int
  modelsDestroyed : Int
  deriving DecidableEq, Repr

/-- The numbers of a summary by name, in order. -/
def Summary.items (summary : Summary) : List (String × Int) :=
  [("attacks", summary.attacks), ("hits", summary.hits), ("wounds", summary.wounds),
    ("unsaved", summary.unsaved), ("damage", summary.damage),
    ("damage_after_fnp", summary.damageAfterFeelNoPain),
    ("damage_applied", summary.damageApplied),
    ("models_destroyed", summary.modelsDestroyed)]

def Summary.text (summary : Summary) : String :=
  ", ".intercalate (summary.items.map fun (name, n) => s!"{name}={n}")

structure AttackResult where
  attacks : PhaseLog
  hits : PhaseLog
  wounds : PhaseLog
  saves : PhaseLog
  damage : PhaseLog
  feelNoPain : PhaseLog
  summary : Summary
  modifiedWeapon : Weapon
  activeKeywords : List String
  appliedRules : List Rule
  visibleRules : List Rule
  grantedKeywords : List String
  ledgerEntries : List Modifier
  traceLines : List String

def AttackResult.phases (result : AttackResult) : List PhaseLog :=
  [result.attacks, result.hits, result.wounds, result.saves, result.damage,
    result.feelNoPain]

variable {σ : Type} [DiceSource σ]

structure VolleyResult where
  attacks : PhaseLog
  hits : PhaseLog
  wounds : PhaseLog
  saves : PhaseLog
  damage : PhaseLog
  feelNoPain : PhaseLog
  summary : Summary

/-! ## The phases of a combat -/

def attackPhase (encounter : Encounter) (numbers : CombatNumbers) :
    Roll σ (Int × PhaseLog) :=
  let { attacker, weapon, circumstances, .. } := encounter
  let keywords := numbers.keywords
  let models := circumstances.modelsFiring.getD attacker.modelCount
  let rapidFire := if circumstances.withinHalfRange then keywords.rapidFire else 0
  let blast := if keywords.hasAbility .blast then circumstances.blastBonusAttacks else 0
  countAttacks weapon.attacks models numbers.attacksModifier rapidFire blast

def hitPhase (encounter : Encounter) (numbers : CombatNumbers) (attacks : Int) :
    Roll σ HitOutcome :=
  let keywords := numbers.keywords
  rollHits attacks (clampThreshold encounter.weapon.skill numbers.hit)
    numbers.criticalHit (.ofKind? numbers.hitReroll) (keywords.hasAbility .torrent)
    keywords.sustainedHits (keywords.hasAbility .lethalHits)

def woundPhase (numbers : CombatNumbers) (hits : HitOutcome) : Roll σ WoundOutcome :=
  let needed := woundThreshold numbers.strength numbers.toughness
  rollWounds hits.hits hits.autoWounds (clampThreshold needed numbers.wound)
    numbers.criticalWound (.ofKind? numbers.woundReroll)
    (numbers.keywords.hasAbility .devastatingWounds)

def savePhase (numbers : CombatNumbers) (wounds : WoundOutcome) : Roll σ (Int × PhaseLog) :=
  let save := saveThreshold numbers.save numbers.armourPenetration numbers.invulnerable
  rollSaves wounds.wounds save.threshold save.invulnerable

def damagePhase (encounter : Encounter) (numbers : CombatNumbers) (instances : Int) :
    Roll σ (List Int × PhaseLog) :=
  let melta := if encounter.circumstances.withinHalfRange then numbers.keywords.melta else 0
  rollDamage instances encounter.weapon.damage numbers.damageModifier melta
    (.ofKind? numbers.damageReroll)

/-- The wounds of a model of the target, as the defender's ledger has them. -/
def PreparedCombat.woundsOfModel (combat : PreparedCombat) (target : BattleUnit) :
    Except Fault Int :=
  combat.defender.board.ledger.applyInt "W" target.leadProfile.wounds

def rollVolley (encounter : Encounter) (combat : PreparedCombat) : Roll σ VolleyResult := do
  let numbers := combat.numbers
  let target := encounter.defender
  let (attacks, attacksLog) ← attackPhase encounter numbers
  let hits ← hitPhase encounter numbers attacks
  let wounds ← woundPhase numbers hits
  let (unsaved, savesLog) ← savePhase numbers wounds
  let instances := unsaved + wounds.bypassing
  let (damages, damageLog) ← damagePhase encounter numbers instances
  let (remaining, feelNoPainLog) ← rollFeelNoPain damages numbers.feelNoPain
  let woundsOfModel ← (combat.woundsOfModel target : Except Fault Int)
  let allocation := allocate remaining (max 1 woundsOfModel) target.modelCount
  let summary : Summary := {
    attacks
    hits := hits.log.successes + numbers.keywords.sustainedHits * hits.log.criticals
    wounds := wounds.log.successes
    unsaved := instances
    damage := sumOf damages
    damageAfterFeelNoPain := sumOf remaining
    damageApplied := allocation.applied
    modelsDestroyed := allocation.destroyed }
  Roll.writable (summary.items.map (·.2))
  Roll.note "Result" summary.text
  return {
    attacks := attacksLog
    hits := hits.log
    wounds := wounds.log
    saves := savesLog
    damage := damageLog
    feelNoPain := feelNoPainLog
    summary }

/-! ## Attacks -/

def prepareAtTable (encounter : Encounter) (attackerRules defenderRules : List Rule) :
    Roll σ PreparedCombat := do
  let table ← get
  let (prepared, trace) := prepare encounter attackerRules defenderRules table.trace
  set { table with trace }
  prepared

/-- Resolve an attack from its rules to the models destroyed. -/
def resolveAttack (encounter : Encounter) (attackerRules defenderRules : List Rule) :
    Roll σ AttackResult := do
  let combat ← prepareAtTable encounter attackerRules defenderRules
  let volley ← rollVolley encounter combat
  let grantedHere ← (combat.attacker.board.displayGranted : Except Fault (List String))
  let grantedThere ← (combat.defender.board.displayGranted : Except Fault (List String))
  let numbers := combat.numbers
  return {
    attacks := volley.attacks
    hits := volley.hits
    wounds := volley.wounds
    saves := volley.saves
    damage := volley.damage
    feelNoPain := volley.feelNoPain
    summary := volley.summary
    modifiedWeapon := { encounter.weapon with
      strength := numbers.strength
      armourPenetration := numbers.armourPenetration }
    activeKeywords := numbers.keywords.activeNames
    appliedRules := combat.appliedRules
    visibleRules := combat.visibleRules
    grantedKeywords := grantedHere ++ grantedThere
    ledgerEntries := combat.ledgerEntries
    traceLines := (← get).trace.lines }

end Skirmish
