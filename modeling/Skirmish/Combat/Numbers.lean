import Skirmish.Combat.Evaluation

/-!
# The numbers of a combat

After the rules of both sides were evaluated, their ledgers and the printed
characteristics are merged into the numbers that the dice are rolled against.
The attacker's ledger decides about the attack, the defender's about the defence,
and both about the hit and wound rolls.
-/

namespace Skirmish

/-- The outcome of evaluating one side's rules. -/
structure Side where
  view : View
  board : Board
  resolutions : List Resolution

structure CombatNumbers where
  keywords : Keywords
  hit : Int
  wound : Int
  strength : Int
  armourPenetration : Int
  attacksModifier : Int
  damageModifier : Int
  toughness : Int
  save : Int
  invulnerable : Option Int
  feelNoPain : Option Int
  criticalHit : Int
  criticalWound : Int
  hitReroll : Option RerollKind
  woundReroll : Option RerollKind
  damageReroll : Option RerollKind

/-- A combat whose rules were evaluated on both sides. -/
structure PreparedCombat where
  attacker : Side
  defender : Side
  numbers : CombatNumbers

/-- A number that has to fit. -/
def fitting {α : Type} : Option α → Except Fault α
  | some value => .ok value
  | none => .error .tooLarge

namespace Ledger

/-- The integer part of the sum of a stat's entries. -/
def netInt (ledger : Ledger) (stat : String) : Except Fault Int :=
  fitting ((ledger.netValue? stat).bind Number.truncate?)

/-- The integer part of a stat over a base value. -/
def applyInt (ledger : Ledger) (stat : String) (base : Int) : Except Fault Int :=
  fitting ((ledger.valueOver? stat (.int base)).bind Number.truncate?)

/-- The integer part of the sum of both ledgers' sums for a stat. -/
def netIntOfBoth (first second : Ledger) (stat : String) : Except Fault Int :=
  fitting do
    let sum ← (← first.netValue? stat).add? (← second.netValue? stat)
    sum.truncate?

/-- The save that the ledger sets for a stat, if it has entries for it.  Without
a `set` it starts from seven. -/
def saveFor (ledger : Ledger) (stat : String) : Except Fault (Option Int) :=
  if (ledger.entriesFor stat).isEmpty then .ok none
  else some <$> ledger.applyInt stat 7

end Ledger

/-- The lowest of the thresholds that are there. -/
def bestThreshold (thresholds : List (Option Int)) : Option Int :=
  (thresholds.filterMap id).min?

namespace Ability

def feelNoPain? : Ability → Option Int
  | .unit (.feelNoPain threshold) => some threshold
  | _ => none

end Ability

/-- The Feel No Pain thresholds of a unit's own abilities and of those granted on
a board. -/
def feelNoPainThresholds (unit : BattleUnit) (board : Board) : List Int :=
  (unit.abilities.map Ability.unit ++ board.grantedUnder "unitAbility:feelNoPain").filterMap
    Ability.feelNoPain?

def mergeNumbers (encounter : Encounter) (attacker defender : Board) (view : View) :
    Except Fault CombatNumbers := do
  let { defender := target, weapon, circumstances, .. } := encounter
  let own := attacker.ledger
  let other := defender.ledger
  let keywords ← attacker.keywords view
  let profile := target.leadProfile
  let hit ← own.netIntOfBoth other "hit"
  let steady :=
    keywords.hasAbility .heavy && circumstances.unitRemainedStationary &&
      weapon.type == .ranged
  let wound ← own.netIntOfBoth other "wound"
  let lance := keywords.hasAbility .lance && circumstances.unitHasCharged
  let criticalWound ← own.applyInt "critWound" 6
  let strength ← own.applyInt "S" weapon.strength
  let armourPenetration ← own.applyInt "AP" weapon.armourPenetration
  let attacksModifier ←
    if keywords.hasAbility .extraAttacks then pure 0 else own.netInt "A"
  let damageModifier ← own.netInt "D"
  let toughness ← other.applyInt "T" profile.toughness
  let save ← other.applyInt "SV" profile.save
  let invulnerable ← other.saveFor "INV"
  let feelNoPain ← other.saveFor "FNP"
  let criticalHit ← own.applyInt "critHit" 6
  let twinLinked :=
    if keywords.hasAbility .twinLinked then [Vocabulary.word RerollKind.failed] else []
  return {
    keywords
    hit := hit + if steady then 1 else 0
    wound := wound + if lance then 1 else 0
    strength
    armourPenetration := min 0 armourPenetration
    attacksModifier
    damageModifier
    toughness := max 1 toughness
    save
    invulnerable := bestThreshold [profile.invulnerable, invulnerable]
    feelNoPain :=
      bestThreshold (profile.feelNoPain :: feelNoPain ::
        (feelNoPainThresholds target defender).map some)
    criticalHit
    criticalWound :=
      match keywords.antiThreshold? target.categories with
      | some threshold => min criticalWound threshold
      | none => criticalWound
    hitReroll := Ledger.rerollKind? own "hit" []
    woundReroll := Ledger.rerollKind? own "wound" twinLinked
    damageReroll := Ledger.rerollKind? own "damage" [] }

def evaluateSide (view : View) (board : Board) (rules : List Rule) :
    Except Fault Side × Trace :=
  let (outcome, board) := (Rule.evaluateAll view rules).run board
  (outcome.map fun resolutions => ⟨view, board, resolutions⟩, board.trace)

/-- Evaluate the rules of both sides and merge the numbers.  The trace is written
by both sides in turn, the attacker first; what was written before a fault
stays. -/
def prepare (encounter : Encounter) (attackerRules defenderRules : List Rule)
    (trace : Trace) : Except Fault PreparedCombat × Trace :=
  let attackerView := encounter.view .attacker
  let defenderView := encounter.view .defender
  let attackerBoard := attackerView.board trace
  let defenderBoard := defenderView.board attackerBoard.trace
  let (attacker, trace) :=
    evaluateSide attackerView { attackerBoard with trace := defenderBoard.trace } attackerRules
  match attacker with
  | .error fault => (.error fault, trace)
  | .ok attacker =>
    let (defender, trace) :=
      evaluateSide defenderView { defenderBoard with trace := trace } defenderRules
    let prepared := do
      let defender ← defender
      let numbers ← mergeNumbers encounter attacker.board defender.board attackerView
      return { attacker, defender, numbers }
    (prepared, trace)

namespace PreparedCombat

/-- The rules applied on either side, the attacker's first. -/
def appliedRules (combat : PreparedCombat) : List Rule :=
  Resolution.applied (combat.attacker.resolutions ++ combat.defender.resolutions)

/-- The entries of both ledgers, the attacker's first. -/
def ledgerEntries (combat : PreparedCombat) : List Modifier :=
  combat.attacker.board.ledger.entries ++ combat.defender.board.ledger.entries

/-- A node of the rule's condition asks for the defender's role. -/
def asksForDefender (rule : Rule) : Bool :=
  rule.condition.nodes.any fun node =>
    match node with
    | .combatRole .defender => true
    | _ => false

/-- A pending choice of the defender is shown to the players when it is made in
reaction, or is the defender's by its condition. -/
def showsToDefender (rule : Rule) : Bool :=
  rule.trigger.kind == .reactive || asksForDefender rule

/-- The rules to show for the combat: those that the attacker applied, the
attacker's choices that are still open, and the open choices of the defender
that concern the players now. -/
def visibleRules (combat : PreparedCombat) : List Rule :=
  Resolution.applied combat.attacker.resolutions ++
    Resolution.pending combat.attacker.resolutions ++
    (Resolution.pending combat.defender.resolutions).filter showsToDefender

end PreparedCombat

end Skirmish
