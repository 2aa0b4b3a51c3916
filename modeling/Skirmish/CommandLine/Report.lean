import Skirmish.Combat.Attack
import Skirmish.Engine.Basic

/-!
# Reports

The lines in which commands show attacks, choices and stratagems.
-/

namespace Skirmish.CommandLine

/-- A line of a report, unless it shows a number that cannot be written. -/
abbrev Line := Except Fault String

def Line.showing (numbers : List Int) (text : String) : Line :=
  (writable numbers).map fun _ => text

/-- The name of a unit, or its id when it has none. -/
def unitText (unit : BattleUnit) : String :=
  if unit.name.isEmpty then unit.id else unit.name

/-- A roll: its value, behind the first value when it was made again, with a star
when it is critical. -/
def recordText (record : RollRecord) : String :=
  let value :=
    match record.replaced with
    | some replaced => s!"{replaced}>{record.value}"
    | none => toString record.value
  if record.critical then value ++ "*" else value

def thresholdText : Option Int → String
  | none => ""
  | some threshold => if threshold < impossible then s!" {threshold}+" else " (impossible)"

def rerollText (reroll : Reroll) : String :=
  match reroll.word? with
  | some word => s!" [reroll {word}]"
  | none => ""

def phaseText (log : PhaseLog) : String :=
  let head :=
    Vocabulary.word log.phase ++ thresholdText log.threshold ++ rerollText log.reroll
  let rolls := " ".intercalate (log.rolls.map recordText)
  let counted := if rolls.isEmpty then s!"{head}: {log.successes}"
    else s!"{head}: {rolls} -> {log.successes}"
  let criticals := if log.criticals = 0 then "" else s!" ({log.criticals} crit)"
  counted ++ criticals ++ String.join (log.notes.map ("; " ++ ·))

def phaseNumbers (log : PhaseLog) : List Int :=
  (log.threshold.filter (· < impossible)).toList ++
    log.rolls.flatMap (fun record => record.value :: record.replaced.toList) ++
    [log.successes, log.criticals]

def phaseLine (log : PhaseLog) : Line :=
  .showing (phaseNumbers log) ("  " ++ phaseText log)

def listLine (title : String) (texts : List String) : List Line :=
  if texts.isEmpty then [] else [.ok (title ++ ": " ++ ", ".intercalate texts)]

def openRules (result : AttackResult) : List Rule :=
  result.visibleRules.filter fun rule =>
    !result.appliedRules.any (·.id == rule.id)

/-- The line above the phases of an attack, with the weapon as it was used. -/
def headLine (scenario : Scenario) (weapon : Weapon) : Line :=
  .showing [weapon.strength, weapon.armourPenetration] <|
    s!"{unitText scenario.attacker} -> {unitText scenario.defender} with {weapon.name} " ++
      s!"(S{weapon.strength} AP{weapon.armourPenetration})"

def attackLines (scenario : Scenario) (result : AttackResult) : List Line :=
  headLine scenario result.modifiedWeapon :: result.phases.map phaseLine ++
    listLine "Applied rules" (result.appliedRules.map (·.name)) ++
    listLine "Awaiting choices" ((openRules result).map (·.name)) ++
    listLine "Granted" result.grantedKeywords ++
    [.showing (result.summary.items.map (·.2)) result.summary.text] ++
    result.traceLines.map .ok

def choiceLines (moment : String) (rule : Rule) : List Line :=
  match rule.choice? with
  | some choice =>
    .ok s!"[{moment}] {rule.name}: {choice.prompt}" ::
      choice.options.map fun option => .ok s!"    {option.value}: {option.label}"
  | none => []

def reminderLine (rule : Rule) : Line :=
  .ok s!"[reminder] {rule.name}: {rule.description}"

/-- The line of a stratagem that may be used now. -/
def usableLine (stratagem : Stratagem) : Line :=
  .showing [stratagem.cost] s!"{stratagem.name} ({stratagem.cost}CP) - {stratagem.condition}"

def drawerLine (entry : Stratagem × Bool) : Line :=
  let (stratagem, available) := entry
  let mark := if available then " " else "x"
  .showing [stratagem.cost] <|
    s!"[{mark}] {stratagem.name} ({stratagem.cost}CP, {Vocabulary.word stratagem.phase}) - " ++
      stratagem.condition

end Skirmish.CommandLine
