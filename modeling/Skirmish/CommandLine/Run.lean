import Skirmish.CommandLine.Command
import Skirmish.CommandLine.Report
import Skirmish.Content.Inspection

/-!
# Running commands

A command reads the settings and the files that it is given, and ends with lines
of output, lines of complaint, and a success or a failure.  A fault that no
command expects stops it; what was written before stays written.  Half of a pair of
code units cannot be output; a complaint shows it as an escape.
-/

namespace Skirmish.CommandLine

inductive Ending where
  | success
  | failure
  | misuse
  | stopped (fault : Fault)
  deriving DecidableEq, Repr

def Ending.exitCode : Ending → Nat
  | .success => 0
  | .failure | .stopped _ => 1
  | .misuse => 2

structure Outcome where
  output : List String := []
  errors : List String := []
  ending : Ending := .success
  deriving DecidableEq, Repr

/-- A message of a command: a line of output, or a complaint. -/
structure Message where
  text : String
  isComplaint : Bool := false
  deriving DecidableEq, Repr

/-- What messages leave behind, and the ending after them.  A message that cannot be
made stops the command, and so does a line of output that cannot be written. -/
def Outcome.ofMessages (ending : Ending) : List (Except Fault Message) → Outcome
  | [] => { ending }
  | .error fault :: _ => { ending := .stopped fault }
  | .ok message :: rest =>
    if message.isComplaint then
      let outcome := ofMessages ending rest
      { outcome with errors := Text.escaped message.text :: outcome.errors }
    else if Text.holdsHalf message.text then { ending := .stopped .unwritable }
    else
      let outcome := ofMessages ending rest
      { outcome with output := message.text :: outcome.output }

/-- What a success leaves behind that outputs lines. -/
def Outcome.ofLines (lines : List Line) : Outcome :=
  ofMessages .success (lines.map fun line => line.map fun text => { text })

/-- What a command finds around it: the settings, the files, and a seed for dice
that are not fixed. -/
structure Surroundings where
  settings : Settings := {}
  folder : Folder := {}
  freshSeed : Int := 0

/-- A command that may end early. -/
abbrev Session := Except Outcome

namespace Session

/-- A calculation whose fault nobody expects. -/
def attempt {α : Type} : Except Fault α → Session α
  | .ok value => .ok value
  | .error fault => .error { ending := .stopped fault }

def fail {α : Type} (complaint : String) : Session α :=
  .error (.ofMessages .failure [.ok ⟨complaint, true⟩])

def outcome : Session Outcome → Outcome
  | .ok outcome | .error outcome => outcome

end Session

namespace Surroundings

def engine (surroundings : Surroundings) (content : Option Path) : Session Engine :=
  Session.attempt (Engine.start surroundings.settings surroundings.folder content)

def catalogued (engine : Engine) (id : String) : Session Scenario :=
  match Catalogue.find? engine.catalogue.scenarios id with
  | some scenario => .ok scenario
  | none => Session.fail s!"Unknown scenario: {id}"

/-- The scenario that a command is about: the one in a file, if the text names a
document that is there, or the one with the text as its id. -/
def scenario (surroundings : Surroundings) (engine : Engine) (target : String) :
    Session Scenario := do
  let path := Path.ofText target
  let isFile ←
    if path.isDocument then Session.attempt (surroundings.folder.leads path) else pure false
  if isFile then
    match Scenario.read (← Session.attempt (surroundings.folder.content path)) with
    | .accepted scenario => return scenario
    | .rejected _ => Session.fail s!"[ERROR] {path.text}: {Finding.misfitText}"
    | .stopped obstacle => Session.attempt (.error obstacle.fault)
  else
    catalogued engine target

end Surroundings

/-! ## The commands of the game -/

def simulateScenario (surroundings : Surroundings) (target : String) (traced : Bool)
    (seed : Option Int) (content : Option Path) : Session Outcome := do
  let engine ← surroundings.engine content
  let scenario ← surroundings.scenario engine target
  let dice := Twister.ofSeed (seed.getD (engine.settings.seed surroundings.freshSeed))
  let (result, _) := (engine.runScenario scenario traced).run { dice : Table Twister }
  return .ofLines (attackLines scenario (← Session.attempt result))

def listStratagems (surroundings : Surroundings) (faction detachment phase : Option String)
    (ownTurn : Bool) (round : Option Int) (content : Option Path) : Session Outcome := do
  let engine ← surroundings.engine content
  match phase.filter (!·.isEmpty) with
  | some phase =>
    let usable := engine.usableStratagems faction detachment phase ownTurn round
    return .ofLines (usable.map usableLine)
  | none =>
    return .ofLines ((engine.stratagemDrawer faction detachment ownTurn).map drawerLine)

/-- Whose turn it is for an army, by the army that is active. -/
def turnOf (active : Option String) (armyId : String) : Turn :=
  match active with
  | none => .both
  | some active => if active = armyId then .own else .opponent

/-- List the choices and reminders of an army in a scenario: of the attacker's,
unless another one is named. -/
def listPending (surroundings : Surroundings) (target : String) (army : Option String)
    (content : Option Path) : Session Outcome := do
  let engine ← surroundings.engine content
  let scenario ← surroundings.scenario engine target
  let armyId := (army.filter (!·.isEmpty)).getD scenario.attacker.armyId
  let ids := if armyId = scenario.attacker.armyId then scenario.attackerRules
    else scenario.defenderRules
  let rules ← Session.attempt (engine.catalogue.rulesWithIds ids)
  let references := rules.map RuleReference.rule
  let { game, armyStates := states, .. } := scenario
  let beforeBattle ← Session.attempt
    (engine.pendingStartOfBattleChoices armyId references states)
  let commands ← Session.attempt
    (engine.pendingCommandChoices armyId references states game.currentTurn)
  let reminders := remindersFor rules (Vocabulary.word game.currentPhase)
    (Vocabulary.word (turnOf game.activeArmyId armyId)) states (some armyId)
    (some game.currentTurn)
  return .ofLines <|
    beforeBattle.flatMap (choiceLines "start of battle") ++
      commands.flatMap (choiceLines "command") ++ reminders.map reminderLine

/-! ## The commands of the inspector -/

/-- The outcome of an inspection: errors are complained about, warnings and a
final message are output. -/
def inspectionOutcome (inspection : Inspection Unit) (message : String) : Outcome :=
  let messages : List (Except Fault Message) :=
    inspection.findings.map fun finding => .ok ⟨finding.line, finding.isError⟩
  match inspection.outcome with
  | .error fault => .ofMessages (.stopped fault) messages
  | .ok () =>
    if isClean inspection.findings then .ofMessages .success (messages ++ [.ok { text := message }])
    else .ofMessages .failure messages

def inspect (surroundings : Surroundings) (folder : Option Path) (warnUnused : Bool) :
    Outcome :=
  let inspection :=
    match folder with
    | some base => do
      let documents ← Inspection.attempt (surroundings.folder.documents base)
      inspectFolder documents base warnUnused
    | none => inspectFolder Bundled.documents Bundled.base warnUnused
  inspectionOutcome inspection "Content validated successfully."

/-! ## All commands -/

def Command.run (surroundings : Surroundings) : Command → Outcome
  | .simulate target traced seed content =>
    Session.outcome (simulateScenario surroundings target traced seed content)
  | .stratagems faction detachment phase ownTurn round content =>
    Session.outcome
      (listStratagems surroundings faction detachment phase ownTurn round content)
  | .pending target army content =>
    Session.outcome (listPending surroundings target army content)
  | .inspect folder warnUnused => CommandLine.inspect surroundings folder warnUnused
  | .inspectFiles paths =>
    inspectionOutcome (Skirmish.inspectFiles surroundings.folder paths)
      "Selected files validated successfully."

def run (program : Program) (surroundings : Surroundings) (arguments : List String) :
    Outcome :=
  match Command.read? program arguments with
  | some command => command.run surroundings
  | none => { ending := .misuse }

end Skirmish.CommandLine
