import Skirmish.CommandLine.Options
import Skirmish.Content.Path

/-!
# Commands

The commands of the game and those of the inspector, with their options.
-/

namespace Skirmish.CommandLine

inductive Command where
  /-- Resolve the attack of a scenario. -/
  | simulate (target : String) (trace : Bool) (seed : Option Int) (content : Option Path)
  /-- List stratagems: those usable in a phase, or all of them. -/
  | stratagems (faction detachment phase : Option String) (ownTurn : Bool)
      (round : Option Int) (content : Option Path)
  /-- List the choices and reminders of an army in a scenario. -/
  | pending (target : String) (army : Option String) (content : Option Path)
  /-- Inspect a content folder. -/
  | inspect (folder : Option Path) (warnUnused : Bool)
  /-- Inspect single files. -/
  | inspectFiles (paths : List Path)
  deriving DecidableEq, Repr

/-- A program with commands of its own. -/
inductive Program where
  | game
  | inspector
  deriving DecidableEq, Repr

namespace Command

/-- What the options named in two lists expect: those of the first list nothing,
those of the second a value. -/
def expectations (flags valued : List String) (name : String) : Option Expects :=
  if flags.contains name then some .nothing
  else if valued.contains name then some .value
  else none

def path? (argument : String) : Option Path :=
  if Path.holdsVoid argument then none else some (Path.ofText argument)

/-- The content folder that is named, if one is named; `none` when the name cannot
be a path. -/
def content? (given : Given) : Option (Option Path) :=
  match given.value? "--content" with
  | none => some none
  | some argument => (path? argument).map some

def readSimulate? (arguments : List String) : Option Command := do
  let given ← sort? (expectations ["--trace"] ["--seed", "--content"]) none arguments
  let seed ← optionalInteger? (given.value? "--seed")
  let content ← content? given
  match given.words with
  | [target] => return .simulate target (given.has "--trace") seed content
  | _ => none

def readStratagems? (arguments : List String) : Option Command := do
  let flags := ["--own-turn", "--opponent-turn"]
  let valued := ["--faction", "--detachment", "--phase", "--round", "--content"]
  let given ← sort? (expectations flags valued) none arguments
  let round ← optionalInteger? (given.value? "--round")
  let content ← content? given
  match given.words with
  | [] =>
    return .stratagems (given.value? "--faction") (given.value? "--detachment")
      (given.value? "--phase") (given.chooses "--own-turn" "--opponent-turn") round content
  | _ => none

def readPending? (arguments : List String) : Option Command := do
  let given ← sort? (expectations [] ["--army", "--content"]) none arguments
  let content ← content? given
  match given.words with
  | [target] => return .pending target (given.value? "--army") content
  | _ => none

def readInspect? (arguments : List String) : Option Command := do
  let given ← sort? (expectations ["--warn-unused"] []) none arguments
  match given.words with
  | [] => return .inspect none (given.has "--warn-unused")
  | [folder] => return .inspect (some (← path? folder)) (given.has "--warn-unused")
  | _ => none

def readInspectFiles? (arguments : List String) : Option Command := do
  let given ← sort? (expectations [] []) none arguments
  match given.words with
  | [] => none
  | words => return .inspectFiles (← words.mapM path?)

/-- The reader of a command's arguments, by the command's name. -/
def reader? (program : Program) (name : String) : Option (List String → Option Command) :=
  match program, name with
  | .game, "simulate" => some readSimulate?
  | .game, "stratagems" => some readStratagems?
  | .game, "pending" => some readPending?
  | .game, "validate" => some readInspect?
  | .inspector, "validate-content" => some readInspect?
  | .inspector, "validate-files" => some readInspectFiles?
  | _, _ => none

def read? (program : Program) (arguments : List String) : Option Command :=
  match arguments with
  | "--" :: name :: rest => (reader? program name).bind (· rest)
  | name :: rest => (reader? program name).bind (· rest)
  | [] => none

end Command

end Skirmish.CommandLine
