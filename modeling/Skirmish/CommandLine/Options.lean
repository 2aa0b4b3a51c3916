import Skirmish.Text.Integer

/-!
# Options

A command is given options and words, in any order.  An option that takes a value
has it attached behind an equals sign or as the next argument, whatever that looks
like.  After a double hyphen every argument is a word.
-/

namespace Skirmish.CommandLine

inductive Expects where
  | nothing
  | value
  deriving DecidableEq, Repr

/-- The options given, in order, each with its value if it takes one, and the
words. -/
structure Given where
  options : List (String × Option String) := []
  words : List String := []
  deriving DecidableEq, Repr

namespace Given

def addOption (name : String) (value : Option String) (given : Given) : Given :=
  { given with options := (name, value) :: given.options }

def addWord (word : String) (given : Given) : Given :=
  { given with words := word :: given.words }

/-- The value of an option; the last one given counts. -/
def value? (given : Given) (name : String) : Option String :=
  (given.options.reverse.lookup name).join

def has (given : Given) (name : String) : Bool :=
  given.options.any (·.1 == name)

/-- Of two options that exclude each other, the first one counts: it was given
last, or neither was and it counts by default. -/
def chooses (given : Given) (name other : String) : Bool :=
  match given.options.reverse.find? fun option => option.1 == name || option.1 == other with
  | some option => option.1 == name
  | none => true

end Given

def looksLikeOption (argument : String) : Bool :=
  argument.toList.head? == some '-' && argument != "-"

/-- The name of an option, and the value attached to it. -/
def splitAttached (argument : String) : String × Option String :=
  let chars := argument.toList
  let name := chars.takeWhile (· != '=')
  let value := if chars.contains '=' then
      some (String.ofList (chars.drop (name.length + 1))) else none
  (String.ofList name, value)

/-- Sort arguments into options and words, or `none` when they do not fit what
the options expect.  `awaiting` is the option whose value comes next. -/
def sort? (expects : String → Option Expects) (awaiting : Option String) :
    List String → Option Given
  | [] => if awaiting.isSome then none else some {}
  | argument :: rest =>
    match awaiting with
    | some name => (sort? expects none rest).map (·.addOption name (some argument))
    | none =>
      if argument = "--" then
        some { words := rest }
      else if looksLikeOption argument then
        let (name, attached) := splitAttached argument
        match expects name, attached with
        | some .nothing, none => (sort? expects none rest).map (·.addOption name none)
        | some .value, some value =>
          (sort? expects none rest).map (·.addOption name (some value))
        | some .value, none => sort? expects (some name) rest
        | some .nothing, some _ | none, _ => none
      else
        (sort? expects none rest).map (·.addWord argument)

/-- The integer that an option gives, if it is given; `none` when it is given
something else. -/
def optionalInteger? (argument : Option String) : Option (Option Int) :=
  match argument with
  | none => some none
  | some argument =>
    match Text.readInteger argument with
    | .value n => some (some n)
    | .oversized | .unreadable => none

end Skirmish.CommandLine
