import Skirmish.CommandLine.Run
import Skirmish.CommandLine.Screen

/-!
# The program

The files and the settings of a run are handed over on standard input, as one
document of the strict dialect: an object whose fields are `files`, the texts of
the files by their paths, `settings`, and `inspector`, which is true for the
commands of the inspector.  Every field may be left out, and so may the document.
-/

namespace Skirmish.CommandLine

def storeFiles : Value → Folder.Change Unit
  | .object fields =>
    fields.forM fun (path, content) =>
      match content with
      | .text text => Folder.store (Path.ofText path) (Text.plain text)
      | _ => return
  | _ => return

/-- The program to run and its surroundings, from the fields of a document. -/
def surroundingsOf (fields : Fields) (freshSeed : Int) :
    Except Fault (Program × Surroundings) := do
  let settings ← (Settings.read ((fields.get? "settings").getD (.object []))).orFault
  let (stored, folder) := (storeFiles ((fields.get? "files").getD .null)).run.run {}
  stored
  let inspector := ((fields.get? "inspector").map Value.isTruthy).getD false
  return (if inspector then .inspector else .game, { settings, folder, freshSeed })

/-- Run the commands of a program whose surroundings are in a document. -/
def runWith (document : String) (arguments : List String) (freshSeed : Int) : Outcome :=
  let content := if document.isEmpty then .ok (.object []) else strictContent document
  match content with
  | .ok (.object fields) =>
    match surroundingsOf fields freshSeed with
    | .ok (program, surroundings) => run program surroundings arguments
    | .error fault => { ending := .stopped fault }
  | _ => { ending := .stopped .unreadableDocument }

end Skirmish.CommandLine

open Skirmish CommandLine

/-- All of standard input, behind what was read of it. -/
partial def readRest (input : IO.FS.Stream) (read : String) : IO String := do
  let line ← input.getLine
  if line.isEmpty then return read else readRest input (read ++ line)

def main (arguments : List String) : IO UInt32 := do
  let document ← readRest (← IO.getStdin) ""
  let freshSeed ← IO.rand 0 0xffffffff
  let outcome := runWith document (arguments.map Text.ofPlain) freshSeed
  for line in outcome.output.flatMap shownLines do
    IO.println (Text.plain line)
  for line in outcome.errors.flatMap shownLines do
    IO.eprintln (Text.plain line)
  if let .stopped fault := outcome.ending then
    IO.eprintln (Text.plain (fault.message?.getD "stopped"))
  return outcome.ending.exitCode.toUInt32
