import Skirmish.Value.Basic
import Skirmish.Binary64.Digits
import Skirmish.Text.Quoted

/-!
# Written values

A value is written in two ways: as a document that reads back, and as messages
show it.  Messages put texts between quotes of either kind and spell the three
constants with a capital.
-/

namespace Skirmish.Value

/-- The spelling of a document's characters between double quotes. -/
def documentChar (c : Char) : List Char :=
  if c = '"' ∨ c = '\\' then ['\\', c]
  else if c = '\n' then ['\\', 'n']
  else if c = '\r' then ['\\', 'r']
  else if c = '\t' then ['\\', 't']
  else if c.toNat < 0x20 then '\\' :: 'u' :: Text.hexadecimal 4 c.toNat
  else [c]

/-- A text as the characters of a document write it.  Halves are escaped. -/
def documentText (s : String) : String :=
  String.ofList (['"'] ++ Text.spell Text.escapeHalf documentChar s ++ ['"'])

def documentFloat : Binary64 → String
  | .nan => "NaN"
  | .infinite negative => if negative then "-Infinity" else "Infinity"
  | x => x.text

/-- The spellings in which documents and messages differ. -/
structure Spelling where
  null : String
  bool : Bool → String
  float : Binary64 → String
  text : String → String

def Spelling.document : Spelling where
  null := "null"
  bool b := if b then "true" else "false"
  float := documentFloat
  text := documentText

def Spelling.message : Spelling where
  null := "None"
  bool b := if b then "True" else "False"
  float := Binary64.text
  text := Text.quoted

mutual

def write (spelling : Spelling) : Value → String
  | .null => spelling.null
  | .bool b => spelling.bool b
  | .int n => toString n
  | .float x => spelling.float x
  | .text s => spelling.text s
  | .list items => "[" ++ ", ".intercalate (writeItems spelling items) ++ "]"
  | .object fields =>
    "\x7b" ++ ", ".intercalate (writeFields spelling fields) ++ "\x7d"

def writeItems (spelling : Spelling) : List Value → List String
  | [] => []
  | item :: rest => write spelling item :: writeItems spelling rest

def writeFields (spelling : Spelling) : List (String × Value) → List String
  | [] => []
  | (name, value) :: rest =>
    (spelling.text name ++ ": " ++ write spelling value) :: writeFields spelling rest

end

/-- The characters of a document that reads back as the value. -/
def document (value : Value) : String :=
  write .document value

def message (value : Value) : String :=
  write .message value

end Skirmish.Value
