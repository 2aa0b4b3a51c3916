import Skirmish.Text.Case
import Skirmish.Text.Point

/-!
# Paths

A path names a file or a folder by the folders on the way to it and its own name.
Parts that lead nowhere are left out, so `a//b` and `./a/b` are the same path.  The
part that leads back to the folder above is kept: where it leads depends on the
folders that there are.
-/

namespace Skirmish

/-- A path by its parts, the own name last.  A path from the root starts with the
part `/`. -/
structure Path where
  parts : List String
  deriving DecidableEq, Repr

namespace Path

def ofText (text : String) : Path :=
  let named := (text.splitOn "/").filter fun part => part != "" && part != "."
  ⟨if text.toList.head? = some '/' then "/" :: named else named⟩

/-- The written form of a path; the folder itself is a point. -/
def text (path : Path) : String :=
  match path.parts with
  | [] => "."
  | "/" :: rest => "/" ++ "/".intercalate rest
  | parts => "/".intercalate parts

/-- The part that leads to the folder above. -/
def upward : String := ".."

def name (path : Path) : String :=
  path.parts.getLast?.getD ""

def parent (path : Path) : Path :=
  ⟨path.parts.dropLast⟩

def under (path : Path) (part : String) : Path :=
  ⟨path.parts ++ [part]⟩

/-- The path leads to the folder that all paths start from or to one above it. -/
def isAbove (path : Path) : Bool :=
  path.parts.all (· == upward)

def isRoot (path : Path) : Bool :=
  path.parts == ["/"]

/-- Where a part leads from the folder under a path that has upward parts only in
front.  Above the root there is only the root. -/
def next (path : Path) (part : String) : Path :=
  if part ≠ upward || path.isAbove then path.under part
  else if path.isRoot then path
  else path.parent

/-- The file lies somewhere inside a folder. -/
def isInside (path folder : Path) : Bool :=
  folder.parts.isPrefixOf path.parts && folder.parts.length < path.parts.length

/-- The path of what lies inside the folder `old` when the folder is reached under
the path `new`. -/
def rebase (path old new : Path) : Path :=
  ⟨new.parts ++ path.parts.drop old.parts.length⟩

/-- The order of paths: part by part. -/
def before (first second : Path) : Bool :=
  !(second.parts.map Text.points).lex (first.parts.map Text.points) (·.lex ·)

/-- The most bytes that the name of a file or a folder may take. -/
def nameLimit : Nat := 255

/-- The most bytes that a written path may take. -/
def textLimit : Nat := 4095

/-- A name of a file or a folder takes more bytes than it may take. -/
def isLongName (name : String) : Bool :=
  nameLimit < Text.size name

/-- The written path takes more bytes than it may take. -/
def isLong (path : Path) : Bool :=
  textLimit < Text.size path.text

/-- A text holds the character with the code point zero, which no path may hold. -/
def holdsVoid (text : String) : Bool :=
  text.toList.contains '\x00'

/-- The part of the file's name from its last point on, in lower case.  A point
at either end of the name does not count. -/
def extension (path : Path) : String :=
  let name := path.name.toList
  let suffix := (name.reverse.takeWhile (· != '.')).reverse
  if suffix.isEmpty ∨ name.length ≤ suffix.length + 1 then ""
  else "." ++ Text.lower (String.ofList suffix)

end Path

end Skirmish
