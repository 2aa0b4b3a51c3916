import Skirmish.Content.Path
import Skirmish.Fault

/-!
# Folders

The files that the engine works with lie in a folder and in the folders inside it.
A folder is there when something lies in it or when it was made, and so are the
folders above.  A path is followed part by part through folders that are there; what
else lies outside of the whole folder is not known, and counts as not being there.
A name is looked up only when it is not too long.
-/

namespace Skirmish

/-- A file, by its path with upward parts only in front, with its characters. -/
structure File where
  path : Path
  text : String
  deriving DecidableEq, Repr

/-- The files of a folder and of the folders in it, and the folders that were
made. -/
structure Folder where
  files : List File := []
  made : List Path := []
  deriving DecidableEq, Repr

/-- A path is not looked up when it is too long or holds the character zero. -/
def Path.check (path : Path) : Except Fault Unit :=
  if path.parts.any Path.holdsVoid then .error .voidInPath
  else if path.isLong then .error .longPath
  else .ok ()

namespace Folder

/-- There is a folder under a path with upward parts only in front. -/
def hasFolder (folder : Folder) (path : Path) : Bool :=
  path.isAbove || path.isRoot || folder.made.contains path ||
    folder.files.any fun file => file.path.isInside path

def fileAt? (folder : Folder) (path : Path) : Option File :=
  folder.files.find? fun file => file.path == path

def follow (folder : Folder) (here : Path) : List String → Except Fault Path
  | [] => .ok here
  | part :: rest =>
    if (folder.fileAt? here).isSome then .error .notAFolder
    else if !folder.hasFolder here then .error .missingFile
    else if Path.isLongName part then .error .longPath
    else folder.follow (here.next part) rest

/-- The path of what a path leads to, with upward parts only in front.  The last
part may lead to nothing. -/
def locate (folder : Folder) (path : Path) : Except Fault Path := do
  path.check
  folder.follow ⟨[]⟩ path.parts

/-- Tell whether a path leads to a file or a folder.  Only a path that is too long
cannot be told. -/
def leads (folder : Folder) (path : Path) : Except Fault Bool :=
  match folder.locate path with
  | .ok place => .ok ((folder.fileAt? place).isSome || folder.hasFolder place)
  | .error .longPath => .error .longPath
  | .error _ => .ok false

def read (folder : Folder) (path : Path) : Except Fault String := do
  let place ← folder.locate path
  match folder.fileAt? place with
  | some file => return file.text
  | none => throw (if folder.hasFolder place then .isAFolder else .missingFile)

/-! ## Changes -/

def withFolder (folder : Folder) (path : Path) : Folder :=
  { folder with made := folder.made ++ [path] }

/-- The folder with a file in it, in the place of the one that is already there. -/
def withFile (folder : Folder) (file : File) : Folder :=
  if (folder.fileAt? file.path).isSome then
    let files := folder.files.map fun old => if old.path = file.path then file else old
    { folder with files }
  else
    { folder with files := folder.files ++ [file] }

/-- A change of a folder.  What was done before a fault stays done. -/
abbrev Change := ExceptT Fault (StateM Folder)

/-- Make the folders that are missing along parts from the folder under `here`. -/
def makeAlong (here : Path) : List String → Change Unit
  | [] => return
  | part :: rest => do
    if Path.isLongName part then
      throw .longPath
    let next := here.next part
    let folder ← get
    if (folder.fileAt? next).isSome then
      throw (if rest.isEmpty then .occupied else .notAFolder)
    if !folder.hasFolder next then
      set (folder.withFolder next)
    makeAlong next rest

def write (path : Path) (text : String) : Change Unit := do
  let folder ← get
  let place ← (folder.locate path : Except Fault Path)
  if folder.hasFolder place then
    throw .isAFolder
  set (folder.withFile ⟨place, text⟩)

/-- Write a file under a path after making the folders on the way to it. -/
def store (path : Path) (text : String) : Change Unit := do
  (path.parent.check : Except Fault Unit)
  makeAlong ⟨[]⟩ path.parent.parts
  write path text

end Folder

end Skirmish
