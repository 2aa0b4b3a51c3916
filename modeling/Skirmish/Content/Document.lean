import Skirmish.Content.Folder
import Skirmish.Value.Loose

/-!
# Documents

Content lies in the files of a folder.  A file whose name has the extension of a
document holds a value, in the dialect that the extension stands for; every other
file is passed over.
-/

namespace Skirmish

/-- A document: where it lies, and what it holds if it can be read. -/
structure Document where
  path : Path
  content : Except Fault Value

namespace Path

def isLoose (path : Path) : Bool :=
  path.extension == ".yaml" || path.extension == ".yml"

def isDocument (path : Path) : Bool :=
  path.isLoose || path.extension == ".json"

end Path

/-- What a defect of a document of the strict dialect amounts to. -/
def strictFault : Value.Defect → Fault
  | .malformed | .brokenToken | .foreignCharacter | .foreignPoint => .unreadableDocument
  | .tooDeep => .deepDocument
  | .oversizedNumeral digits => .oversizedNumeral digits

/-- What a defect of a document of the loose dialect amounts to. -/
def looseFault : Value.Defect → Fault
  | .malformed => .unreadableLooseDocument
  | .brokenToken => .unreadableToken
  | .foreignCharacter => .unreadableCharacter
  | .foreignPoint => .foreignPoint
  | .tooDeep => .deepDocument
  | .oversizedNumeral digits => .oversizedNumeral digits

def strictContent (text : String) : Except Fault Value :=
  (Value.readStrict text).mapError strictFault

/-- The value of characters in the loose dialect.  A document without anything in
it, and one that holds nothing but a void value, stand for an object without
fields. -/
def looseContent (text : String) : Except Fault Value :=
  match Value.readLoose text with
  | .ok value => .ok ((value.filter Value.isTruthy).getD (.object []))
  | .error defect => .error (looseFault defect)

/-- The value that the characters of the file under a path stand for. -/
def Path.contentOf (path : Path) (text : String) : Except Fault Value :=
  if path.isLoose then looseContent text else strictContent text

namespace Folder

def content (folder : Folder) (path : Path) : Except Fault Value := do
  path.contentOf (← folder.read path)

/-- The documents inside the folder under a path, all of them by paths that start
with that path.  There are none where no folder is, unless the path to a kind of
records would be too long. -/
def documents (folder : Folder) (base : Path) : Except Fault (List Document) := do
  RecordKind.all.forM fun kind => discard (folder.leads (base.under kind.folder))
  match folder.locate base with
  | .error _ => return []
  | .ok place =>
    let inside := folder.files.filter fun file => file.path.isInside place
    return (inside.filter (·.path.isDocument)).map fun file =>
      ⟨file.path.rebase place base, file.path.contentOf file.text⟩

end Folder

/-- The documents inside a folder, in the order of their paths. -/
def documentsInside (documents : List Document) (folder : Path) : List Document :=
  (documents.filter (·.path.isInside folder)).mergeSort fun first second =>
    first.path.before second.path

/-- The records that a document's content holds: its items, the items of the list
in the field named for the kind, or the content itself.  A scenario has a
document of its own. -/
def RecordKind.recordsOf (kind : RecordKind) (content : Value) : List Value :=
  match kind, content with
  | .scenario, _ => [content]
  | _, .list items => items
  | _, .object fields =>
    match Fields.get? fields kind.folder with
    | some (.list items) => items
    | _ => [content]
  | _, _ => [content]

end Skirmish
