import Skirmish.Content.Document
import Skirmish.Rulebook.Rule
import Skirmish.Rulebook.Scenario
import Skirmish.Rulebook.Stratagem

/-!
# The catalogue

The rules, stratagems and scenarios of a content folder, each kind in the order
of its documents.  No two records of one kind have the same id.  Collecting
stops at the first record that cannot be taken.
-/

namespace Skirmish

structure Catalogue where
  rules : List Rule := []
  stratagems : List Stratagem := []
  scenarios : List Scenario := []

/-- A record that is known by an id, with its kind and its reader. -/
class Catalogued (α : Type) where
  /-- The kind of the record. -/
  kind : RecordKind
  /-- The id of a record. -/
  id : α → String
  /-- Read a record. -/
  read : Value → Schema.Checked α

instance : Catalogued Rule where
  kind := .rule
  id := Rule.id
  read := Rule.read

instance : Catalogued Stratagem where
  kind := .stratagem
  id := Stratagem.id
  read := Stratagem.read

instance : Catalogued Scenario where
  kind := .scenario
  id := Scenario.id
  read := Scenario.read

namespace Catalogue

section Collecting

variable {α : Type} [Catalogued α]

def find? (records : List α) (id : String) : Option α :=
  records.find? (Catalogued.id · == id)

def require (records : List α) (id : String) : Except Fault α :=
  match find? records id with
  | some record => .ok record
  | none => .error (.missingId id)

/-- Add the record that a value in a file holds. -/
def collectValue (file : Path) (records : List α) (value : Value) :
    Except Fault (List α) := do
  let record : α ← (Catalogued.read value).orFault
  if (find? records (Catalogued.id record)).isSome then
    throw (.duplicate (Catalogued.kind α) (Catalogued.id record) file.text)
  return records ++ [record]

def collectDocument (records : List α) (document : Document) : Except Fault (List α) := do
  let content ← document.content
  ((Catalogued.kind α).recordsOf content).foldlM (collectValue document.path) records

def folderOf (α : Type) [Catalogued α] (base : Path) : Path :=
  base.under (Catalogued.kind α).folder

def collect (documents : List Document) (base : Path) : Except Fault (List α) :=
  (documentsInside documents (folderOf α base)).foldlM collectDocument []

end Collecting

def load (documents : List Document) (base : Path) : Except Fault Catalogue := do
  let rules ← collect documents base
  let stratagems ← collect documents base
  let scenarios ← collect documents base
  return { rules, stratagems, scenarios }

def rule (catalogue : Catalogue) (id : String) : Except Fault Rule :=
  require catalogue.rules id

def stratagem (catalogue : Catalogue) (id : String) : Except Fault Stratagem :=
  require catalogue.stratagems id

def scenario (catalogue : Catalogue) (id : String) : Except Fault Scenario :=
  require catalogue.scenarios id

/-- The rules with the given ids; all ids without a rule are reported. -/
def rulesWithIds (catalogue : Catalogue) (ids : List String) : Except Fault (List Rule) :=
  match ids.filter fun id => (find? catalogue.rules id).isNone with
  | [] => ids.mapM catalogue.rule
  | missing => .error (.missingRules missing)

def rulesOfFaction (catalogue : Catalogue) (faction : String) : List Rule :=
  catalogue.rules.filter fun rule => Text.lower rule.faction == Text.lower faction

end Catalogue

def Folder.scenario (folder : Folder) (path : Path) : Except Fault Scenario := do
  (Scenario.read (← folder.content path)).orFault

end Skirmish
