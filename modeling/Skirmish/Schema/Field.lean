import Skirmish.Schema.Scalar
import Skirmish.Schema.Vocabulary

/-!
# Reading fields

Combinators for the fields of a record: required ones, ones with a default,
lists, words of a vocabulary, and records chosen by a tag.
-/

namespace Skirmish.Schema

def word {α : Type} [Vocabulary α] : Value → Checked α
  | .text s =>
    match Vocabulary.ofWord? s with
    | some value => .accepted value
    | none => .reject (if Text.holdsHalf s then .brokenText else .outsideVocabulary)
  | _ => .reject .outsideVocabulary

def optional {α : Type} (read : Value → Checked α) : Value → Checked (Option α)
  | .null => .accepted none
  | value => some <$> read value

/-- A list, each item of which is read the same way. -/
def list {α : Type} (read : Value → Checked α) : Value → Checked (List α)
  | .list values => Checked.items (values.map read)
  | _ => .reject .notList

def listOfSome {α : Type} (read : Value → Checked α) (value : Value) :
    Checked (List α) :=
  match value with
  | .list [] => .reject .tooShort
  | _ => list read value

/-- The entries of an object with fields of any name.  The path to an entry names it
without the halves in its name. -/
def entries {α : Type} (read : Value → Checked α) : Fields → Checked (List (String × α))
  | [] => .accepted []
  | (name, value) :: rest =>
    (fun first others => (name, first) :: others)
      <$> (read value).under (.name (Text.lossy name)) <*> entries read rest

def mapping {α : Type} (read : Value → Checked α) : Value → Checked (List (String × α))
  | .object fields => entries read fields
  | _ => .reject .notMapping

def record {α : Type} (read : Fields → Checked α) : Value → Checked α
  | .object fields => read fields
  | _ => .reject .notRecord

def required {α : Type} (fields : Fields) (name : String) (read : Value → Checked α) :
    Checked α :=
  match fields.get? name with
  | some value => (read value).under (.name name)
  | none => .rejected [⟨[.name name], .missing⟩]

/-- A field with a value of its own when it is not there. -/
def defaulted {α : Type} (fields : Fields) (name : String) (fallback : α)
    (read : Value → Checked α) : Checked α :=
  match fields.get? name with
  | some value => (read value).under (.name name)
  | none => .accepted fallback

/-- The field `is`, which may also be written `is_`; the plain spelling wins, and
it is the one that is reported when neither is there. -/
def requiredIs {α : Type} (fields : Fields) (read : Value → Checked α) : Checked α :=
  match fields.get? "is" with
  | some value => (read value).under (.name "is")
  | none =>
    match fields.get? "is_" with
    | some value => (read value).under (.name "is_")
    | none => .rejected [⟨[.name "is"], .missing⟩]

/-- A record of one of several shapes, told apart by the word in the field
`tag`.  Violations inside a shape are reported under its tag. -/
def tagged {α : Type} (tag : String) (shape? : String → Option (Fields → Checked α)) :
    Value → Checked α
  | .object fields =>
    match Fields.get? fields tag with
    | none => .reject .tagMissing
    | some (.text name) =>
      match shape? name with
      | some read => (read fields).under (.name name)
      | none => .reject .tagUnknown
    | some _ => .reject .tagUnknown
  | _ => .reject .notTagged

/-- The fields of a node that keeps them all.  None of their names may hold half of
a pair of code units. -/
def kept {α : Type} (fields : Fields) (reading : Checked α) : Checked α :=
  if fields.any fun field => Text.holdsHalf field.1 then .reject .brokenText else reading

/-- The most steps that nodes within one another may take. -/
def nestingLimit : Nat := 255

/-- The reading of a node that is reached in so many steps, or its rejection under
its tag when they are too many. -/
def nested {α : Type} (steps : Nat) (tag : String) (reading : Checked α) : Checked α :=
  if steps ≤ nestingLimit then reading.under (.name tag)
  else .rejected [⟨[.name tag], .tooDeep⟩]

end Skirmish.Schema
