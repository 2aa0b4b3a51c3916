import Skirmish.Text.Point

/-!
# Checked readings

Reading a record does not stop at its first bad field: every violation is
reported with the path to it, in the order of the fields.  A reading is
therefore combined as an applicative functor, whose two sides are both looked at
before either fails.  A few obstacles stop a reading altogether.
-/

namespace Skirmish.Schema

/-- One step of a path into a value: a field, a tag or an alternative by name,
or an item of a list. -/
inductive Step where
  | name (name : String)
  | index (i : Nat)
  deriving DecidableEq, Repr

inductive Problem where
  | missing
  | notText
  | brokenText
  | notInt
  | unreadableInt
  | fractionalInt
  | oversizedInt
  | notFinite
  | notFloat
  | unreadableFloat
  | notBool
  | unreadableBool
  | outsideVocabulary
  | notList
  | notMapping
  | notRecord
  | tooShort
  | tooSmall
  | tooLarge
  | tagMissing
  | tagUnknown
  | notTagged
  | tooDeep
  | notDocument
  | inconsistent (message : String)
  deriving DecidableEq, Repr

/-- The code under which a problem is reported. -/
def Problem.code : Problem → String
  | .missing => "missing"
  | .notText => "string_type"
  | .brokenText => "string_unicode"
  | .notInt => "int_type"
  | .unreadableInt => "int_parsing"
  | .fractionalInt => "int_from_float"
  | .oversizedInt => "int_parsing_size"
  | .notFinite => "finite_number"
  | .notFloat => "float_type"
  | .unreadableFloat => "float_parsing"
  | .notBool => "bool_type"
  | .unreadableBool => "bool_parsing"
  | .outsideVocabulary => "literal_error"
  | .notList => "list_type"
  | .notMapping => "dict_type"
  | .notRecord => "model_type"
  | .tooShort => "too_short"
  | .tooSmall => "greater_than_equal"
  | .tooLarge => "less_than_equal"
  | .tagMissing => "union_tag_not_found"
  | .tagUnknown => "union_tag_invalid"
  | .notTagged => "model_attributes_type"
  | .tooDeep => "recursion_depth_exceeded"
  | .notDocument => "json_invalid"
  | .inconsistent _ => "value_error"

/-- A problem and the path to the value that has it. -/
structure Violation where
  path : List Step
  problem : Problem
  deriving DecidableEq, Repr

inductive Obstacle where
  /-- A list or an object stands in the place of a node's kind. -/
  | unusableKind
  /-- A message would hold half of a pair of code units. -/
  | unwritable
  deriving Repr, DecidableEq

/-- The outcome of reading a value: the value read, every violation found, or what
stopped the reading. -/
inductive Checked (α : Type) where
  | accepted (value : α)
  | rejected (violations : List Violation)
  | stopped (obstacle : Obstacle)
  deriving Repr, DecidableEq

namespace Checked

/-- Apply a read function to a read argument, after looking at both.  The first
obstacle counts. -/
def seq {α β : Type} : Checked (α → β) → Checked α → Checked β
  | .stopped obstacle, _ | _, .stopped obstacle => .stopped obstacle
  | .rejected first, .rejected second => .rejected (first ++ second)
  | .rejected first, .accepted _ => .rejected first
  | .accepted _, .rejected second => .rejected second
  | .accepted f, .accepted value => .accepted (f value)

instance : Applicative Checked where
  pure := .accepted
  seq f value := seq f (value ())

/-- Reject a value for one problem of its own, if its message can be written. -/
def reject {α : Type} (problem : Problem) : Checked α :=
  match problem with
  | .inconsistent message =>
    if Text.holdsHalf message then .stopped .unwritable else .rejected [⟨[], problem⟩]
  | _ => .rejected [⟨[], problem⟩]

/-- A reading one step further into a value. -/
def under {α : Type} (step : Step) : Checked α → Checked α
  | .rejected violations =>
    .rejected (violations.map fun violation =>
      { violation with path := step :: violation.path })
  | outcome => outcome

/-- A check of the value read, made only when all of it was accepted. -/
def ensure {α : Type} (check : α → Option Problem) : Checked α → Checked α
  | .accepted value =>
    match check value with
    | none => .accepted value
    | some problem => reject problem
  | outcome => outcome

/-- The first of two alternatives that accepts the value.  When neither does, the
violations of both are reported, each under the alternative's name. -/
def either {α : Type} (firstName secondName : String) :
    Checked α → Checked α → Checked α
  | .accepted value, _ | _, .accepted value => .accepted value
  | first, second =>
    (fun _ value => value) <$> first.under (.name firstName)
      <*> second.under (.name secondName)

/-- The readings of a list's items from the place `start` on, as the reading of
a list. -/
def itemsFrom {α : Type} (start : Nat) : List (Checked α) → Checked (List α)
  | [] => .accepted []
  | item :: rest => List.cons <$> item.under (.index start) <*> itemsFrom (start + 1) rest

/-- The readings of a list's items as the reading of a list. -/
def items {α : Type} (readings : List (Checked α)) : Checked (List α) :=
  itemsFrom 0 readings

end Checked

end Skirmish.Schema
