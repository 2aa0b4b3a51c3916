import Skirmish.Binary64.Basic

/-!
# Dynamic values

Content files, settings and the parts of a rule that this engine does not know
arrive as values without a schema.  The fields of an object keep the order in
which they were written, and an integer is told apart from a floating number
that equals it.
-/

namespace Skirmish

/-- A value without a schema. -/
inductive Value where
  | null
  | bool (b : Bool)
  | int (n : Int)
  | float (x : Binary64)
  | text (s : String)
  | list (items : List Value)
  | object (fields : List (String × Value))
  deriving Repr, Inhabited

/-- The fields of an object, in written order. -/
abbrev Fields := List (String × Value)

def Fields.get? (fields : Fields) (name : String) : Option Value :=
  fields.lookup name

def Fields.without (fields : Fields) (name : String) : Fields :=
  fields.filter (·.1 != name)

/-- The fields with `name` set to `value`: in its old place when the name is
there already, at the end otherwise. -/
def Fields.set (fields : Fields) (name : String) (value : Value) : Fields :=
  if fields.any (·.1 == name) then
    fields.map fun field => if field.1 == name then (name, value) else field
  else
    fields ++ [(name, value)]

namespace Value

def texts (strings : List String) : Value :=
  .list (strings.map .text)

def optional (encode : α → Value) : Option α → Value
  | none => .null
  | some a => encode a

/-- The value is not nothing: neither null, false, a zero nor empty. -/
def isTruthy : Value → Bool
  | .null => false
  | .bool b => b
  | .int n => n != 0
  | .float (.finite _ significand _) => significand != 0
  | .float _ => true
  | .text s => !s.isEmpty
  | .list items => !items.isEmpty
  | .object fields => !fields.isEmpty

mutual

/-- The integers within a value, in written order. -/
def integers : Value → List Int
  | .int n => [n]
  | .list items => integersOfItems items
  | .object fields => integersOfFields fields
  | _ => []

def integersOfItems : List Value → List Int
  | [] => []
  | item :: rest => integers item ++ integersOfItems rest

def integersOfFields : List (String × Value) → List Int
  | [] => []
  | (_, value) :: rest => integers value ++ integersOfFields rest

end

end Value

end Skirmish
