import Skirmish.Value.Token

/-!
# Reading documents

A document is read in two passes.  The first one splits the characters into
tokens; the second one builds the value, one token at a time, with the open lists
and objects on a stack.  Both are plain recursions on their input, so every
document is either read or refused, for the first defect that is met.

The dialects of documents differ in their tokens, in what a bare word or a text
stands for, in how deep lists and objects may lie, and in how far a field's name
may be from its colon.
-/

namespace Skirmish.Value

structure Dialect where
  /-- The tokens of a document's characters. -/
  tokens : List Char → List PlacedToken
  /-- The value of a bare word. -/
  word : List Char → Except Defect Value
  /-- The value of a text. -/
  text : List Nat → Except Defect Value
  /-- The most lists and objects that may lie within one another. -/
  deepest : Nat
  /-- A list or object counts only when there is something in it. -/
  emptyIsFlat : Bool := false
  /-- A field's name that starts at one place may have its colon at another. -/
  joins : Place → Place → Bool := fun _ _ => true

/-- A list or object that is not closed yet, with what it holds so far.  An
object also holds the name of the field whose value comes next. -/
inductive Frame where
  | list (items : List Value)
  | object (fields : Fields) (name : String)

/-- What may come next: a value, a value or the end of an empty list, a field
name, a field name or the end of an empty object, a colon after a name, or what
follows a complete value. -/
inductive Expectation where
  | value
  | valueOrClose
  | name
  | nameOrClose
  | colon (name : Place)
  | after (value : Value)

namespace Dialect

/-- A list or object may be opened within so many others. -/
def admits (dialect : Dialect) (depth : Nat) : Bool :=
  dialect.emptyIsFlat || depth < dialect.deepest

/-- Something may lie within so many lists and objects. -/
def fills (dialect : Dialect) (depth : Nat) : Bool :=
  !dialect.emptyIsFlat || depth ≤ dialect.deepest

/-- What a single token does to the open lists and objects, the innermost one
first.  While a field's name is awaited its object is kept with an empty name. -/
def accept (dialect : Dialect) (frames : List Frame) (expectation : Expectation)
    (next : PlacedToken) : Except Defect (List Frame × Expectation) :=
  match expectation, next.token, frames with
  | _, .broken defect, _ => .error defect
  | .after value, .comma, .list items :: outer => .ok (.list (items ++ [value]) :: outer, .value)
  | .after value, .closeList, .list items :: outer => .ok (outer, .after (.list (items ++ [value])))
  | .after value, .comma, .object fields name :: outer =>
    .ok (.object (fields.set name value) "" :: outer, .name)
  | .after value, .closeObject, .object fields name :: outer =>
    .ok (outer, .after (.object (fields.set name value)))
  | .nameOrClose, .closeObject, _ :: outer => .ok (outer, .after (.object []))
  | .valueOrClose, .closeList, _ :: outer => .ok (outer, .after (.list []))
  | .name, .text points, .object fields _ :: outer
  | .nameOrClose, .text points, .object fields _ :: outer =>
    if dialect.fills frames.length then do
      let _ ← dialect.text points
      .ok (.object fields (Text.ofPoints points) :: outer, .colon next.place)
    else
      .error .tooDeep
  | .colon name, .colon, frames =>
    if dialect.joins name next.place then .ok (frames, .value) else .error .malformed
  | .value, token, frames | .valueOrClose, token, frames =>
    if !dialect.fills frames.length then .error .tooDeep else
    match token with
    | .openList =>
      if dialect.admits frames.length then .ok (.list [] :: frames, .valueOrClose)
      else .error .tooDeep
    | .openObject =>
      if dialect.admits frames.length then .ok (.object [] "" :: frames, .nameOrClose)
      else .error .tooDeep
    | .text points => (dialect.text points).map (frames, .after ·)
    | .word chars => (dialect.word chars).map (frames, .after ·)
    | _ => .error .malformed
  | _, _, _ => .error .malformed

def build (dialect : Dialect) (frames : List Frame) (expectation : Expectation) :
    List PlacedToken → Except Defect Value
  | [] =>
    match frames, expectation with
    | [], .after value => .ok value
    | _, _ => .error .malformed
  | next :: rest =>
    match dialect.accept frames expectation next with
    | .ok (frames, expectation) => dialect.build frames expectation rest
    | .error defect => .error defect

def read (dialect : Dialect) (chars : List Char) : Except Defect Value :=
  dialect.build [] .value (dialect.tokens chars)

end Dialect

end Skirmish.Value
