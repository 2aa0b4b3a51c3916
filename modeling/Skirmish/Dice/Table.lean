import Skirmish.Dice.Source

/-!
# The dice table

Rolling takes place on a table: the source of dice, the faces drawn so far, and
a trace of what happened when the caller asked for one.  A calculation that
stops leaves the table as it was at that moment, so dice once drawn stay drawn.
-/

namespace Skirmish

/-- The lines of a trace, or `none` when nobody asked for one. -/
abbrev Trace := Option (List String)

namespace Trace

/-- A trace with one more line, under a tag. -/
def note (trace : Trace) (tag message : String) : Trace :=
  trace.map (· ++ [s!"[{tag}] {message}"])

def lines (trace : Trace) : List String :=
  trace.getD []

end Trace

/-- A source of dice with the faces drawn from it, the latest first, and a
trace. -/
structure Table (σ : Type) where
  dice : σ
  drawn : List Nat := []
  trace : Trace := none

/-- A calculation that may roll dice, take notes and stop. -/
abbrev Roll (σ : Type) := ExceptT Fault (StateM (Table σ))

namespace Roll

variable {σ : Type} [DiceSource σ]

def note (tag message : String) : Roll σ Unit :=
  modify fun table => { table with trace := table.trace.note tag message }

def die (sides : Nat) : Roll σ Nat := do
  let table ← get
  match DiceSource.draw sides table.dice with
  | some (face, dice) =>
    set { table with dice, drawn := face :: table.drawn }
    return face
  | none => throw .outOfDice

def dieSum (sides : Nat) : (count : Nat) → Roll σ Nat
  | 0 => return 0
  | count + 1 => do
    let face ← die sides
    return face + (← dieSum sides count)

def d6 : Roll σ Nat :=
  die 6

/-- Numbers that are about to be written. -/
def writable (numbers : List Int) : Roll σ Unit :=
  (Skirmish.writable numbers : Except Fault Unit)

end Roll

end Skirmish
