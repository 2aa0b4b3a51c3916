import Skirmish.Rulebook.Modifier

/-!
# The ledger

A ledger collects the adjustments of one side of one attack, stat by stat.
Within a stat the entries stand in order of priority, and entries of one
priority in the order in which they were added.

To fold the entries of a stat onto a base value, additions and subtractions
accumulate first, then the last `set` replaces all of that, and then the clamps
bound the result.
-/

namespace Skirmish

/-- The adjustments of one side: the stats in the order in which they were first
added, each with its entries. -/
structure Ledger where
  rows : List (String × List Modifier) := []
  deriving DecidableEq, Repr

namespace Ledger

def empty : Ledger := {}

/-- Insert a modifier after all entries of its priority or a lower one. -/
def insertByPriority (modifier : Modifier) : List Modifier → List Modifier
  | [] => [modifier]
  | entry :: rest =>
    if modifier.priority < entry.priority then modifier :: entry :: rest
    else entry :: insertByPriority modifier rest

/-- Insert a modifier into the row of its stat, which is opened at the end when
there is none. -/
def addToRows (modifier : Modifier) :
    List (String × List Modifier) → List (String × List Modifier)
  | [] => [(modifier.stat, [modifier])]
  | (stat, entries) :: rest =>
    if stat = modifier.stat then (stat, insertByPriority modifier entries) :: rest
    else (stat, entries) :: addToRows modifier rest

def add (ledger : Ledger) (modifier : Modifier) : Ledger :=
  ⟨addToRows modifier ledger.rows⟩

def entriesFor (ledger : Ledger) (stat : String) : List Modifier :=
  (ledger.rows.lookup stat).getD []

def entries (ledger : Ledger) : List Modifier :=
  ledger.rows.flatMap (·.2)

/-- The stats that have entries, in the order in which they were first added. -/
def stats (ledger : Ledger) : List String :=
  ledger.rows.map (·.1)

def size (ledger : Ledger) : Nat :=
  ledger.entries.length

/-- A stat is granted when one of its entries is above zero. -/
def has (ledger : Ledger) (stat : String) : Bool :=
  (ledger.entriesFor stat).any (·.value.isPositive)

/-- Remove the entries of a source; a stat left without entries loses its
place. -/
def clearSource (ledger : Ledger) (source : String) : Ledger :=
  ⟨(ledger.rows.map fun (stat, entries) =>
      (stat, entries.filter (·.source != source))).filter fun (_, entries) =>
        !entries.isEmpty⟩

def countSource (ledger : Ledger) (source : String) : Nat :=
  ledger.entries.countP (·.source == source)

/-- The sum of what the entries of a stat contribute, unless an integer is too
large on the way. -/
def netValue? (ledger : Ledger) (stat : String) : Option Number :=
  ((ledger.entriesFor stat).foldlM (fun sum entry => Number.add? sum entry.signedValue)
    (Number.int 0)).bind Number.normalize?

/-! ## Folding -/

/-- A value on its way through the entries of a stat, with the steps told so
far. -/
structure Folding where
  value : Number
  lines : List String

def stepLine (entry : Modifier) (result : Number) : String :=
  let operation := Vocabulary.word entry.operation
  s!"[Ledger] {entry.stat} {operation} {entry.value.text} ({entry.source}) -> {result.text}"

/-- Replace the value in a step that an entry causes. -/
def Folding.step? (folding : Folding) (entry : Modifier) (value : Number) :
    Option Folding :=
  value.normalize?.map fun shown =>
    ⟨value, folding.lines ++ [stepLine entry shown]⟩

/-- Additions and subtractions accumulate. -/
def Folding.accumulate? (folding : Folding) (entry : Modifier) : Option Folding :=
  match entry.operation with
  | .add | .subtract =>
    (folding.value.add? entry.signedValue).bind (folding.step? entry)
  | _ => some folding

/-- A `set` replaces what was accumulated. -/
def Folding.replace? (folding : Folding) (entry : Modifier) : Option Folding :=
  folding.step? entry entry.value

/-- The clamps bound the value from below or from above. -/
def Folding.clamp? (folding : Folding) (entry : Modifier) : Option Folding :=
  match entry.operation with
  | .clampMin =>
    if folding.value.lt entry.value then folding.step? entry entry.value else some folding
  | .clampMax =>
    if entry.value.lt folding.value then folding.step? entry entry.value else some folding
  | _ => some folding

/-- The last `set` among the entries of a stat. -/
def lastSet? (entries : List Modifier) : Option Modifier :=
  (entries.filter (·.operation == .set)).getLast?

/-- Fold the entries of a stat onto a base value, unless an integer is too large
on the way. -/
def fold? (entries : List Modifier) (base : Number) : Option Folding := do
  let accumulated ← entries.foldlM Folding.accumulate? ⟨base, []⟩
  let replaced ←
    match lastSet? entries with
    | some entry => accumulated.replace? entry
    | none => some accumulated
  let clamped ← entries.foldlM Folding.clamp? replaced
  return { clamped with value := ← clamped.value.normalize? }

/-- The value of a stat over a base value, with the steps that lead to it.  A
stat without entries leaves the base value as it is. -/
def tracedValueOver? (ledger : Ledger) (stat : String) (base : Number) :
    Option (Number × List String) :=
  match ledger.entriesFor stat with
  | [] => some (base, [])
  | entries => (fold? entries base).map fun folding => (folding.value, folding.lines)

def valueOver? (ledger : Ledger) (stat : String) (base : Number) : Option Number :=
  (ledger.tracedValueOver? stat base).map (·.1)

/-! ## Rerolls -/

def rerollStat (phase : String) (kind : RerollKind) : String :=
  s!"reroll:{phase}:{Vocabulary.word kind}"

/-- The broadest reroll granted for a phase: by the ledger, if there is one, or
by one of the kinds named in `extra`. -/
def rerollKind? (ledger : Option Ledger) (phase : String) (extra : List String) :
    Option RerollKind :=
  [.all, .failed, .ones].find? fun kind =>
    extra.contains (Vocabulary.word kind) ||
      (ledger.map (·.has (rerollStat phase kind))).getD false

end Ledger

end Skirmish
