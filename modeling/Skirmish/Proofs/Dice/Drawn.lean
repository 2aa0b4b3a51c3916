import Skirmish.Proofs.Dice.Expression
import Skirmish.Proofs.Runs
import Skirmish.Volley.Phases

/-!
# Faces drawn by rolls

A table keeps the faces drawn from its dice.  Every roll appends what it draws to them:
a die its face, a test the faces of its record, a repetition those of its rolls one
after the other.  An expression without dice draws nothing, whether it returns or
stops.
-/

namespace Skirmish

/-- The faces drawn at a table, the earliest first. -/
def Table.faces {σ : Type} (table : Table σ) : List Int :=
  table.drawn.reverse.map fun (face : Nat) => (face : Int)

/-- The faces that a record shows in the order in which they were drawn. -/
def RollRecord.faces (record : RollRecord) : List Int :=
  record.replaced.toList ++ [record.value]

/-- The faces that the records of a log show. -/
def PhaseLog.faces (log : PhaseLog) : List Int :=
  log.rolls.flatMap RollRecord.faces

variable {σ : Type}

/-- The second table differs from the first in its trace only. -/
def Table.Retraced (table other : Table σ) : Prop :=
  ∃ trace, other = { table with trace }

/-- The second table has no other faces than the first. -/
def Table.Keeps (table other : Table σ) : Prop :=
  other.faces = table.faces

/-- The second table has further faces after those of the first, or none. -/
def Table.Extends (table other : Table σ) : Prop :=
  table.faces <+: other.faces

instance : IsPreorder (Table σ) Table.Keeps where
  refl _ := rfl
  trans _ _ _ first second := Eq.trans second first

instance : IsPreorder (Table σ) Table.Extends where
  refl _ := List.prefix_refl _
  trans _ _ _ first second := List.IsPrefix.trans first second

theorem Table.Retraced.keeps {table other : Table σ} (retraced : table.Retraced other) :
    table.Keeps other := by
  obtain ⟨trace, rfl⟩ := retraced
  rfl

theorem Table.Retraced.faces_eq {table other : Table σ} (retraced : table.Retraced other) :
    other.faces = table.faces :=
  retraced.keeps

/-- Two tables that differ from a third one in their traces only differ from each other in
their traces only. -/
theorem Table.Retraced.both {table first second : Table σ} (toFirst : table.Retraced first)
    (toSecond : table.Retraced second) : first.Retraced second := by
  obtain ⟨_, rfl⟩ := toFirst
  obtain ⟨trace, rfl⟩ := toSecond
  exact ⟨trace, rfl⟩

theorem Table.Keeps.extends {table other : Table σ} (keeps : table.Keeps other) :
    table.Extends other :=
  ⟨[], (List.append_nil _).trans (Eq.symm keeps)⟩

namespace Roll

variable {start final : Table σ}

@[simp]
theorem returns_note_iff {tag message : String} {value : Unit} :
    Returns (note tag message : Roll σ Unit) start value final ↔
      final = { start with trace := start.trace.note tag message } :=
  returns_modify_iff

@[simp]
theorem returns_writable_iff {numbers : List Int} {value : Unit} :
    Returns (writable numbers : Roll σ Unit) start value final ↔
      Skirmish.writable numbers = .ok value ∧ final = start :=
  returns_lift_iff

theorem length_times {α : Type} {action : Roll σ α} {count : Nat} {values : List α}
    (returns : Returns (times count action) start values final) : values.length = count := by
  induction count generalizing start values with
  | zero =>
      obtain ⟨rfl, rfl⟩ := returns_pure_iff.mp returns
      rfl
  | succ count ih =>
      simp only [times, returns_bind_iff, returns_pure_iff] at returns
      obtain ⟨first, _, -, others, _, ranOthers, rfl, rfl⟩ := returns
      rw [List.length_cons, ih ranOthers]

theorem forall_mem_times {α : Type} {action : Roll σ α} {good : α → Prop}
    (each : ∀ {start final value}, Returns action start value final → good value)
    {count : Nat} {values : List α} (returns : Returns (times count action) start values final) :
    ∀ value ∈ values, good value := by
  induction count generalizing start values with
  | zero =>
      obtain ⟨rfl, rfl⟩ := returns_pure_iff.mp returns
      simp
  | succ count ih =>
      simp only [times, returns_bind_iff, returns_pure_iff] at returns
      obtain ⟨first, _, ranFirst, others, _, ranOthers, rfl, rfl⟩ := returns
      exact List.forall_mem_cons.mpr ⟨each ranFirst, ih ranOthers⟩

/-- A repetition appends what each of its rounds appends. -/
theorem faces_times {α : Type} {action : Roll σ α} {faces : α → List Int}
    (appends : ∀ {start final value}, Returns action start value final →
      final.faces = start.faces ++ faces value)
    {count : Nat} {values : List α} (returns : Returns (times count action) start values final) :
    final.faces = start.faces ++ values.flatMap faces := by
  induction count generalizing start values with
  | zero =>
      obtain ⟨rfl, rfl⟩ := returns_pure_iff.mp returns
      simp
  | succ count ih =>
      simp only [times, returns_bind_iff, returns_pure_iff] at returns
      obtain ⟨first, _, ranFirst, others, _, ranOthers, rfl, rfl⟩ := returns
      rw [ih ranOthers, appends ranFirst, List.flatMap_cons, List.append_assoc]

theorem faces_mapM {α ι : Type} {step : ι → Roll σ α} {faces : α → List Int}
    (appends : ∀ {item start final value}, Returns (step item) start value final →
      final.faces = start.faces ++ faces value)
    {items : List ι} {values : List α} (returns : Returns (items.mapM step) start values final) :
    final.faces = start.faces ++ values.flatMap faces := by
  induction items generalizing start values with
  | nil =>
      obtain ⟨rfl, rfl⟩ := returns_pure_iff.mp returns
      simp
  | cons item items ih =>
      simp only [List.mapM_cons, returns_bind_iff, returns_pure_iff] at returns
      obtain ⟨value, _, ranItem, others, _, ranOthers, rfl, rfl⟩ := returns
      rw [ih ranOthers, appends ranItem, List.flatMap_cons, List.append_assoc]

variable [DiceSource σ]

theorem outcomeOf_die (sides : Nat) (start : Table σ) :
    outcomeOf (die sides) start =
      match DiceSource.draw sides start.dice with
      | some (face, dice) => (.ok face, { start with dice, drawn := face :: start.drawn })
      | none => (.error .outOfDice, start) := by
  unfold die
  rw [outcomeOf_bind, outcomeOf_get]
  dsimp only
  cases DiceSource.draw sides start.dice <;> rfl

theorem returns_die_iff {sides face : Nat} :
    Returns (die sides) start face final ↔ ∃ dice,
      DiceSource.draw sides start.dice = some (face, dice) ∧
        final = { start with dice, drawn := face :: start.drawn } := by
  unfold Returns
  rw [outcomeOf_die]
  constructor
  · intro returns
    split at returns
    · cases returns
      exact ⟨_, ‹_›, rfl⟩
    · cases returns
  · rintro ⟨dice, drawn, rfl⟩
    rw [drawn]

theorem faces_die {sides face : Nat} (returns : Returns (die sides) start face final) :
    final.faces = start.faces ++ [(face : Int)] := by
  obtain ⟨dice, -, rfl⟩ := returns_die_iff.mp returns
  simp [Table.faces]

/-- A die appends its face, or nothing when there is none. -/
theorem extends_die (sides : Nat) : Moves Table.Extends (die sides : Roll σ Nat) := by
  intro start
  rw [outcomeOf_die]
  split
  · simp [Table.Extends, Table.faces]
  · exact refl_of Table.Extends start

end Roll

/-! ## Tests -/

variable [DiceSource σ] {start final : Table σ}

theorem faces_rollTest {success : Int → Bool} {reroll : Reroll} {critical : Int}
    {record : RollRecord}
    (returns : Returns (rollTest success reroll critical) start record final) :
    final.faces = start.faces ++ record.faces := by
  simp only [rollTest, returns_bind_iff, returns_pure_iff] at returns
  obtain ⟨_, middle, ⟨face, _, ranFace, rfl, rfl⟩, returns⟩ := returns
  have drawnFace := Roll.faces_die ranFace
  split at returns
  · simp only [returns_bind_iff, returns_pure_iff] at returns
    obtain ⟨_, last, ⟨again, _, ranAgain, rfl, rfl⟩, rfl, rfl⟩ := returns
    rw [Roll.faces_die ranAgain, drawnFace]
    simp [RollRecord.faces]
  · obtain ⟨rfl, rfl⟩ := returns_pure_iff.mp returns
    rw [drawnFace]
    simp [RollRecord.faces]

theorem faces_rollPass {threshold critical : Int} {reroll : Reroll} {record : RollRecord}
    (returns : Returns (rollPass threshold critical reroll) start record final) :
    final.faces = start.faces ++ record.faces := by
  simp only [rollPass, returns_bind_iff, returns_pure_iff] at returns
  obtain ⟨tested, middle, ran, rfl, rfl⟩ := returns
  have drawn := faces_rollTest ran
  simpa [RollRecord.faces] using drawn

/-! ## Expressions -/

section

variable {relation : Table σ → Table σ → Prop} [IsPreorder (Table σ) relation]

omit [DiceSource σ] in
theorem moves_times {α : Type} {action : Roll σ α} (moves : Moves relation action)
    (count : Nat) : Moves relation (Roll.times count action) := by
  induction count with
  | zero => exact moves_pure []
  | succ count ih =>
      unfold Roll.times
      exact moves_bind moves fun _ => moves_bind ih fun _ => moves_pure _

/-- An expression moves the table as its terms do. -/
theorem moves_rollText {text : String}
    (moves : ∀ expression, DiceExpression.read? text = some expression →
      ∀ signed ∈ expression.terms, Moves relation (signed.term.roll text : Roll σ Number)) :
    Moves relation (rollText text : Roll σ Int) := by
  unfold rollText
  split
  · exact moves_throw _
  · rename_i expression read
    refine moves_bind (moves_mapM (moves expression read)) fun totals => ?_
    exact moves_bind (moves_lift _) fun total => moves_lift _

variable (retraced : ∀ {table other : Table σ}, table.Retraced other → relation table other)
include retraced

omit [DiceSource σ] [IsPreorder (Table σ) relation] in
theorem moves_note (tag message : String) : Moves relation (Roll.note tag message) :=
  moves_modify fun _ => retraced ⟨_, rfl⟩

omit [DiceSource σ] in
theorem moves_orFallback {α : Type} {roll : Roll σ α} {fallback : α}
    {shown : Except Fault String} {what : String} (moves : Moves relation roll) :
    Moves relation (orFallback roll fallback shown what) := by
  refine moves_tryCatch moves fun fault => ?_
  split
  · refine moves_bind (moves_lift shown) fun _ => ?_
    exact moves_bind (moves_note retraced _ _) fun _ => moves_pure _
  · exact moves_throw _

theorem moves_rollDamageOnce {damage : String} {mean : Option Binary64} {reroll : Reroll}
    (moves : Moves relation (rollText damage : Roll σ Int)) :
    Moves relation (rollDamageOnce damage mean reroll : Roll σ RollRecord) := by
  have movesOr : Moves relation (rollTextOr damage 1 "damage" : Roll σ Int) :=
    moves_orFallback retraced moves
  refine moves_bind movesOr fun value => ?_
  cases mean with
  | none => exact moves_pure _
  | some mean =>
      dsimp only
      split
      · exact moves_bind movesOr fun again => moves_pure _
      · exact moves_pure _

end

theorem extends_rollText (text : String) :
    Moves Table.Extends (rollText text : Roll σ Int) := by
  have extendsSum : ∀ sides count,
      Moves Table.Extends (Roll.dieSum sides count : Roll σ Nat) := by
    intro sides count
    induction count with
    | zero => exact moves_pure 0
    | succ count ih =>
        unfold Roll.dieSum
        exact moves_bind (Roll.extends_die sides) fun _ => moves_bind ih fun _ => moves_pure _
  refine moves_rollText fun _ _ signed _ => ?_
  cases signed.term with
  | constant digits => exact moves_pure _
  | dice count letter sides =>
      refine moves_bind (moves_lift _) fun count => moves_bind (moves_lift _) fun size => ?_
      have extendsRest : Moves Table.Extends (do
          let total ← Roll.dieSum size count
          Roll.writable [(total : Int)]
          return .int total : Roll σ Number) :=
        moves_bind (extendsSum _ _) fun _ => moves_bind (moves_lift _) fun _ => moves_pure _
      split
      · exact moves_bind (moves_throw _) fun _ => extendsRest
      · exact extendsRest

/-- An expression without dice draws nothing, whatever becomes of it. -/
theorem keeps_rollText {text : String} (free : mentionsDice text = false) :
    Moves Table.Keeps (rollText text : Roll σ Int) := by
  refine moves_rollText fun expression read signed member => ?_
  have fixed := DiceExpression.not_isDice_of_read? free read member
  cases found : signed.term with
  | constant digits => exact moves_pure _
  | dice count letter sides => simp [found, Term.isDice] at fixed

omit [DiceSource σ] in
/-- What draws further faces only, and none when there are no dice, appends faces, and
none when there are no dice. -/
theorem faces_of_moves {α : Type} {roll : Roll σ α} {value : α} {free : Prop}
    (drawing : Moves Table.Extends roll) (keeping : free → Moves Table.Keeps roll)
    (returns : Returns roll start value final) :
    ∃ drawn, final.faces = start.faces ++ drawn ∧ (free → drawn = []) := by
  obtain ⟨drawn, appended⟩ := drawing.of_returns returns
  refine ⟨drawn, appended.symm, fun isFree => ?_⟩
  have kept : final.faces = start.faces := (keeping isFree).of_returns returns
  rw [kept] at appended
  exact List.self_eq_append_right.mp appended.symm

end Skirmish
