import Skirmish.Proofs.Dice.Drawn

/-!
# Rolling beside a trace

Rolls take notes and never read them.  Two tables are related in parallel when they have the
same dice and the same faces drawn, and stay so while dice are drawn from both of them and
the same notes are taken.  Every roll comes to the same at both of them, be it a value or a
fault, and leaves them related.  Tables that differ in their traces only are related in this
way, and so are tables of which only one has a trace: what is noted stands behind the lines
that the trace began with.
-/

namespace Skirmish

/-! ## Traces -/

/-- The first trace is written behind the lines; the second one is not kept. -/
def Trace.Beside (lines : List String) (kept unkept : Trace) : Prop :=
  unkept = none ∧ ∃ added, kept = some (lines ++ added)

theorem Trace.beside_some (lines : List String) : Trace.Beside lines (some lines) none :=
  ⟨rfl, [], by rw [List.append_nil]⟩

theorem Trace.Beside.note {lines : List String} {kept unkept : Trace}
    (beside : Trace.Beside lines kept unkept) (tag message : String) :
    Trace.Beside lines (kept.note tag message) (unkept.note tag message) := by
  obtain ⟨rfl, added, rfl⟩ := beside
  exact ⟨rfl, added ++ [s!"[{tag}] {message}"], congrArg some (List.append_assoc ..)⟩

/-! ## Tables -/

/-- The tables have the same dice and the same faces drawn from them.  The first one keeps a
trace behind the lines, the second one keeps none. -/
structure Table.Beside {σ : Type} (lines : List String) (table other : Table σ) : Prop where
  dice : other.dice = table.dice
  drawn : other.drawn = table.drawn
  trace : Trace.Beside lines table.trace other.trace

/-- Related tables differ in their traces only, and stay related while the same dice are
drawn and the same notes taken at both of them. -/
structure Table.Parallel {σ : Type} (relation : Table σ → Table σ → Prop) : Prop where
  retraced : ∀ {table other : Table σ}, relation table other → table.Retraced other
  note : ∀ {table other : Table σ}, relation table other → ∀ tag message : String,
    relation { table with trace := table.trace.note tag message }
      { other with trace := other.trace.note tag message }
  draw : ∀ {table other : Table σ}, relation table other → ∀ (dice : σ) (face : Nat),
    relation { table with dice, drawn := face :: table.drawn }
      { other with dice, drawn := face :: other.drawn }

variable {σ : Type} {lines : List String}

theorem Table.Beside.retrace {table other : Table σ} (beside : Table.Beside lines table other)
    {kept unkept : Trace} (traces : Trace.Beside lines kept unkept) :
    Table.Beside lines { table with trace := kept } { other with trace := unkept } :=
  ⟨beside.dice, beside.drawn, traces⟩

theorem Table.parallel_beside (lines : List String) :
    Table.Parallel (Table.Beside lines : Table σ → Table σ → Prop) where
  retraced := by
    rintro table ⟨_, _, trace⟩ ⟨rfl, rfl, -⟩
    exact ⟨trace, rfl⟩
  note beside tag message := beside.retrace (beside.trace.note tag message)
  draw beside _ face := ⟨rfl, congrArg (face :: ·) beside.drawn, beside.trace⟩

theorem Table.parallel_retraced :
    Table.Parallel (Table.Retraced : Table σ → Table σ → Prop) where
  retraced := id
  note := by
    rintro table _ ⟨trace, rfl⟩ tag message
    exact ⟨trace.note tag message, rfl⟩
  draw := by
    rintro table _ ⟨trace, rfl⟩ dice face
    exact ⟨trace, rfl⟩

variable {relation : Table σ → Table σ → Prop}

namespace Roll

theorem agree_times {α : Type} {action other : Roll σ α} (agree : Agree relation action other)
    (count : Nat) : Agree relation (times count action) (times count other) := by
  induction count with
  | zero => exact agree_pure []
  | succ count ih => exact agree_bind agree fun _ => agree_bind ih fun _ => agree_pure _

end Roll

variable (parallel : Table.Parallel relation)

include parallel

namespace Roll

theorem agree_note (tag message : String) :
    Agree relation (note tag message : Roll σ Unit) (note tag message) :=
  agree_modify fun _ _ related => parallel.note related tag message

theorem agree_noted {α : Type} (tag message : String) (value : α) :
    Agree relation (do note tag message; return value : Roll σ α)
      (do note tag message; return value) :=
  agree_bind (agree_note parallel tag message) fun _ => agree_pure value

theorem agree_writableNoted {α : Type} (numbers : List Int) (tag message : String) (value : α) :
    Agree relation (do writable numbers; note tag message; return value : Roll σ α)
      (do writable numbers; note tag message; return value) :=
  agree_bind (agree_lift _) fun _ => agree_noted parallel tag message value

variable [DiceSource σ]

theorem agree_die (sides : Nat) :
    Agree relation (die sides : Roll σ Nat) (die sides) := by
  intro start other related
  obtain ⟨trace, rfl⟩ := parallel.retraced related
  rw [outcomeOf_die, outcomeOf_die]
  dsimp only
  cases DiceSource.draw sides start.dice with
  | none => exact ⟨rfl, related⟩
  | some draw =>
      obtain ⟨face, dice⟩ := draw
      exact ⟨rfl, parallel.draw related dice face⟩

theorem agree_dieSum (sides count : Nat) :
    Agree relation (dieSum sides count : Roll σ Nat) (dieSum sides count) := by
  induction count with
  | zero => exact agree_pure 0
  | succ count ih =>
      exact agree_bind (agree_die parallel sides) fun _ => agree_bind ih fun _ => agree_pure _

end Roll

variable [DiceSource σ]

/-! ## Expressions -/

theorem Term.agree_roll (text : String) (term : Term) :
    Agree relation (term.roll text : Roll σ Number) (term.roll text) := by
  cases term with
  | constant digits => exact agree_pure _
  | dice count letter sides =>
      unfold Term.roll
      refine agree_bind (agree_lift _) fun count => agree_bind (agree_lift _) fun size => ?_
      split
      · exact agree_throw _
      · refine agree_bind (Roll.agree_dieSum parallel size count) fun total => ?_
        exact agree_bind (agree_lift _) fun _ => agree_pure _

theorem agree_rollText (text : String) :
    Agree relation (rollText text : Roll σ Int) (rollText text) := by
  unfold rollText
  split
  · exact agree_throw _
  · refine agree_bind (agree_mapM _ fun signed => signed.term.agree_roll parallel text) ?_
    exact fun totals => agree_bind (agree_lift _) fun total => agree_lift _

omit [DiceSource σ] in
theorem agree_orFallback {α : Type} {roll : Roll σ α} (agree : Agree relation roll roll)
    (fallback : α) (shown : Except Fault String) (what : String) :
    Agree relation (orFallback roll fallback shown what)
      (orFallback roll fallback shown what) := by
  refine agree_tryCatch agree fun fault => ?_
  split
  · exact agree_bind (agree_lift shown) fun _ => Roll.agree_noted parallel _ _ fallback
  · exact agree_throw fault

theorem agree_rollTextOr (text : String) (fallback : Int) (what : String) :
    Agree relation (rollTextOr text fallback what : Roll σ Int)
      (rollTextOr text fallback what) :=
  agree_orFallback parallel (agree_rollText parallel text) fallback _ what

/-! ## Tests -/

theorem agree_rollTest (success : Int → Bool) (reroll : Reroll) (critical : Int) :
    Agree relation (rollTest success reroll critical : Roll σ RollRecord)
      (rollTest success reroll critical) := by
  have die : Agree relation
      (do let face ← Roll.d6; return (face : Int) : Roll σ Int)
      (do let face ← Roll.d6; return (face : Int)) :=
    agree_bind (Roll.agree_die parallel 6) fun _ => agree_pure _
  refine agree_bind die fun face => ?_
  split
  · exact agree_bind die fun _ => agree_pure _
  · exact agree_pure _

theorem agree_rollPass (threshold critical : Int) (reroll : Reroll) :
    Agree relation (rollPass threshold critical reroll : Roll σ RollRecord)
      (rollPass threshold critical reroll) :=
  agree_bind (agree_rollTest parallel _ reroll critical) fun _ => agree_pure _

/-! ## Phases -/

theorem agree_countAttacks (attacks : String) (models modifier rapidFire blast : Int) :
    Agree relation
      (countAttacks attacks models modifier rapidFire blast : Roll σ (Int × PhaseLog))
      (countAttacks attacks models modifier rapidFire blast) := by
  refine agree_bind (Roll.agree_times (agree_rollTextOr parallel attacks 0 _) _) fun bases => ?_
  exact Roll.agree_writableNoted parallel _ _ _ _

theorem agree_rollHits (attacks threshold critical : Int) (reroll : Reroll) (torrent : Bool)
    (sustained : Int) (lethal : Bool) :
    Agree relation
      (rollHits attacks threshold critical reroll torrent sustained lethal : Roll σ HitOutcome)
      (rollHits attacks threshold critical reroll torrent sustained lethal) := by
  unfold rollHits
  split
  · exact Roll.agree_writableNoted parallel _ _ _ _
  · refine agree_bind (Roll.agree_times (agree_rollPass parallel threshold critical reroll) _) ?_
    exact fun records => Roll.agree_writableNoted parallel _ _ _ _

theorem agree_rollWounds (hits autoWounds threshold critical : Int) (reroll : Reroll)
    (devastating : Bool) :
    Agree relation
      (rollWounds hits autoWounds threshold critical reroll devastating : Roll σ WoundOutcome)
      (rollWounds hits autoWounds threshold critical reroll devastating) := by
  refine agree_bind (Roll.agree_times (agree_rollPass parallel threshold critical reroll) _) ?_
  exact fun records => Roll.agree_writableNoted parallel _ _ _ _

theorem agree_rollSaves (wounds threshold : Int) (invulnerable : Bool) :
    Agree relation
      (rollSaves wounds threshold invulnerable : Roll σ (Int × PhaseLog))
      (rollSaves wounds threshold invulnerable) := by
  unfold rollSaves
  dsimp only
  split
  · exact Roll.agree_writableNoted parallel _ _ _ _
  · refine agree_bind (Roll.agree_times (Roll.agree_die parallel 6) _) fun faces => ?_
    exact Roll.agree_writableNoted parallel _ _ _ _

theorem agree_rollDamageOnce (damage : String) (mean : Option Binary64) (reroll : Reroll) :
    Agree relation (rollDamageOnce damage mean reroll : Roll σ RollRecord)
      (rollDamageOnce damage mean reroll) := by
  refine agree_bind (agree_rollTextOr parallel damage 1 _) fun value => ?_
  cases mean with
  | none => exact agree_pure _
  | some mean =>
      dsimp only
      split
      · exact agree_bind (agree_rollTextOr parallel damage 1 _) fun _ => agree_pure _
      · exact agree_pure _

theorem agree_rollDamage (instances : Int) (damage : String) (modifier melta : Int)
    (reroll : Reroll) :
    Agree relation
      (rollDamage instances damage modifier melta reroll : Roll σ (List Int × PhaseLog))
      (rollDamage instances damage modifier melta reroll) := by
  have records (mean : Option Binary64) : Agree relation
      (Roll.times instances.toNat (rollDamageOnce damage mean reroll) : Roll σ (List RollRecord))
      (Roll.times instances.toNat (rollDamageOnce damage mean reroll)) :=
    Roll.agree_times (agree_rollDamageOnce parallel damage mean reroll) _
  unfold rollDamage
  -- Only the mean is found in one of two ways.
  split
  · refine agree_bind (agree_map some (agree_lift _)) fun mean => ?_
    exact agree_bind (records mean) fun _ => Roll.agree_writableNoted parallel _ _ _ _
  · refine agree_bind (agree_pure none) fun mean => ?_
    exact agree_bind (records mean) fun _ => Roll.agree_writableNoted parallel _ _ _ _

theorem agree_rollFeelNoPain (damages : List Int) (threshold : Option Int) :
    Agree relation
      (rollFeelNoPain damages threshold : Roll σ (List Int × PhaseLog))
      (rollFeelNoPain damages threshold) := by
  unfold rollFeelNoPain
  cases threshold with
  | none => exact agree_pure _
  | some needed =>
      dsimp only
      split
      · exact agree_pure _
      · refine agree_bind (agree_mapM _ fun damage => ?_) fun rolled => ?_
        · exact Roll.agree_times (Roll.agree_die parallel 6) _
        · exact Roll.agree_writableNoted parallel _ _ _ _

end Skirmish
