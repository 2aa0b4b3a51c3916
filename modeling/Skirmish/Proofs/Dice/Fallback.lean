import Mathlib.Data.List.TakeWhile
import Skirmish.Proofs.Dice.Range
import Skirmish.Proofs.Stops

/-!
# Expressions that fall back

A fallback stands in for an expression that is rejected.  An expression is rejected when its
text is none, when one of its terms cannot be begun or comes to too large a total, and when
its sum is no number.  Other faults, a digit of another script in a constant or an infinite
sum, are not met by the fallback.

Terms are rolled from left to right, so dice may have been drawn when a term is rejected.
Sources that show chosen faces lead to each of these ends.
-/

namespace Skirmish

open DiceSource (Shows)

/-! ## Faults -/

theorem allowsFallback_of_readNumeral {digits : List Char} {fault : Fault}
    (failed : readNumeral digits = .error fault) : fault.allowsFallback = true := by
  unfold readNumeral at failed
  split at failed <;> cases failed
  rfl

theorem allowsFallback_of_diceCount {digits : List Char} {fault : Fault}
    (failed : diceCount digits = .error fault) : fault.allowsFallback = true := by
  unfold diceCount at failed
  split at failed
  · cases failed
  · exact allowsFallback_of_readNumeral failed

theorem writable_of_large {n : Nat} (large : Text.numeralBound ≤ n) :
    writable [(n : Int)] = .error .oversizedInteger := by
  simp [writable, Text.exceedsNumerals, large]

theorem not_allowsFallback_of_settled {expression : DiceExpression} {values : List Number}
    {fault : Fault} (failed : expression.settled values = .error fault) :
    fault.allowsFallback = false := by
  unfold DiceExpression.settled at failed
  dsimp only at failed
  split at failed
  · cases failed
    rfl
  · split at failed <;> cases failed
    rfl

theorem wholeTotal_eq_error {total : Number} {fault : Fault}
    (failed : wholeTotal total = .error fault) :
    (total = .float .nan ∧ fault = .notANumber) ∨ fault = .tooLarge := by
  unfold wholeTotal at failed
  split at failed
  · cases failed
    exact .inl ⟨‹_›, rfl⟩
  · split at failed <;> cases failed
    exact .inr rfl

section

variable {σ : Type} [DiceSource σ] {table final : Table σ} {text : String} {fault : Fault}

namespace Term

variable {term : Term}

theorem exists_stops_of_not_stands (text : String) (cannot : ¬ term.Stands)
    (table : Table σ) :
    ∃ fault, fault.allowsFallback = true ∧ Stops (term.roll text) table fault table := by
  cases term with
  | constant digits => exact (cannot trivial).elim
  | dice digits letter sides =>
      simp only [roll, stops_bind_iff, stops_lift_iff, returns_lift_iff]
      cases counted : diceCount digits with
      | error fault =>
          exact ⟨fault, allowsFallback_of_diceCount counted, .inl ⟨rfl, trivial⟩⟩
      | ok count =>
          cases sized : readNumeral sides with
          | error fault =>
              exact ⟨fault, allowsFallback_of_readNumeral sized,
                .inr ⟨count, table, ⟨rfl, rfl⟩, .inl ⟨rfl, rfl⟩⟩⟩
          | ok size =>
              obtain ⟨shortCount, -⟩ := diceCount_eq_ok_iff.mp counted
              obtain ⟨shortSides, rfl⟩ := readNumeral_eq_ok_iff.mp sized
              have none : Text.numeral sides < 1 := by
                by_contra sided
                exact cannot ⟨shortCount, shortSides, by omega⟩
              refine ⟨.dieSize text, rfl,
                .inr ⟨count, table, ⟨rfl, rfl⟩, .inr ⟨_, table, ⟨rfl, rfl⟩, ?_⟩⟩⟩
              rw [if_pos none, stops_bind_iff]
              exact .inl (stops_throw_iff.mpr ⟨rfl, rfl⟩)

theorem stops_of_large (stands : term.Stands) {faces : List Nat} {dice : σ}
    (shows : Shows table.dice term.dieSizes faces dice)
    (large : Text.numeralBound ≤ faces.sum) :
    Stops (term.roll text) table .oversizedInteger (table.showing faces dice) := by
  cases term with
  | constant digits =>
      cases shows
      exact (Nat.not_lt.mpr large numeralBound_pos).elim
  | dice digits letter sides =>
      obtain ⟨shortCount, shortSides, sided⟩ := stands
      have counted := diceCount_eq_ok_iff.mpr ⟨shortCount, rfl⟩
      have sized := readNumeral_eq_ok_iff.mpr ⟨shortSides, rfl⟩
      have summed := Roll.returns_dieSum_iff.mpr ⟨faces, dice, shows, rfl, rfl⟩
      simp only [roll, stops_bind_iff, returns_lift_iff]
      refine .inr ⟨_, table, ⟨counted, rfl⟩, .inr ⟨_, table, ⟨sized, rfl⟩, ?_⟩⟩
      rw [if_neg (Nat.not_lt.mpr sided)]
      simp only [stops_bind_iff]
      exact .inr ⟨_, _, summed, .inl (stops_lift_iff.mpr ⟨writable_of_large large, rfl⟩)⟩

/-- A term is rejected before it draws, or after its dice have shown too large a total. -/
theorem cases_of_stops (unending : DiceSource.Unending σ)
    (stops : Stops (term.roll text) table fault final) :
    fault.allowsFallback = true ∧
      ((¬ term.Stands ∧ final = table) ∨
        (term.Stands ∧ ∃ faces dice, Shows table.dice term.dieSizes faces dice ∧
          Text.numeralBound ≤ faces.sum ∧ final = table.showing faces dice)) := by
  by_cases stands : term.Stands
  · obtain ⟨faces, dice, shows⟩ :=
      Shows.exists_of_unending unending (one_le_of_mem_dieSizes stands) table.dice
    rcases Nat.lt_or_ge faces.sum Text.numeralBound with small | large
    · have returns : Completes (term.roll text) table :=
        ⟨_, _, returns_roll_iff.mpr ⟨stands, faces, dice, shows, small, rfl, rfl⟩⟩
      exact (returns.not_stops stops).elim
    · cases (stops_of_large stands shows large).symm.trans stops
      exact ⟨rfl, .inr ⟨stands, faces, dice, shows, large, rfl⟩⟩
  · obtain ⟨given, allowed, stopsHere⟩ := exists_stops_of_not_stands text stands table
    cases stopsHere.symm.trans stops
    exact ⟨allowed, .inl ⟨stands, rfl⟩⟩

end Term

/-! ## Expressions -/

open DiceExpression

/-- An expression stops with a fault of its terms, of its settled text or of its sum. -/
theorem stops_rollText_iff {expression : DiceExpression} (read : read? text = some expression) :
    Stops (rollText text) table fault final ↔
      Stops (expression.terms.mapM fun signed => signed.term.roll text) table fault final ∨
      ∃ values,
        Returns (expression.terms.mapM fun signed => signed.term.roll text) table values final ∧
        (expression.settled values = .error fault ∨
          ∃ total, expression.settled values = .ok total ∧ wholeTotal total = .error fault) := by
  unfold rollText
  rw [read]
  simp only [stops_bind_iff, stops_lift_iff, returns_lift_iff]
  constructor
  · rintro (stops | ⟨values, _, returns, ⟨failed, rfl⟩ | ⟨total, _, ⟨settled, rfl⟩, failed, rfl⟩⟩)
    · exact .inl stops
    · exact .inr ⟨values, returns, .inl failed⟩
    · exact .inr ⟨values, returns, .inr ⟨total, settled, failed⟩⟩
  · rintro (stops | ⟨values, returns, failed | ⟨total, settled, failed⟩⟩)
    · exact .inl stops
    · exact .inr ⟨values, _, returns, .inl ⟨failed, rfl⟩⟩
    · exact .inr ⟨values, _, returns, .inr ⟨total, _, ⟨settled, rfl⟩, failed, rfl⟩⟩

/-- What the trace says of a fallback. -/
def fallbackNote (fault : Fault) (what : String) (fallback : Int) : String :=
  let reason := fault.message?.getD ""
  s!"{reason}; {what} falls back to {fallback}"

/-- The fallback returns what the expression returns, or else itself when the expression is
rejected, with a note. -/
theorem returns_rollTextOr_iff {fallback n : Int} {what : String} :
    Returns (rollTextOr text fallback what) table n final ↔
      Returns (rollText text) table n final ∨
      ∃ fault stopped, Stops (rollText text) table fault stopped ∧
        fault.allowsFallback = true ∧ writable [fallback] = .ok () ∧ n = fallback ∧
        final =
          { stopped with trace := stopped.trace.note "Dice" (fallbackNote fault what fallback) }
      := by
  unfold rollTextOr orFallback
  rw [returns_tryCatch_iff]
  refine or_congr Iff.rfl (exists_congr fun fault => exists_congr fun stopped =>
    and_congr Iff.rfl ?_)
  cases allowed : fault.allowsFallback with
  | false => simp
  | true =>
      simp only [if_true, returns_bind_iff, returns_lift_iff, returns_pure_iff,
        Roll.returns_note_iff, shownInt, map_eq_ok_iff]
      constructor
      · rintro ⟨_, _, ⟨⟨_, writes, rfl⟩, rfl⟩, _, _, rfl, rfl, rfl⟩
        exact ⟨trivial, writes, rfl, rfl⟩
      · rintro ⟨-, writes, rfl, rfl⟩
        exact ⟨_, stopped, ⟨⟨(), writes, rfl⟩, rfl⟩, (), _, rfl, rfl, rfl⟩

theorem returns_fallback {fallback : Int} (what : String) (writes : writable [fallback] = .ok ())
    {stopped : Table σ} (stops : Stops (rollText text) table fault stopped)
    (allowed : fault.allowsFallback = true) :
    Returns (rollTextOr text fallback what) table fallback
      { stopped with trace := stopped.trace.note "Dice" (fallbackNote fault what fallback) } :=
  returns_rollTextOr_iff.mpr (.inr ⟨fault, stopped, stops, allowed, writes, rfl, rfl⟩)

end

/-! ## Escaping faults -/

namespace DiceExpression

variable {text : String} {expression : DiceExpression}

/-- When all terms can be begun, the constants are written in common digits, and whatever
the dice show, the sum is an integer or no number at all. -/
def NeverBreaks (expression : DiceExpression) : Prop :=
  (∀ signed ∈ expression.terms, signed.term.Stands) →
    expression.PlainConstants ∧
      ∀ rolls, TermsMayFall expression.terms rolls → AreSmall rolls →
        ∃ total, sumOf? expression.terms rolls = some total ∧
          wholeTotal total ≠ .error .tooLarge

/-- The fallback meets all faults of an expression that never breaks. -/
theorem NeverBreaks.allowsFallback {σ : Type} [DiceSource σ] {table final : Table σ}
    {fault : Fault} (never : expression.NeverBreaks) (read : read? text = some expression)
    (unending : DiceSource.Unending σ) (stops : Stops (rollText text) table fault final) :
    fault.allowsFallback = true := by
  rcases (stops_rollText_iff read).mp stops with stopsTerm | ⟨values, returns, failed⟩
  · exact fault_of_stops_mapM (fun fault => fault.allowsFallback = true)
      (fun _ _ _ _ _ stops => (Term.cases_of_stops unending stops).1) stopsTerm
  · obtain ⟨stand, rolls, dice, shows, small, rfl, rfl⟩ := returns_mapM_roll_iff.mp returns
    obtain ⟨plain, sums⟩ := never stand
    obtain ⟨total, sum, whole⟩ := sums rolls (shows.mayFall stand) small
    have settled :=
      (settled_eq_ok_iff read (mayShow_of_returns_mapM returns)).mpr ⟨plain, sum⟩
    rcases failed with failed | ⟨again, settledAgain, failed⟩
    · cases settled.symm.trans failed
    · obtain rfl := ok_unique settled settledAgain
      rcases wholeTotal_eq_error failed with ⟨-, rfl⟩ | rfl
      · rfl
      · exact (whole failed).elim

/-- Where no fault escapes the fallback although all terms returned, the constants are
written in common digits, and only a sum that is no number can have been rejected. -/
theorem settles_of_completes {σ : Type} [DiceSource σ] {table final : Table σ}
    {fallback : Int} {what : String} {values : List Number}
    (read : read? text = some expression)
    (returns : Returns (expression.terms.mapM fun signed => signed.term.roll text) table values
      final)
    (completes : Completes (rollTextOr text fallback what) table) :
    expression.PlainConstants ∧
      ∃ total, total? ((expression.terms.map (·.negative)).zip values) = some total ∧
        wholeTotal total ≠ .error .tooLarge := by
  have shown := mayShow_of_returns_mapM returns
  obtain ⟨n, last, ended⟩ := completes
  rcases returns_rollTextOr_iff.mp ended with ended | ⟨fault, _, stops, allowed, -⟩
  · obtain ⟨again, others, total, readAgain, returnsAgain, settled, whole⟩ :=
      returns_rollText_iff.mp ended
    obtain rfl := Option.some.inj (read.symm.trans readAgain)
    obtain ⟨rfl, -⟩ := returns.unique returnsAgain
    obtain ⟨plain, sum⟩ := (settled_eq_ok_iff read shown).mp settled
    refine ⟨plain, total, sum, fun large => ?_⟩
    cases whole.symm.trans large
  · rcases (stops_rollText_iff read).mp stops with stopsTerm | ⟨others, returnsAgain, failed⟩
    · exact (Completes.not_stops ⟨_, _, returns⟩ stopsTerm).elim
    obtain ⟨rfl, -⟩ := returns.unique returnsAgain
    rcases failed with failed | ⟨total, settled, failed⟩
    · rw [not_allowsFallback_of_settled failed] at allowed
      cases allowed
    · obtain ⟨plain, sum⟩ := (settled_eq_ok_iff read shown).mp settled
      refine ⟨plain, total, sum, fun large => ?_⟩
      cases failed.symm.trans large
      cases allowed

/-- An expression whose fallback never lets a fault escape never breaks. -/
theorem neverBreaks_of_completes {fallback : Int} {what : String}
    (read : read? text = some expression)
    (completes : ∀ table : Table Faces, Completes (rollTextOr text fallback what) table) :
    expression.NeverBreaks := by
  intro stand
  -- Every choice of faces is shown by some source, and the terms return on it.
  have settles (rolls : List (List Nat)) (may : TermsMayFall expression.terms rolls)
      (small : AreSmall rolls) :=
    settles_of_completes read (Faces.returns_mapM_of_mayFall text stand may small [])
      (completes _)
  refine ⟨(settles _ (termsMayFall_ones stand) (areSmall_ones stand)).1, ?_⟩
  exact fun rolls may small => (settles rolls may small).2

end DiceExpression

/-! ## Drawn dice -/

section

variable {σ : Type} [DiceSource σ] {table : Table σ} {text : String} {terms : List SignedTerm}

omit [DiceSource σ] in
theorem Table.eq_nil_of_faces_showing {faces : List Nat} {dice : σ}
    (kept : (table.showing faces dice).faces = table.faces) : faces = [] := by
  simpa [Table.showing, Table.faces] using kept

theorem Term.keeps_roll_of_idle {term : Term} (unending : DiceSource.Unending σ)
    (idle : term.Stands → term.dieSizes = []) :
    Moves Table.Keeps (term.roll text : Roll σ Number) := by
  intro start
  rcases ran : outcomeOf (term.roll text) start with ⟨fault | value, final⟩
  · obtain ⟨-, ⟨-, rfl⟩ | ⟨stands, faces, dice, shows, -, rfl⟩⟩ :=
      Term.cases_of_stops unending ran
    · exact refl_of Table.Keeps _
    · rw [idle stands] at shows
      cases shows
      exact refl_of Table.Keeps _
  · obtain ⟨stands, faces, dice, shows, -, -, rfl⟩ := Term.returns_roll_iff.mp ran
    rw [idle stands] at shows
    cases shows
    exact refl_of Table.Keeps _

/-- Terms draw nothing when those in front of the first one that cannot be begun have no
dice. -/
theorem keeps_mapM_of_idle (text : String) (unending : DiceSource.Unending σ)
    (idle : ∀ signed ∈ terms.takeWhile (fun signed => signed.term.Stands),
      signed.term.dieSizes = []) :
    Moves Table.Keeps (terms.mapM fun signed => (signed.term.roll text : Roll σ Number)) := by
  induction terms with
  | nil => exact moves_pure []
  | cons signed terms ih =>
      by_cases stands : signed.term.Stands
      · rw [List.takeWhile_cons_of_pos (by simpa using stands)] at idle
        obtain ⟨idleHere, idleThere⟩ := List.forall_mem_cons.mp idle
        rw [List.mapM_cons]
        refine moves_bind (Term.keeps_roll_of_idle unending fun _ => idleHere) fun _ => ?_
        exact moves_bind (ih idleThere) fun _ => moves_pure _
      · rw [List.mapM_cons]
        refine moves_bind_of_returns
          (Term.keeps_roll_of_idle unending fun stands' => (stands stands').elim) ?_
        intro start value state returns
        exact (stands (Term.returns_roll_iff.mp returns).1).elim

theorem exists_split_at_first {α : Type} {test : α → Prop} [DecidablePred test]
    {items : List α} (fails : ¬ ∀ item ∈ items, test item) :
    ∃ item after, items = items.takeWhile (fun item => test item) ++ item :: after ∧
      ¬ test item := by
  induction items with
  | nil => simp at fails
  | cons first items ih =>
      by_cases passes : test first
      · have failsThere : ¬ ∀ item ∈ items, test item := fun all =>
          fails (List.forall_mem_cons.mpr ⟨passes, all⟩)
        obtain ⟨item, after, split, failsHere⟩ := ih failsThere
        refine ⟨item, after, ?_, failsHere⟩
        rw [List.takeWhile_cons_of_pos (by simpa using passes), List.cons_append, ← split]
      · refine ⟨first, items, ?_, passes⟩
        rw [List.takeWhile_cons_of_neg (by simpa using passes), List.nil_append]

theorem forall_mem_takeWhile {α : Type} (test : α → Prop) [DecidablePred test]
    (items : List α) : ∀ item ∈ items.takeWhile (fun item => test item), test item := by
  intro item member
  simpa using List.mem_takeWhile_imp member

end

namespace DiceExpression

variable {text : String} {expression : DiceExpression}

/-- Nothing is drawn in front of the first term that cannot be begun. -/
def IsIdle (expression : DiceExpression) : Prop :=
  ∀ signed ∈ expression.terms.takeWhile fun signed => signed.term.Stands,
    signed.term.dieSizes = []

/-- The dice can be rolled whatever they show, and the sum is always a number. -/
def NeverRejected (expression : DiceExpression) : Prop :=
  (∀ signed ∈ expression.terms, signed.term.isRollable = true) ∧
    (expression.PlainConstants → ∀ rolls, TermsMayFall expression.terms rolls →
      sumOf? expression.terms rolls ≠ some (.float .nan))

theorem dieSizes_eq_nil_of_mayFall {terms : List SignedTerm} {rolls : List (List Nat)}
    (may : TermsMayFall terms rolls) (none : rolls.flatten = []) :
    ∀ signed ∈ terms, signed.term.dieSizes = [] := by
  induction may with
  | nil => simp
  | cons first _ ih =>
      rw [List.flatten_cons, List.append_eq_nil_iff] at none
      obtain ⟨rfl, noneThere⟩ := none
      exact List.forall_mem_cons.mpr ⟨List.forall₂_nil_right_iff.mp first, ih noneThere⟩

/-- Rejections leave every table of chosen faces as it was. -/
def KeptWhenRejected (text : String) : Prop :=
  ∀ (table stopped : Table Faces) (fault : Fault), Stops (rollText text) table fault stopped →
    fault.allowsFallback = true → stopped.faces = table.faces

theorem KeptWhenRejected.eq_nil {table : Table Faces} {fault : Fault} {faces : List Nat}
    {dice : Faces} (kept : KeptWhenRejected text)
    (stops : Stops (rollText text) table fault (table.showing faces dice))
    (allowed : fault.allowsFallback = true) : faces = [] :=
  Table.eq_nil_of_faces_showing (kept table _ fault stops allowed)

/-- When ones are shown, only a term that cannot be begun rejects the expression. -/
theorem stand_of_kept (read : read? text = some expression) (kept : KeptWhenRejected text)
    (drawing : ¬ expression.IsIdle) : ∀ signed ∈ expression.terms, signed.term.Stands := by
  by_contra cannot
  obtain ⟨bad, after, split, fails⟩ := exists_split_at_first cannot
  have before := forall_mem_takeWhile (fun signed : SignedTerm => signed.term.Stands)
    expression.terms
  have may := termsMayFall_ones before
  have returns := Faces.returns_mapM_of_mayFall text before may (areSmall_ones before) []
  obtain ⟨fault, allowed, stops⟩ := Term.exists_stops_of_not_stands text fails
    (({ dice := ⟨_⟩ } : Table Faces).showing _ _)
  have stopsTerms := stops_mapM_of_split returns stops after
  rw [← split] at stopsTerms
  have undrawn := kept.eq_nil ((stops_rollText_iff read).mpr (.inl stopsTerms)) allowed
  exact drawing (dieSizes_eq_nil_of_mayFall may undrawn)

/-- When the highest faces are shown, the first dice that come to too large a total reject
the expression. -/
theorem isRollable_of_kept (read : read? text = some expression)
    (kept : KeptWhenRejected text)
    (stand : ∀ signed ∈ expression.terms, signed.term.Stands) :
    ∀ signed ∈ expression.terms, signed.term.isRollable = true := by
  by_contra cannot
  obtain ⟨bad, after, split, fails⟩ := exists_split_at_first cannot
  have before := forall_mem_takeWhile
    (fun signed : SignedTerm => signed.term.isRollable = true) expression.terms
  have standBefore := fun signed member => (Term.isRollable_iff.mp (before signed member)).1
  have standBad : bad.term.Stands := stand bad (by rw [split]; simp)
  have large : Text.numeralBound ≤ bad.term.dieSizes.sum := by
    by_contra small
    exact fails (Term.isRollable_iff.mpr ⟨standBad, Nat.lt_of_not_le small⟩)
  have may := termsMayFall_highest standBefore
  have returns := Faces.returns_mapM_of_mayFall text standBefore may (may.areSmall before)
    (bad.term.dieSizes ++ [])
  have shows := Faces.shows (mayFall_highest (Term.one_le_of_mem_dieSizes standBad)) []
  have stopsTerms := stops_mapM_of_split returns
    (Term.stops_of_large standBad shows large) after
  rw [← split, Table.showing_showing] at stopsTerms
  have undrawn := kept.eq_nil ((stops_rollText_iff read).mpr (.inl stopsTerms)) rfl
  rw [(List.append_eq_nil_iff.mp undrawn).2] at large
  exact Nat.not_lt.mpr large numeralBound_pos

/-- An expression that keeps the table whenever it is rejected is idle or never rejected. -/
theorem isIdle_or_neverRejected (read : read? text = some expression)
    (kept : KeptWhenRejected text) : expression.IsIdle ∨ expression.NeverRejected := by
  by_cases idle : expression.IsIdle
  · exact .inl idle
  have stand := stand_of_kept read kept idle
  have rollable := isRollable_of_kept read kept stand
  refine .inr ⟨rollable, fun plain rolls may nan => idle ?_⟩
  have returns := Faces.returns_mapM_of_mayFall text stand may
    (may.areSmall rollable) []
  have settled :=
    (settled_eq_ok_iff read (mayShow_of_returns_mapM returns)).mpr ⟨plain, nan⟩
  have stops := (stops_rollText_iff read).mpr (.inr ⟨_, returns, .inr ⟨_, settled, rfl⟩⟩)
  have undrawn := kept.eq_nil stops rfl
  exact fun signed member =>
    dieSizes_eq_nil_of_mayFall may undrawn signed ((List.takeWhile_prefix _).subset member)

/-- An expression without dice in front of what rejects it, or one that is never rejected,
draws no dice before it is rejected. -/
theorem faces_eq_of_stops {σ : Type} [DiceSource σ] {table stopped : Table σ} {fault : Fault}
    (read : read? text = some expression)
    (harmless : expression.IsIdle ∨ expression.NeverRejected)
    (unending : DiceSource.Unending σ) (stops : Stops (rollText text) table fault stopped)
    (allowed : fault.allowsFallback = true) : stopped.faces = table.faces := by
  rcases harmless with idle | ⟨rollable, sums⟩
  · have keeps := keeps_mapM_of_idle text unending idle table
    rcases (stops_rollText_iff read).mp stops with stopsTerm | ⟨values, returns, -⟩
    · rwa [stopsTerm] at keeps
    · rwa [returns] at keeps
  · exfalso
    have completes : Completes (expression.terms.mapM fun signed => signed.term.roll text)
        table :=
      completes_mapM
        (fun signed member => Term.completes_roll unending (rollable signed member)) table
    rcases (stops_rollText_iff read).mp stops with
      stopsTerm | ⟨values, returns, failed | ⟨total, settled, failed⟩⟩
    · exact completes.not_stops stopsTerm
    · rw [not_allowsFallback_of_settled failed] at allowed
      cases allowed
    · obtain ⟨plain, sum⟩ :=
        (settled_eq_ok_iff read (mayShow_of_returns_mapM returns)).mp settled
      obtain ⟨stand, rolls, dice, shows, -, rfl, -⟩ := returns_mapM_roll_iff.mp returns
      rcases wholeTotal_eq_error failed with ⟨rfl, -⟩ | rfl
      · exact sums plain rolls (shows.mayFall stand) sum
      · cases allowed

end DiceExpression

/-! ## Failing closed -/

section

variable {σ : Type} [DiceSource σ] {table stopped : Table σ} {text : String} {fault : Fault}

theorem stops_rollText_of_none (none : DiceExpression.read? text = none)
    (stops : Stops (rollText text) table fault stopped) :
    fault.allowsFallback = true ∧ stopped = table := by
  unfold rollText at stops
  rw [none] at stops
  obtain ⟨rfl, rfl⟩ := stops_throw_iff.mp stops
  exact ⟨rfl, rfl⟩

theorem allowsFallback_of_stops_rollText
    (never : ∀ expression, DiceExpression.read? text = some expression → expression.NeverBreaks)
    (unending : DiceSource.Unending σ) (stops : Stops (rollText text) table fault stopped) :
    fault.allowsFallback = true := by
  cases read : DiceExpression.read? text with
  | none => exact (stops_rollText_of_none read stops).1
  | some expression => exact (never expression read).allowsFallback read unending stops

theorem faces_eq_of_stops_rollText
    (harmless : ∀ expression, DiceExpression.read? text = some expression →
      expression.IsIdle ∨ expression.NeverRejected)
    (unending : DiceSource.Unending σ) (stops : Stops (rollText text) table fault stopped)
    (allowed : fault.allowsFallback = true) : stopped.faces = table.faces := by
  cases read : DiceExpression.read? text with
  | none => rw [(stops_rollText_of_none read stops).2]
  | some expression =>
      exact DiceExpression.faces_eq_of_stops read (harmless expression read) unending stops
        allowed

end

/-- Rolling with a fallback always returns a number exactly when the text always rolls, or
else the fallback can be written and no fault escapes it.  No die is drawn before the
fallback is returned exactly when the expression is idle until it is rejected, or is never
rejected. -/
theorem rollTextOr_fails_closed_iff (text : String) (fallback : Int) (what : String) :
    ((∀ (σ : Type) [DiceSource σ], DiceSource.Unending σ → ∀ table : Table σ,
        Completes (rollTextOr text fallback what) table) ↔
      AlwaysRolls text ∨ writable [fallback] = .ok () ∧
        ∀ expression, DiceExpression.read? text = some expression →
          expression.NeverBreaks) ∧
    ((∀ (σ : Type) [DiceSource σ], DiceSource.Unending σ →
        ∀ (table stopped final : Table σ) (fault : Fault),
          Stops (rollText text) table fault stopped →
          Returns (rollTextOr text fallback what) table fallback final →
          final.faces = table.faces) ↔
      (writable [fallback] = .ok () →
        ∀ expression, DiceExpression.read? text = some expression →
          expression.IsIdle ∨ expression.NeverRejected)) := by
  refine ⟨⟨fun completes => ?_, ?_⟩, ⟨fun kept writes expression read => ?_, ?_⟩⟩
  · by_cases writes : writable [fallback] = .ok ()
    · exact .inr ⟨writes, fun expression read =>
        DiceExpression.neverBreaks_of_completes read (completes Faces Faces.unending)⟩
    · refine .inl fun σ _ unending table => ?_
      obtain ⟨n, final, returns⟩ := completes σ unending table
      rcases returns_rollTextOr_iff.mp returns with returns | ⟨_, _, -, -, writesHere, -⟩
      · exact ⟨n, final, returns⟩
      · exact (writes writesHere).elim
  · rintro (always | ⟨writes, never⟩) σ _ unending table
    · obtain ⟨n, final, returns⟩ := always σ unending table
      exact ⟨n, final, returns_rollTextOr_iff.mpr (.inl returns)⟩
    · rcases completes_or_stops (rollText text) table with
        ⟨n, final, returns⟩ | ⟨fault, stopped, stops⟩
      · exact ⟨n, final, returns_rollTextOr_iff.mpr (.inl returns)⟩
      · have allowed := allowsFallback_of_stops_rollText never unending stops
        exact ⟨fallback, _, returns_fallback what writes stops allowed⟩
  · refine DiceExpression.isIdle_or_neverRejected read fun table stopped fault stops allowed =>
      ?_
    have unchanged := kept Faces Faces.unending table stopped _ fault stops
      (returns_fallback what writes stops allowed)
    exact unchanged
  · rintro harmless σ _ unending table stopped final fault stops returns
    rcases returns_rollTextOr_iff.mp returns with
      returns | ⟨given, state, stopsHere, allowed, writes, -, rfl⟩
    · exact (Completes.not_stops ⟨_, _, returns⟩ stops).elim
    · cases stops.symm.trans stopsHere
      have unchanged := faces_eq_of_stops_rollText (harmless writes) unending stops allowed
      exact unchanged

/-- The fallback does not meet a digit of another script in a constant, and a die in front
of one without sides is drawn before the expression is rejected. -/
theorem fallback_misses_foreign_digit_and_drawn_die :
    ¬ Completes (rollTextOr "٣" 0 "value") ({ dice := ⟨[]⟩ } : Table Faces) ∧
    ∃ stopped final,
      Stops (rollText "d6+d0") ({ dice := ⟨[3]⟩ } : Table Faces) (.dieSize "d6+d0") stopped ∧
      Returns (rollTextOr "d6+d0" 0 "value") ({ dice := ⟨[3]⟩ } : Table Faces) 0 final ∧
      final.faces = [3] := by
  have escapes : Stops (rollTextOr "٣" 0 "value") ({ dice := ⟨[]⟩ } : Table Faces)
      (.foreignDigit 0 "٣") { dice := ⟨[]⟩ } := rfl
  have stops : Stops (rollText "d6+d0") ({ dice := ⟨[3]⟩ } : Table Faces) (.dieSize "d6+d0")
      { dice := ⟨[]⟩, drawn := [3] } := by
    obtain ⟨expression, read, terms⟩ : ∃ expression,
        DiceExpression.read? "d6+d0" = some expression ∧
          expression.terms = [⟨false, .dice [] 'd' ['6']⟩, ⟨false, .dice [] 'd' ['0']⟩] :=
      ⟨_, rfl, rfl⟩
    have rolled : Returns ((Term.dice [] 'd' ['6']).roll "d6+d0")
        ({ dice := ⟨[3]⟩ } : Table Faces) (.int 3) { dice := ⟨[]⟩, drawn := [3] } :=
      Term.returns_roll_iff.mpr ⟨by decide, [3], ⟨[]⟩, .die rfl .nothing,
        lt_numeralBound (by decide), rfl, rfl⟩
    have rejected : Stops ((Term.dice [] 'd' ['0']).roll "d6+d0")
        ({ dice := ⟨[]⟩, drawn := [3] } : Table Faces) (.dieSize "d6+d0")
        { dice := ⟨[]⟩, drawn := [3] } := rfl
    refine (stops_rollText_iff read).mpr (.inl ?_)
    rw [terms]
    simp only [List.mapM_cons, stops_bind_iff]
    exact .inr ⟨_, _, rolled, .inl (.inl rejected)⟩
  have writes : writable [((0 : Nat) : Int)] = .ok () :=
    writable_singleton_iff.mpr (lt_numeralBound (by decide))
  exact ⟨fun completes => completes.not_stops escapes, _, _, stops,
    returns_fallback "value" writes stops rfl, rfl⟩

end Skirmish
