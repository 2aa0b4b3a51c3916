import Skirmish.Proofs.Dice.Drawn

/-!
# Texts that can always be rolled

Rolling a text returns a number whatever the dice show when the text is a dice expression,
each of its dice can be rolled, and the values that its terms may show always have a sum.
For the converse a source is needed that shows the very faces which have none: `Faces`
shows a given row of faces, and then the highest ones.
-/

namespace Skirmish

/-- The source always has another die to show. -/
def DiceSource.Unending (σ : Type) [DiceSource σ] : Prop :=
  ∀ (sides : Nat) (source : σ), 1 ≤ sides → (DiceSource.draw sides source).isSome = true

/-- Rolling the text returns a number, whatever the dice show. -/
def AlwaysRolls (text : String) : Prop :=
  ∀ (σ : Type) [DiceSource σ], DiceSource.Unending σ →
    ∀ table : Table σ, Completes (rollText text) table

/-! ## Values of terms -/

namespace Term

/-- Dice that can be rolled and written down whatever they show: they have a side, and
neither their numerals nor their highest total has too many digits. -/
def isRollable : Term → Bool
  | .constant _ => true
  | .dice count _ sides =>
    match diceCount count, readNumeral sides with
    | .ok count, .ok size => decide (1 ≤ size) && !Text.exceedsNumerals (count * size)
    | _, _ => false

/-- The values that the term may come to. -/
def MayShow : Term → Number → Prop
  | .constant digits, value => value = constantNumber digits
  | .dice digits _ sides, value => ∃ count size total : Nat,
    diceCount digits = .ok count ∧ readNumeral sides = .ok size ∧ count ≤ total ∧
      total ≤ count * size ∧ value = .int total

theorem isRollable_dice_iff {digits sides : List Char} {letter : Char} :
    (dice digits letter sides).isRollable = true ↔ ∃ count size : Nat,
      diceCount digits = .ok count ∧ readNumeral sides = .ok size ∧ 1 ≤ size ∧
        count * size < Text.numeralBound := by
  cases counted : diceCount digits with
  | error fault => simp [isRollable, counted]
  | ok count =>
      cases sized : readNumeral sides with
      | error fault => simp [isRollable, counted, sized]
      | ok size => simp [isRollable, counted, sized, Text.exceedsNumerals]

end Term

theorem writable_singleton_iff {n : Nat} :
    writable [(n : Int)] = .ok () ↔ n < Text.numeralBound := by
  simp [writable, Text.exceedsNumerals]

/-- The values that the terms of an expression show always have a sum. -/
def DiceExpression.AlwaysSettles (expression : DiceExpression) : Prop :=
  ∀ values, List.Forall₂ (fun signed value => signed.term.MayShow value) expression.terms values →
    ∃ total n, expression.settled values = .ok total ∧ wholeTotal total = .ok n

/-! ## Rolling -/

section

variable {σ : Type} [DiceSource σ] {table final : Table σ} {text : String}

theorem Roll.dieSum_range {sides : Nat} (positive : 1 ≤ sides) {count total : Nat}
    (returns : Returns (dieSum sides count) table total final) :
    count ≤ total ∧ total ≤ count * sides := by
  induction count generalizing table total with
  | zero =>
      obtain ⟨rfl, rfl⟩ := returns_pure_iff.mp returns
      simp
  | succ count ih =>
      simp only [dieSum, returns_bind_iff, returns_pure_iff] at returns
      obtain ⟨face, middle, rolled, others, _, ranOthers, rfl, rfl⟩ := returns
      obtain ⟨dice, drawn, -⟩ := returns_die_iff.mp rolled
      obtain ⟨least, most⟩ := ih ranOthers
      obtain ⟨one, top⟩ := DiceSource.draw_range positive drawn
      rw [Nat.add_mul]
      omega

theorem Roll.completes_dieSum (unending : DiceSource.Unending σ) {sides : Nat}
    (positive : 1 ≤ sides) (count : Nat) (table : Table σ) :
    Completes (dieSum sides count) table := by
  induction count generalizing table with
  | zero => exact completes_pure 0
  | succ count ih =>
      obtain ⟨⟨face, dice⟩, drawn⟩ :=
        Option.isSome_iff_exists.mp (unending sides table.dice positive)
      rw [dieSum, completes_bind_iff]
      refine ⟨face, _, returns_die_iff.mpr ⟨dice, drawn, rfl⟩, ?_⟩
      obtain ⟨others, last, ranOthers⟩ := ih { table with dice, drawn := face :: table.drawn }
      exact completes_bind_iff.mpr ⟨others, last, ranOthers, completes_pure _⟩

namespace Term

theorem returns_roll_dice_iff {digits sides : List Char} {letter : Char} {value : Number} :
    Returns ((dice digits letter sides).roll text) table value final ↔
      ∃ count size total : Nat, diceCount digits = .ok count ∧ readNumeral sides = .ok size ∧
        1 ≤ size ∧ Returns (Roll.dieSum size count) table total final ∧
        total < Text.numeralBound ∧ value = .int total := by
  simp only [roll, returns_bind_iff, returns_lift_iff]
  constructor
  · rintro ⟨count, _, ⟨counted, rfl⟩, size, _, ⟨sized, rfl⟩, returns⟩
    split at returns
    · obtain ⟨_, _, never, -⟩ := returns_bind_iff.mp returns
      exact (not_returns_throw never).elim
    · rename_i positive
      simp only [returns_bind_iff, returns_pure_iff, Roll.returns_writable_iff] at returns
      obtain ⟨total, _, summed, _, _, ⟨small, rfl⟩, rfl, rfl⟩ := returns
      exact ⟨count, size, total, counted, sized, by omega, summed,
        writable_singleton_iff.mp small, rfl⟩
  · rintro ⟨count, size, total, counted, sized, positive, summed, small, rfl⟩
    refine ⟨count, _, ⟨counted, rfl⟩, size, _, ⟨sized, rfl⟩, ?_⟩
    rw [if_neg (by omega)]
    simp only [returns_bind_iff, returns_pure_iff, Roll.returns_writable_iff]
    exact ⟨total, _, summed, (), _, ⟨writable_singleton_iff.mpr small, rfl⟩, rfl, rfl⟩

/-- A term only comes to values that it may show. -/
theorem mayShow_of_returns {term : Term} {value : Number}
    (returns : Returns (term.roll text) table value final) : term.MayShow value := by
  cases term with
  | constant digits => exact (returns_pure_iff.mp returns).1
  | dice digits letter sides =>
      obtain ⟨count, size, total, counted, sized, positive, summed, -, rfl⟩ :=
        returns_roll_dice_iff.mp returns
      obtain ⟨least, most⟩ := Roll.dieSum_range positive summed
      exact ⟨count, size, total, counted, sized, least, most, rfl⟩

theorem completes_roll (unending : DiceSource.Unending σ) {term : Term}
    (rollable : term.isRollable = true) (table : Table σ) :
    Completes (term.roll text) table := by
  cases term with
  | constant digits => exact completes_pure _
  | dice digits letter sides =>
      obtain ⟨count, size, counted, sized, positive, small⟩ :=
        isRollable_dice_iff.mp rollable
      obtain ⟨total, final, summed⟩ := Roll.completes_dieSum unending positive count table
      have most := (Roll.dieSum_range positive summed).2
      exact ⟨_, final, returns_roll_dice_iff.mpr ⟨count, size, total, counted, sized, positive,
        summed, by omega, rfl⟩⟩

end Term

theorem returns_rollText_iff {n : Int} :
    Returns (rollText text) table n final ↔ ∃ expression values total,
      DiceExpression.read? text = some expression ∧
      Returns (expression.terms.mapM fun signed => signed.term.roll text) table values final ∧
      expression.settled values = .ok total ∧ wholeTotal total = .ok n := by
  unfold rollText
  cases DiceExpression.read? text with
  | none => simp
  | some expression =>
      simp only [returns_bind_iff, returns_lift_iff, Option.some.injEq]
      constructor
      · rintro ⟨values, _, rolled, total, _, ⟨settled, rfl⟩, whole, rfl⟩
        exact ⟨expression, values, total, rfl, rolled, settled, whole⟩
      · rintro ⟨_, values, total, rfl, rolled, settled, whole⟩
        exact ⟨values, _, rolled, total, _, ⟨settled, rfl⟩, whole, rfl⟩

end

/-! ## Chosen faces -/

/-- A source that shows given faces in a row and then the highest face of each die.  A
number that is no face of its die counts as the highest one. -/
structure Faces where
  row : List Nat

instance : DiceSource Faces where
  draw sides source :=
    match source.row with
    | [] => some (sides, ⟨[]⟩)
    | face :: rest => some (if 1 ≤ face ∧ face ≤ sides then face else sides, ⟨rest⟩)
  draw_range {sides face source next} positive drawn := by
    split at drawn
    · cases drawn
      exact ⟨positive, Nat.le_refl _⟩
    · split at drawn <;> cases drawn
      · assumption
      · exact ⟨positive, Nat.le_refl _⟩

namespace Faces

theorem unending : DiceSource.Unending Faces := by
  rintro sides ⟨_ | ⟨face, rest⟩⟩ - <;> rfl

/-- The total of the faces in a row. -/
def totalOf : List Nat → Nat
  | [] => 0
  | face :: row => face + totalOf row

variable {table final : Table Faces} {text : String}

theorem returns_dieSum {sides : Nat} {row rest : List Nat}
    (fit : ∀ face ∈ row, 1 ≤ face ∧ face ≤ sides) (given : table.dice = ⟨row ++ rest⟩) :
    ∃ final, Returns (Roll.dieSum sides row.length) table (totalOf row) final ∧
      final.dice = ⟨rest⟩ := by
  induction row generalizing table with
  | nil => exact ⟨table, returns_pure_iff.mpr ⟨rfl, rfl⟩, given⟩
  | cons face row ih =>
      obtain ⟨fitsHere, fitThere⟩ := List.forall_mem_cons.mp fit
      have drawn : DiceSource.draw sides table.dice = some (face, ⟨row ++ rest⟩) := by
        rw [given]
        exact congrArg (fun shown => some (shown, _)) (if_pos fitsHere)
      obtain ⟨final, summed, left⟩ := @ih
        { table with dice := ⟨row ++ rest⟩, drawn := face :: table.drawn } fitThere rfl
      refine ⟨final, ?_, left⟩
      simp only [List.length_cons, Roll.dieSum, returns_bind_iff, returns_pure_iff]
      exact ⟨face, _, Roll.returns_die_iff.mpr ⟨_, drawn, rfl⟩, _, _, summed, rfl, rfl⟩

/-- Dice may show any total in their range. -/
theorem exists_row {sides count total : Nat} (least : count ≤ total)
    (most : total ≤ count * sides) :
    ∃ row : List Nat, row.length = count ∧ totalOf row = total ∧
      ∀ face ∈ row, 1 ≤ face ∧ face ≤ sides := by
  induction count generalizing total with
  | zero =>
      rw [Nat.zero_mul, Nat.le_zero] at most
      exact ⟨[], rfl, most.symm, by simp⟩
  | succ count ih =>
      rw [Nat.add_mul, Nat.one_mul] at most
      have sided : 1 ≤ sides := by
        rcases Nat.eq_zero_or_pos sides with rfl | positive
        · omega
        · exact positive
      have wide : count ≤ count * sides := Nat.le_mul_of_pos_right count sided
      -- The first die shows a one unless the others cannot make up for that.
      obtain ⟨face, one, top, part, down, up⟩ : ∃ face, 1 ≤ face ∧ face ≤ sides ∧
          face ≤ total ∧ count ≤ total - face ∧ total - face ≤ count * sides := by
        by_cases low : total ≤ count * sides + 1
        · exact ⟨1, by omega, sided, by omega, by omega, by omega⟩
        · exact ⟨total - count * sides, by omega, by omega, by omega, by omega, by omega⟩
      obtain ⟨row, length, sum, fit⟩ := ih down up
      refine ⟨face :: row, by rw [List.length_cons, length], ?_, ?_⟩
      · rw [totalOf, sum]
        omega
      · exact List.forall_mem_cons.mpr ⟨⟨one, top⟩, fit⟩

/-- A term that can be rolled comes to each value that it may show. -/
theorem returns_roll {term : Term} {value : Number} (rollable : term.isRollable = true)
    (mayShow : term.MayShow value) :
    ∃ row, ∀ (rest : List Nat) (table : Table Faces), table.dice = ⟨row ++ rest⟩ →
      ∃ final, Returns (term.roll text) table value final ∧ final.dice = ⟨rest⟩ := by
  cases term with
  | constant digits =>
      exact ⟨[], fun rest table given => ⟨table, returns_pure_iff.mpr ⟨mayShow, rfl⟩, given⟩⟩
  | dice digits letter sides =>
      obtain ⟨count, size, counted, sized, positive, small⟩ :=
        Term.isRollable_dice_iff.mp rollable
      obtain ⟨_, _, total, countedAgain, sizedAgain, least, most, rfl⟩ := mayShow
      obtain rfl := ok_unique counted countedAgain
      obtain rfl := ok_unique sized sizedAgain
      obtain ⟨row, rfl, rfl, fit⟩ := exists_row least most
      refine ⟨row, fun rest table given => ?_⟩
      obtain ⟨final, summed, left⟩ := returns_dieSum fit given
      exact ⟨final, Term.returns_roll_dice_iff.mpr ⟨_, size, _, counted, sized, positive,
        summed, by omega, rfl⟩, left⟩

theorem returns_mapM {terms : List SignedTerm} {values : List Number}
    (rollable : ∀ signed ∈ terms, signed.term.isRollable = true)
    (mayShow : List.Forall₂ (fun signed value => signed.term.MayShow value) terms values) :
    ∃ row, ∀ (rest : List Nat) (table : Table Faces), table.dice = ⟨row ++ rest⟩ →
      ∃ final, Returns (terms.mapM fun signed => signed.term.roll text) table values final := by
  induction mayShow with
  | nil => exact ⟨[], fun rest table _ => ⟨table, returns_pure_iff.mpr ⟨rfl, rfl⟩⟩⟩
  | cons first others ih =>
      obtain ⟨rollableHere, rollableThere⟩ := List.forall_mem_cons.mp rollable
      obtain ⟨row, rolls⟩ := @returns_roll text _ _ rollableHere first
      obtain ⟨more, rollMore⟩ := ih rollableThere
      refine ⟨row ++ more, fun rest table given => ?_⟩
      rw [List.append_assoc] at given
      obtain ⟨middle, rolled, left⟩ := rolls (more ++ rest) table given
      obtain ⟨final, rolledMore⟩ := rollMore rest middle left
      refine ⟨final, ?_⟩
      simp only [List.mapM_cons, returns_bind_iff, returns_pure_iff]
      exact ⟨_, middle, rolled, _, final, rolledMore, rfl, rfl⟩

theorem dieSum_spent (spent : table.dice = ⟨[]⟩) {sides count total : Nat}
    (returns : Returns (Roll.dieSum sides count) table total final) :
    total = count * sides ∧ final.dice = ⟨[]⟩ := by
  induction count generalizing table total with
  | zero =>
      obtain ⟨rfl, rfl⟩ := returns_pure_iff.mp returns
      exact ⟨(Nat.zero_mul sides).symm, spent⟩
  | succ count ih =>
      simp only [Roll.dieSum, returns_bind_iff, returns_pure_iff] at returns
      obtain ⟨face, middle, rolled, others, _, ranOthers, rfl, rfl⟩ := returns
      obtain ⟨dice, drawn, rfl⟩ := Roll.returns_die_iff.mp rolled
      rw [spent] at drawn
      cases drawn
      obtain ⟨rfl, left⟩ := ih rfl ranOthers
      exact ⟨by rw [Nat.add_mul, Nat.one_mul, Nat.add_comm], left⟩

/-- On the highest faces a term only returns when it can be rolled. -/
theorem isRollable_of_returns {term : Term} {value : Number} (spent : table.dice = ⟨[]⟩)
    (returns : Returns (term.roll text) table value final) :
    term.isRollable = true ∧ final.dice = ⟨[]⟩ := by
  cases term with
  | constant digits =>
      obtain ⟨-, rfl⟩ := returns_pure_iff.mp returns
      exact ⟨rfl, spent⟩
  | dice digits letter sides =>
      obtain ⟨count, size, total, counted, sized, positive, summed, small, -⟩ :=
        Term.returns_roll_dice_iff.mp returns
      obtain ⟨rfl, left⟩ := dieSum_spent spent summed
      exact ⟨Term.isRollable_dice_iff.mpr ⟨count, size, counted, sized, positive, small⟩, left⟩

theorem isRollable_of_returns_mapM {terms : List SignedTerm} {values : List Number}
    (spent : table.dice = ⟨[]⟩)
    (returns : Returns (terms.mapM fun signed => signed.term.roll text) table values final) :
    ∀ signed ∈ terms, signed.term.isRollable = true := by
  induction terms generalizing table values with
  | nil => simp
  | cons signed terms ih =>
      simp only [List.mapM_cons, returns_bind_iff, returns_pure_iff] at returns
      obtain ⟨value, middle, rolled, others, _, rolledOthers, rfl, rfl⟩ := returns
      obtain ⟨rollable, left⟩ := isRollable_of_returns spent rolled
      exact List.forall_mem_cons.mpr ⟨rollable, ih left rolledOthers⟩

end Faces

/-! ## Texts -/

theorem mayShow_of_returns_mapM {σ : Type} [DiceSource σ] {table final : Table σ}
    {text : String} {terms : List SignedTerm} {values : List Number}
    (returns : Returns (terms.mapM fun signed => signed.term.roll text) table values final) :
    List.Forall₂ (fun signed value => signed.term.MayShow value) terms values := by
  refine forall₂_of_returns_mapM ?_ returns
  intro signed start value final rolled
  exact Term.mayShow_of_returns rolled

/-- A text can always be rolled exactly when it is an expression whose dice can be rolled
and whose terms only show values that have a sum. -/
theorem alwaysRolls_iff (text : String) :
    AlwaysRolls text ↔ ∃ expression, DiceExpression.read? text = some expression ∧
      (∀ signed ∈ expression.terms, signed.term.isRollable = true) ∧
      expression.AlwaysSettles := by
  constructor
  · intro always
    obtain ⟨_, _, highest⟩ := always Faces Faces.unending { dice := ⟨[]⟩ }
    obtain ⟨expression, _, _, read, rolled, -, -⟩ := returns_rollText_iff.mp highest
    have rollable := Faces.isRollable_of_returns_mapM rfl rolled
    refine ⟨expression, read, rollable, fun values mayShow => ?_⟩
    -- A row of faces shows these very values, and the text returns on it.
    obtain ⟨row, rolls⟩ := @Faces.returns_mapM text _ _ rollable mayShow
    obtain ⟨_, shown⟩ := rolls [] { dice := ⟨row⟩ } (by rw [List.append_nil])
    obtain ⟨n, _, returns⟩ := always Faces Faces.unending { dice := ⟨row⟩ }
    obtain ⟨again, shownAgain, total, readAgain, rolledAgain, settled, whole⟩ :=
      returns_rollText_iff.mp returns
    obtain rfl := Option.some.inj (read.symm.trans readAgain)
    obtain ⟨rfl, -⟩ := shown.unique rolledAgain
    exact ⟨total, n, settled, whole⟩
  · rintro ⟨expression, read, rollable, settles⟩ σ _ unending table
    obtain ⟨values, final, rolled⟩ := completes_mapM
      (fun signed member => Term.completes_roll unending (rollable signed member)) table
    obtain ⟨total, n, settled, whole⟩ := settles values (mayShow_of_returns_mapM rolled)
    exact ⟨n, final, returns_rollText_iff.mpr
      ⟨expression, values, total, read, rolled, settled, whole⟩⟩

theorem exists_mayShow {terms : List SignedTerm}
    (rollable : ∀ signed ∈ terms, signed.term.isRollable = true) :
    ∃ values, List.Forall₂ (fun signed value => signed.term.MayShow value) terms values := by
  have completes : ∀ signed ∈ terms, ∀ table : Table Faces,
      Completes (signed.term.roll "") table :=
    fun signed member => Term.completes_roll Faces.unending (rollable signed member)
  obtain ⟨values, _, rolled⟩ := completes_mapM completes { dice := ⟨[]⟩ }
  exact ⟨values, mayShow_of_returns_mapM rolled⟩

end Skirmish
