import Mathlib.Algebra.Order.Ring.Int
import Skirmish.Proofs.Dice.Foreign
import Skirmish.Proofs.Dice.Grammar

/-!
# Which dice an expression draws

An expression draws the dice of its terms from left to right: as many as the count in front
of the letter asks for, one when there is none, and nothing for a constant.  It returns the
signed sum of the totals and constants.

This holds as long as neither a numeral nor a total has more digits than a numeral may have.
Zeros in front count as digits.
-/

namespace Skirmish

/-! ## Dice in a row -/

section

variable {σ : Type} [DiceSource σ]

/-- One after the other, dice with the given sides show the given faces. -/
inductive DiceSource.Shows : σ → List Nat → List Nat → σ → Prop
  | nothing {source : σ} : Shows source [] [] source
  | die {source next final : σ} {side face : Nat} {sides faces : List Nat}
      (drawn : DiceSource.draw side source = some (face, next))
      (others : Shows next sides faces final) :
      Shows source (side :: sides) (face :: faces) final

/-- The table after dice have shown the given faces. -/
def Table.showing {σ : Type} (table : Table σ) (faces : List Nat) (dice : σ) : Table σ :=
  { table with dice, drawn := faces.reverse ++ table.drawn }

omit [DiceSource σ] in
theorem Table.showing_showing (table : Table σ) (first second : List Nat) (middle dice : σ) :
    (table.showing first middle).showing second dice = table.showing (first ++ second) dice := by
  simp [Table.showing]

namespace DiceSource.Shows

variable {source final other : σ} {sides faces : List Nat}

theorem unique {again : List Nat} (shows : Shows source sides faces final)
    (showsAgain : Shows source sides again other) : faces = again ∧ final = other := by
  induction shows generalizing again with
  | nothing =>
      cases showsAgain
      exact ⟨rfl, rfl⟩
  | die drawn _ ih =>
      cases showsAgain with
      | die drawnAgain othersAgain =>
          rw [drawn] at drawnAgain
          cases drawnAgain
          obtain ⟨rfl, rfl⟩ := ih othersAgain
          exact ⟨rfl, rfl⟩

theorem exists_of_unending (unending : DiceSource.Unending σ)
    (sided : ∀ side ∈ sides, 1 ≤ side) (source : σ) :
    ∃ faces final, Shows source sides faces final := by
  induction sides generalizing source with
  | nil => exact ⟨[], source, .nothing⟩
  | cons side sides ih =>
      obtain ⟨here, there⟩ := List.forall_mem_cons.mp sided
      obtain ⟨⟨face, next⟩, drawn⟩ :=
        Option.isSome_iff_exists.mp (unending side source here)
      obtain ⟨faces, final, others⟩ := ih there next
      exact ⟨face :: faces, final, .die drawn others⟩

end DiceSource.Shows

open DiceSource (Shows)

variable {table final : Table σ}

theorem Roll.returns_dieSum_iff {side count total : Nat} :
    Returns (Roll.dieSum side count) table total final ↔
      ∃ faces dice, Shows table.dice (List.replicate count side) faces dice ∧
        total = faces.sum ∧ final = table.showing faces dice := by
  induction count generalizing table total final with
  | zero =>
      rw [Roll.dieSum, returns_pure_iff]
      constructor
      · rintro ⟨rfl, rfl⟩
        exact ⟨[], _, .nothing, rfl, rfl⟩
      · rintro ⟨faces, dice, shows, rfl, rfl⟩
        cases shows
        exact ⟨rfl, rfl⟩
  | succ count ih =>
      simp only [Roll.dieSum, returns_bind_iff, returns_pure_iff, Roll.returns_die_iff, ih,
        List.replicate_succ]
      constructor
      · rintro ⟨face, _, ⟨next, drawn, rfl⟩, _, _, ⟨faces, dice, shows, rfl, rfl⟩, rfl, rfl⟩
        refine ⟨face :: faces, dice, .die drawn shows, List.sum_cons.symm, ?_⟩
        exact Table.showing_showing table [face] faces next dice
      · rintro ⟨faces, dice, shows, rfl, rfl⟩
        cases shows with
        | @die _ next _ _ face _ faces drawn others =>
            refine ⟨face, _, ⟨next, drawn, rfl⟩, _, _, ⟨faces, dice, others, rfl, rfl⟩,
              List.sum_cons, ?_⟩
            exact (Table.showing_showing table [face] faces next dice).symm

end

/-! ## Terms -/

namespace Term

/-- The sides of the dice that the term asks for, for one die after the other. -/
def dieSizes : Term → List Nat
  | .constant _ => []
  | .dice count _ sides =>
    List.replicate (if count.isEmpty then 1 else Text.numeral count) (Text.numeral sides)

/-- The number that the term comes to when its dice show the given faces. -/
def value : Term → List Nat → Number
  | .constant digits, _ => constantNumber digits
  | .dice .., faces => .int faces.sum

/-- The term can be begun: the numerals of its dice can be read, and the dice have at least
one side. -/
def Stands : Term → Prop
  | .constant _ => True
  | .dice count _ sides =>
    count.length ≤ Text.numeralLimit ∧ sides.length ≤ Text.numeralLimit ∧
      1 ≤ Text.numeral sides

instance : DecidablePred Stands
  | .constant _ => inferInstanceAs (Decidable True)
  | .dice _ _ _ => inferInstanceAs (Decidable (_ ∧ _ ∧ _))

theorem one_le_of_mem_dieSizes {term : Term} (stands : term.Stands) :
    ∀ side ∈ term.dieSizes, 1 ≤ side := by
  cases term with
  | constant digits => simp [dieSizes]
  | dice count letter sides =>
      intro side member
      rw [List.eq_of_mem_replicate member]
      exact stands.2.2

end Term

theorem isOversized_eq_false_iff {digits : List Char} :
    Text.isOversized digits = false ↔ digits.length ≤ Text.numeralLimit := by
  simp [Text.isOversized]

theorem readNumeral_eq_ok_iff {digits : List Char} {n : Nat} :
    readNumeral digits = .ok n ↔
      digits.length ≤ Text.numeralLimit ∧ n = Text.numeral digits := by
  rw [← isOversized_eq_false_iff]
  cases oversized : Text.isOversized digits <;> simp [readNumeral, oversized, eq_comm]

theorem diceCount_eq_ok_iff {digits : List Char} {n : Nat} :
    diceCount digits = .ok n ↔
      digits.length ≤ Text.numeralLimit ∧
        n = if digits.isEmpty then 1 else Text.numeral digits := by
  unfold diceCount
  split
  · rename_i empty
    simp [List.isEmpty_iff.mp empty, eq_comm]
  · exact readNumeral_eq_ok_iff

section

variable {σ : Type} [DiceSource σ] {table final : Table σ} {text : String}

open DiceSource (Shows)

/-- A term returns when it can be begun and its dice have shown a total that can be
written. -/
theorem Term.returns_roll_iff {term : Term} {value : Number} :
    Returns (term.roll text) table value final ↔
      term.Stands ∧ ∃ faces dice, Shows table.dice term.dieSizes faces dice ∧
        faces.sum < Text.numeralBound ∧ value = term.value faces ∧
        final = table.showing faces dice := by
  cases term with
  | constant digits =>
      rw [Term.roll, returns_pure_iff]
      constructor
      · rintro ⟨rfl, rfl⟩
        exact ⟨trivial, [], _, .nothing, numeralBound_pos, rfl, rfl⟩
      · rintro ⟨-, faces, dice, shows, -, rfl, rfl⟩
        cases shows
        exact ⟨rfl, rfl⟩
  | dice count letter sides =>
      simp only [Term.returns_roll_dice_iff, diceCount_eq_ok_iff, readNumeral_eq_ok_iff,
        Roll.returns_dieSum_iff]
      constructor
      · rintro ⟨_, _, _, ⟨shortCount, rfl⟩, ⟨shortSides, rfl⟩, sided,
          ⟨faces, dice, shows, rfl, rfl⟩, small, rfl⟩
        exact ⟨⟨shortCount, shortSides, sided⟩, faces, dice, shows, small, rfl, rfl⟩
      · rintro ⟨⟨shortCount, shortSides, sided⟩, faces, dice, shows, small, rfl, rfl⟩
        exact ⟨_, _, _, ⟨shortCount, rfl⟩, ⟨shortSides, rfl⟩, sided,
          ⟨faces, dice, shows, rfl, rfl⟩, small, rfl⟩

/-- From left to right, the dice of the terms show the given faces, which come in one row
for each term. -/
inductive TermsShow : σ → List SignedTerm → List (List Nat) → σ → Prop
  | nothing {source : σ} : TermsShow source [] [] source
  | term {source next final : σ} {signed : SignedTerm} {terms : List SignedTerm}
      {faces : List Nat} {rolls : List (List Nat)}
      (shows : Shows source signed.term.dieSizes faces next)
      (others : TermsShow next terms rolls final) :
      TermsShow source (signed :: terms) (faces :: rolls) final

namespace TermsShow

variable {source dice other : σ} {terms : List SignedTerm} {rolls again : List (List Nat)}

theorem unique (shows : TermsShow source terms rolls dice)
    (showsAgain : TermsShow source terms again other) : rolls = again ∧ dice = other := by
  induction shows generalizing again with
  | nothing =>
      cases showsAgain
      exact ⟨rfl, rfl⟩
  | term shows _ ih =>
      cases showsAgain with
      | term showsHere othersHere =>
          obtain ⟨rfl, rfl⟩ := shows.unique showsHere
          obtain ⟨rfl, rfl⟩ := ih othersHere
          exact ⟨rfl, rfl⟩

theorem exists_of_unending (unending : DiceSource.Unending σ)
    (stand : ∀ signed ∈ terms, signed.term.Stands) (source : σ) :
    ∃ rolls dice, TermsShow source terms rolls dice := by
  induction terms generalizing source with
  | nil => exact ⟨[], source, .nothing⟩
  | cons signed terms ih =>
      obtain ⟨here, there⟩ := List.forall_mem_cons.mp stand
      obtain ⟨faces, next, shows⟩ :=
        Shows.exists_of_unending unending (Term.one_le_of_mem_dieSizes here) source
      obtain ⟨rolls, dice, others⟩ := ih there next
      exact ⟨faces :: rolls, dice, .term shows others⟩

end TermsShow

/-- The numbers that terms come to when their dice show the given faces. -/
def valuesOf (terms : List SignedTerm) (rolls : List (List Nat)) : List Number :=
  List.zipWith (fun signed faces => signed.term.value faces) terms rolls

/-- The sum of terms whose dice show the given faces. -/
def sumOf? (terms : List SignedTerm) (rolls : List (List Nat)) : Option Number :=
  DiceExpression.total? ((terms.map (·.negative)).zip (valuesOf terms rolls))

/-- Terms are rolled from left to right. -/
theorem returns_mapM_roll_iff {terms : List SignedTerm} {values : List Number} :
    Returns (terms.mapM fun signed => signed.term.roll text) table values final ↔
      (∀ signed ∈ terms, signed.term.Stands) ∧
      ∃ rolls dice, TermsShow table.dice terms rolls dice ∧
        (∀ faces ∈ rolls, faces.sum < Text.numeralBound) ∧
        values = valuesOf terms rolls ∧ final = table.showing rolls.flatten dice := by
  induction terms generalizing table values final with
  | nil =>
      rw [List.mapM_nil, returns_pure_iff]
      constructor
      · rintro ⟨rfl, rfl⟩
        exact ⟨by simp, [], _, .nothing, by simp, rfl, rfl⟩
      · rintro ⟨-, rolls, dice, shows, -, rfl, rfl⟩
        cases shows
        exact ⟨rfl, rfl⟩
  | cons signed terms ih =>
      simp only [List.mapM_cons, returns_bind_iff, returns_pure_iff, Term.returns_roll_iff, ih]
      constructor
      · rintro ⟨_, _, ⟨stands, faces, next, shows, small, rfl, rfl⟩, _, _,
          ⟨stand, rolls, dice, others, smallOthers, rfl, rfl⟩, rfl, rfl⟩
        exact ⟨List.forall_mem_cons.mpr ⟨stands, stand⟩, faces :: rolls, dice,
          .term shows others, List.forall_mem_cons.mpr ⟨small, smallOthers⟩, rfl,
          Table.showing_showing ..⟩
      · rintro ⟨stand, rolls, dice, shows, small, rfl, rfl⟩
        obtain ⟨standsHere, standThere⟩ := List.forall_mem_cons.mp stand
        cases shows with
        | @term _ next _ _ _ faces rolls shows others =>
            obtain ⟨smallHere, smallThere⟩ := List.forall_mem_cons.mp small
            exact ⟨_, _, ⟨standsHere, faces, next, shows, smallHere, rfl, rfl⟩, _, _,
              ⟨standThere, rolls, dice, others, smallThere, rfl, rfl⟩, rfl,
              (Table.showing_showing ..).symm⟩

end

/-! ## Sums -/

/-- None of the numerals of the term has more digits than a numeral may have. -/
def Term.HasShortNumerals : Term → Prop
  | .constant digits => digits.length ≤ Text.numeralLimit
  | .dice count _ sides =>
    count.length ≤ Text.numeralLimit ∧ sides.length ≤ Text.numeralLimit

/-- The dice of the term have at least one side. -/
def Term.HasSides : Term → Prop
  | .constant _ => True
  | .dice _ _ sides => 1 ≤ Text.numeral sides

theorem Term.stands_of_short {term : Term} (short : term.HasShortNumerals)
    (sided : term.HasSides) : term.Stands := by
  cases term with
  | constant digits => trivial
  | dice count letter sides => exact ⟨short.1, short.2, sided⟩

/-- What the term is worth when its dice show the given faces. -/
def Term.worth : Term → List Nat → Nat
  | .constant digits, _ => Text.numeral digits
  | .dice .., faces => faces.sum

/-- What the term adds to the sum of an expression. -/
def SignedTerm.worth (signed : SignedTerm) (faces : List Nat) : Int :=
  if signed.negative then -(signed.term.worth faces : Int) else signed.term.worth faces

theorem Term.value_of_short {term : Term} (short : term.HasShortNumerals)
    (faces : List Nat) : term.value faces = .int (term.worth faces) := by
  cases term with
  | constant digits =>
      have fits : Text.isOversized digits = false := isOversized_eq_false_iff.mpr short
      rw [Term.value, constantNumber, fits]
      rfl
  | dice count letter sides => rfl

theorem SignedTerm.signed_value_of_short {signed : SignedTerm}
    (short : signed.term.HasShortNumerals) (faces : List Nat) :
    (if signed.negative then (signed.term.value faces).neg else signed.term.value faces) =
      .int (signed.worth faces) := by
  rw [Term.value_of_short short, SignedTerm.worth]
  cases signed.negative <;> rfl

/-- From left to right, short constants and totals are added to a sum or subtracted from
it. -/
theorem foldlM_valuesOf {terms : List SignedTerm}
    (short : ∀ signed ∈ terms, signed.term.HasShortNumerals) (rolls : List (List Nat))
    (start : Int) :
    ((terms.map (·.negative)).zip (valuesOf terms rolls)).foldlM
        (fun (sum : Number) (value : Bool × Number) =>
          sum.add? (if value.1 then value.2.neg else value.2)) (.int start) =
      some (.int (start + (List.zipWith SignedTerm.worth terms rolls).sum)) := by
  induction terms generalizing start rolls with
  | nil => simp
  | cons signed terms ih =>
      obtain ⟨here, there⟩ := List.forall_mem_cons.mp short
      cases rolls with
      | nil => simp [valuesOf]
      | cons faces rolls =>
          have added := ih there rolls (start + signed.worth faces)
          rw [Int.add_assoc] at added
          simp only [valuesOf, List.map_cons, List.zipWith_cons_cons, List.zip_cons_cons,
            List.foldlM_cons, List.sum_cons, SignedTerm.signed_value_of_short here]
          exact added

theorem sumOf?_of_short {terms : List SignedTerm}
    (short : ∀ signed ∈ terms, signed.term.HasShortNumerals) (rolls : List (List Nat)) :
    sumOf? terms rolls = some (.int (List.zipWith SignedTerm.worth terms rolls).sum) := by
  cases terms with
  | nil => rfl
  | cons signed terms =>
      obtain ⟨here, there⟩ := List.forall_mem_cons.mp short
      cases rolls with
      | nil => rfl
      | cons faces rolls =>
          simp only [sumOf?, valuesOf, List.map_cons, List.zipWith_cons_cons,
            List.zip_cons_cons, DiceExpression.total?, SignedTerm.signed_value_of_short here, List.sum_cons]
          exact foldlM_valuesOf there rolls (signed.worth faces)

/-! ## Expressions -/

theorem not_isForeignDigit_of_lt {c : Char} (ascii : c.toNat < 128) :
    DiceExpression.isForeignDigit c = false := by
  unfold DiceExpression.isForeignDigit
  by_cases common : Text.isCommonDigit c = true
  · simp [common]
  · have high : ∀ first ∈ Text.foreignZeros, 128 ≤ first := by decide
    have other : ¬ ('0' ≤ c ∧ c ≤ '9') := by simpa [Text.isCommonDigit] using common
    have none : Text.foreignZeros.find?
        (fun first => first ≤ c.toNat && c.toNat < first + 10) = none := by
      rw [List.find?_eq_none]
      intro first member
      have above := high first member
      simp only [Bool.and_eq_true, decide_eq_true_eq]
      omega
    simp [Text.isDigit, Text.digitValue?, other, none]

theorem isPlain_of_ascii {chars : List Char} (ascii : ∀ c ∈ chars, c.toNat < 128) :
    isPlain chars = true := by
  rw [isPlain, List.all_eq_true]
  intro c member
  rw [not_isForeignDigit_of_lt (ascii c member), Bool.not_false]

section

variable {σ : Type} [DiceSource σ] {table final : Table σ} {text : String}

/-- An expression with dice of at least one side returns the signed sum of what its terms
are worth. -/
theorem returns_rollText_iff_of_spells {terms : List SignedTerm}
    (spells : Spells text.toList terms) (ascii : ∀ c ∈ text.toList, c.toNat < 128)
    (short : ∀ signed ∈ terms, signed.term.HasShortNumerals)
    (sided : ∀ signed ∈ terms, signed.term.HasSides) {n : Int} :
    Returns (rollText text) table n final ↔
      ∃ rolls dice, TermsShow table.dice terms rolls dice ∧
        (∀ faces ∈ rolls, faces.sum < Text.numeralBound) ∧
        n = (List.zipWith SignedTerm.worth terms rolls).sum ∧
        final = table.showing rolls.flatten dice := by
  obtain ⟨expression, read, rfl⟩ := exists_read?_iff.mpr spells
  have plain := ((DiceExpression.isPlain_toList_iff read).mp (isPlain_of_ascii ascii)).1
  rw [returns_rollText_iff]
  constructor
  · rintro ⟨again, values, total, readAgain, rolled, settled, whole⟩
    obtain rfl := Option.some.inj (read.symm.trans readAgain)
    have sum := ((DiceExpression.settled_eq_ok_iff read
      (mayShow_of_returns_mapM rolled)).mp settled).2
    obtain ⟨-, rolls, dice, shows, small, rfl, rfl⟩ := returns_mapM_roll_iff.mp rolled
    cases sum.symm.trans (sumOf?_of_short short rolls)
    cases whole
    exact ⟨rolls, dice, shows, small, rfl, rfl⟩
  · rintro ⟨rolls, dice, shows, small, rfl, rfl⟩
    have stand := fun signed member =>
      Term.stands_of_short (short signed member) (sided signed member)
    have rolled : Returns (expression.terms.mapM fun signed => signed.term.roll text) table
        (valuesOf expression.terms rolls) (table.showing rolls.flatten dice) :=
      returns_mapM_roll_iff.mpr ⟨stand, rolls, dice, shows, small, rfl, rfl⟩
    exact ⟨expression, _, _, read, rolled, (DiceExpression.settled_eq_ok_iff read
      (mayShow_of_returns_mapM rolled)).mpr ⟨plain, sumOf?_of_short short rolls⟩, rfl⟩

end

/-- The dice texts are those of the grammar.  One in common characters, with dice of at
least one side and without oversized numerals, draws the dice of its terms from left to
right and returns the signed sum of what the terms are worth, unless the total of a term is
too large to be written. -/
theorem rollText_follows_grammar (text : String) :
    (isDiceText text = true ↔ ∃ terms, Spells text.toList terms) ∧
      ∀ terms, Spells text.toList terms → (∀ c ∈ text.toList, c.toNat < 128) →
        (∀ signed ∈ terms, signed.term.HasShortNumerals) →
        (∀ signed ∈ terms, signed.term.HasSides) →
        ∀ (σ : Type) [DiceSource σ], DiceSource.Unending σ → ∀ table : Table σ,
          ∃ rolls dice, TermsShow table.dice terms rolls dice ∧
            ∀ n final, Returns (rollText text) table n final ↔
              (∀ faces ∈ rolls, faces.sum < Text.numeralBound) ∧
              n = (List.zipWith SignedTerm.worth terms rolls).sum ∧
              final = table.showing rolls.flatten dice := by
  refine ⟨isDiceText_eq_true_iff, ?_⟩
  intro terms spells ascii short sided σ _ unending table
  have stand := fun signed member =>
    Term.stands_of_short (short signed member) (sided signed member)
  obtain ⟨rolls, dice, shows⟩ := TermsShow.exists_of_unending unending stand table.dice
  refine ⟨rolls, dice, shows, fun n final => ?_⟩
  rw [returns_rollText_iff_of_spells spells ascii short sided]
  constructor
  · rintro ⟨others, otherDice, showsOthers, small, rfl, rfl⟩
    obtain ⟨rfl, rfl⟩ := shows.unique showsOthers
    exact ⟨small, rfl, rfl⟩
  · rintro ⟨small, rfl, rfl⟩
    exact ⟨rolls, dice, shows, small, rfl, rfl⟩

/-- The terms of two dice less one plus a die. -/
def mixedTerms : List SignedTerm :=
  [⟨false, .dice ['2'] 'd' ['6']⟩, ⟨true, .constant ['1']⟩, ⟨false, .dice [] 'D' ['3']⟩]

/-- Blanks may stand around a sign, and the count in front of the letter may be missing. -/
theorem two_dice_less_one_plus_die :
    Spells "2d6 - 1+D3".toList mixedTerms ∧
      Returns (rollText "2d6 - 1+D3") ({ dice := ⟨[4, 2, 1]⟩ } : Table Faces) 6
        { dice := ⟨[]⟩, drawn := [1, 2, 4] } := by
  have digit (c : Char) (isDigit : Text.isDigit c = true) : IsNumeral [c] :=
    ⟨List.cons_ne_nil _ _, List.forall_mem_singleton.mpr isDigit⟩
  have empty : AreBlank [] := by simp [AreBlank]
  have space : AreBlank [' '] := List.forall_mem_singleton.mpr (by decide)
  have spells : Spells "2d6 - 1+D3".toList mixedTerms := by
    have last := @SpellsSigned.next [] [] [] false (.dice [] 'D' ['3']) [] empty empty
      ⟨.inl rfl, .inr rfl, digit '3' (by decide)⟩ (.blanks empty)
    have middle := @SpellsSigned.next [' '] [' '] _ true (.constant ['1']) _ space space
      (digit '1' (by decide)) last
    exact @Spells.unsigned [] _ (.dice ['2'] 'd' ['6']) _ empty
      ⟨.inr (digit '2' (by decide)), .inl rfl, digit '6' (by decide)⟩ middle
  have ascii : ∀ c ∈ "2d6 - 1+D3".toList, c.toNat < 128 := by
    have all : "2d6 - 1+D3".toList.all (fun c => c.toNat < 128) = true := rfl
    intro c member
    exact of_decide_eq_true (List.all_eq_true.mp all c member)
  have short : ∀ signed ∈ mixedTerms, signed.term.HasShortNumerals := by
    simp [mixedTerms, Term.HasShortNumerals, Text.numeralLimit]
  have sided : ∀ signed ∈ mixedTerms, signed.term.HasSides := by
    simp only [mixedTerms, List.forall_mem_cons]
    exact ⟨Nat.le_of_ble_eq_true rfl, trivial, Nat.le_of_ble_eq_true rfl, by simp⟩
  obtain ⟨rolls, dice, shows, returns⟩ := (rollText_follows_grammar "2d6 - 1+D3").2 _ spells
    ascii short sided Faces Faces.unending { dice := ⟨[4, 2, 1]⟩ }
  have shown : @TermsShow Faces _ ⟨[4, 2, 1]⟩ mixedTerms [[4, 2], [], [1]] ⟨[]⟩ :=
    .term (.die rfl (.die rfl .nothing)) (.term .nothing (.term (.die rfl .nothing) .nothing))
  obtain ⟨rfl, rfl⟩ := shows.unique shown
  refine ⟨spells, (returns 6 _).mpr ⟨?_, rfl, rfl⟩⟩
  simp only [List.forall_mem_cons]
  exact ⟨lt_numeralBound (by decide), lt_numeralBound (by decide), lt_numeralBound (by decide),
    by simp⟩

/-! ## Zeros in front -/

/-- The sides of a die with six sides, written with more digits than a numeral may have. -/
def paddedSix : List Char :=
  List.replicate Text.numeralLimit '0' ++ ['6']

theorem numeral_replicate_zero (count : Nat) (digits : List Char) :
    Text.numeral (List.replicate count '0' ++ digits) = Text.numeral digits := by
  induction count with
  | zero => rfl
  | succ count ih =>
      rw [← ih]
      rfl

/-- A die with six sides cannot be rolled when too many zeros are written in front of its
sides. -/
theorem padded_die_never_returns :
    Spells (String.ofList ('d' :: paddedSix)).toList [⟨false, .dice [] 'd' paddedSix⟩] ∧
      (∀ c ∈ (String.ofList ('d' :: paddedSix)).toList, c.toNat < 128) ∧
      (Term.dice [] 'd' paddedSix).dieSizes = [6] ∧
      ∀ (σ : Type) [DiceSource σ] (table : Table σ),
        ¬ Completes (rollText (String.ofList ('d' :: paddedSix))) table := by
  have digits : ∀ c ∈ paddedSix, c = '0' ∨ c = '6' := by
    intro c member
    rcases List.mem_append.mp member with zeros | six
    · exact .inl (List.eq_of_mem_replicate zeros)
    · exact .inr (List.mem_singleton.mp six)
  have numeral : IsNumeral paddedSix := by
    refine ⟨by simp [paddedSix], fun c member => ?_⟩
    rcases digits c member with rfl | rfl <;> decide
  have spells : Spells (String.ofList ('d' :: paddedSix)).toList
      [⟨false, .dice [] 'd' paddedSix⟩] := by
    have derived : Spells ([] ++ ((Term.dice [] 'd' paddedSix).chars ++ [])) _ :=
      .unsigned (by simp [AreBlank]) ⟨.inl rfl, .inl rfl, numeral⟩ (.blanks (by simp [AreBlank]))
    simpa [Term.chars] using derived
  refine ⟨spells, ?_, ?_, ?_⟩
  · intro c member
    rw [String.toList_ofList] at member
    rcases List.mem_cons.mp member with rfl | member
    · decide
    · rcases digits c member with rfl | rfl <;> decide
  · rw [Term.dieSizes, paddedSix, numeral_replicate_zero]
    rfl
  · rintro σ _ table ⟨n, final, returns⟩
    obtain ⟨expression, values, _, read, rolled, -, -⟩ := returns_rollText_iff.mp returns
    obtain ⟨again, readAgain, terms⟩ := exists_read?_iff.mpr spells
    obtain rfl := Option.some.inj (read.symm.trans readAgain)
    rw [terms] at rolled
    have stands := (returns_mapM_roll_iff.mp rolled).1 _ (List.mem_singleton.mpr rfl)
    have short : paddedSix.length ≤ Text.numeralLimit := stands.2.1
    rw [paddedSix, List.length_append, List.length_replicate] at short
    exact Nat.not_succ_le_self _ short

end Skirmish
