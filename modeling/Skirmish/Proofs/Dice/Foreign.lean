import Skirmish.Proofs.Dice.Rollable

/-!
# Digits of other scripts in rolled texts

What is settled in the place of dice is written in common digits, while whole numbers stay
as they are written.  So a text whose whole numbers have a digit of another script cannot
be rolled at all, and dice may be written in any script.
-/

namespace Skirmish

open DiceExpression

/-! ## Plain characters -/

/-- No character is a digit of another script. -/
def isPlain (chars : List Char) : Bool :=
  chars.all fun c => !isForeignDigit c

theorem foreignDigitAt?_eq_none_iff {chars : List Char} :
    foreignDigitAt? chars = none ↔ isPlain chars = true := by
  simp [foreignDigitAt?, isPlain]

@[simp]
theorem isPlain_append (first second : List Char) :
    isPlain (first ++ second) = (isPlain first && isPlain second) :=
  List.all_append

theorem isForeignDigit_of_not_isDigit {c : Char} (other : Text.isDigit c = false) :
    isForeignDigit c = false := by
  rw [isForeignDigit, other, Bool.false_and]

theorem isPlain_toDigits (n : Nat) : isPlain (Nat.toDigits 10 n) = true := by
  rw [isPlain, List.all_eq_true]
  intro c member
  have digit := Nat.isDigit_of_mem_toDigits (by decide) (by decide) member
  have common : Text.isCommonDigit c = true := by
    simpa [Text.isCommonDigit, Char.isDigit, Char.le_def] using digit
  rw [isForeignDigit, common, Bool.not_true, Bool.and_false, Bool.not_false]

theorem isPlain_of_subset {chars others : List Char} (plain : isPlain others = true)
    (subset : chars ⊆ others) : isPlain chars = true := by
  rw [isPlain, List.all_eq_true] at plain ⊢
  exact fun c member => plain c (subset member)

theorem isPlain_zeros (count : Nat) : isPlain (List.replicate count '0') = true :=
  List.all_eq_true.mpr fun c member => by rw [List.eq_of_mem_replicate member]; decide

/-! ## Numbers

Numbers of either kind are written without digits of other scripts. -/

namespace Binary64

theorem isPlain_exponentText (e : Int) : isPlain (exponentText e) = true := by
  have parts : exponentText e = (if e < 0 then ['e', '-'] else ['e', '+']) ++
      (List.replicate (2 - (Nat.toDigits 10 e.natAbs).length) '0' ++
        Nat.toDigits 10 e.natAbs) := by
    unfold exponentText
    split <;> rfl
  rw [parts, isPlain_append, isPlain_append, isPlain_zeros, isPlain_toDigits]
  split <;> decide

theorem Decimal.isPlain_text (layout : Layout) {decimal : Decimal}
    (plain : isPlain decimal.digits = true) : isPlain (decimal.text layout) = true := by
  obtain ⟨digits, point⟩ := decimal
  have part {chars : List Char} (subset : chars ⊆ digits) : isPlain chars = true :=
    isPlain_of_subset plain subset
  unfold Decimal.text
  dsimp only
  split
  · split
    · rw [isPlain_append, isPlain_append, isPlain_zeros, plain]
      decide
    · have whole := part (List.take_subset point.toNat digits)
      have rest := part (List.drop_subset point.toNat digits)
      split
      · split <;> simp only [isPlain_append, whole, isPlain_zeros] <;> decide
      · rw [isPlain_append, isPlain_append, whole, isPlain_zeros, isPlain, List.all_cons]
        exact rest
  · rw [isPlain_append, isPlain_exponentText, Bool.and_true]
    split
    · decide
    · exact plain
    · rename_i first rest
      rw [isPlain, List.all_cons] at plain ⊢
      exact plain

theorem isPlain_decimalOf (count : Nat) (exponent : Int) :
    isPlain (decimalOf count exponent).digits = true := by
  refine isPlain_of_subset (isPlain_toDigits count) fun c member => ?_
  exact List.mem_reverse.mp ((List.dropWhile_sublist _).subset (List.mem_reverse.mp member))

theorem isPlain_shortest (significand : Nat) (exponent : Int) :
    isPlain (shortest significand exponent).digits = true := by
  unfold shortest
  dsimp only
  split
  · rename_i decimal found
    obtain ⟨places, -, neighbour⟩ := List.exists_of_findSome?_eq_some found
    unfold neighbour? at neighbour
    dsimp only at neighbour
    split at neighbour <;> cases neighbour <;> exact isPlain_decimalOf ..
  · exact isPlain_decimalOf ..

theorem isPlain_text (x : Binary64) : isPlain x.text.toList = true := by
  cases x with
  | nan => decide
  | infinite negative => cases negative <;> decide
  | finite negative significand exponent =>
      rw [text, textBy, String.toList_ofList, isPlain_append, Decimal.isPlain_text]
      · cases negative <;> decide
      · split
        · decide
        · exact isPlain_shortest significand exponent

end Binary64

theorem Number.isPlain_text (number : Number) : isPlain number.text.toList = true := by
  cases number with
  | float x => exact x.isPlain_text
  | int n =>
      cases n with
      | ofNat n =>
          have written : (Number.int (Int.ofNat n)).text.toList = Nat.toDigits 10 n :=
            String.toList_ofList
          rw [written, isPlain_toDigits]
      | negSucc n =>
          have written : (Number.int (Int.negSucc n)).text.toList =
              '-' :: Nat.toDigits 10 (n + 1) :=
            String.toList_append.trans (congrArg ('-' :: ·) String.toList_ofList)
          rw [written, isPlain, List.all_cons]
          exact isPlain_toDigits (n + 1)

/-! ## Pieces -/

/-- The term is dice, or a whole number in common digits. -/
def Term.isPlainConstant : Term → Bool
  | .constant digits => isPlain digits
  | .dice .. => true

variable {pieces : List Piece}

theorem isPlain_pieces (blanks : ∀ c, Piece.blank c ∈ pieces → Text.isDigit c = false) :
    isPlain (pieces.flatMap Piece.chars) =
      (pieces.filterMap Piece.term?).all fun term => isPlain term.chars := by
  induction pieces with
  | nil => rfl
  | cons piece rest ih =>
      rw [List.flatMap_cons, isPlain_append,
        ih fun c member => blanks c (List.mem_cons_of_mem _ member)]
      cases piece with
      | blank c =>
          have other := isForeignDigit_of_not_isDigit (blanks c (List.mem_cons_self ..))
          simp [Piece.chars, isPlain, other, Piece.term?]
      | sign negative => cases negative <;> rfl
      | term own => rfl

theorem isPlain_settle (blanks : ∀ c, Piece.blank c ∈ pieces → Text.isDigit c = false)
    {values : List Number} (paired : values.length = (pieces.filterMap Piece.term?).length) :
    isPlain (settle pieces (values.map fun value => value.text.toList)) =
      (pieces.filterMap Piece.term?).all Term.isPlainConstant := by
  induction pieces generalizing values with
  | nil => rfl
  | cons piece rest ih =>
      have blanksThere := fun c member => blanks c (List.mem_cons_of_mem _ member)
      cases piece with
      | blank c =>
          have other := isForeignDigit_of_not_isDigit (blanks c (List.mem_cons_self ..))
          have settled := ih blanksThere paired
          rw [settle]
          split
          · exact settled
          · rw [isPlain, List.all_cons, other]
            exact settled
      | sign negative =>
          have settled := ih blanksThere paired
          cases negative <;> exact settled
      | term own =>
          obtain ⟨value, others, rfl⟩ := List.exists_cons_of_length_eq_add_one paired
          have settled := ih blanksThere (Nat.succ.inj paired)
          rw [List.map_cons]
          cases own with
          | constant digits =>
              rw [settle, isPlain_append, List.drop_one, List.tail_cons, settled]
              rfl
          | dice count letter sides =>
              rw [settle, isPlain_append, List.drop_one, List.tail_cons, settled,
                List.headD_cons, value.isPlain_text, Bool.true_and]
              rfl

/-! ## Expressions -/

namespace DiceExpression

variable {text : String} {expression : DiceExpression}

/-- The whole numbers of the expression are written in common digits. -/
def PlainConstants (expression : DiceExpression) : Prop :=
  ∀ signed ∈ expression.terms, signed.term.isPlainConstant = true

/-- The dice of the expression are written in common digits. -/
def PlainDice (expression : DiceExpression) : Prop :=
  ∀ signed ∈ expression.terms, signed.term.isDice = true → isPlain signed.term.chars = true

/-- The values that the terms of the expression may show always have a sum. -/
def AlwaysSums (expression : DiceExpression) : Prop :=
  ∀ values, List.Forall₂ (fun signed value => signed.term.MayShow value) expression.terms values →
    ∃ total n, total? ((expression.terms.map (·.negative)).zip values) = some total ∧
      wholeTotal total = .ok n

theorem isPlain_toList_iff (read : read? text = some expression) :
    isPlain text.toList = true ↔ expression.PlainConstants ∧ expression.PlainDice := by
  have found := (read?_eq_some_iff.mp read).1
  have spelled := flatMap_chars_piecesFrom? found
  rw [PartialTerm.chars, List.nil_append] at spelled
  rw [← spelled, isPlain_pieces fun c member => not_isDigit_of_blank_mem found member,
    filterMap_pieces read, List.all_map, List.all_eq_true, PlainConstants, PlainDice,
    ← forall₂_and]
  refine forall₂_congr fun signed _ => ?_
  cases term : signed.term <;> simp [term, Term.isPlainConstant, Term.isDice, Term.chars]

/-- Values, one for each term, are settled when the whole numbers are plain and there is a
sum. -/
theorem settled_eq_ok_iff_of_length (read : read? text = some expression) {values : List Number}
    (paired : values.length = expression.terms.length) {total : Number} :
    expression.settled values = .ok total ↔ expression.PlainConstants ∧
      total? ((expression.terms.map (·.negative)).zip values) = some total := by
  have found := (read?_eq_some_iff.mp read).1
  have slots : values.length = (expression.pieces.filterMap Piece.term?).length := by
    rw [filterMap_pieces read, List.length_map, paired]
  have settled := isPlain_settle (fun c member => not_isDigit_of_blank_mem found member) slots
  rw [filterMap_pieces read, List.all_map] at settled
  have constants : expression.PlainConstants ↔
      isPlain (settle expression.pieces (values.map fun value => value.text.toList)) = true := by
    rw [settled, List.all_eq_true]
    rfl
  rw [constants, ← foreignDigitAt?_eq_none_iff]
  unfold DiceExpression.settled
  dsimp only
  cases foreignDigitAt? (settle expression.pieces
    (values.map fun value => value.text.toList)) with
  | some column => simp
  | none =>
      cases total? ((expression.terms.map (·.negative)).zip values) with
      | none => simp
      | some sum => simp

/-- Values that the terms may show are settled when the whole numbers are plain and there is
a sum. -/
theorem settled_eq_ok_iff (read : read? text = some expression) {values : List Number}
    (shown : List.Forall₂ (fun signed value => signed.term.MayShow value) expression.terms values)
    {total : Number} :
    expression.settled values = .ok total ↔ expression.PlainConstants ∧
      total? ((expression.terms.map (·.negative)).zip values) = some total :=
  settled_eq_ok_iff_of_length read shown.length_eq.symm

/-- An expression can always be rolled exactly when its whole numbers are plain, its dice
can be rolled, and its terms only show values that have a sum. -/
theorem alwaysRolls_iff_of_read (read : read? text = some expression) :
    AlwaysRolls text ↔ expression.PlainConstants ∧
      (∀ signed ∈ expression.terms, signed.term.isRollable = true) ∧ expression.AlwaysSums := by
  rw [alwaysRolls_iff]
  constructor
  · rintro ⟨again, readAgain, rollable, settles⟩
    obtain rfl := Option.some.inj (read.symm.trans readAgain)
    obtain ⟨values, shown⟩ := exists_mayShow rollable
    obtain ⟨_, _, settled, -⟩ := settles values shown
    refine ⟨((settled_eq_ok_iff read shown).mp settled).1, rollable, fun values shown => ?_⟩
    obtain ⟨total, n, settled, whole⟩ := settles values shown
    exact ⟨total, n, ((settled_eq_ok_iff read shown).mp settled).2, whole⟩
  · rintro ⟨constants, rollable, sums⟩
    refine ⟨expression, read, rollable, fun values shown => ?_⟩
    obtain ⟨total, n, sum, whole⟩ := sums values shown
    exact ⟨total, n, (settled_eq_ok_iff read shown).mpr ⟨constants, sum⟩, whole⟩

end DiceExpression

/-! ## Sums -/

/-- The number is an integer. -/
def Number.IsInt (number : Number) : Prop :=
  ∃ n : Int, number = .int n

/-- The term is dice, or a whole number with no more digits than a numeral may have. -/
def Term.isShort : Term → Bool
  | .constant digits => !Text.isOversized digits
  | .dice .. => true

theorem Term.MayShow.isInt {term : Term} {value : Number} (mayShow : term.MayShow value)
    (short : term.isShort = true) : value.IsInt := by
  cases term with
  | constant digits =>
      have common : Text.isOversized digits = false := by simpa [isShort] using short
      refine ⟨Text.numeral digits, ?_⟩
      rw [mayShow, constantNumber, common]
      rfl
  | dice count letter sides =>
      obtain ⟨_, _, total, -, -, -, -, rfl⟩ := mayShow
      exact ⟨total, rfl⟩

theorem Term.isInt_of_forall₂ {terms : List SignedTerm} {values : List Number}
    (short : ∀ signed ∈ terms, signed.term.isShort = true)
    (shown : List.Forall₂ (fun signed value => signed.term.MayShow value) terms values) :
    ∀ value ∈ values, value.IsInt := by
  induction shown with
  | nil => exact fun value member => (List.not_mem_nil member).elim
  | cons first _ ih =>
      obtain ⟨here, there⟩ := List.forall_mem_cons.mp short
      exact List.forall_mem_cons.mpr ⟨first.isInt here, ih there⟩

theorem exists_foldlM_of_ints {values : List (Bool × Number)}
    (ints : ∀ value ∈ values, value.2.IsInt) (start : Int) :
    ∃ n : Int, values.foldlM (fun (sum : Number) (value : Bool × Number) =>
      sum.add? (if value.1 then value.2.neg else value.2)) (.int start) = some (.int n) := by
  induction values generalizing start with
  | nil => exact ⟨start, rfl⟩
  | cons value rest ih =>
      obtain ⟨⟨n, int⟩, others⟩ := List.forall_mem_cons.mp ints
      rw [List.foldlM_cons, int]
      cases value.1 with
      | true => exact ih others _
      | false => exact ih others _

theorem exists_total?_of_ints {values : List (Bool × Number)}
    (ints : ∀ value ∈ values, value.2.IsInt) : ∃ n : Int, total? values = some (.int n) := by
  cases values with
  | nil => exact ⟨0, rfl⟩
  | cons value rest =>
      obtain ⟨⟨n, int⟩, others⟩ := List.forall_mem_cons.mp ints
      obtain ⟨negative, first⟩ := value
      obtain rfl : first = .int n := int
      cases negative with
      | true => exact exists_foldlM_of_ints others (-n)
      | false => exact exists_foldlM_of_ints others n

/-- The terms of an expression without oversized whole numbers always have a sum. -/
theorem DiceExpression.alwaysSums_of_short {expression : DiceExpression}
    (short : ∀ signed ∈ expression.terms, signed.term.isShort = true) :
    expression.AlwaysSums := by
  intro values shown
  have ints := Term.isInt_of_forall₂ short shown
  obtain ⟨n, sum⟩ := exists_total?_of_ints fun value member => ints _ (List.of_mem_zip member).2
  exact ⟨.int n, n, sum, rfl⟩

end Skirmish
