import Skirmish.Proofs.Dice.Expression

/-!
# The grammar of dice expressions

A dice expression is a row of terms, `N`, `dX` or `NdX`, joined by single signs, with
blanks around the signs and at both ends and an optional sign in front.  The reader accepts
exactly the texts of this grammar, and it finds the terms that the grammar derives.

That an accepted text is derived follows from its pieces, which spell it and are written as
the grammar has them.  For the converse the reader is followed over what a derivation puts
together: blanks, signs, and terms that are followed by neither a digit nor a dice letter.
-/

namespace Skirmish

/-! ## Derivations -/

/-- All of the characters are blanks. -/
def AreBlank (chars : List Char) : Prop :=
  ∀ c ∈ chars, Text.isBlank c = true

/-- The characters are digits of any script, and there is at least one. -/
structure IsNumeral (digits : List Char) : Prop where
  nonempty : digits ≠ []
  digit : ∀ c ∈ digits, Text.isDigit c = true

/-- The characters of the term are those of `N`, `dX` or `NdX`. -/
def Term.IsWritten : Term → Prop
  | .constant digits => IsNumeral digits
  | .dice count letter sides =>
    (count = [] ∨ IsNumeral count) ∧ (letter = 'd' ∨ letter = 'D') ∧ IsNumeral sides

/-- The characters spell signed terms, each with its sign in front, and blanks around the
signs and at both ends. -/
inductive SpellsSigned : List Char → List SignedTerm → Prop
  | blanks {blanks : List Char} (blank : AreBlank blanks) : SpellsSigned blanks []
  | next {before after rest : List Char} {negative : Bool} {term : Term}
      {terms : List SignedTerm} (blankBefore : AreBlank before) (blankAfter : AreBlank after)
      (written : term.IsWritten) (more : SpellsSigned rest terms) :
      SpellsSigned
        (before ++ (if negative then '-' else '+') :: (after ++ (term.chars ++ rest)))
        (⟨negative, term⟩ :: terms)

/-- The characters spell a dice expression with the given terms.  The first one needs no
sign and counts as positive without one. -/
inductive Spells : List Char → List SignedTerm → Prop
  | unsigned {before rest : List Char} {term : Term} {terms : List SignedTerm}
      (blankBefore : AreBlank before) (written : term.IsWritten)
      (more : SpellsSigned rest terms) :
      Spells (before ++ (term.chars ++ rest)) (⟨false, term⟩ :: terms)
  | signed {chars : List Char} {first : SignedTerm} {terms : List SignedTerm}
      (spells : SpellsSigned chars (first :: terms)) : Spells chars (first :: terms)

/-! ## Accepted texts are derived -/

/-- The characters of the piece are those that the grammar allows for it. -/
def Piece.IsWritten : Piece → Prop
  | .blank c => Text.isBlank c = true
  | .sign _ => True
  | .term own => own.IsWritten

/-- What was read of the term may still become one of the grammar. -/
def PartialTerm.IsWritten : PartialTerm → Prop
  | .nothing => True
  | .number digits => IsNumeral digits
  | .dice count letter sides =>
    (count = [] ∨ IsNumeral count) ∧ (letter = 'd' ∨ letter = 'D') ∧
      ∀ c ∈ sides, Text.isDigit c = true

theorem isDiceLetter_iff {c : Char} : isDiceLetter c = true ↔ c = 'd' ∨ c = 'D' := by
  simp [isDiceLetter]

theorem IsNumeral.reverse {digits : List Char} (numeral : IsNumeral digits) :
    IsNumeral digits.reverse where
  nonempty := by simpa using numeral.nonempty
  digit c member := numeral.digit c (List.mem_reverse.mp member)

theorem PartialTerm.IsWritten.finish {current : PartialTerm} (written : current.IsWritten)
    {pieces : List Piece} (finished : current.finish? = some pieces) :
    ∀ piece ∈ pieces, piece.IsWritten := by
  cases current with
  | nothing =>
      cases finished
      simp
  | number digits =>
      cases finished
      exact List.forall_mem_singleton.mpr written.reverse
  | dice count letter sides =>
      cases sides with
      | nil => cases finished
      | cons side sides =>
          cases finished
          obtain ⟨counted, lettered, sided⟩ := written
          have numeral : IsNumeral (side :: sides) := ⟨List.cons_ne_nil _ _, sided⟩
          refine List.forall_mem_singleton.mpr ⟨?_, lettered, numeral.reverse⟩
          exact counted.imp (fun none => by rw [none]; rfl) IsNumeral.reverse

/-- Pieces behind a finished term are written as the grammar has them when all its parts
are. -/
theorem isWritten_of_finished {current : PartialTerm} (written : current.IsWritten)
    (middle : List Piece) (writtenMiddle : ∀ piece ∈ middle, piece.IsWritten)
    {rest : Option (List Piece)} {pieces : List Piece}
    (writtenRest : ∀ others, rest = some others → ∀ piece ∈ others, piece.IsWritten)
    (found : (do return (← current.finish?) ++ (middle ++ (← rest))) = some pieces) :
    ∀ piece ∈ pieces, piece.IsWritten := by
  intro piece member
  rcases mem_finished middle found member with
    ⟨own, finished, inOwn⟩ | inMiddle | ⟨others, read, inOthers⟩
  · exact written.finish finished piece inOwn
  · exact writtenMiddle piece inMiddle
  · exact writtenRest others read piece inOthers

/-- All pieces that the reader makes are written as the grammar has them. -/
theorem isWritten_of_piecesFrom? {current : PartialTerm} {chars : List Char}
    {pieces : List Piece} (written : current.IsWritten)
    (found : piecesFrom? current chars = some pieces) :
    ∀ piece ∈ pieces, piece.IsWritten := by
  fun_induction piecesFrom? current chars generalizing pieces with
  | case1 current => exact written.finish found
  | case2 c rest digit ih =>
      have numeral : IsNumeral [c] := ⟨List.cons_ne_nil _ _, by simpa using digit⟩
      exact ih numeral found
  | case3 c rest digit digits ih =>
      have numeral : IsNumeral (c :: digits) :=
        ⟨List.cons_ne_nil _ _, List.forall_mem_cons.mpr ⟨digit, written.digit⟩⟩
      exact ih numeral found
  | case4 c rest digit count letter sides ih =>
      obtain ⟨counted, lettered, sided⟩ := written
      exact ih ⟨counted, lettered, List.forall_mem_cons.mpr ⟨digit, sided⟩⟩ found
  | case5 c rest _ letter digits ih =>
      exact ih ⟨.inr written, isDiceLetter_iff.mp letter, by simp⟩ found
  | case6 current c rest _ letter _ ih =>
      have begun : (PartialTerm.dice [] c []).IsWritten :=
        ⟨.inl rfl, isDiceLetter_iff.mp letter, by simp⟩
      exact isWritten_of_finished written [] (by simp)
        (fun others read => ih begun read) (by simpa using found)
  | case7 current c rest _ _ _ ih =>
      exact isWritten_of_finished written [.sign (c = '-')]
        (List.forall_mem_singleton.mpr trivial)
        (fun others read => ih trivial read) (by simpa using found)
  | case8 current c rest _ _ _ blank ih =>
      exact isWritten_of_finished written [.blank c] (List.forall_mem_singleton.mpr blank)
        (fun others read => ih trivial read) (by simpa using found)
  | case9 => simp at found

theorem areBlank_flatMap {pieces : List Piece}
    (written : ∀ piece ∈ pieces, piece.IsWritten)
    (hollow : ∀ piece ∈ pieces, ¬ DiceExpression.isSolid piece = true) :
    AreBlank (pieces.flatMap Piece.chars) := by
  intro c member
  obtain ⟨piece, inPieces, inPiece⟩ := List.mem_flatMap.mp member
  cases piece with
  | blank blank =>
      obtain rfl : c = blank := by simpa [Piece.chars] using inPiece
      exact written _ inPieces
  | sign negative => exact (hollow _ inPieces rfl).elim
  | term own => exact (hollow _ inPieces rfl).elim

theorem split_at_solid {pieces rest : List Piece} {piece : Piece}
    (written : ∀ piece ∈ pieces, piece.IsWritten)
    (solid : pieces.filter DiceExpression.isSolid = piece :: rest) :
    ∃ (blanks : List Char) (others : List Piece), AreBlank blanks ∧
      pieces.flatMap Piece.chars = blanks ++ (piece.chars ++ others.flatMap Piece.chars) ∧
      piece.IsWritten ∧ (∀ piece ∈ others, piece.IsWritten) ∧
      others.filter DiceExpression.isSolid = rest := by
  obtain ⟨hollow, others, rfl, isHollow, -, left⟩ := List.filter_eq_cons_iff.mp solid
  simp only [List.forall_mem_append, List.forall_mem_cons] at written
  obtain ⟨writtenHollow, writtenPiece, writtenOthers⟩ := written
  refine ⟨_, others, areBlank_flatMap writtenHollow isHollow, ?_, writtenPiece, writtenOthers,
    left⟩
  simp

/-- What follows the first term begins with a sign and a term. -/
theorem moreTerms?_eq_cons {pieces : List Piece} {signed : SignedTerm}
    {terms : List SignedTerm} (found : moreTerms? pieces = some (signed :: terms)) :
    ∃ rest, pieces = .sign signed.negative :: .term signed.term :: rest ∧
      moreTerms? rest = some terms := by
  unfold moreTerms? at found
  split at found
  · cases found
  · rename_i negative term rest
    obtain ⟨others, read, same⟩ := Option.map_eq_some_iff.mp found
    obtain ⟨rfl, rfl⟩ := List.cons_eq_cons.mp same
    exact ⟨rest, rfl, read⟩
  · cases found

theorem moreTerms?_eq_nil {pieces : List Piece} (found : moreTerms? pieces = some []) :
    pieces = [] := by
  unfold moreTerms? at found
  split at found
  · rfl
  · simp at found
  · cases found

theorem spellsSigned_of_pieces {pieces : List Piece} {terms : List SignedTerm}
    (written : ∀ piece ∈ pieces, piece.IsWritten)
    (found : moreTerms? (pieces.filter DiceExpression.isSolid) = some terms) :
    SpellsSigned (pieces.flatMap Piece.chars) terms := by
  induction terms generalizing pieces with
  | nil =>
      have hollow := List.filter_eq_nil_iff.mp (moreTerms?_eq_nil found)
      exact .blanks (areBlank_flatMap written hollow)
  | cons signed terms ih =>
      obtain ⟨rest, solid, more⟩ := moreTerms?_eq_cons found
      obtain ⟨before, behindSign, blankBefore, spelled, -, written, solid⟩ :=
        split_at_solid written solid
      obtain ⟨after, behindTerm, blankAfter, spelledTerm, writtenTerm, written, rfl⟩ :=
        split_at_solid written solid
      rw [spelled, spelledTerm]
      exact .next blankBefore blankAfter writtenTerm (ih written more)

theorem spells_of_pieces {pieces : List Piece} {terms : List SignedTerm}
    (written : ∀ piece ∈ pieces, piece.IsWritten)
    (found : signedTerms? (pieces.filter DiceExpression.isSolid) = some terms) :
    Spells (pieces.flatMap Piece.chars) terms := by
  unfold signedTerms? at found
  split at found
  · rename_i first rest solid
    obtain ⟨others, more, rfl⟩ := Option.map_eq_some_iff.mp found
    obtain ⟨before, behind, blankBefore, spelled, writtenTerm, written, rfl⟩ :=
      split_at_solid written solid
    rw [spelled]
    exact .unsigned blankBefore writtenTerm (spellsSigned_of_pieces written more)
  · rename_i negative rest solid
    cases terms with
    | nil => cases moreTerms?_eq_nil found
    | cons signed terms =>
        rw [← solid] at found
        exact .signed (spellsSigned_of_pieces written found)
  · cases found

/-! ## Derived texts are accepted -/

/-- The code points of the blanks. -/
def blankCodes : List Nat :=
  [9, 10, 11, 12, 13, 0x1c, 0x1d, 0x1e, 0x1f, 0x20, 0x85, 0xa0, 0x1680, 0x2000, 0x2001,
    0x2002, 0x2003, 0x2004, 0x2005, 0x2006, 0x2007, 0x2008, 0x2009, 0x200a, 0x2028, 0x2029,
    0x202f, 0x205f, 0x3000]

theorem toNat_mem_blankCodes {c : Char} (blank : Text.isBlank c = true) :
    c.toNat ∈ blankCodes := by
  simp only [Text.isBlank, Text.isWhiteSpace, Bool.or_eq_true, Bool.and_eq_true,
    decide_eq_true_eq, beq_iff_eq] at blank
  simp only [blankCodes, List.mem_cons, List.not_mem_nil]
  omega

theorem blank_is_no_other {c : Char} (blank : Text.isBlank c = true) :
    Text.isDigit c = false ∧ isDiceLetter c = false ∧ c ≠ '+' ∧ c ≠ '-' := by
  have others : ∀ code ∈ blankCodes, Text.isDigit (Char.ofNat code) = false ∧
      isDiceLetter (Char.ofNat code) = false ∧ Char.ofNat code ≠ '+' ∧
        Char.ofNat code ≠ '-' := by
    decide
  have here := others c.toNat (toNat_mem_blankCodes blank)
  rwa [Char.ofNat_toNat] at here

/-- The characters end a term that stands in front of them: they begin with neither a digit
nor a dice letter. -/
def EndsTerm (chars : List Char) : Prop :=
  ∀ c ∈ chars.head?, Text.isDigit c = false ∧ isDiceLetter c = false

theorem endsTerm_blanks_append {blanks rest : List Char} (blank : AreBlank blanks)
    (ends : EndsTerm rest) : EndsTerm (blanks ++ rest) := by
  cases blanks with
  | nil => exact ends
  | cons c blanks =>
      intro head here
      obtain rfl : c = head := by simpa using here
      have others := blank_is_no_other (blank c (List.mem_cons_self ..))
      exact ⟨others.1, others.2.1⟩

theorem SpellsSigned.endsTerm {chars : List Char} {terms : List SignedTerm}
    (spells : SpellsSigned chars terms) : EndsTerm chars := by
  cases spells with
  | blanks blank =>
      have ends : EndsTerm [] := by simp [EndsTerm]
      simpa using endsTerm_blanks_append blank ends
  | @next before after rest negative term terms blankBefore _ _ _ =>
      refine endsTerm_blanks_append blankBefore fun head here => ?_
      cases negative with
      | true =>
          obtain rfl : '-' = head := by simpa using here
          decide
      | false =>
          obtain rfl : '+' = head := by simpa using here
          decide

theorem piecesFrom?_of_ended {current : PartialTerm} {own : List Piece} {rest : List Char}
    (finished : current.finish? = some own) (ends : EndsTerm rest) :
    piecesFrom? current rest = (piecesFrom? .nothing rest).map (own ++ ·) := by
  cases rest with
  | nil =>
      rw [piecesFrom?, piecesFrom?, finished]
      simp [PartialTerm.finish?]
  | cons c rest =>
      obtain ⟨digit, letter⟩ := ends c rfl
      simp only [piecesFrom?, digit, letter, finished, Bool.false_eq_true, if_false]
      split
      · cases piecesFrom? .nothing rest <;> rfl
      · split
        · cases piecesFrom? .nothing rest <;> rfl
        · rfl

/-- What becomes of a partial term when a digit is read. -/
def PartialTerm.push (current : PartialTerm) (c : Char) : PartialTerm :=
  match current with
  | .nothing => .number [c]
  | .number digits => .number (c :: digits)
  | .dice count letter sides => .dice count letter (c :: sides)

theorem piecesFrom?_digits {digits : List Char}
    (digit : ∀ c ∈ digits, Text.isDigit c = true) (current : PartialTerm) (rest : List Char) :
    piecesFrom? current (digits ++ rest) =
      piecesFrom? (digits.foldl PartialTerm.push current) rest := by
  induction digits generalizing current with
  | nil => rfl
  | cons c digits ih =>
      obtain ⟨here, there⟩ := List.forall_mem_cons.mp digit
      have pushed : piecesFrom? current (c :: (digits ++ rest)) =
          piecesFrom? (current.push c) (digits ++ rest) := by
        cases current <;> rw [piecesFrom?, if_pos here] <;> rfl
      rw [List.cons_append, pushed, ih there, List.foldl_cons]

theorem PartialTerm.foldl_push_number (digits current : List Char) :
    digits.foldl push (.number current) = .number (digits.reverse ++ current) := by
  induction digits generalizing current with
  | nil => rfl
  | cons c digits ih => simp [push, ih]

theorem PartialTerm.foldl_push_dice (count : List Char) (letter : Char)
    (digits current : List Char) :
    digits.foldl push (.dice count letter current) =
      .dice count letter (digits.reverse ++ current) := by
  induction digits generalizing current with
  | nil => rfl
  | cons c digits ih => simp [push, ih]

theorem piecesFrom?_numeral {digits : List Char} (numeral : IsNumeral digits)
    (rest : List Char) :
    piecesFrom? .nothing (digits ++ rest) = piecesFrom? (.number digits.reverse) rest := by
  rw [piecesFrom?_digits numeral.digit]
  cases digits with
  | nil => exact (numeral.nonempty rfl).elim
  | cons c digits =>
      rw [List.foldl_cons, PartialTerm.push, PartialTerm.foldl_push_number, List.reverse_cons]

theorem piecesFrom?_diceLetter {count : List Char} (counted : count = [] ∨ IsNumeral count)
    {letter : Char} (lettered : letter = 'd' ∨ letter = 'D') {rest : List Char} :
    piecesFrom? .nothing (count ++ letter :: rest) =
      piecesFrom? (.dice count.reverse letter []) rest := by
  have noDigit : Text.isDigit letter = false := by rcases lettered with rfl | rfl <;> decide
  have isLetter := isDiceLetter_iff.mpr lettered
  rcases counted with rfl | numeral
  · simp [piecesFrom?, noDigit, isLetter, PartialTerm.finish?]
  · rw [piecesFrom?_numeral numeral]
    simp [piecesFrom?, noDigit, isLetter]

/-- A term that ends where its characters do is read as a piece. -/
theorem piecesFrom?_term {term : Term} (written : term.IsWritten) {rest : List Char}
    (ends : EndsTerm rest) :
    piecesFrom? .nothing (term.chars ++ rest) =
      (piecesFrom? .nothing rest).map (.term term :: ·) := by
  cases term with
  | constant digits =>
      rw [Term.chars, piecesFrom?_numeral written, piecesFrom?_of_ended rfl ends,
        List.reverse_reverse]
      rfl
  | dice count letter sides =>
      obtain ⟨counted, lettered, sided⟩ := written
      have finished : (PartialTerm.dice count.reverse letter (sides.reverse ++ [])).finish? =
          some [.term (.dice count letter sides)] := by
        cases shown : sides.reverse with
        | nil => exact (sided.nonempty (List.reverse_eq_nil_iff.mp shown)).elim
        | cons last others =>
            rw [List.append_nil, PartialTerm.finish?, ← shown, List.reverse_reverse,
              List.reverse_reverse]
            simp
      rw [Term.chars, List.append_assoc, List.cons_append,
        piecesFrom?_diceLetter counted lettered, piecesFrom?_digits sided.digit,
        PartialTerm.foldl_push_dice, piecesFrom?_of_ended finished ends]
      rfl

theorem piecesFrom?_blanks {blanks : List Char} (blank : AreBlank blanks) (rest : List Char) :
    piecesFrom? .nothing (blanks ++ rest) =
      (piecesFrom? .nothing rest).map (blanks.map .blank ++ ·) := by
  induction blanks with
  | nil => simp
  | cons c blanks ih =>
      obtain ⟨here, there⟩ := List.forall_mem_cons.mp blank
      obtain ⟨digit, letter, plus, minus⟩ := blank_is_no_other here
      rw [List.cons_append, piecesFrom?]
      simp only [digit, letter, plus, minus, here, ih there, PartialTerm.finish?,
        Bool.false_eq_true, if_false, or_self, if_true]
      cases piecesFrom? .nothing rest <;> rfl

theorem piecesFrom?_sign (negative : Bool) (rest : List Char) :
    piecesFrom? .nothing ((if negative then '-' else '+') :: rest) =
      (piecesFrom? .nothing rest).map (.sign negative :: ·) := by
  cases negative with
  | true =>
      rw [piecesFrom?]
      cases piecesFrom? .nothing rest <;> rfl
  | false =>
      rw [piecesFrom?]
      cases piecesFrom? .nothing rest <;> rfl

theorem filter_isSolid_blanks (blanks : List Char) (others : List Piece) :
    (blanks.map Piece.blank ++ others).filter DiceExpression.isSolid =
      others.filter DiceExpression.isSolid := by
  have hollow : (blanks.map Piece.blank).filter DiceExpression.isSolid = [] := by
    simp [List.filter_eq_nil_iff, DiceExpression.isSolid]
  rw [List.filter_append, hollow, List.nil_append]

theorem SpellsSigned.read {chars : List Char} {terms : List SignedTerm}
    (spells : SpellsSigned chars terms) :
    ∃ pieces, piecesFrom? .nothing chars = some pieces ∧
      moreTerms? (pieces.filter DiceExpression.isSolid) = some terms := by
  induction spells with
  | @blanks blanks blank =>
      refine ⟨blanks.map .blank ++ [], ?_, ?_⟩
      · have read := piecesFrom?_blanks blank []
        rwa [List.append_nil] at read
      · rw [filter_isSolid_blanks]
        rfl
  | @next before after rest negative term terms blankBefore blankAfter written more ih =>
      obtain ⟨pieces, read, joined⟩ := ih
      refine ⟨before.map .blank ++ .sign negative :: (after.map .blank ++ .term term :: pieces),
        ?_, ?_⟩
      · rw [piecesFrom?_blanks blankBefore, piecesFrom?_sign, piecesFrom?_blanks blankAfter,
          piecesFrom?_term written more.endsTerm, read]
        rfl
      · rw [filter_isSolid_blanks, List.filter_cons_of_pos rfl, filter_isSolid_blanks,
          List.filter_cons_of_pos rfl, moreTerms?, joined]
        rfl

/-- Derived expressions are read. -/
theorem Spells.read {chars : List Char} {terms : List SignedTerm} (spells : Spells chars terms) :
    ∃ pieces, piecesFrom? .nothing chars = some pieces ∧
      signedTerms? (pieces.filter DiceExpression.isSolid) = some terms := by
  cases spells with
  | @unsigned before rest term terms blankBefore written more =>
      obtain ⟨pieces, read, joined⟩ := more.read
      refine ⟨before.map .blank ++ .term term :: pieces, ?_, ?_⟩
      · rw [piecesFrom?_blanks blankBefore, piecesFrom?_term written more.endsTerm, read]
        rfl
      · rw [filter_isSolid_blanks, List.filter_cons_of_pos rfl, signedTerms?, joined]
        rfl
  | signed spells =>
      obtain ⟨pieces, read, joined⟩ := spells.read
      obtain ⟨rest, solid, more⟩ := moreTerms?_eq_cons joined
      refine ⟨pieces, read, ?_⟩
      rw [solid, signedTerms?, moreTerms?, more]
      rfl

/-! ## The reader and the grammar -/

/-- A text is read as an expression with the given terms exactly when the grammar derives
them from it. -/
theorem exists_read?_iff {text : String} {terms : List SignedTerm} :
    (∃ expression, DiceExpression.read? text = some expression ∧ expression.terms = terms) ↔
      Spells text.toList terms := by
  constructor
  · rintro ⟨expression, read, rfl⟩
    obtain ⟨found, joined⟩ := DiceExpression.read?_eq_some_iff.mp read
    have begun : PartialTerm.nothing.IsWritten := trivial
    have written := isWritten_of_piecesFrom? begun found
    have spelled := flatMap_chars_piecesFrom? found
    rw [PartialTerm.chars, List.nil_append] at spelled
    rw [← spelled]
    exact spells_of_pieces written joined
  · intro spells
    obtain ⟨pieces, found, joined⟩ := spells.read
    exact ⟨⟨pieces, terms⟩, DiceExpression.read?_eq_some_iff.mpr ⟨found, joined⟩, rfl⟩

theorem isDiceLetter_of_isDigit {c : Char} (digit : Text.isDigit c = true) :
    isDiceLetter c = false := by
  rw [Bool.eq_false_iff]
  intro letter
  rcases isDiceLetter_iff.mp letter with rfl | rfl <;> exact absurd digit (by decide)

theorem Piece.IsWritten.no_diceLetter {piece : Piece} (written : piece.IsWritten)
    (fixed : ∀ term ∈ piece.term?, term.isDice = false) :
    ∀ c ∈ piece.chars, isDiceLetter c = false := by
  cases piece with
  | blank blank =>
      intro c member
      obtain rfl : c = blank := by simpa [Piece.chars] using member
      exact (blank_is_no_other written).2.1
  | sign negative => cases negative <;> exact List.forall_mem_singleton.mpr (by decide)
  | term own =>
      cases own with
      | constant digits => exact fun c member => isDiceLetter_of_isDigit (written.digit c member)
      | dice count letter sides => cases fixed _ rfl

theorem hasDice_of_no_diceLetter {chars : List Char}
    (none : ∀ c ∈ chars, isDiceLetter c = false) : hasDice chars = false := by
  induction chars with
  | nil => rfl
  | cons c rest ih =>
      obtain ⟨here, there⟩ := List.forall_mem_cons.mp none
      cases rest with
      | nil => rfl
      | cons next rest => rw [hasDice, here, ih there, Bool.false_and, Bool.or_false]

/-- An expression has dice in its text exactly when one of its terms is dice. -/
theorem DiceExpression.mentionsDice_iff {text : String} {expression : DiceExpression}
    (read : DiceExpression.read? text = some expression) :
    mentionsDice text = true ↔ ∃ signed ∈ expression.terms, signed.term.isDice = true := by
  constructor
  · intro mentioned
    refine Classical.byContradiction fun fixed => ?_
    have begun : PartialTerm.nothing.IsWritten := trivial
    have found := (DiceExpression.read?_eq_some_iff.mp read).1
    have written := isWritten_of_piecesFrom? begun found
    have spelled := flatMap_chars_piecesFrom? found
    rw [PartialTerm.chars, List.nil_append] at spelled
    have none : ∀ c ∈ text.toList, isDiceLetter c = false := by
      rw [← spelled]
      intro c member
      obtain ⟨piece, inPieces, inPiece⟩ := List.mem_flatMap.mp member
      refine (written piece inPieces).no_diceLetter (fun term own => ?_) c inPiece
      obtain rfl := Piece.term?_eq_some_iff.mp own
      obtain ⟨signed, inTerms, rfl⟩ := (DiceExpression.mem_pieces_iff read).mp inPieces
      exact Bool.eq_false_iff.mpr fun dice => fixed ⟨signed, inTerms, dice⟩
    rw [mentionsDice, hasDice_of_no_diceLetter none] at mentioned
    cases mentioned
  · rintro ⟨signed, member, dice⟩
    refine Bool.eq_false_imp_eq_true.mp fun free => ?_
    rw [DiceExpression.not_isDice_of_read? free read member] at dice
    cases dice

/-- The grammar derives one row of terms at most. -/
theorem Spells.unique {text : String} {terms others : List SignedTerm}
    (spells : Spells text.toList terms) (again : Spells text.toList others) : terms = others := by
  obtain ⟨expression, read, rfl⟩ := exists_read?_iff.mpr spells
  obtain ⟨other, readAgain, rfl⟩ := exists_read?_iff.mpr again
  rw [Option.some.inj (read.symm.trans readAgain)]

/-- The dice texts are those that the grammar derives. -/
theorem isDiceText_eq_true_iff {text : String} :
    isDiceText text = true ↔ ∃ terms, Spells text.toList terms := by
  rw [isDiceText, Option.isSome_iff_exists]
  constructor
  · rintro ⟨expression, read⟩
    exact ⟨expression.terms, exists_read?_iff.mp ⟨expression, read, rfl⟩⟩
  · rintro ⟨terms, spells⟩
    obtain ⟨expression, read, -⟩ := exists_read?_iff.mpr spells
    exact ⟨expression, read⟩

end Skirmish
