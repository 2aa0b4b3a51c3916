import Skirmish.Dice.Expression

/-!
# What is read from dice expressions

The reader of expressions goes through the text with a term that it has read in part, so
statements about it are proved for every such term.  The pieces that it makes spell the
text again, and the terms among them are those of the expression.  A text in which no dice
letter stands in front of a digit has no dice in it: nothing that the reader may still find
can be dice.
-/

namespace Skirmish

/-! ## Pieces -/

/-- What the reader makes of a finished term and of what stands behind it. -/
theorem finished_eq_some {middle : List Piece} {finished rest : Option (List Piece)}
    {pieces : List Piece}
    (found : (do return (← finished) ++ (middle ++ (← rest))) = some pieces) :
    ∃ own others, finished = some own ∧ rest = some others ∧
      pieces = own ++ (middle ++ others) := by
  cases finished with
  | none => simp at found
  | some own =>
      cases rest with
      | none => simp at found
      | some others => exact ⟨own, others, rfl, rfl, by simpa using found.symm⟩

/-- What stands behind a finished term: its pieces, then a piece that is no term, then
the pieces of the rest. -/
theorem mem_finished (middle : List Piece) {finished rest : Option (List Piece)}
    {pieces : List Piece}
    (found : (do return (← finished) ++ (middle ++ (← rest))) = some pieces)
    {piece : Piece} (member : piece ∈ pieces) :
    (∃ own, finished = some own ∧ piece ∈ own) ∨ piece ∈ middle ∨
      ∃ others, rest = some others ∧ piece ∈ others := by
  obtain ⟨own, others, ranOwn, ranOthers, rfl⟩ := finished_eq_some found
  rcases List.mem_append.mp member with inOwn | later
  · exact .inl ⟨own, ranOwn, inOwn⟩
  · exact .inr ((List.mem_append.mp later).imp_right fun inOthers =>
      ⟨others, ranOthers, inOthers⟩)

/-- The characters of which a partial term is made. -/
def PartialTerm.chars : PartialTerm → List Char
  | .nothing => []
  | .number digits => digits.reverse
  | .dice count letter sides => count.reverse ++ letter :: sides.reverse

theorem PartialTerm.flatMap_chars_finish? {current : PartialTerm} {pieces : List Piece}
    (finished : current.finish? = some pieces) : pieces.flatMap Piece.chars = current.chars := by
  cases current with
  | nothing =>
      cases finished
      rfl
  | number digits =>
      cases finished
      exact List.append_nil _
  | dice count letter sides =>
      cases sides with
      | nil => cases finished
      | cons side sides =>
          cases finished
          exact List.append_nil _

/-- The pieces of a text spell the text. -/
theorem flatMap_chars_piecesFrom? {current : PartialTerm} {chars : List Char}
    {pieces : List Piece} (found : piecesFrom? current chars = some pieces) :
    pieces.flatMap Piece.chars = current.chars ++ chars := by
  fun_induction piecesFrom? current chars generalizing pieces with
  | case1 current => rw [PartialTerm.flatMap_chars_finish? found, List.append_nil]
  | case2 c rest digit ih => exact ih found
  | case3 c rest digit digits ih =>
      rw [ih found, PartialTerm.chars, PartialTerm.chars, List.reverse_cons, List.append_assoc]
      rfl
  | case4 c rest digit count letter sides ih =>
      rw [ih found]
      simp [PartialTerm.chars]
  | case5 c rest _ letter digits ih =>
      rw [ih found]
      simp [PartialTerm.chars]
  | case6 current c rest _ letter _ ih =>
      obtain ⟨own, others, finished, read, rfl⟩ :=
        @finished_eq_some [] _ _ _ (by simpa using found)
      simp [PartialTerm.flatMap_chars_finish? finished, ih read, PartialTerm.chars]
  | case7 current c rest _ _ sign ih =>
      obtain ⟨own, others, finished, read, rfl⟩ :=
        @finished_eq_some [.sign (c = '-')] _ _ _ (by simpa using found)
      have spelled : (Piece.sign (c = '-')).chars = [c] := by
        rcases sign with rfl | rfl <;> rfl
      simp [PartialTerm.flatMap_chars_finish? finished, ih read, PartialTerm.chars, spelled]
  | case8 current c rest _ _ _ _ ih =>
      obtain ⟨own, others, finished, read, rfl⟩ :=
        @finished_eq_some [.blank c] _ _ _ (by simpa using found)
      simp [PartialTerm.flatMap_chars_finish? finished, ih read, PartialTerm.chars,
        Piece.chars]
  | case9 => simp at found

theorem PartialTerm.blank_not_mem_finish? {current : PartialTerm} {pieces : List Piece}
    (finished : current.finish? = some pieces) (c : Char) : Piece.blank c ∉ pieces := by
  cases current with
  | nothing =>
      cases finished
      exact List.not_mem_nil
  | number digits =>
      cases finished
      simp
  | dice count letter sides =>
      cases sides with
      | nil => cases finished
      | cons side sides =>
          cases finished
          simp

theorem not_isDigit_of_blank_mem {current : PartialTerm} {chars : List Char}
    {pieces : List Piece} (found : piecesFrom? current chars = some pieces) {blank : Char}
    (member : Piece.blank blank ∈ pieces) : Text.isDigit blank = false := by
  fun_induction piecesFrom? current chars generalizing pieces with
  | case1 current => exact (PartialTerm.blank_not_mem_finish? found blank member).elim
  | case2 c rest digit ih => exact ih found member
  | case3 c rest digit digits ih => exact ih found member
  | case4 c rest digit count letter sides ih => exact ih found member
  | case5 c rest _ letter digits ih => exact ih found member
  | case6 current c rest _ letter _ ih =>
      rcases mem_finished [] (by simpa using found) member with
        ⟨own, finished, inOwn⟩ | inMiddle | ⟨others, read, inOthers⟩
      · exact (PartialTerm.blank_not_mem_finish? finished blank inOwn).elim
      · simp at inMiddle
      · exact ih read inOthers
  | case7 current c rest _ _ _ ih =>
      rcases mem_finished [.sign (c = '-')] (by simpa using found) member with
        ⟨own, finished, inOwn⟩ | inMiddle | ⟨others, read, inOthers⟩
      · exact (PartialTerm.blank_not_mem_finish? finished blank inOwn).elim
      · simp at inMiddle
      · exact ih read inOthers
  | case8 current c rest noDigit _ _ _ ih =>
      rcases mem_finished [.blank c] (by simpa using found) member with
        ⟨own, finished, inOwn⟩ | inMiddle | ⟨others, read, inOthers⟩
      · exact (PartialTerm.blank_not_mem_finish? finished blank inOwn).elim
      · obtain rfl : blank = c := by simpa using inMiddle
        exact Bool.eq_false_iff.mpr noDigit
      · exact ih read inOthers
  | case9 => simp at found

/-! ## Texts without dice -/

/-- The term is dice. -/
def Term.isDice : Term → Bool
  | .constant _ => false
  | .dice .. => true

/-- A partial term that can only end as a constant when the characters that follow
have no dice in them.  A dice letter without its sides is harmless as long as no digit
comes next. -/
def PartialTerm.Harmless : PartialTerm → List Char → Prop
  | .nothing, chars | .number _, chars => hasDice chars = false
  | .dice _ letter [], chars =>
    isDiceLetter letter = true ∧ hasDice (letter :: chars) = false
  | .dice _ _ (_ :: _), _ => False

theorem hasDice_tail {c : Char} {chars : List Char}
    (none : hasDice (c :: chars) = false) : hasDice chars = false := by
  cases chars with
  | nil => rfl
  | cons next rest =>
      simp only [hasDice, Bool.or_eq_false_iff] at none
      exact none.2

namespace PartialTerm.Harmless

variable {current : PartialTerm} {chars : List Char}

theorem chars_free (harmless : current.Harmless chars) : hasDice chars = false := by
  cases current with
  | nothing => exact harmless
  | number digits => exact harmless
  | dice count letter sides =>
      cases sides with
      | nil => exact hasDice_tail harmless.2
      | cons side sides => exact harmless.elim

theorem finish_free (harmless : current.Harmless chars) {pieces : List Piece}
    (finished : current.finish? = some pieces) {term : Term}
    (member : Piece.term term ∈ pieces) : term.isDice = false := by
  cases current with
  | nothing =>
      obtain rfl : [] = pieces := by simpa [finish?] using finished
      simp at member
  | number digits =>
      obtain rfl : [Piece.term (.constant digits.reverse)] = pieces := by
        simpa [finish?] using finished
      obtain rfl : term = .constant digits.reverse := by simpa using member
      rfl
  | dice count letter sides =>
      cases sides with
      | nil => simp [finish?] at finished
      | cons side sides => exact harmless.elim

end PartialTerm.Harmless

/-- The reader finds no dice behind a harmless partial term. -/
theorem not_isDice_of_mem_piecesFrom? {current : PartialTerm} {chars : List Char}
    {pieces : List Piece} (harmless : current.Harmless chars)
    (found : piecesFrom? current chars = some pieces) {term : Term}
    (member : Piece.term term ∈ pieces) : term.isDice = false := by
  -- The induction follows the reader: a digit goes on with the partial term, every
  -- other character ends it.
  fun_induction piecesFrom? current chars generalizing pieces with
  | case1 current => exact harmless.finish_free found member
  | case2 c rest digit ih => exact ih (hasDice_tail harmless) found member
  | case3 c rest digit digits ih => exact ih (hasDice_tail harmless) found member
  | case4 c rest digit count letter sides ih =>
      cases sides with
      | nil =>
          have quiet := harmless.2
          simp [hasDice, digit, harmless.1] at quiet
      | cons side sides => exact harmless.elim
  | case5 c rest _ letter digits ih => exact ih ⟨letter, harmless⟩ found member
  | case6 current c rest _ letter _ ih =>
      rcases mem_finished [] (by simpa using found) member with
        ⟨own, finished, inOwn⟩ | inMiddle | ⟨others, read, inOthers⟩
      · exact harmless.finish_free finished inOwn
      · simp at inMiddle
      · exact ih ⟨letter, harmless.chars_free⟩ read inOthers
  | case7 current c rest _ _ _ ih =>
      rcases mem_finished [.sign (c = '-')] (by simpa using found) member with
        ⟨own, finished, inOwn⟩ | inMiddle | ⟨others, read, inOthers⟩
      · exact harmless.finish_free finished inOwn
      · simp at inMiddle
      · exact ih (hasDice_tail harmless.chars_free) read inOthers
  | case8 current c rest _ _ _ _ ih =>
      rcases mem_finished [.blank c] (by simpa using found) member with
        ⟨own, finished, inOwn⟩ | inMiddle | ⟨others, read, inOthers⟩
      · exact harmless.finish_free finished inOwn
      · simp at inMiddle
      · exact ih (hasDice_tail harmless.chars_free) read inOthers
  | case9 => simp at found

/-! ## Terms -/

/-- The term that a piece is. -/
def Piece.term? : Piece → Option Term
  | .term own => some own
  | .blank _ | .sign _ => none

theorem Piece.term?_eq_some_iff {piece : Piece} {term : Term} :
    piece.term? = some term ↔ piece = .term term := by
  cases piece <;> simp [term?]

theorem terms_of_moreTerms? {pieces : List Piece} {terms : List SignedTerm}
    (found : moreTerms? pieces = some terms) :
    pieces.filterMap Piece.term? = terms.map (·.term) := by
  fun_induction moreTerms? pieces generalizing terms with
  | case1 =>
      obtain rfl : [] = terms := by simpa using found
      rfl
  | case2 negative first rest ih =>
      obtain ⟨others, read, rfl⟩ := Option.map_eq_some_iff.mp found
      exact congrArg (first :: ·) (ih read)
  | case3 => simp at found

theorem terms_of_signedTerms? {pieces : List Piece} {terms : List SignedTerm}
    (found : signedTerms? pieces = some terms) :
    pieces.filterMap Piece.term? = terms.map (·.term) := by
  unfold signedTerms? at found
  split at found
  · rename_i first rest
    obtain ⟨others, read, rfl⟩ := Option.map_eq_some_iff.mp found
    exact congrArg (first :: ·) (terms_of_moreTerms? read)
  · exact terms_of_moreTerms? found
  · simp at found

namespace DiceExpression

variable {text : String} {expression : DiceExpression}

/-- A text is read in two steps: first its pieces, then the terms that they make up. -/
theorem read?_eq_some_iff :
    read? text = some expression ↔
      piecesFrom? .nothing text.toList = some expression.pieces ∧
        signedTerms? (expression.pieces.filter isSolid) = some expression.terms := by
  simp only [read?, Option.bind_eq_bind, Option.bind_eq_some_iff, Option.pure_def,
    Option.some.injEq]
  constructor
  · rintro ⟨pieces, found, terms, joined, rfl⟩
    exact ⟨found, joined⟩
  · rintro ⟨found, joined⟩
    exact ⟨_, found, _, joined, rfl⟩

theorem filterMap_pieces (read : read? text = some expression) :
    expression.pieces.filterMap Piece.term? = expression.terms.map (·.term) := by
  rw [← terms_of_signedTerms? (read?_eq_some_iff.mp read).2, List.filterMap_filter]
  congr 1
  funext piece
  cases piece <;> rfl

theorem mem_pieces_iff (read : read? text = some expression) {term : Term} :
    Piece.term term ∈ expression.pieces ↔ ∃ signed ∈ expression.terms, signed.term = term := by
  rw [← List.mem_map, ← filterMap_pieces read, List.mem_filterMap]
  simp only [Piece.term?_eq_some_iff, exists_eq_right]

/-- The terms of an expression whose text has no dice in it are constants. -/
theorem not_isDice_of_read? (free : mentionsDice text = false)
    (read : read? text = some expression) {signed : SignedTerm}
    (member : signed ∈ expression.terms) : signed.term.isDice = false := by
  have harmless : PartialTerm.nothing.Harmless text.toList := free
  exact not_isDice_of_mem_piecesFrom? harmless (read?_eq_some_iff.mp read).1
    ((mem_pieces_iff read).mpr ⟨signed, member, rfl⟩)

end DiceExpression

end Skirmish
