import Mathlib.Data.List.Basic
import Skirmish.Proofs.PlainText

/-!
# Lower case, word by word

The end of a word decides about the small letter of a sigma, but a blank ends every word, and
stays itself in lower case.  So lower case can be taken of every word on its own, and the
words of a text in lower case do not depend on the blanks between them.  Nor does lower case
depend on which of the common letters are capitals.
-/

namespace Skirmish.Text

/-! ## Words between blanks -/

variable {chars front back blanks : List Char} {blank : Char}

theorem wordsFrom_append_blank (isBlank_blank : isBlank blank = true) (current : List Char) :
    wordsFrom current (front ++ blank :: back) = wordsFrom current front ++ words back := by
  induction front generalizing current with
  | nil =>
      simp only [List.nil_append, wordsFrom, isBlank_blank, if_true]
      split <;> rfl
  | cons c front ih =>
      rw [List.cons_append, wordsFrom, wordsFrom]
      split
      · split
        · exact ih _
        · rw [ih, List.cons_append]
      · exact ih _

/-- A blank separates the words in front of it from those behind it. -/
theorem words_append_blank (isBlank_blank : isBlank blank = true) :
    words (front ++ blank :: back) = words front ++ words back :=
  wordsFrom_append_blank isBlank_blank []

theorem words_blanks_append (allBlank : ∀ c ∈ blanks, isBlank c = true) :
    words (blanks ++ chars) = words chars := by
  induction blanks with
  | nil => rfl
  | cons c blanks ih =>
      rw [List.forall_mem_cons] at allBlank
      have first : words ([] ++ c :: (blanks ++ chars)) = words [] ++ words (blanks ++ chars) :=
        words_append_blank allBlank.1
      rw [List.nil_append] at first
      rw [List.cons_append, first, ih allBlank.2]
      rfl

theorem words_append_blanks (allBlank : ∀ c ∈ blanks, isBlank c = true) :
    words (chars ++ blanks) = words chars := by
  cases blanks with
  | nil => rw [List.append_nil]
  | cons c blanks =>
      rw [List.forall_mem_cons] at allBlank
      have none : words (blanks ++ []) = words [] := words_blanks_append allBlank.2
      rw [List.append_nil] at none
      rw [words_append_blank allBlank.1, none]
      exact List.append_nil _

/-- Blanks between words come to the same, as long as there are some, and so do blanks in front
of the words and behind them. -/
inductive Respaced : List Char → List Char → Prop
  | widen (front blanks others back : List Char) (some : blanks ≠ [])
      (allBlank : ∀ c ∈ blanks, isBlank c = true) (someOther : others ≠ [])
      (allBlankOther : ∀ c ∈ others, isBlank c = true) :
      Respaced (front ++ (blanks ++ back)) (front ++ (others ++ back))
  | trim (front chars back : List Char) (allBlank : ∀ c ∈ front, isBlank c = true)
      (allBlankBack : ∀ c ∈ back, isBlank c = true) :
      Respaced (front ++ (chars ++ back)) chars

theorem words_append_blanks_append (some : blanks ≠ [])
    (allBlank : ∀ c ∈ blanks, isBlank c = true) :
    words (front ++ (blanks ++ back)) = words front ++ words back := by
  cases blanks with
  | nil => exact absurd rfl some
  | cons c blanks =>
      rw [List.forall_mem_cons] at allBlank
      rw [List.cons_append, words_append_blank allBlank.1, words_blanks_append allBlank.2]

theorem Respaced.words_eq {others : List Char} (respaced : Respaced chars others) :
    words chars = words others := by
  cases respaced with
  | widen front blanks others back some allBlank someOther allBlankOther =>
      rw [words_append_blanks_append some allBlank,
        words_append_blanks_append someOther allBlankOther]
  | trim front _ back allBlank allBlankBack =>
      rw [words_blanks_append allBlank, words_append_blanks allBlankBack]

/-- What holds of characters without a blank, and of a text when it holds of what stands behind
its first blank, holds of every text. -/
theorem induction_on_blanks {holds : List Char → Prop}
    (solid : ∀ word, (∀ c ∈ word, isBlank c = false) → holds word)
    (next : ∀ word blank rest, (∀ c ∈ word, isBlank c = false) → isBlank blank = true →
      holds rest → holds (word ++ blank :: rest))
    (chars : List Char) : holds chars := by
  -- Whatever part of a word stands in front has to go along.
  suffices all : ∀ word, (∀ c ∈ word, isBlank c = false) → holds (word ++ chars) from
    all [] (List.forall_mem_nil _)
  induction chars with
  | nil =>
      intro word noBlank
      rw [List.append_nil]
      exact solid word noBlank
  | cons c rest ih =>
      intro word noBlank
      cases isBlank_c : isBlank c with
      | true => exact next word c rest noBlank isBlank_c (ih [] (List.forall_mem_nil _))
      | false =>
          rw [List.append_cons]
          exact ih _ (List.forall_mem_append.mpr
            ⟨noBlank, List.forall_mem_singleton.mpr isBlank_c⟩)

/-! ## Blanks in lower case -/

theorem inRanges_iff {ranges : List (Nat × Nat)} {c : Char} :
    inRanges ranges c = true ↔ ∃ range ∈ ranges, range.1 ≤ c.toNat ∧ c.toNat ≤ range.2 := by
  simp only [inRanges, List.any_eq_true, Bool.and_eq_true, decide_eq_true_eq]

/-- The code points of the blanks. -/
def blankRanges : List (Nat × Nat) :=
  [(0x9, 0xd), (0x1c, 0x20), (0x85, 0x85), (0xa0, 0xa0), (0x1680, 0x1680), (0x2000, 0x200a),
    (0x2028, 0x2029), (0x202f, 0x202f), (0x205f, 0x205f), (0x3000, 0x3000)]

theorem isBlank_iff_inRanges {c : Char} :
    isBlank c = true ↔ inRanges blankRanges c = true := by
  simp only [isBlank, isWhiteSpace, inRanges, blankRanges, List.any_cons, List.any_nil,
    Bool.or_false, Bool.or_eq_true, Bool.and_eq_true, decide_eq_true_eq, beq_iff_eq]
  omega

/-- No range of one list meets one of the other list. -/
def Apart (ranges others : List (Nat × Nat)) : Prop :=
  ∀ range ∈ ranges, ∀ other ∈ others, other.2 < range.1 ∨ range.2 < other.1

instance (ranges others : List (Nat × Nat)) : Decidable (Apart ranges others) :=
  inferInstanceAs (Decidable (∀ range ∈ ranges, ∀ other ∈ others, _ ∨ _))

theorem Apart.inRanges_eq_false {ranges others : List (Nat × Nat)} {c : Char}
    (apart : Apart ranges others) (inside : inRanges others c = true) :
    inRanges ranges c = false := by
  obtain ⟨other, listed, low, high⟩ := inRanges_iff.mp inside
  rw [Bool.eq_false_iff]
  intro both
  obtain ⟨range, member, lowest, highest⟩ := inRanges_iff.mp both
  have beyond := apart range member other listed
  omega

theorem isCased_of_isBlank (isBlank_blank : isBlank blank = true) : isCased blank = false := by
  have common : ∀ code < 128, isBlank (Char.ofNat code) = true →
      (Char.ofNat code).isAlpha = false := by
    decide +kernel
  have foreign : Apart foreignCasedRanges blankRanges := by decide +kernel
  unfold isCased
  split
  · rename_i small
    have uncased := common _ small
    rw [Char.ofNat_toNat] at uncased
    exact uncased isBlank_blank
  · exact foreign.inRanges_eq_false (isBlank_iff_inRanges.mp isBlank_blank)

theorem isCaseIgnorable_of_isBlank (isBlank_blank : isBlank blank = true) :
    isCaseIgnorable blank = false := by
  have apart : Apart caseIgnorableRanges blankRanges := by decide +kernel
  exact apart.inRanges_eq_false (isBlank_iff_inRanges.mp isBlank_blank)

theorem lowerChar_of_isBlank (isBlank_blank : isBlank blank = true) :
    lowerChar blank = blank := by
  have common : ∀ code < 128, isBlank (Char.ofNat code) = true →
      (Char.ofNat code).toLower = Char.ofNat code := by
    decide +kernel
  have foreign : Apart (foreignCapitals.map fun run => (run.first, run.last)) blankRanges := by
    decide +kernel
  unfold lowerChar
  split
  · rename_i small
    have same := common _ small
    rw [Char.ofNat_toNat] at same
    exact same isBlank_blank
  · split
    · rename_i run found
      have holds := List.find?_some found
      simp only [CapitalRun.holds, Bool.and_eq_true, decide_eq_true_eq] at holds
      have inside : inRanges (foreignCapitals.map fun run => (run.first, run.last)) blank =
          true :=
        inRanges_iff.mpr ⟨(run.first, run.last),
          List.mem_map_of_mem (List.mem_of_find?_eq_some found), holds.1⟩
      rw [foreign.inRanges_eq_false (isBlank_iff_inRanges.mp isBlank_blank)] at inside
      cases inside
    · rfl

theorem toNat_ofNat_eq_or (code : Nat) :
    (Char.ofNat code).toNat = code ∨ (Char.ofNat code).toNat = 0 := by
  by_cases valid : code.isValidChar
  · left
    rw [Char.ofNat, dif_pos valid]
    rfl
  · right
    rw [Char.ofNat, dif_neg valid]
    rfl

theorem isBlank_of_mem_foreignCapitals {run : CapitalRun} (member : run ∈ foreignCapitals)
    {code : Nat} (holds : run.holds code = true) :
    isBlank (Char.ofNat ((code : Int) + run.shift).toNat) = false := by
  have small : ∀ run ∈ foreignCapitals, 0 ≤ (run.first : Int) + run.shift ∧
      ∀ range ∈ blankRanges, (range.2 : Int) < run.first + run.shift ∨
        (run.last : Int) + run.shift < range.1 := by
    decide +kernel
  obtain ⟨natural, apart⟩ := small run member
  simp only [CapitalRun.holds, Bool.and_eq_true, decide_eq_true_eq] at holds
  rw [Bool.eq_false_iff, Ne, isBlank_iff_inRanges, inRanges_iff]
  rintro ⟨range, listed, low, high⟩
  have beyond := apart range listed
  have positive : ∀ range ∈ blankRanges, 0 < range.1 := by decide
  have above := positive range listed
  rcases toNat_ofNat_eq_or ((code : Int) + run.shift).toNat with same | zero <;> omega

theorem isBlank_lowerChar {c : Char} (noBlank : isBlank c = false) :
    isBlank (lowerChar c) = false := by
  unfold lowerChar
  split
  · rename_i common
    have glyph : isGlyph c = true := by simp [isGlyph, common, noBlank]
    exact not_isBlank_of_isGlyph (isGlyph_toLower glyph)
  · split
    · rename_i run found
      have holds := List.find?_some found
      exact isBlank_of_mem_foreignCapitals (List.mem_of_find?_eq_some found) holds
    · exact noBlank

theorem lowerAfter_solid {word : List Char} (solid : ∀ c ∈ word, isBlank c = false)
    (before : List Char) :
    (∀ c ∈ lowerAfter before word, isBlank c = false) ∧
      (lowerAfter before word = [] → word = []) := by
  induction word generalizing before with
  | nil => exact ⟨List.forall_mem_nil _, fun _ => rfl⟩
  | cons c rest ih =>
      rw [List.forall_mem_cons] at solid
      rw [lowerAfter]
      have small := isBlank_lowerChar solid.1
      have others := (ih solid.2 (c :: before)).1
      have filled {first : Char} {rest' : List Char} (none : first :: rest' = []) :
          c :: rest = [] := absurd none (List.cons_ne_nil first rest')
      split
      · split <;> exact ⟨List.forall_mem_cons.mpr ⟨by decide, others⟩, filled⟩
      · split
        · exact ⟨List.forall_mem_cons.mpr ⟨by decide,
            List.forall_mem_cons.mpr ⟨by decide, others⟩⟩, filled⟩
        · exact ⟨List.forall_mem_cons.mpr ⟨small, others⟩, filled⟩

/-! ## Lower case of words -/

/-- What stands behind a blank is not seen from the other side. -/
theorem meetsCased_append_blank (isBlank_blank : isBlank blank = true)
    (neighbours others : List Char) :
    meetsCased (neighbours ++ blank :: others) = meetsCased neighbours := by
  induction neighbours with
  | nil =>
      simp [meetsCased, isCaseIgnorable_of_isBlank isBlank_blank,
        isCased_of_isBlank isBlank_blank]
  | cons c neighbours ih =>
      simp only [meetsCased, List.cons_append, List.dropWhile_cons] at ih ⊢
      split
      · exact ih
      · rfl

theorem lowerAfter_append_blank_before (isBlank_blank : isBlank blank = true)
    (before others : List Char) :
    lowerAfter (before ++ blank :: others) chars = lowerAfter before chars := by
  induction chars generalizing before with
  | nil => rfl
  | cons c rest ih =>
      rw [lowerAfter, lowerAfter, meetsCased_append_blank isBlank_blank, ← List.cons_append, ih]

theorem lowerAfter_append_blank (isBlank_blank : isBlank blank = true) (before : List Char) :
    lowerAfter before (front ++ blank :: back) =
      lowerAfter before front ++ blank :: lowerAfter [] back := by
  induction front generalizing before with
  | nil =>
      have notSigma : blank ≠ '\u03a3' := by rintro rfl; exact absurd isBlank_blank (by decide)
      have notDotted : blank ≠ '\u0130' := by rintro rfl; exact absurd isBlank_blank (by decide)
      have behind : lowerAfter ([] ++ blank :: before) back = lowerAfter [] back :=
        lowerAfter_append_blank_before isBlank_blank [] before
      rw [List.nil_append] at behind
      simp only [List.nil_append, lowerAfter, if_neg notSigma, if_neg notDotted,
        lowerChar_of_isBlank isBlank_blank, behind]
      rfl
  | cons c front ih =>
      rw [List.cons_append, lowerAfter, lowerAfter, meetsCased_append_blank isBlank_blank, ih,
        List.append_assoc]

/-- The words of a text in lower case are its words in lower case. -/
theorem words_lowerAfter (chars : List Char) :
    words (lowerAfter [] chars) = (words chars).map (lowerAfter []) := by
  have word : ∀ word, (∀ c ∈ word, isBlank c = false) →
      words (lowerAfter [] word) = (words word).map (lowerAfter []) := by
    intro word solid
    obtain ⟨solidSmall, filled⟩ := lowerAfter_solid solid []
    by_cases empty : word = []
    · subst empty
      rfl
    · rw [words_word empty solid, words_word (fun none => empty (filled none)) solidSmall]
      rfl
  induction chars using induction_on_blanks with
  | solid chars solid => exact word chars solid
  | next front blank rest solid isBlank_blank ih =>
      rw [lowerAfter_append_blank isBlank_blank, words_append_blank isBlank_blank,
        words_append_blank isBlank_blank, word front solid, ih, List.map_append]

/-! ## Common capitals -/

/-- The texts differ at most in which of their common letters are capitals. -/
def Recased (chars others : List Char) : Prop :=
  chars.map Char.toLower = others.map Char.toLower

instance (chars others : List Char) : Decidable (Recased chars others) :=
  inferInstanceAs (Decidable (_ = _))

theorem isCaseIgnorable_of_letter {c : Char}
    (letter : (65 ≤ c.toNat ∧ c.toNat ≤ 90) ∨ (97 ≤ c.toNat ∧ c.toNat ≤ 122)) :
    isCaseIgnorable c = false := by
  have each : ∀ range ∈ caseIgnorableRanges,
      (range.2 < 65 ∨ 90 < range.1) ∧ (range.2 < 97 ∨ 122 < range.1) := by
    decide +kernel
  rw [isCaseIgnorable, Bool.eq_false_iff, Ne, inRanges_iff]
  rintro ⟨range, member, low, high⟩
  have apart := each range member
  omega

theorem letter_of_toLower_ne {c : Char} (capital : c.toLower ≠ c) :
    65 ≤ c.toNat ∧ c.toNat ≤ 90 := by
  by_contra outside
  refine capital (dif_neg fun upper => outside ?_)
  exact ⟨UInt32.le_iff_toNat_le.mp upper.1, UInt32.le_iff_toNat_le.mp upper.2⟩

theorem common_toLower (c : Char) :
    isCased c.toLower = isCased c ∧ isCaseIgnorable c.toLower = isCaseIgnorable c ∧
      lowerChar c.toLower = lowerChar c ∧ (c.toLower = '\u03a3' ↔ c = '\u03a3') ∧
      (c.toLower = '\u0130' ↔ c = '\u0130') := by
  by_cases small : c.toLower = c
  · rw [small]
    exact ⟨rfl, rfl, rfl, Iff.rfl, Iff.rfl⟩
  · have each : ∀ code ≤ 90, 65 ≤ code →
        isCased (Char.ofNat code).toLower = isCased (Char.ofNat code) ∧
        lowerChar (Char.ofNat code).toLower = lowerChar (Char.ofNat code) ∧
        (Char.ofNat code).toLower ≠ '\u03a3' ∧ Char.ofNat code ≠ '\u03a3' ∧
        (Char.ofNat code).toLower ≠ '\u0130' ∧ Char.ofNat code ≠ '\u0130' ∧
        97 ≤ (Char.ofNat code).toLower.toNat ∧ (Char.ofNat code).toLower.toNat ≤ 122 := by
      decide +kernel
    have capital := letter_of_toLower_ne small
    have checked := each _ capital.2 capital.1
    rw [Char.ofNat_toNat] at checked
    obtain ⟨cased, lowered, notSigma, notSigma', notDotted, notDotted', letter⟩ := checked
    rw [isCaseIgnorable_of_letter (.inr letter), isCaseIgnorable_of_letter (.inl capital)]
    exact ⟨cased, rfl, lowered, iff_of_false notSigma notSigma',
      iff_of_false notDotted notDotted'⟩

theorem meetsCased_map_toLower (neighbours : List Char) :
    meetsCased (neighbours.map Char.toLower) = meetsCased neighbours := by
  induction neighbours with
  | nil => rfl
  | cons c neighbours ih =>
      obtain ⟨cased, ignorable, -⟩ := common_toLower c
      simp only [meetsCased, List.map_cons, List.dropWhile_cons, ignorable] at ih ⊢
      split
      · exact ih
      · simp only [List.head?_cons, Option.map_some, cased]

theorem lowerAfter_map_toLower (before chars : List Char) :
    lowerAfter (before.map Char.toLower) (chars.map Char.toLower) = lowerAfter before chars := by
  induction chars generalizing before with
  | nil => rfl
  | cons c rest ih =>
      obtain ⟨-, -, small, isSigma, isDotted⟩ := common_toLower c
      rw [List.map_cons, lowerAfter, lowerAfter, meetsCased_map_toLower, meetsCased_map_toLower,
        ← List.map_cons, ih, small]
      simp only [isSigma, isDotted]

/-- Lower case does not depend on which of the common letters are capitals. -/
theorem Recased.lowerAfter_eq {chars others : List Char} (recased : Recased chars others) :
    lowerAfter [] chars = lowerAfter [] others := by
  rw [← lowerAfter_map_toLower, ← lowerAfter_map_toLower [] others, List.map_nil, recased]

end Skirmish.Text
