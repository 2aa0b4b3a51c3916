import Skirmish.Proofs.Dice.Drawing
import Skirmish.Text.Blank
import Skirmish.Text.Case
import Skirmish.Text.Word

/-!
# Plain texts

A text is plain when its words are made of common characters, with a single space between
each two.  To take lower case makes a plain text of it again, and to take its words and join
them by single spaces leaves it as it is.  Numbers in base ten are plain texts, too, and the
digits of a number spell it.
-/

namespace Skirmish

/-! ## Common characters -/

namespace Text

/-- A common character that is no blank. -/
def isGlyph (c : Char) : Bool :=
  c.toNat < 128 && !isBlank c

theorem common_of_isGlyph {c : Char} (glyph : isGlyph c = true) : c.toNat < 128 :=
  of_decide_eq_true (Bool.and_eq_true_iff.mp glyph).1

theorem not_isBlank_of_isGlyph {c : Char} (glyph : isGlyph c = true) : isBlank c = false :=
  Bool.not_eq_true' _ |>.mp (Bool.and_eq_true_iff.mp glyph).2

theorem common_of_isAlphanum {c : Char} (alphanumeric : c.isAlphanum = true) :
    c.toNat < 128 := by
  have below {last : Char} (small : last.toNat < 128) (within : c.val ≤ last.val) :
      c.toNat < 128 :=
    Nat.lt_of_le_of_lt (UInt32.le_iff_toNat_le.mp within) small
  have either : ((c.isUpper || c.isLower) || c.isDigit) = true := alphanumeric
  rcases Bool.or_eq_true_iff.mp either with letter | digit
  · rcases Bool.or_eq_true_iff.mp letter with upper | lower
    · exact @below 'Z' (by decide) (of_decide_eq_true upper).2
    · exact @below 'z' (by decide) (of_decide_eq_true (Bool.and_eq_true_iff.mp lower).2)
  · exact @below '9' (by decide) (of_decide_eq_true (Bool.and_eq_true_iff.mp digit).2)

/-- What lower case does to a common character, as a check of all of them tells. -/
structure IsTame (c : Char) : Prop where
  glyph : isGlyph c = true → isGlyph c.toLower = true
  alphanumeric : c.isAlphanum = true → isGlyph c = true ∧ isWord c.toLower = true
  digit : c.isDigit = true → c.toLower = c
  settled : c.toLower.toLower = c.toLower

theorem isTame_of_common {c : Char} (common : c.toNat < 128) : IsTame c := by
  have each : ∀ code < 128,
      (isGlyph (Char.ofNat code) = true → isGlyph (Char.ofNat code).toLower = true) ∧
      ((Char.ofNat code).isAlphanum = true →
        isGlyph (Char.ofNat code) = true ∧ isWord (Char.ofNat code).toLower = true) ∧
      ((Char.ofNat code).isDigit = true → (Char.ofNat code).toLower = Char.ofNat code) ∧
      (Char.ofNat code).toLower.toLower = (Char.ofNat code).toLower := by
    decide +kernel
  have checked := each c.toNat common
  rw [Char.ofNat_toNat] at checked
  exact ⟨checked.1, checked.2.1, checked.2.2.1, checked.2.2.2⟩

theorem isGlyph_toLower {c : Char} (glyph : isGlyph c = true) : isGlyph c.toLower = true :=
  (isTame_of_common (common_of_isGlyph glyph)).glyph glyph

theorem isGlyph_of_isAlphanum {c : Char} (alphanumeric : c.isAlphanum = true) :
    isGlyph c = true :=
  ((isTame_of_common (common_of_isAlphanum alphanumeric)).alphanumeric alphanumeric).1

theorem lowerAfter_of_common {chars : List Char} (common : ∀ c ∈ chars, c.toNat < 128)
    (before : List Char) : lowerAfter before chars = chars.map Char.toLower := by
  induction chars generalizing before with
  | nil => rfl
  | cons c rest ih =>
      rw [List.forall_mem_cons] at common
      have notSigma : c ≠ '\u03a3' := by rintro rfl; exact absurd common.1 (by decide)
      have notDotted : c ≠ '\u0130' := by rintro rfl; exact absurd common.1 (by decide)
      rw [lowerAfter, if_neg notSigma, if_neg notDotted, lowerChar, if_pos common.1,
        ih common.2, List.map_cons, List.singleton_append]

theorem toList_lower {text : String} (common : ∀ c ∈ text.toList, c.toNat < 128) :
    (lower text).toList = text.toList.map Char.toLower := by
  rw [lower, String.toList_ofList, lowerAfter_of_common common]

/-! ## Words -/

theorem wordsFrom_append {word : List Char} (solid : ∀ c ∈ word, isBlank c = false)
    (current rest : List Char) :
    wordsFrom current (word ++ rest) = wordsFrom (word.reverse ++ current) rest := by
  induction word generalizing current with
  | nil => rfl
  | cons c word ih =>
      rw [List.forall_mem_cons] at solid
      rw [List.cons_append, wordsFrom, solid.1, if_neg Bool.false_ne_true, ih solid.2,
        List.reverse_cons, List.append_assoc, List.singleton_append]

theorem words_word {word : List Char} (filled : word ≠ [])
    (solid : ∀ c ∈ word, isBlank c = false) : words word = [word] := by
  have read := wordsFrom_append solid [] []
  rw [List.append_nil, List.append_nil] at read
  rw [words, read, wordsFrom, List.isEmpty_reverse, if_neg (by simpa using filled),
    List.reverse_reverse]

theorem words_append {word : List Char} (filled : word ≠ [])
    (solid : ∀ c ∈ word, isBlank c = false) (rest : List Char) :
    words (word ++ ' ' :: rest) = word :: words rest := by
  rw [words, wordsFrom_append solid, List.append_nil, wordsFrom, if_pos (by decide),
    List.isEmpty_reverse, if_neg (by simpa using filled), List.reverse_reverse, words]

/-- Words of good characters, with a single space between each two. -/
inductive IsSpaced (good : Char → Bool) : List Char → Prop
  | word {word : List Char} (filled : word ≠ []) (sound : ∀ c ∈ word, good c = true) :
      IsSpaced good word
  | next {word rest : List Char} (filled : word ≠ []) (sound : ∀ c ∈ word, good c = true)
      (spaced : IsSpaced good rest) : IsSpaced good (word ++ ' ' :: rest)

namespace IsSpaced

variable {good better : Char → Bool} {chars others : List Char}

theorem behind {front : List Char} (spaced : IsSpaced good chars)
    (sound : ∀ c ∈ front, good c = true) : IsSpaced good (front ++ chars) := by
  cases spaced with
  | word filled own =>
      exact .word (List.append_ne_nil_of_right_ne_nil _ filled)
        (List.forall_mem_append.mpr ⟨sound, own⟩)
  | next filled own spaced =>
      rw [← List.append_assoc]
      exact .next (List.append_ne_nil_of_right_ne_nil _ filled)
        (List.forall_mem_append.mpr ⟨sound, own⟩) spaced

theorem append (spaced : IsSpaced good chars) (further : IsSpaced good others) :
    IsSpaced good (chars ++ ' ' :: others) := by
  induction spaced with
  | word filled sound => exact .next filled sound further
  | next filled sound _ ih =>
      rw [List.append_assoc, List.cons_append]
      exact .next filled sound ih

theorem map {change : Char → Char} (spaced : IsSpaced good chars)
    (keeps : ∀ c, good c = true → better (change c) = true) (space : change ' ' = ' ') :
    IsSpaced better (chars.map change) := by
  have changed : ∀ {word : List Char}, (∀ c ∈ word, good c = true) →
      ∀ c ∈ word.map change, better c = true :=
    fun sound => List.forall_mem_map.mpr fun c member => keeps c (sound c member)
  induction spaced with
  | word filled sound => exact .word (by simpa using filled) (changed sound)
  | next filled sound _ ih =>
      rw [List.map_append, List.map_cons, space]
      exact .next (by simpa using filled) (changed sound) ih

theorem imp (spaced : IsSpaced good chars) (weaken : ∀ c, good c = true → better c = true) :
    IsSpaced better chars := by
  have same : IsSpaced better (chars.map id) := spaced.map weaken rfl
  rwa [List.map_id] at same

theorem forall_mem (spaced : IsSpaced good chars) :
    chars ≠ [] ∧ ∀ c ∈ chars, c = ' ' ∨ good c = true := by
  induction spaced with
  | word filled sound => exact ⟨filled, fun c member => .inr (sound c member)⟩
  | next filled sound _ ih =>
      refine ⟨List.append_ne_nil_of_left_ne_nil filled _, fun c member => ?_⟩
      rcases List.mem_append.mp member with first | rest
      · exact .inr (sound c first)
      · rcases List.mem_cons.mp rest with rfl | rest
        · exact .inl rfl
        · exact ih.2 c rest

theorem reverse (spaced : IsSpaced good chars) : IsSpaced good chars.reverse := by
  have mirrored : ∀ {word : List Char}, (∀ c ∈ word, good c = true) →
      ∀ c ∈ word.reverse, good c = true :=
    fun sound c member => sound c (List.mem_reverse.mp member)
  induction spaced with
  | word filled sound => exact .word (by simpa using filled) (mirrored sound)
  | next filled sound _ ih =>
      rw [List.reverse_append, List.reverse_cons, List.append_assoc, List.singleton_append]
      exact ih.append (.word (by simpa using filled) (mirrored sound))

theorem dropWhile_eq (spaced : IsSpaced isGlyph chars) : chars.dropWhile isBlank = chars := by
  have first : ∀ {word rest : List Char}, word ≠ [] → (∀ c ∈ word, isGlyph c = true) →
      (word ++ rest).dropWhile isBlank = word ++ rest := by
    intro word rest filled glyphs
    obtain ⟨c, word, rfl⟩ := List.exists_cons_of_ne_nil filled
    refine List.dropWhile_cons_of_neg ?_
    rw [not_isBlank_of_isGlyph (glyphs c List.mem_cons_self)]
    exact Bool.false_ne_true
  cases spaced with
  | word filled glyphs =>
      have whole := @first _ [] filled glyphs
      rwa [List.append_nil] at whole
  | next filled glyphs spaced => exact first filled glyphs

/-- The words of such a text, joined by single spaces, are the text. -/
theorem intercalate_words (spaced : IsSpaced isGlyph chars) :
    words chars ≠ [] ∧ [' '].intercalate (words chars) = chars := by
  have solid : ∀ {word : List Char}, (∀ c ∈ word, isGlyph c = true) →
      ∀ c ∈ word, isBlank c = false :=
    fun glyphs c member => not_isBlank_of_isGlyph (glyphs c member)
  induction spaced with
  | word filled glyphs =>
      rw [words_word filled (solid glyphs)]
      exact ⟨List.cons_ne_nil _ _, List.intercalate_singleton⟩
  | next filled glyphs _ ih =>
      rw [words_append filled (solid glyphs)]
      refine ⟨List.cons_ne_nil _ _, ?_⟩
      rw [List.intercalate_cons_of_ne_nil ih.1, ih.2, List.append_assoc, List.singleton_append]

theorem common (spaced : IsSpaced isGlyph chars) : ∀ c ∈ chars, c.toNat < 128 := by
  intro c member
  rcases spaced.forall_mem.2 c member with rfl | glyph
  · decide
  · exact common_of_isGlyph glyph

theorem map_toLower (spaced : IsSpaced isGlyph chars) :
    IsSpaced isGlyph (chars.map Char.toLower) :=
  spaced.map (fun _ => isGlyph_toLower) rfl

end IsSpaced

/-! ## Numerals -/

theorem isCommonDigit_of_isDigit {c : Char} (digit : c.isDigit = true) :
    isCommonDigit c = true :=
  digit

theorem isAlphanum_of_isDigit {c : Char} (digit : c.isDigit = true) : c.isAlphanum = true := by
  rw [Char.isAlphanum, digit, Bool.or_true]

theorem toLower_of_isDigit {c : Char} (digit : c.isDigit = true) : c.toLower = c :=
  (isTame_of_common (common_of_isAlphanum (isAlphanum_of_isDigit digit))).digit digit

theorem isDigit_of_mem_toDigits {n : Nat} {c : Char} (member : c ∈ Nat.toDigits 10 n) :
    c.isDigit = true :=
  Nat.isDigit_of_mem_toDigits (by decide) (by decide) member

theorem isSpaced_toDigits (n : Nat) : IsSpaced isGlyph (Nat.toDigits 10 n) :=
  .word Nat.toDigits_ne_nil fun _ member =>
    isGlyph_of_isAlphanum (isAlphanum_of_isDigit (isDigit_of_mem_toDigits member))

theorem map_toLower_toDigits (n : Nat) :
    (Nat.toDigits 10 n).map Char.toLower = Nat.toDigits 10 n :=
  (List.map_congr_left fun _ member =>
    toLower_of_isDigit (isDigit_of_mem_toDigits member)).trans (List.map_id' _)

theorem all_isDigit_toDigits (n : Nat) : (Nat.toDigits 10 n).all isDigit = true :=
  List.all_eq_true.mpr fun _ member =>
    isDigit_of_isCommonDigit (isCommonDigit_of_isDigit (isDigit_of_mem_toDigits member))

theorem length_toDigits_le_iff (n : Nat) :
    (Nat.toDigits 10 n).length ≤ numeralLimit ↔ n < numeralBound := by
  have positive : 0 < numeralLimit := by decide
  unfold numeralBound
  generalize numeralLimit = limit at positive ⊢
  exact Nat.length_toDigits_le_iff (by decide) positive

end Text

theorem readNumeral_toDigits_of_large {n : Nat} (large : Text.numeralBound ≤ n) :
    readNumeral (Nat.toDigits 10 n) =
      .error (.oversizedNumeral (Nat.toDigits 10 n).length) := by
  have oversized : Text.isOversized (Nat.toDigits 10 n) = true := by
    rw [← Bool.not_eq_false, isOversized_eq_false_iff, Text.length_toDigits_le_iff]
    exact Nat.not_lt.mpr large
  rw [readNumeral, if_pos oversized]

end Skirmish
