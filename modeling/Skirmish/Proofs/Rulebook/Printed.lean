import Mathlib.Data.List.TakeWhile
import Skirmish.Proofs.Dice.Grammar
import Skirmish.Proofs.Rulebook.Keywords
import Skirmish.Proofs.Text.Words

/-!
# Printed keywords

A printed keyword is read in lower case and word by word, so neither common capitals nor the
number of blanks makes a difference.  It says something when it has one of five forms: two
words and a number, one word and a number, a category with a threshold, or the name of a flag.
-/

namespace Skirmish

namespace PrintedKeyword

variable {text other : String} {chars : List Char}

/-! ## What reading depends on -/

theorem read_congr (same : plain text = plain other) : read text = read other := by
  unfold read
  rw [same]

theorem plain_eq (text : String) :
    plain text = [' '].intercalate ((Text.words text.toList).map (Text.lowerAfter [])) := by
  rw [plain, Text.lower, String.toList_ofList, Text.words_lowerAfter]

theorem read_eq_of_respaced (respaced : Text.Respaced text.toList other.toList) :
    read text = read other :=
  read_congr (by rw [plain_eq, plain_eq, respaced.words_eq])

theorem read_eq_of_recased (recased : Text.Recased text.toList other.toList) :
    read text = read other :=
  read_congr (by rw [plain, plain, Text.lower, Text.lower, recased.lowerAfter_eq])

/-! ## Forms of keywords -/

/-- Digits, perhaps with blanks in front. -/
def IsNumber (chars : List Char) : Prop :=
  ∃ blanks digits, chars = blanks ++ digits ∧ AreBlank blanks ∧ IsNumeral digits

/-- Two words and a number; between the words there may be blanks and hyphens, or nothing. -/
def IsTitled (first second : String) (chars : List Char) : Prop :=
  ∃ gap number, chars = first.toList ++ (gap ++ (second.toList ++ number)) ∧
    (∀ c ∈ gap, (Text.isBlank c || c == '-') = true) ∧ IsNumber number

/-- A category of words, and behind blanks a threshold of one digit, perhaps with a plus
sign. -/
def IsCategory (chars : List Char) : Prop :=
  ∃ category blanks digit plus, chars = category ++ (blanks ++ digit :: plus) ∧
    category ≠ [] ∧ (∀ c ∈ category, (Text.isWord c || Text.isBlank c) = true) ∧
    blanks ≠ [] ∧ AreBlank blanks ∧ Text.isDigit digit = true ∧ (plus = [] ∨ plus = ['+'])

/-- Keywords that say something, in lower case and joined by single spaces. -/
inductive IsKnown : List Char → Prop
  | rapidFire {chars : List Char} (titled : IsTitled "rapid" "fire" chars) : IsKnown chars
  | sustainedHits {chars : List Char} (titled : IsTitled "sustained" "hits" chars) :
      IsKnown chars
  | melta {number : List Char} (numbered : IsNumber number) :
      IsKnown ("melta".toList ++ number)
  | anti {body : List Char} (category : IsCategory body) : IsKnown ("anti-".toList ++ body)
  | flag {flag : KeywordFlag} {name : String} (printed : name ∈ flag.printed) :
      IsKnown name.toList

/-! ## Reading knows the forms -/

theorem isSome_bind_after?_iff {β : Type} {start : String} {next : List Char → Option β} :
    ((after? start chars).bind next).isSome = true ↔
      ∃ rest, chars = start.toList ++ rest ∧ (next rest).isSome = true := by
  simp only [Option.isSome_bind, Option.any_eq_true, after?_eq_some_iff]

theorem dropWhile_append_of_all {skips : Char → Bool} {front rest : List Char}
    (all : ∀ c ∈ front, skips c = true) (stops : ∀ c ∈ rest.head?, skips c = false) :
    (front ++ rest).dropWhile skips = rest := by
  rw [List.dropWhile_append_of_pos all]
  cases rest with
  | nil => rfl
  | cons c rest =>
      rw [List.dropWhile_cons_of_neg]
      rw [stops c rfl]
      exact Bool.false_ne_true

theorem isSome_digits?_iff : (digits? chars).isSome = true ↔ IsNumber chars := by
  simp only [digits?, Option.isSome_ite, Bool.and_eq_true, Bool.not_eq_true',
    List.isEmpty_eq_false_iff, List.all_eq_true]
  constructor
  · rintro ⟨filled, digits⟩
    exact ⟨chars.takeWhile Text.isBlank, chars.dropWhile Text.isBlank,
      List.takeWhile_append_dropWhile.symm, fun c => List.mem_takeWhile_imp, filled, digits⟩
  · rintro ⟨blanks, digits, rfl, allBlank, numeral⟩
    have rest : (blanks ++ digits).dropWhile Text.isBlank = digits := by
      refine dropWhile_append_of_all allBlank fun c first => ?_
      have digit := numeral.digit c (List.mem_of_mem_head? first)
      rw [Bool.eq_false_iff]
      intro blank
      rw [(blank_is_no_other blank).1] at digit
      cases digit
    rw [rest]
    exact ⟨numeral.nonempty, numeral.digit⟩

/-- Two words and a number are found when the second word does not begin with what may stand
between them. -/
theorem isSome_twoWords?_iff {first second : String} {c : Char} {others : List Char}
    (begins : second.toList = c :: others) (stops : (Text.isBlank c || c == '-') = false) :
    (twoWords? first second chars).isSome = true ↔ IsTitled first second chars := by
  simp only [twoWords?, Option.bind_eq_bind, isSome_bind_after?_iff, isSome_digits?_iff]
  constructor
  · rintro ⟨rest, rfl, number, found, numbered⟩
    refine ⟨rest.takeWhile fun c => Text.isBlank c || c == '-', number, ?_,
      fun c => List.mem_takeWhile_imp, numbered⟩
    rw [← found, List.takeWhile_append_dropWhile]
  · rintro ⟨gap, number, rfl, separates, numbered⟩
    refine ⟨_, rfl, number, dropWhile_append_of_all separates fun first head => ?_, numbered⟩
    rw [begins, List.cons_append, List.head?_cons, Option.mem_some_iff] at head
    rwa [← head]

/-- The characters from behind, without a plus sign at the end. -/
def unsigned (chars : List Char) : List Char :=
  if chars.reverse.head? = some '+' then chars.reverse.drop 1 else chars.reverse

theorem exists_sign (chars : List Char) :
    ∃ plus, chars = (unsigned chars).reverse ++ plus ∧ (plus = [] ∨ plus = ['+']) := by
  obtain ⟨backwards, rfl⟩ : ∃ backwards, chars = backwards.reverse :=
    ⟨chars.reverse, chars.reverse_reverse.symm⟩
  rw [unsigned, List.reverse_reverse]
  split
  · rename_i signed
    cases backwards with
    | nil => cases signed
    | cons c rest =>
        obtain rfl := Option.some.inj signed
        exact ⟨['+'], List.reverse_cons, .inr rfl⟩
  · exact ⟨[], (List.append_nil _).symm, .inl rfl⟩

theorem unsigned_append {chars plus : List Char} (noSign : chars.reverse.head? ≠ some '+')
    (signed : plus = [] ∨ plus = ['+']) : unsigned (chars ++ plus) = chars.reverse := by
  rcases signed with rfl | rfl
  · rw [List.append_nil, unsigned, if_neg noSign]
  · rw [unsigned, List.reverse_append]
    rfl

theorem anti?_eq (chars : List Char) :
    anti? chars = (after? "anti-" chars).bind fun body =>
      match unsigned body with
      | digit :: gap :: category =>
        (Text.digitValue? digit).bind fun threshold =>
          if Text.isBlank gap && !category.isEmpty &&
              category.all fun c => Text.isWord c || Text.isBlank c then
            some (String.ofList (Text.trim category.reverse), (threshold : Int))
          else none
      | _ => none :=
  rfl

/-- A category with a threshold ends in a blank and a digit, the sign aside. -/
theorem isCategory_iff {body : List Char} :
    IsCategory body ↔ ∃ digit gap category, unsigned body = digit :: gap :: category ∧
      Text.isDigit digit = true ∧ Text.isBlank gap = true ∧ category ≠ [] ∧
      ∀ c ∈ category, (Text.isWord c || Text.isBlank c) = true := by
  constructor
  · rintro ⟨category, blanks, digit, plus, rfl, filled, worded, some, allBlank, isDigit, signed⟩
    -- The last of the blanks ends the category, the others belong to it.
    obtain ⟨front, gap, rfl⟩ : ∃ front gap, blanks = front ++ [gap] :=
      ⟨_, _, (List.dropLast_append_getLast some).symm⟩
    obtain ⟨allBlank, blank⟩ := List.forall_mem_append.mp allBlank
    have regrouped : category ++ (front ++ [gap] ++ digit :: plus) =
        category ++ front ++ [gap, digit] ++ plus := by
      simp
    have backwards : (category ++ front ++ [gap, digit]).reverse =
        digit :: gap :: (category ++ front).reverse := by
      simp
    refine ⟨digit, gap, (category ++ front).reverse, ?_, isDigit,
      blank gap (List.mem_singleton.mpr rfl), by simp [filled], fun c member => ?_⟩
    · rw [regrouped, unsigned_append _ signed, backwards]
      rw [backwards, List.head?_cons, Ne, Option.some.injEq]
      rintro rfl
      exact absurd isDigit (by decide)
    · rcases List.mem_append.mp (List.mem_reverse.mp member) with own | blank
      · exact worded c own
      · rw [allBlank c blank, Bool.or_true]
  · rintro ⟨digit, gap, category, found, isDigit, blank, filled, worded⟩
    obtain ⟨plus, whole, signed⟩ := exists_sign body
    rw [found, List.reverse_cons, List.reverse_cons] at whole
    refine ⟨category.reverse, [gap], digit, plus, ?_, by simpa using filled,
      fun c member => worded c (List.mem_reverse.mp member), List.cons_ne_nil _ _,
      List.forall_mem_singleton.mpr blank, isDigit, signed⟩
    simpa using whole

theorem isSome_anti?_iff :
    (anti? chars).isSome = true ↔ ∃ body, chars = "anti-".toList ++ body ∧ IsCategory body := by
  simp only [anti?_eq, isSome_bind_after?_iff, isCategory_iff]
  refine exists_congr fun body => and_congr_right fun _ => ?_
  split
  · rename_i digit gap category backwards
    simp only [Option.isSome_bind, Option.any_eq_true, Option.isSome_ite, Bool.and_eq_true,
      Bool.not_eq_true', List.isEmpty_eq_false_iff, List.all_eq_true]
    have spelled : Text.isDigit digit = true ↔
        ∃ threshold, Text.digitValue? digit = some threshold :=
      Option.isSome_iff_exists
    constructor
    · rintro ⟨threshold, value, ⟨blank, filled⟩, worded⟩
      exact ⟨digit, gap, category, backwards, spelled.mpr ⟨threshold, value⟩, blank, filled,
        worded⟩
    · rintro ⟨_, _, _, again, isDigit, blank, filled, worded⟩
      cases backwards.symm.trans again
      obtain ⟨threshold, value⟩ := spelled.mp isDigit
      exact ⟨threshold, value, ⟨blank, filled⟩, worded⟩
  · rename_i short
    refine iff_of_false Bool.false_ne_true ?_
    rintro ⟨digit, gap, category, found, -⟩
    exact short _ _ _ found

theorem isSome_ofPrinted?_iff {name : String} :
    (KeywordFlag.ofPrinted? name).isSome = true ↔
      ∃ flag : KeywordFlag, name ∈ flag.printed := by
  have all (flag : KeywordFlag) : flag ∈ KeywordFlag.abilities ++ [.precision] := by
    rcases flag with ability | _
    · cases ability <;> decide
    · decide
  simp only [KeywordFlag.ofPrinted?, List.find?_isSome, List.contains_iff_mem]
  exact exists_congr fun flag => and_iff_right (all flag)

theorem isKnown_iff : IsKnown chars ↔
    (twoWords? "rapid" "fire" chars).isSome = true ∨
    (twoWords? "sustained" "hits" chars).isSome = true ∨
    ((after? "melta" chars).bind digits?).isSome = true ∨
    (anti? chars).isSome = true ∨
    (KeywordFlag.ofPrinted? (String.ofList chars)).isSome = true := by
  have fire : (twoWords? "rapid" "fire" chars).isSome = true ↔ IsTitled "rapid" "fire" chars :=
    isSome_twoWords?_iff rfl (by decide)
  have hits : (twoWords? "sustained" "hits" chars).isSome = true ↔
      IsTitled "sustained" "hits" chars :=
    isSome_twoWords?_iff rfl (by decide)
  simp only [fire, hits, isSome_bind_after?_iff, isSome_digits?_iff, isSome_anti?_iff,
    isSome_ofPrinted?_iff]
  constructor
  · intro known
    cases known with
    | rapidFire titled => exact .inl titled
    | sustainedHits titled => exact .inr (.inl titled)
    | melta numbered => exact .inr (.inr (.inl ⟨_, rfl, numbered⟩))
    | anti category => exact .inr (.inr (.inr (.inl ⟨_, rfl, category⟩)))
    | @flag flag name printed =>
        rw [← String.ofList_toList (s := name)] at printed
        exact .inr (.inr (.inr (.inr ⟨flag, printed⟩)))
  · rintro (titled | titled | ⟨number, rfl, numbered⟩ | ⟨body, rfl, category⟩ | ⟨flag, printed⟩)
    · exact .rapidFire titled
    · exact .sustainedHits titled
    · exact .melta numbered
    · exact .anti category
    · have known := IsKnown.flag printed
      rwa [String.toList_ofList] at known

/-- Reading passes over a printed keyword exactly when it has none of the forms. -/
theorem read_eq_none_iff : read text = .ok none ↔ ¬ IsKnown (plain text) := by
  have never (keyword : Int → PrintedKeyword) (digits : List Char) :
      numbered keyword digits ≠ .ok none := by
    unfold numbered
    cases readNumeral digits <;> simp [Except.map]
  rw [isKnown_iff]
  unfold read
  dsimp only
  generalize plain text = chars
  cases twoWords? "rapid" "fire" chars with
  | some digits => simp [never]
  | none =>
      cases twoWords? "sustained" "hits" chars with
      | some digits => simp [never]
      | none =>
          cases (after? "melta" chars).bind digits? with
          | some digits => simp [never]
          | none =>
              cases anti? chars with
              | some found => simp
              | none => cases KeywordFlag.ofPrinted? (String.ofList chars) <;> simp

end PrintedKeyword

end Skirmish
