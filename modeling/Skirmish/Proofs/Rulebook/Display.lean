import Skirmish.Proofs.PlainText
import Skirmish.Proofs.Rulebook.Bounds
import Skirmish.Proofs.Rulebook.Keywords

/-!
# Displays of abilities read back

A player reads a granted ability as it would be printed on a weapon, and what is printed on
a weapon is read as a keyword, in lower case and word by word.  The displays of abilities are
plain texts as long as the categories in them are, and they are read as the abilities that
they display, if their numbers can be written.
-/

namespace Skirmish

/-! ## Texts with a number -/

/-- A plain text is read as it stands, its capitals aside. -/
theorem Text.IsSpaced.plain_eq {text : String} (spaced : IsSpaced isGlyph text.toList) :
    PrintedKeyword.plain text = text.toList.map Char.toLower := by
  rw [PrintedKeyword.plain, toList_lower spaced.common]
  exact spaced.map_toLower.intercalate_words.2

namespace PrintedKeyword

variable {text : String} {n : Nat}

theorem plain_titled {title : List Char} (spaced : Text.IsSpaced Text.isGlyph title)
    (spells : text.toList = title ++ ' ' :: Nat.toDigits 10 n) :
    plain text = title.map Char.toLower ++ ' ' :: Nat.toDigits 10 n := by
  have whole : Text.IsSpaced Text.isGlyph text.toList :=
    spells ▸ spaced.append (Text.isSpaced_toDigits n)
  rw [whole.plain_eq, spells, List.map_append, List.map_cons, Text.map_toLower_toDigits]
  rfl

theorem digits?_toDigits (n : Nat) :
    digits? (' ' :: Nat.toDigits 10 n) = some (Nat.toDigits 10 n) := by
  have front : (' ' :: Nat.toDigits 10 n).dropWhile Text.isBlank = Nat.toDigits 10 n := by
    rw [List.dropWhile_cons_of_pos (by decide), (Text.isSpaced_toDigits n).dropWhile_eq]
  have filled : (Nat.toDigits 10 n).isEmpty = false :=
    List.isEmpty_eq_false_iff.mpr Nat.toDigits_ne_nil
  simp only [digits?, front, Text.all_isDigit_toDigits, filled, Bool.not_false, Bool.and_true,
    if_true]

theorem numbered_toDigits_of_large {keyword : Int → PrintedKeyword}
    (large : Text.numeralBound ≤ n) :
    ∃ fault, numbered keyword (Nat.toDigits 10 n) = .error fault := by
  rw [numbered, readNumeral_toDigits_of_large large]
  exact ⟨_, rfl⟩

theorem read_of_rapidFire
    (spells : text.toList = "Rapid".toList ++ ' ' :: "Fire".toList ++ ' ' :: Nat.toDigits 10 n) :
    read text = numbered .rapidFire (Nat.toDigits 10 n) := by
  have spaced : Text.IsSpaced Text.isGlyph ("Rapid".toList ++ ' ' :: "Fire".toList) :=
    .next (by decide) (List.all_eq_true.mp (by decide))
      (.word (by decide) (List.all_eq_true.mp (by decide)))
  have found : twoWords? "rapid" "fire" (plain text) = some (Nat.toDigits 10 n) := by
    rw [plain_titled spaced spells]
    exact digits?_toDigits n
  simp only [read, found]

end PrintedKeyword

/-! ## Displays -/

/-- What is printed says the same in lower case. -/
def PrintedKeyword.lowered : PrintedKeyword → PrintedKeyword
  | .anti keyword threshold => .anti (Text.lower keyword) threshold
  | printed => printed

/-- The number of the ability, if it carries one, can be written. -/
def Ability.IsWritable (ability : Ability) : Prop :=
  ∀ number ∈ ability.number?, number.natAbs < Text.numeralBound

namespace WeaponAbility

/-- The numbers of the ability are as large as its schema asks for. -/
def IsBounded : WeaponAbility → Prop
  | .rapidFire x | .sustainedHits x | .melta x => 1 ≤ x
  | .anti _ threshold => 2 ≤ threshold ∧ threshold ≤ 6
  | .flag _ => True

theorem toList_append_toString (front : String) (n : Nat) :
    (front ++ toString (n : Int)).toList = front.toList ++ Nat.toDigits 10 n := by
  have same : toString (n : Int) = toString n := rfl
  rw [same, Nat.toString_eq_ofList_toDigits, String.toList_append, String.toList_ofList]

theorem toList_display_rapidFire (n : Nat) : (rapidFire n).display.toList =
    "Rapid".toList ++ ' ' :: "Fire".toList ++ ' ' :: Nat.toDigits 10 n :=
  toList_append_toString "Rapid Fire " n

end WeaponAbility

end Skirmish
