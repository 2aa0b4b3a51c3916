import Mathlib.Data.List.Induction
import Skirmish.Proofs.Dice.Drawing

/-!
# Faces that terms may show

Dice show faces in their range, and a source of chosen faces shows any of them.  Terms that
can be begun may show ones only, or their highest faces only, and their number of dice can
always be written.
-/

namespace Skirmish

open DiceSource (Shows)

/-! ## Numerals in range -/

theorem digitValue?_lt_ten {c : Char} {n : Nat} (found : Text.digitValue? c = some n) :
    n < 10 := by
  unfold Text.digitValue? at found
  split at found
  · rename_i common
    obtain rfl := Option.some.inj found
    have top : c.toNat ≤ '9'.toNat := common.2
    have nine : '9'.toNat = 57 := rfl
    have zero : '0'.toNat = 48 := rfl
    omega
  · obtain ⟨first, inList, rfl⟩ := Option.map_eq_some_iff.mp found
    have range := List.find?_some inList
    simp only [Bool.and_eq_true, decide_eq_true_eq] at range
    omega

theorem numeral_lt (digits : List Char) : Text.numeral digits < 10 ^ digits.length := by
  -- The induction goes from the last digit to the first, as the numeral is folded.
  induction digits using List.reverseRecOn with
  | nil => decide
  | append_singleton digits c ih =>
      have digit : (Text.digitValue? c).getD 0 < 10 := by
        cases found : Text.digitValue? c with
        | none => decide
        | some n => exact digitValue?_lt_ten found
      have folded : Text.numeral (digits ++ [c]) =
          10 * Text.numeral digits + (Text.digitValue? c).getD 0 := by
        simp [Text.numeral]
      rw [folded, List.length_append, List.length_singleton, Nat.pow_succ]
      omega

theorem numeral_lt_numeralBound {digits : List Char}
    (short : digits.length ≤ Text.numeralLimit) : Text.numeral digits < Text.numeralBound := by
  have below := numeral_lt digits
  unfold Text.numeralBound
  generalize Text.numeralLimit = limit at short ⊢
  calc Text.numeral digits < 10 ^ digits.length := below
    _ ≤ 10 ^ limit := Nat.pow_le_pow_right (by decide) short

/-! ## Faces that may be shown -/

/-- The faces may be shown by dice with the given sides. -/
def MayFall (sides faces : List Nat) : Prop :=
  List.Forall₂ (fun side face => 1 ≤ face ∧ face ≤ side) sides faces

/-- The faces, in one row for each term, may be shown by the dice of the terms. -/
def TermsMayFall (terms : List SignedTerm) (rolls : List (List Nat)) : Prop :=
  List.Forall₂ (fun signed faces => MayFall signed.term.dieSizes faces) terms rolls

/-- The totals of all terms can be written. -/
def AreSmall (rolls : List (List Nat)) : Prop :=
  ∀ faces ∈ rolls, faces.sum < Text.numeralBound

theorem MayFall.sum_le {sides faces : List Nat} (may : MayFall sides faces) :
    faces.sum ≤ sides.sum := by
  induction may with
  | nil => exact Nat.le_refl 0
  | cons first _ ih =>
      rw [List.sum_cons, List.sum_cons]
      exact Nat.add_le_add first.2 ih

theorem mayFall_highest {sides : List Nat} (sided : ∀ side ∈ sides, 1 ≤ side) :
    MayFall sides sides := by
  rw [MayFall, List.forall₂_same]
  exact fun side member => ⟨sided side member, Nat.le_refl side⟩

theorem mayFall_ones {sides : List Nat} (sided : ∀ side ∈ sides, 1 ≤ side) :
    MayFall sides (List.replicate sides.length 1) := by
  induction sides with
  | nil => exact .nil
  | cons side sides ih =>
      obtain ⟨here, there⟩ := List.forall_mem_cons.mp sided
      exact .cons ⟨Nat.le_refl 1, here⟩ (ih there)

section

variable {σ : Type} [DiceSource σ] {source dice : σ}

theorem DiceSource.Shows.mayFall {sides faces : List Nat}
    (sided : ∀ side ∈ sides, 1 ≤ side) (shows : Shows source sides faces dice) :
    MayFall sides faces := by
  induction shows with
  | nothing => exact .nil
  | die drawn _ ih =>
      obtain ⟨here, there⟩ := List.forall_mem_cons.mp sided
      exact .cons (DiceSource.draw_range here drawn) (ih there)

theorem TermsShow.mayFall {terms : List SignedTerm} {rolls : List (List Nat)}
    (stand : ∀ signed ∈ terms, signed.term.Stands) (shows : TermsShow source terms rolls dice) :
    TermsMayFall terms rolls := by
  induction shows with
  | nothing => exact .nil
  | term shows _ ih =>
      obtain ⟨here, there⟩ := List.forall_mem_cons.mp stand
      exact .cons (shows.mayFall (Term.one_le_of_mem_dieSizes here)) (ih there)

end

namespace Faces

theorem shows {sides faces : List Nat} (may : MayFall sides faces) (rest : List Nat) :
    Shows (⟨faces ++ rest⟩ : Faces) sides faces ⟨rest⟩ := by
  induction may with
  | nil => exact .nothing
  | cons first _ ih =>
      refine .die ?_ ih
      exact congrArg (fun shown => some (shown, _)) (if_pos first)

theorem termsShow {terms : List SignedTerm} {rolls : List (List Nat)}
    (may : TermsMayFall terms rolls) (rest : List Nat) :
    TermsShow (⟨rolls.flatten ++ rest⟩ : Faces) terms rolls ⟨rest⟩ := by
  induction may with
  | nil => exact .nothing
  | cons first _ ih =>
      rw [List.flatten_cons, List.append_assoc]
      exact .term (shows first _) ih

/-- Terms come to what they are worth on chosen faces. -/
theorem returns_mapM_of_mayFall (text : String) {terms : List SignedTerm}
    {rolls : List (List Nat)} (stand : ∀ signed ∈ terms, signed.term.Stands)
    (may : TermsMayFall terms rolls) (small : AreSmall rolls) (rest : List Nat) :
    Returns (terms.mapM fun signed => signed.term.roll text)
      ({ dice := ⟨rolls.flatten ++ rest⟩ } : Table Faces) (valuesOf terms rolls)
      (({ dice := ⟨rolls.flatten ++ rest⟩ } : Table Faces).showing rolls.flatten ⟨rest⟩) :=
  returns_mapM_roll_iff.mpr ⟨stand, rolls, _, termsShow may rest, small, rfl, rfl⟩

end Faces

namespace Term

variable {term : Term}

theorem length_dieSizes_lt (stands : term.Stands) :
    term.dieSizes.length < Text.numeralBound := by
  cases term with
  | constant digits => exact numeralBound_pos
  | dice count letter sides =>
      rw [dieSizes, List.length_replicate]
      split
      · exact lt_numeralBound (by decide)
      · exact numeral_lt_numeralBound stands.1

/-- Dice can be rolled whatever they show when they can be begun and their highest total
can be written. -/
theorem isRollable_iff :
    term.isRollable = true ↔ term.Stands ∧ term.dieSizes.sum < Text.numeralBound := by
  cases term with
  | constant digits =>
      exact ⟨fun _ => ⟨trivial, numeralBound_pos⟩, fun _ => rfl⟩
  | dice count letter sides =>
      simp only [isRollable_dice_iff, diceCount_eq_ok_iff, readNumeral_eq_ok_iff, dieSizes,
        List.sum_replicate_nat]
      constructor
      · rintro ⟨_, _, ⟨shortCount, rfl⟩, ⟨shortSides, rfl⟩, sided, small⟩
        exact ⟨⟨shortCount, shortSides, sided⟩, small⟩
      · rintro ⟨⟨shortCount, shortSides, sided⟩, small⟩
        exact ⟨_, _, ⟨shortCount, rfl⟩, ⟨shortSides, rfl⟩, sided, small⟩

end Term

theorem termsMayFall_map {terms : List SignedTerm} {faces : SignedTerm → List Nat}
    (may : ∀ signed ∈ terms, MayFall signed.term.dieSizes (faces signed)) :
    TermsMayFall terms (terms.map faces) := by
  rw [TermsMayFall, List.forall₂_map_right_iff, List.forall₂_same]
  exact may

/-- Faces that the terms may show: ones only. -/
def ones (terms : List SignedTerm) : List (List Nat) :=
  terms.map fun signed => List.replicate signed.term.dieSizes.length 1

theorem termsMayFall_ones {terms : List SignedTerm}
    (stand : ∀ signed ∈ terms, signed.term.Stands) : TermsMayFall terms (ones terms) :=
  termsMayFall_map fun signed member =>
    mayFall_ones (Term.one_le_of_mem_dieSizes (stand signed member))

theorem areSmall_ones {terms : List SignedTerm}
    (stand : ∀ signed ∈ terms, signed.term.Stands) : AreSmall (ones terms) := by
  intro faces member
  obtain ⟨signed, inTerms, rfl⟩ := List.mem_map.mp member
  rw [List.sum_replicate_nat, Nat.mul_one]
  exact Term.length_dieSizes_lt (stand signed inTerms)

/-- Faces that the terms may show: the highest ones. -/
def highest (terms : List SignedTerm) : List (List Nat) :=
  terms.map fun signed => signed.term.dieSizes

theorem termsMayFall_highest {terms : List SignedTerm}
    (stand : ∀ signed ∈ terms, signed.term.Stands) : TermsMayFall terms (highest terms) :=
  termsMayFall_map fun signed member =>
    mayFall_highest (Term.one_le_of_mem_dieSizes (stand signed member))

/-- Terms that can be rolled whatever they show never come to too large a total. -/
theorem TermsMayFall.areSmall {terms : List SignedTerm} {rolls : List (List Nat)}
    (may : TermsMayFall terms rolls)
    (rollable : ∀ signed ∈ terms, signed.term.isRollable = true) : AreSmall rolls := by
  induction may with
  | nil => exact fun faces member => (List.not_mem_nil member).elim
  | cons first _ ih =>
      obtain ⟨here, there⟩ := List.forall_mem_cons.mp rollable
      refine List.forall_mem_cons.mpr ⟨?_, ih there⟩
      exact Nat.lt_of_le_of_lt first.sum_le (Term.isRollable_iff.mp here).2

end Skirmish
