import Mathlib.Data.List.Sections
import Mathlib.Order.Bounds.Basic
import Mathlib.Tactic.FieldSimp
import Skirmish.Proofs.Dice.Exact

/-!
# The outcomes of an expression

The outcomes of an expression are the faces that its dice may show, all equally likely.  On
average over them its terms are worth the sum of their means, which lies midway between the
least and the most that they may be worth.

An average over rows whose places are chosen independently of each other is the sum of the
averages over the places, if the quantity is such a sum.  This is used twice: for the dice of
a term, and for the terms of an expression.
-/

namespace Skirmish

/-! ## Averages -/

section

variable {α : Type}

/-- The average of a quantity over equally likely outcomes. -/
def average (quantity : α → ℚ) (outcomes : List α) : ℚ :=
  (outcomes.map quantity).sum / outcomes.length

theorem average_neg (quantity : α → ℚ) (outcomes : List α) :
    average (fun outcome => -quantity outcome) outcomes = -average quantity outcomes := by
  rw [average, average, ← neg_div, List.sum_neg, List.map_map]
  rfl

theorem sections_ne_nil {choices : List (List α)} (some : ∀ choice ∈ choices, choice ≠ []) :
    choices.sections ≠ [] := by
  induction choices with
  | nil => simp
  | cons first rest ih =>
      obtain ⟨here, there⟩ := List.forall_mem_cons.mp some
      obtain ⟨a, inFirst⟩ := List.exists_mem_of_ne_nil _ here
      obtain ⟨row, inRest⟩ := List.exists_mem_of_ne_nil _ (ih there)
      refine List.ne_nil_of_mem (a := a :: row) ?_
      rw [List.sections, List.mem_flatMap]
      exact ⟨row, inRest, List.mem_map_of_mem inFirst⟩

theorem nodup_sections {choices : List (List α)} (nodup : ∀ choice ∈ choices, choice.Nodup) :
    choices.sections.Nodup := by
  induction choices with
  | nil => simp
  | cons first rest ih =>
      obtain ⟨here, there⟩ := List.forall_mem_cons.mp nodup
      rw [List.sections, List.nodup_flatMap]
      refine ⟨fun row _ => here.map fun a b same => (List.cons.inj same).1,
        (ih there).imp fun different => ?_⟩
      simp only [Function.onFun, List.disjoint_left, List.mem_map]
      rintro _ ⟨a, -, rfl⟩ ⟨b, -, same⟩
      exact different (List.cons.inj same).2.symm

/-- Independent choices: the average of a sum is the sum of the averages. -/
theorem average_sections_cons {quantity others : List α → ℚ} {own : α → ℚ}
    (splits : ∀ first rest, quantity (first :: rest) = own first + others rest)
    {first : List α} {rest : List (List α)} (some : first ≠ []) (someRest : rest.sections ≠ []) :
    average quantity (first :: rest).sections =
      average own first + average others rest.sections := by
  have lengths : ∀ rows : List (List α),
      (rows.flatMap fun row => first.map (· :: row)).length = rows.length * first.length := by
    intro rows
    simp [List.length_flatMap]
  have sums : ∀ rows : List (List α),
      ((rows.flatMap fun row => first.map (· :: row)).map quantity).sum =
        rows.length * (first.map own).sum + first.length * (rows.map others).sum := by
    intro rows
    induction rows with
    | nil => simp
    | cons row rows ih =>
        have here : ((first.map (· :: row)).map quantity).sum =
            (first.map own).sum + first.length * others row := by
          simp [Function.comp_def, splits, List.sum_map_add]
        rw [List.flatMap_cons, List.map_append, List.sum_append, ih, here, List.map_cons,
          List.sum_cons, List.length_cons]
        push_cast
        ring
  have nonzero : (first.length : ℚ) ≠ 0 := by
    exact_mod_cast (List.length_pos_of_ne_nil some).ne'
  have nonzeroRest : (rest.sections.length : ℚ) ≠ 0 := by
    exact_mod_cast (List.length_pos_of_ne_nil someRest).ne'
  rw [average, List.sections, sums, lengths, average, average]
  push_cast
  field_simp

theorem average_faces {sides : Nat} (positive : 1 ≤ sides) :
    average (fun face : Nat => (face : ℚ)) (List.range' 1 sides) = ((sides : ℚ) + 1) / 2 := by
  have sum : ∀ count : Nat, ((List.range' 1 count).map fun face : Nat => (face : ℚ)).sum =
      count * (count + 1) / 2 := by
    intro count
    induction count with
    | zero => simp
    | succ count ih =>
        rw [List.range'_concat, List.map_append, List.sum_append, ih]
        push_cast
        simp
        ring
  have nonzero : (sides : ℚ) ≠ 0 := by exact_mod_cast (by omega : sides ≠ 0)
  rw [average, sum, List.length_range']
  field_simp

end

/-! ## Outcomes -/

/-- The faces that the dice of a term may show. -/
def Term.outcomes (term : Term) : List (List Nat) :=
  (term.dieSizes.map fun side => List.range' 1 side).sections

/-- The faces that the dice of terms may show, in one row for each term. -/
def outcomes (terms : List SignedTerm) : List (List (List Nat)) :=
  (terms.map fun signed => signed.term.outcomes).sections

/-- What terms are worth together when their dice show the given faces. -/
def worthOf (terms : List SignedTerm) (rolls : List (List Nat)) : Int :=
  (List.zipWith SignedTerm.worth terms rolls).sum

namespace Term

theorem mem_outcomes_iff {term : Term} {faces : List Nat} :
    faces ∈ term.outcomes ↔ MayFall term.dieSizes faces := by
  rw [outcomes, List.mem_sections, List.forall₂_map_right_iff, MayFall]
  constructor
  · intro shown
    refine shown.flip.imp fun side face member => ?_
    rw [List.mem_range'_1] at member
    omega
  · intro may
    refine may.flip.imp fun face side range => ?_
    rw [List.mem_range'_1]
    omega

theorem nodup_outcomes (term : Term) : term.outcomes.Nodup := by
  refine nodup_sections fun choice member => ?_
  obtain ⟨side, -, rfl⟩ := List.mem_map.mp member
  exact List.nodup_range' _

theorem outcomes_ne_nil {term : Term} (stands : term.Stands) : term.outcomes ≠ [] :=
  List.ne_nil_of_mem (mem_outcomes_iff.mpr (mayFall_highest (one_le_of_mem_dieSizes stands)))

end Term

theorem mem_outcomes_iff {terms : List SignedTerm} {rolls : List (List Nat)} :
    rolls ∈ outcomes terms ↔ TermsMayFall terms rolls := by
  rw [outcomes, List.mem_sections, List.forall₂_map_right_iff, TermsMayFall]
  simp only [Term.mem_outcomes_iff]
  exact ⟨List.Forall₂.flip, List.Forall₂.flip⟩

theorem nodup_outcomes (terms : List SignedTerm) : (outcomes terms).Nodup := by
  refine nodup_sections fun choice member => ?_
  obtain ⟨signed, -, rfl⟩ := List.mem_map.mp member
  exact signed.term.nodup_outcomes

/-! ## Averages of terms -/

/-- The mean of a term: a constant itself, and half of the sides and one for each die. -/
def Term.exactMean : Term → ℚ
  | .constant digits => Text.numeral digits
  | .dice count _ sides =>
    (if count.isEmpty then 1 else Text.numeral count : Nat) * (Text.numeral sides + 1) / 2

def SignedTerm.exactMean (signed : SignedTerm) : ℚ :=
  signedBy signed.negative signed.term.exactMean

theorem average_sum {sides : List Nat} (sided : ∀ side ∈ sides, 1 ≤ side) :
    average (fun faces : List Nat => (faces.sum : ℚ))
        (sides.map fun side => List.range' 1 side).sections =
      (sides.map fun side : Nat => ((side : ℚ) + 1) / 2).sum := by
  induction sides with
  | nil => simp [average]
  | cons side sides ih =>
      obtain ⟨here, there⟩ := List.forall_mem_cons.mp sided
      have someRest : (sides.map fun side => List.range' 1 side).sections ≠ [] := by
        refine sections_ne_nil fun choice member => ?_
        obtain ⟨other, inSides, rfl⟩ := List.mem_map.mp member
        have positive := there other inSides
        exact List.ne_nil_of_length_pos (by rw [List.length_range']; omega)
      rw [List.map_cons, List.map_cons, List.sum_cons, ← ih there, ← average_faces here]
      refine average_sections_cons (fun face faces => ?_)
        (List.ne_nil_of_length_pos (by rw [List.length_range']; omega)) someRest
      rw [List.sum_cons, Nat.cast_add]

/-- The mean of a term is the average of what it is worth. -/
theorem Term.average_worth {term : Term} (stands : term.Stands) :
    average (fun faces => (term.worth faces : ℚ)) term.outcomes = term.exactMean := by
  cases term with
  | constant digits => simp [average, outcomes, dieSizes, worth, exactMean]
  | dice count letter sides =>
      have summed := average_sum (one_le_of_mem_dieSizes stands)
      simp only [dieSizes, List.map_replicate, List.sum_replicate, nsmul_eq_mul,
        ← mul_div_assoc] at summed
      rw [outcomes, dieSizes, List.map_replicate]
      exact summed

theorem SignedTerm.average_worth {signed : SignedTerm} (stands : signed.term.Stands) :
    average (fun faces => (signed.worth faces : ℚ)) signed.term.outcomes = signed.exactMean := by
  rw [SignedTerm.exactMean, ← Term.average_worth stands]
  unfold SignedTerm.worth
  cases signed.negative
  · simp [signedBy]
  · simp [signedBy, average_neg]

theorem average_worthOf {terms : List SignedTerm}
    (stand : ∀ signed ∈ terms, signed.term.Stands) :
    average (fun rolls => (worthOf terms rolls : ℚ)) (outcomes terms) =
      (terms.map SignedTerm.exactMean).sum := by
  induction terms with
  | nil => simp [average, outcomes, worthOf]
  | cons signed terms ih =>
      obtain ⟨here, there⟩ := List.forall_mem_cons.mp stand
      have someRest : outcomes terms ≠ [] := by
        refine sections_ne_nil fun choice member => ?_
        obtain ⟨other, inTerms, rfl⟩ := List.mem_map.mp member
        exact Term.outcomes_ne_nil (there other inTerms)
      rw [List.map_cons, List.sum_cons, ← ih there, ← SignedTerm.average_worth here]
      refine average_sections_cons (fun faces rolls => ?_) (Term.outcomes_ne_nil here) someRest
      rw [worthOf, List.zipWith_cons_cons, List.sum_cons, Int.cast_add]
      rfl

/-! ## Extremes -/

theorem MayFall.length_le_sum {sides faces : List Nat} (may : MayFall sides faces) :
    sides.length ≤ faces.sum := by
  induction may with
  | nil => exact Nat.le_refl 0
  | cons first _ ih =>
      rw [List.length_cons, List.sum_cons]
      exact (Nat.add_comm _ 1).trans_le (Nat.add_le_add first.1 ih)

namespace Term

/-- The least faces of the dice of a term. -/
def ones (term : Term) : List Nat :=
  List.replicate term.dieSizes.length 1

variable {term : Term} {faces : List Nat}

theorem worth_range (may : MayFall term.dieSizes faces) :
    term.worth term.ones ≤ term.worth faces ∧ term.worth faces ≤ term.worth term.dieSizes := by
  cases term with
  | constant digits => exact ⟨Nat.le_refl _, Nat.le_refl _⟩
  | dice count letter sides =>
      refine ⟨?_, may.sum_le⟩
      rw [worth, ones, List.sum_replicate_nat, Nat.mul_one]
      exact may.length_le_sum

/-- The mean of a term is midway between the least and the most that it is worth. -/
theorem worth_ones_add_worth_dieSizes (term : Term) :
    (term.worth term.ones : ℚ) + term.worth term.dieSizes = 2 * term.exactMean := by
  cases term with
  | constant digits => rw [worth, worth, exactMean, two_mul]
  | dice count letter sides =>
      simp only [worth, ones, dieSizes, exactMean, List.sum_replicate_nat, List.length_replicate]
      push_cast
      ring

end Term

namespace SignedTerm

variable {signed : SignedTerm} {faces : List Nat}

/-- The faces with which a term adds least to a sum, and those with which it adds most: the
sign decides which are which. -/
def leastFaces (signed : SignedTerm) : List Nat :=
  if signed.negative then signed.term.dieSizes else signed.term.ones

def mostFaces (signed : SignedTerm) : List Nat :=
  if signed.negative then signed.term.ones else signed.term.dieSizes

theorem worth_range (may : MayFall signed.term.dieSizes faces) :
    signed.worth signed.leastFaces ≤ signed.worth faces ∧
      signed.worth faces ≤ signed.worth signed.mostFaces := by
  obtain ⟨least, most⟩ := Term.worth_range may
  unfold worth leastFaces mostFaces
  cases signed.negative with
  | true =>
      simp only [if_true]
      omega
  | false =>
      simp only [Bool.false_eq_true, if_false]
      omega

theorem worth_leastFaces_add_worth_mostFaces (signed : SignedTerm) :
    (signed.worth signed.leastFaces : ℚ) + signed.worth signed.mostFaces =
      2 * signed.exactMean := by
  have midway := signed.term.worth_ones_add_worth_dieSizes
  unfold worth leastFaces mostFaces exactMean signedBy
  cases signed.negative with
  | true =>
      simp only [if_true]
      push_cast
      linarith
  | false =>
      simp only [Bool.false_eq_true, if_false]
      push_cast
      linarith

theorem mayFall_leastFaces (stands : signed.term.Stands) :
    MayFall signed.term.dieSizes signed.leastFaces := by
  have sided := Term.one_le_of_mem_dieSizes stands
  unfold leastFaces
  split
  · exact mayFall_highest sided
  · exact mayFall_ones sided

theorem mayFall_mostFaces (stands : signed.term.Stands) :
    MayFall signed.term.dieSizes signed.mostFaces := by
  have sided := Term.one_le_of_mem_dieSizes stands
  unfold mostFaces
  split
  · exact mayFall_ones sided
  · exact mayFall_highest sided

end SignedTerm

theorem worthOf_range {terms : List SignedTerm} {rolls : List (List Nat)}
    (may : TermsMayFall terms rolls) :
    worthOf terms (terms.map SignedTerm.leastFaces) ≤ worthOf terms rolls ∧
      worthOf terms rolls ≤ worthOf terms (terms.map SignedTerm.mostFaces) := by
  unfold worthOf
  induction may with
  | nil => exact ⟨Int.le_refl _, Int.le_refl _⟩
  | cons first _ ih =>
      obtain ⟨least, most⟩ := SignedTerm.worth_range first
      simp only [List.map_cons, List.zipWith_cons_cons, List.sum_cons]
      omega

/-- The means of terms add up to the middle between the least and the most that the terms are
worth together. -/
theorem worthOf_least_add_worthOf_most (terms : List SignedTerm) :
    (worthOf terms (terms.map SignedTerm.leastFaces) : ℚ) +
      worthOf terms (terms.map SignedTerm.mostFaces) =
        2 * (terms.map SignedTerm.exactMean).sum := by
  unfold worthOf
  induction terms with
  | nil => simp
  | cons signed terms ih =>
      have here := signed.worth_leastFaces_add_worth_mostFaces
      simp only [List.map_cons, List.zipWith_cons_cons, List.sum_cons, Int.cast_add]
      linarith

end Skirmish
