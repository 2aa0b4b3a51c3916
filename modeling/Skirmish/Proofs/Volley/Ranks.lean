import Skirmish.Volley.Phases

/-!
# Damage model by model

An allocation keeps a count of the destroyed models and the wounds of one model.  Here the
ranks of a unit are spelled out: each model has its own wounds, and an instance of damage
takes wounds off the first model that has some left.  Both come to the same, because the
models in front of the current one are destroyed and those behind it are unhurt.
-/

namespace Skirmish

/-! ## Ranks -/

/-- A unit model by model: the wounds that each of them has left, and the wounds that were
removed from all of them together. -/
structure Ranks where
  left : List Int
  removed : Int
  deriving DecidableEq

/-- The wounds left after an instance of damage: the first model that has some left loses
them, and what exceeds them is lost. -/
def struck (damage : Int) : List Int → List Int
  | [] => []
  | left :: others =>
    if 0 < left then (left - min damage left) :: others else left :: struck damage others

/-- The wounds that an instance of damage removes from the first model that has some left. -/
def dealtTo (damage : Int) : List Int → Int
  | [] => 0
  | left :: others => if 0 < left then min damage left else dealtTo damage others

namespace Ranks

/-- Models that have all of their wounds. -/
def unhurt (wounds : Int) (models : Nat) : Ranks :=
  ⟨List.replicate models wounds, 0⟩

def take (ranks : Ranks) (damage : Int) : Ranks :=
  ⟨struck damage ranks.left, ranks.removed + dealtTo damage ranks.left⟩

/-- The number of models without wounds. -/
def destroyed (ranks : Ranks) : Int :=
  ranks.left.count 0

end Ranks

/-! ## Passing over the destroyed -/

theorem struck_replicate_append (damage : Int) (destroyed : Nat) (others : List Int) :
    struck damage (List.replicate destroyed 0 ++ others) =
      List.replicate destroyed 0 ++ struck damage others := by
  induction destroyed with
  | zero => rfl
  | succ destroyed ih => simpa [List.replicate_succ, struck] using ih

theorem dealtTo_replicate_append (damage : Int) (destroyed : Nat) (others : List Int) :
    dealtTo damage (List.replicate destroyed 0 ++ others) = dealtTo damage others := by
  induction destroyed with
  | zero => rfl
  | succ destroyed ih => simpa [List.replicate_succ, dealtTo] using ih

/-- The first model that has wounds left takes the damage. -/
theorem Ranks.take_standing {remaining : Int} (standing : 0 < remaining) (destroyed : Nat)
    (others : List Int) (removed damage : Int) :
    Ranks.take ⟨List.replicate destroyed 0 ++ remaining :: others, removed⟩ damage =
      ⟨List.replicate destroyed 0 ++ (remaining - min damage remaining) :: others,
        removed + min damage remaining⟩ := by
  simp [Ranks.take, struck_replicate_append, dealtTo_replicate_append, struck, dealtTo, standing]

theorem Ranks.take_wipedOut (destroyed : Nat) (removed damage : Int) :
    Ranks.take ⟨List.replicate destroyed 0, removed⟩ damage =
      ⟨List.replicate destroyed 0, removed⟩ := by
  have struckNone := struck_replicate_append damage destroyed []
  have dealtNone := dealtTo_replicate_append damage destroyed []
  rw [List.append_nil] at struckNone dealtNone
  simp [Ranks.take, struckNone, dealtNone, struck, dealtTo]

/-! ## Agreement -/

/-- The ranks of a unit with `models` models as an allocation sees them: destroyed models,
the current one, and unhurt ones behind it; or destroyed models only. -/
inductive Allocation.Describes (wounds models : Int) : Allocation → Ranks → Prop
  | standing {destroyed behind : Nat} {removed remaining : Int}
      (all : (destroyed : Int) + 1 + behind = models) (wounded : 0 < remaining) :
      Describes wounds models ⟨destroyed, removed, remaining⟩
        ⟨List.replicate destroyed 0 ++ remaining :: List.replicate behind wounds, removed⟩
  | wipedOut {destroyed : Nat} {removed remaining : Int} (all : (destroyed : Int) = models) :
      Describes wounds models ⟨destroyed, removed, remaining⟩
        ⟨List.replicate destroyed 0, removed⟩

namespace Allocation.Describes

variable {wounds models : Int} {allocation : Allocation} {ranks : Ranks}

theorem destroy {removed : Int} {destroyed behind : Nat} (sturdy : 1 ≤ wounds)
    (all : (destroyed : Int) + 1 + behind = models) :
    Describes wounds models ⟨destroyed + 1, removed, wounds⟩
      ⟨List.replicate destroyed 0 ++ 0 :: List.replicate behind wounds, removed⟩ := by
  have next : List.replicate destroyed (0 : Int) ++ 0 :: List.replicate behind wounds =
      List.replicate (destroyed + 1) 0 ++ List.replicate behind wounds := by
    rw [List.replicate_succ', List.append_assoc]
    rfl
  rw [next]
  have count : (destroyed : Int) + 1 = (destroyed + 1 : Nat) := by push_cast; rfl
  rw [count]
  cases behind with
  | zero =>
      rw [List.replicate_zero, List.append_nil]
      exact .wipedOut (by push_cast; omega)
  | succ behind => exact .standing (by push_cast at all ⊢; omega) (by omega)

theorem take (describes : Describes wounds models allocation ranks) (sturdy : 1 ≤ wounds)
    (damage : Int) :
    Describes wounds models (allocation.take wounds models damage) (ranks.take damage) := by
  cases describes with
  | @standing destroyed behind removed remaining all wounded =>
      rw [Ranks.take_standing wounded, Allocation.take, if_neg (by dsimp only; omega)]
      dsimp only
      split
      · rename_i gone
        have lethal : remaining - min damage remaining = 0 := by omega
        rw [lethal]
        exact destroy sturdy all
      · rename_i left
        exact .standing all (by omega)
  | @wipedOut destroyed removed remaining all =>
      rw [Ranks.take_wipedOut, Allocation.take, if_pos (by dsimp only; omega)]
      exact .wipedOut all

theorem foldl (describes : Describes wounds models allocation ranks) (sturdy : 1 ≤ wounds)
    (damages : List Int) :
    Describes wounds models (damages.foldl (Allocation.take wounds models) allocation)
      (damages.foldl Ranks.take ranks) := by
  induction damages generalizing allocation ranks with
  | nil => exact describes
  | cons damage damages ih => exact ih (describes.take sturdy damage)

theorem unhurt (sturdy : 1 ≤ wounds) (models : Nat) :
    Describes wounds models ⟨0, 0, wounds⟩ (Ranks.unhurt wounds models) := by
  cases models with
  | zero => exact .wipedOut rfl
  | succ behind => exact @standing _ _ 0 behind _ _ (by push_cast; omega) (by omega)

theorem count_eq (describes : Describes wounds models allocation ranks) (sturdy : 1 ≤ wounds) :
    allocation.destroyed = ranks.destroyed := by
  have sound : wounds ≠ 0 := by omega
  cases describes with
  | standing all wounded =>
      have hurt := Int.ne_of_gt wounded
      simp [Ranks.destroyed, List.count_replicate, sound, hurt]
  | wipedOut all => simp [Ranks.destroyed]

theorem removed_eq (describes : Describes wounds models allocation ranks) :
    allocation.applied = ranks.removed := by
  cases describes <;> rfl

theorem take_zero (describes : Describes wounds models allocation ranks) :
    allocation.take wounds models 0 = allocation := by
  cases describes with
  | standing all wounded =>
      have unhurt := Int.min_eq_left (Int.le_of_lt wounded)
      have left : ¬ _ ≤ (0 : Int) := Int.not_le.mpr wounded
      rw [Allocation.take, if_neg (by dsimp only; omega)]
      simp [unhurt, left]
  | wipedOut all => rw [Allocation.take, if_pos (by dsimp only; omega)]

theorem foldl_filter (describes : Describes wounds models allocation ranks)
    (sturdy : 1 ≤ wounds) (damages : List Int) :
    (damages.filter (· ≠ 0)).foldl (Allocation.take wounds models) allocation =
      damages.foldl (Allocation.take wounds models) allocation := by
  induction damages generalizing allocation ranks with
  | nil => rfl
  | cons damage damages ih =>
      by_cases none : damage = 0
      · rw [List.filter_cons_of_neg (by simpa using none), ih describes, List.foldl_cons, none,
          describes.take_zero]
      · rw [List.filter_cons_of_pos (by simpa using none), List.foldl_cons, List.foldl_cons]
        exact ih (describes.take sturdy damage)

end Allocation.Describes

/-- Allocating damage to a unit comes to what it comes to model by model: the number of models
without wounds, and the wounds removed.  Instances without damage do not count. -/
theorem allocate_eq_ranks (damages : List Int) {wounds models : Int} (sturdy : 1 ≤ wounds)
    (nonneg : 0 ≤ models) :
    (allocate damages wounds models).destroyed =
        (damages.foldl Ranks.take (Ranks.unhurt wounds models.toNat)).destroyed ∧
      (allocate damages wounds models).applied =
        (damages.foldl Ranks.take (Ranks.unhurt wounds models.toNat)).removed ∧
      allocate (damages.filter (· ≠ 0)) wounds models = allocate damages wounds models := by
  obtain ⟨models, rfl⟩ := Int.eq_ofNat_of_zero_le nonneg
  have start := Allocation.Describes.unhurt sturdy models
  have describes := start.foldl sturdy damages
  exact ⟨describes.count_eq sturdy, describes.removed_eq, start.foldl_filter sturdy damages⟩

/-- Three models with two wounds each: the third instance finishes the first model off with a
point to spare, which is lost, and the last one wounds the third model. -/
theorem mixedDamage_eq_ranks :
    (1 : Int) ≤ 2 ∧ (0 : Int) ≤ 3 ∧
      [1, 0, 2, 3, 1].foldl Ranks.take (Ranks.unhurt 2 3) = ⟨[0, 0, 1], 5⟩ ∧
      (allocate [1, 0, 2, 3, 1] 2 3).destroyed = 2 ∧
      (allocate [1, 0, 2, 3, 1] 2 3).applied = 5 ∧
      allocate [1, 2, 3, 1] 2 3 = allocate [1, 0, 2, 3, 1] 2 3 := by
  have left : [1, 0, 2, 3, 1].foldl Ranks.take (Ranks.unhurt 2 3) = ⟨[0, 0, 1], 5⟩ := by decide
  obtain ⟨destroyed, removed, same⟩ :=
    @allocate_eq_ranks [1, 0, 2, 3, 1] 2 3 (by decide) (by decide)
  have three : (3 : Int).toNat = 3 := rfl
  rw [three, left] at destroyed removed
  exact ⟨by decide, by decide, left, destroyed, removed, same⟩

end Skirmish
