import Mathlib.Algebra.Order.BigOperators.Group.List
import Mathlib.Tactic.Linarith
import Skirmish.Volley.Phases

/-!
# Tallies and allocations

The numbers of a phase are counted record by record.  Here is, for each of the loops,
what one step keeps and so what the whole loop keeps: every success of a tally is
accounted for by what it scored, and every point of an allocation by the models
destroyed and the wounds that the current model has lost.
-/

namespace Skirmish

/-! ## Hits -/

/-- Every success scored one hit or one automatic wound, and every critical success
`sustained` hits more. -/
structure HitTally.Sound (sustained : Int) (lethal : Bool) (tally : HitTally) : Prop where
  split : tally.hits + tally.autoWounds = tally.successes + sustained * tally.criticals
  autoWounds_eq : tally.autoWounds = if lethal then tally.criticals else 0
  hits_nonneg : 0 ≤ tally.hits
  criticals_nonneg : 0 ≤ tally.criticals

namespace HitTally.Sound

variable {sustained : Int} {lethal : Bool} {tally : HitTally}

theorem count (sound : tally.Sound sustained lethal) (nonneg : 0 ≤ sustained)
    (success : Int → Bool) (record : RollRecord) :
    (tally.count success sustained lethal record).Sound sustained lethal := by
  obtain ⟨split, autoWounds_eq, hits_nonneg, criticals_nonneg⟩ := sound
  unfold HitTally.count
  by_cases failed : (!success record.value) = true
  · rw [if_pos failed]
    exact ⟨split, autoWounds_eq, hits_nonneg, criticals_nonneg⟩
  by_cases plain : (!record.critical) = true
  · rw [if_neg failed, if_pos plain]
    exact ⟨by dsimp only; omega, autoWounds_eq, by dsimp only; omega, criticals_nonneg⟩
  rw [if_neg failed, if_neg plain]
  -- A critical success adds `sustained`, and one more, on either side of the split.
  have further : sustained * (tally.criticals + 1) = sustained * tally.criticals + sustained := by
    rw [mul_add, mul_one]
  cases lethal with
  | false =>
      simp only [Bool.false_eq_true, if_false] at autoWounds_eq ⊢
      exact ⟨by dsimp only; omega, by simpa using autoWounds_eq, by dsimp only; omega,
        by dsimp only; omega⟩
  | true =>
      simp only [if_true] at autoWounds_eq ⊢
      exact ⟨by dsimp only; omega, by simpa using autoWounds_eq, by dsimp only; omega,
        by dsimp only; omega⟩

theorem foldl (sound : tally.Sound sustained lethal) (nonneg : 0 ≤ sustained)
    (success : Int → Bool) (records : List RollRecord) :
    (records.foldl (HitTally.count success sustained lethal) tally).Sound sustained
      lethal := by
  induction records generalizing tally with
  | nil => exact sound
  | cons record records ih =>
      rw [List.foldl_cons]
      exact ih (sound.count nonneg success record)

end HitTally.Sound

/-! ## Wounds -/

/-- Of `autoWounds` wounds scored before, and the successes among `rolled` records,
each is a wound that may be saved or one that bypasses saves. -/
structure WoundTally.Sound (autoWounds : Int) (rolled : Nat) (tally : WoundTally) :
    Prop where
  split : tally.wounds + tally.bypassing = autoWounds + tally.successes
  wounds_nonneg : 0 ≤ tally.wounds
  bypassing_nonneg : 0 ≤ tally.bypassing
  successes_nonneg : 0 ≤ tally.successes
  successes_le : tally.successes ≤ rolled

namespace WoundTally.Sound

variable {autoWounds : Int} {rolled : Nat} {tally : WoundTally}

theorem count (sound : tally.Sound autoWounds rolled) (success : Int → Bool)
    (devastating : Bool) (record : RollRecord) :
    (tally.count success devastating record).Sound autoWounds (rolled + 1) := by
  obtain ⟨split, wounds_nonneg, bypassing_nonneg, successes_nonneg, successes_le⟩ := sound
  unfold WoundTally.count
  split_ifs <;> constructor <;> push_cast <;> omega

theorem foldl (sound : tally.Sound autoWounds rolled) (success : Int → Bool)
    (devastating : Bool) (records : List RollRecord) :
    (records.foldl (WoundTally.count success devastating) tally).Sound autoWounds
      (rolled + records.length) := by
  induction records generalizing tally rolled with
  | nil => exact sound
  | cons record records ih =>
      rw [List.foldl_cons, List.length_cons, Nat.add_comm records.length, ← Nat.add_assoc]
      exact ih (sound.count success devastating record)

end WoundTally.Sound

/-! ## Damage -/

/-- Instances that do a point of damage at least do as many points together as there are
of them. -/
theorem length_le_sumOf {damages : List Int} (positive : ∀ damage ∈ damages, 1 ≤ damage) :
    (damages.length : Int) ≤ sumOf damages := by
  induction damages with
  | nil => simp
  | cons damage damages ih =>
      have head := positive damage (by simp)
      have tail := ih fun other member => positive other (by simp [member])
      rw [List.length_cons, sumOf_cons]
      push_cast
      omega

/-- Of each instance of damage no more points are negated than it has, and what is
negated and what is left make up the damage. -/
theorem negated_add_remaining {damages : List Int} {rolled : List (List Nat)}
    {negated : List Nat → Int} (within : ∀ faces, 0 ≤ negated faces ∧ negated faces ≤ faces.length)
    (lengths : List.Forall₂ (fun damage (faces : List Nat) => faces.length = Int.toNat damage)
      damages rolled)
    (nonneg : ∀ damage ∈ damages, 0 ≤ damage) :
    sumOf (rolled.map negated) +
        sumOf (damages.zipWith (fun damage faces => damage - negated faces) rolled) =
      sumOf damages ∧
    ∀ left ∈ damages.zipWith (fun damage faces => damage - negated faces) rolled,
      0 ≤ left := by
  induction lengths with
  | nil => simp
  | @cons damage faces damages rolled length lengths ih =>
      obtain ⟨sums, lefts⟩ := ih fun other member => nonneg other (by simp [member])
      have head := nonneg damage (by simp)
      have bound := (within faces).2
      constructor
      · simp only [List.map_cons, List.zipWith_cons_cons, sumOf_cons]
        omega
      · intro left member
        rw [List.zipWith_cons_cons, List.mem_cons] at member
        rcases member with rfl | member
        · omega
        · exact lefts left member

/-! ## Allocation -/

/-- The points applied are those of the destroyed models, of `wounds` wounds each, and
those that the current model has lost.  Behind the last model there is none to lose
any. -/
structure Allocation.Sound (wounds models : Int) (allocation : Allocation) : Prop where
  applied_eq : allocation.applied =
    allocation.destroyed * wounds + (wounds - allocation.remaining)
  remaining_pos : 0 < allocation.remaining
  remaining_le : allocation.remaining ≤ wounds
  destroyed_nonneg : 0 ≤ allocation.destroyed
  destroyed_le : allocation.destroyed ≤ models
  unhurt : allocation.destroyed = models → allocation.remaining = wounds

namespace Allocation

variable {wounds models damage : Int} {allocation : Allocation}

theorem Sound.take (sound : allocation.Sound wounds models) (nonneg : 0 ≤ damage) :
    (allocation.take wounds models damage).Sound wounds models ∧
      (allocation.take wounds models damage).applied ≤ allocation.applied + damage := by
  obtain ⟨applied_eq, remaining_pos, remaining_le, destroyed_nonneg, destroyed_le, unhurt⟩ :=
    sound
  unfold Allocation.take
  by_cases allDestroyed : models ≤ allocation.destroyed
  · rw [if_pos allDestroyed]
    exact ⟨⟨applied_eq, remaining_pos, remaining_le, destroyed_nonneg, destroyed_le, unhurt⟩,
      by omega⟩
  rw [if_neg allDestroyed]
  have le_damage := min_le_left damage allocation.remaining
  have le_remaining := min_le_right damage allocation.remaining
  have dealt_nonneg := le_min nonneg remaining_pos.le
  dsimp only
  generalize min damage allocation.remaining = dealt at *
  by_cases gone : allocation.remaining - dealt ≤ 0
  · -- All wounds of the model were dealt, and the next one is unhurt.
    rw [if_pos gone]
    have next : (allocation.destroyed + 1) * wounds =
        allocation.destroyed * wounds + wounds := by
      rw [add_mul, one_mul]
    exact ⟨⟨by dsimp only; omega, by dsimp only; omega, le_refl _, by dsimp only; omega,
      by dsimp only; omega, fun _ => rfl⟩, by dsimp only; omega⟩
  · rw [if_neg gone]
    refine ⟨⟨by dsimp only; omega, by dsimp only; omega, by dsimp only; omega,
      destroyed_nonneg, destroyed_le, fun all => ?_⟩, by dsimp only; omega⟩
    dsimp only at all
    omega

theorem Sound.foldl {damages : List Int} (sound : allocation.Sound wounds models)
    (nonneg : ∀ damage ∈ damages, 0 ≤ damage) :
    (damages.foldl (Allocation.take wounds models) allocation).Sound wounds models ∧
      (damages.foldl (Allocation.take wounds models) allocation).applied ≤
        allocation.applied + sumOf damages := by
  induction damages generalizing allocation with
  | nil => exact ⟨sound, by simp⟩
  | cons damage damages ih =>
      obtain ⟨soundNext, appliedNext⟩ := sound.take (nonneg damage (by simp))
      obtain ⟨soundAll, appliedAll⟩ := ih soundNext fun other member =>
        nonneg other (by simp [member])
      rw [List.foldl_cons, sumOf_cons]
      exact ⟨soundAll, by omega⟩

/-- What is applied pays for the models destroyed, not for one more, and not for more
than there are. -/
theorem Sound.paid (sound : allocation.Sound wounds models) :
    allocation.destroyed * wounds ≤ allocation.applied ∧
      allocation.applied < (allocation.destroyed + 1) * wounds ∧
      allocation.applied ≤ wounds * models := by
  obtain ⟨applied_eq, remaining_pos, remaining_le, destroyed_nonneg, destroyed_le, unhurt⟩ :=
    sound
  have next : (allocation.destroyed + 1) * wounds = allocation.destroyed * wounds + wounds := by
    rw [add_mul, one_mul]
  refine ⟨by omega, by omega, ?_⟩
  rw [mul_comm wounds models]
  by_cases all : allocation.destroyed = models
  · rw [applied_eq, unhurt all, all]
    omega
  · have paid : (allocation.destroyed + 1) * wounds ≤ models * wounds :=
      mul_le_mul_of_nonneg_right (by omega) (by omega)
    omega

end Allocation

theorem allocate_sound {damages : List Int} {wounds : Int} (models : Nat)
    (positive : 0 < wounds) (nonneg : ∀ damage ∈ damages, 0 ≤ damage) :
    (allocate damages wounds models).Sound wounds models ∧
      (allocate damages wounds models).applied ≤ sumOf damages := by
  have start : Allocation.Sound wounds models ⟨0, 0, wounds⟩ :=
    ⟨by simp, positive, le_refl _, le_refl _, by simp, fun _ => rfl⟩
  simpa [allocate] using start.foldl nonneg

end Skirmish
