import Mathlib.Data.List.Basic

/-!
# Stable sorting

A total preorder ties some items with one another.  A sorted list is determined by its
ties: by the items tied with each item, in their order.  Merge sort is stable, so it keeps
all ties, and therefore sorting commutes with the selection of items.
-/

namespace Skirmish

variable {α : Type} {le : α → α → Bool} {items others : List α}

/-- Neither of the items comes before the other. -/
def isTied (le : α → α → Bool) (first second : α) : Bool :=
  le first second && le second first

section

variable (total : ∀ first second, (le first second || le second first) = true)

include total

theorem isTied_self (item : α) : isTied le item item = true := by
  have own := total item item
  rw [Bool.or_self] at own
  simp [isTied, own]

theorem mem_of_filter_isTied_eq {item : α}
    (same : items.filter (isTied le item) = others.filter (isTied le item))
    (member : item ∈ items) : item ∈ others := by
  have kept := List.mem_filter.mpr ⟨member, isTied_self total item⟩
  rw [same] at kept
  exact (List.mem_filter.mp kept).1

theorem le_head_of_sorted {first item : α} (sorted : (first :: items).Pairwise (le · ·))
    (member : item ∈ first :: items) : le first item = true := by
  rcases List.mem_cons.mp member with rfl | later
  · simpa using total item item
  · exact List.rel_of_pairwise_cons sorted later

/-- Sorted lists with the same ties are the same. -/
theorem eq_of_sorted_of_filter_isTied_eq (sorted : items.Pairwise (le · ·))
    (sortedOther : others.Pairwise (le · ·))
    (same : ∀ item, items.filter (isTied le item) = others.filter (isTied le item)) :
    items = others := by
  induction items generalizing others with
  | nil =>
      have none (item : α) : item ∉ others := fun member =>
        List.not_mem_nil (mem_of_filter_isTied_eq total (same item).symm member)
      exact (List.eq_nil_iff_forall_not_mem.mpr none).symm
  | cons first rest ih =>
      have firstMember := mem_of_filter_isTied_eq total (same first) List.mem_cons_self
      cases others with
      | nil => exact (List.not_mem_nil firstMember).elim
      | cons second others =>
          have secondMember :=
            mem_of_filter_isTied_eq total (same second).symm List.mem_cons_self
          have tied : isTied le first second = true := by
            simp [isTied, le_head_of_sorted total sorted secondMember,
              le_head_of_sorted total sortedOther firstMember]
          -- Both heads lead the ties of the first one.
          have heads := same first
          rw [List.filter_cons_of_pos (isTied_self total first),
            List.filter_cons_of_pos tied] at heads
          obtain ⟨rfl, -⟩ := List.cons.inj heads
          refine congrArg (first :: ·) (ih sorted.of_cons sortedOther.of_cons fun item => ?_)
          have all := same item
          rw [List.filter_cons, List.filter_cons] at all
          split at all
          · exact (List.cons.inj all).2
          · exact all

variable (trans : ∀ first second third, le first second = true → le second third = true →
  le first third = true)

include trans

theorem filter_isTied_mergeSort (items : List α) (item : α) :
    (items.mergeSort le).filter (isTied le item) = items.filter (isTied le item) := by
  have ties : (items.filter (isTied le item)).Pairwise (le · ·) := by
    refine List.pairwise_iff_forall_sublist.mpr fun {first second} sub => ?_
    have tied {other : α} (member : other ∈ [first, second]) :
        le item other = true ∧ le other item = true := by
      have kept := (List.mem_filter.mp (sub.subset member)).2
      simpa [isTied] using kept
    exact trans _ _ _ (tied (by simp)).2 (tied (by simp)).1
  have within : (items.filter (isTied le item)).Sublist (items.mergeSort le) :=
    List.sublist_mergeSort trans total ties List.filter_sublist
  have kept := within.filter (isTied le item)
  rw [List.filter_filter] at kept
  simp only [Bool.and_self] at kept
  have length := ((List.mergeSort_perm items le).filter (isTied le item)).length_eq
  exact (kept.eq_of_length length.symm).symm

/-- To sort and to select commute. -/
theorem filter_mergeSort (items : List α) (selected : α → Bool) :
    (items.mergeSort le).filter selected = (items.filter selected).mergeSort le := by
  have sorted := List.pairwise_mergeSort trans total items
  refine eq_of_sorted_of_filter_isTied_eq total (sorted.filter selected)
    (List.pairwise_mergeSort trans total _) fun item => ?_
  calc ((items.mergeSort le).filter selected).filter (isTied le item)
      = ((items.mergeSort le).filter (isTied le item)).filter selected :=
        List.filter_comm ..
    _ = (items.filter (isTied le item)).filter selected := by
        rw [filter_isTied_mergeSort total trans]
    _ = (items.filter selected).filter (isTied le item) := List.filter_comm ..
    _ = ((items.filter selected).mergeSort le).filter (isTied le item) :=
        (filter_isTied_mergeSort total trans _ item).symm

end

end Skirmish
