import Skirmish.Proofs.Ledger.Changes

/-!
# Taking back what a source added

Entries of one priority stand in the order of their addition, so modifiers of that priority
are appended to the rows of their stats.  When they have a source of their own, to clear
that source takes back all that they did: their entries go, and so do the rows that they
opened.  The ledger before them is restored, with its stats in order.
-/

namespace Skirmish.Ledger

variable {ledger : Ledger} {modifier : Modifier} {modifiers : List Modifier} {source : String}

/-! ## Level modifiers -/

theorem insertByPriority_eq_append {entries : List Modifier}
    (behind : ∀ entry ∈ entries, entry.priority ≤ modifier.priority) :
    insertByPriority modifier entries = entries ++ [modifier] := by
  induction entries with
  | nil => rfl
  | cons entry rest ih =>
      obtain ⟨here, there⟩ := List.forall_mem_cons.mp behind
      rw [insertByPriority, if_neg (Int.not_lt.mpr here), ih there, List.cons_append]

theorem entriesFor_addAll_of_level {priority : Int}
    (level : ledger.AllEntries fun _ entry => entry.priority = priority)
    (levelToo : ∀ modifier ∈ modifiers, modifier.priority = priority) (stat : String) :
    (ledger.addAll modifiers).entriesFor stat =
      ledger.entriesFor stat ++ modifiers.filter (·.stat == stat) := by
  induction modifiers generalizing ledger with
  | nil => simp [addAll]
  | cons modifier rest ih =>
      obtain ⟨here, there⟩ := List.forall_mem_cons.mp levelToo
      have grown : (ledger.add modifier).AllEntries fun _ entry => entry.priority = priority :=
        level.add here
      have step := ih grown there
      rw [addAll, List.foldl_cons, ← addAll, step, entriesFor_add]
      by_cases own : stat = modifier.stat
      · have behind : ∀ entry ∈ ledger.entriesFor stat, entry.priority ≤ modifier.priority :=
          fun entry member => Int.le_of_eq ((level stat entry member).trans here.symm)
        rw [if_pos own, insertByPriority_eq_append behind, List.filter_cons,
          if_pos (beq_iff_eq.mpr own.symm), List.append_assoc, List.singleton_append]
      · rw [if_neg own, List.filter_cons, if_neg fun same => own (beq_iff_eq.mp same).symm]

theorem entries_addAll_perm (ledger : Ledger) (modifiers : List Modifier) :
    (ledger.addAll modifiers).entries.Perm (ledger.entries ++ modifiers) := by
  induction modifiers generalizing ledger with
  | nil => simp [addAll]
  | cons modifier rest ih =>
      have step := (entries_add_perm ledger modifier).append_right rest
      exact (ih (ledger.add modifier)).trans (step.trans List.perm_middle.symm)

/-! ## Clearing -/

theorem filter_insertByPriority_of_own (entries : List Modifier) :
    (insertByPriority modifier entries).filter (·.source != modifier.source) =
      entries.filter (·.source != modifier.source) := by
  induction entries with
  | nil => simp [insertByPriority]
  | cons entry rest ih =>
      unfold insertByPriority
      split
      · rw [List.filter_cons_of_neg (by simp)]
      · rw [List.filter_cons, List.filter_cons, ih]

theorem clearSource_add (ledger : Ledger) (modifier : Modifier) :
    (ledger.add modifier).clearSource modifier.source = ledger.clearSource modifier.source := by
  obtain ⟨rows⟩ := ledger
  unfold add
  suffices same : ((Ledger.mk (addToRows modifier rows)).clearSource modifier.source).rows =
      ((Ledger.mk rows).clearSource modifier.source).rows from congrArg Ledger.mk same
  induction rows with
  | nil => simp [addToRows, clearSource]
  | cons row rest ih =>
      obtain ⟨stat, entries⟩ := row
      dsimp only [addToRows]
      split
      · rw [rows_clearSource_cons, rows_clearSource_cons, filter_insertByPriority_of_own]
      · rw [rows_clearSource_cons, rows_clearSource_cons, ih]

theorem clearSource_addAll (own : ∀ modifier ∈ modifiers, modifier.source = source) :
    (ledger.addAll modifiers).clearSource source = ledger.clearSource source := by
  induction modifiers generalizing ledger with
  | nil => rfl
  | cons modifier rest ih =>
      obtain ⟨rfl, others⟩ := List.forall_mem_cons.mp own
      rw [addAll, List.foldl_cons, ← addAll, ih others, clearSource_add]

theorem clearSource_eq_self (opened : ∀ row ∈ ledger.rows, row.2 ≠ [])
    (foreign : ∀ entry ∈ ledger.entries, entry.source ≠ source) :
    ledger.clearSource source = ledger := by
  obtain ⟨rows⟩ := ledger
  suffices same : ((Ledger.mk rows).clearSource source).rows = rows from congrArg Ledger.mk same
  induction rows with
  | nil => rfl
  | cons row rest ih =>
      obtain ⟨stat, entries⟩ := row
      obtain ⟨openedHere, openedThere⟩ := List.forall_mem_cons.mp opened
      rw [Ledger.entries, List.flatMap_cons, List.forall_mem_append] at foreign
      have kept : entries.filter (·.source != source) = entries :=
        List.filter_eq_self.mpr fun entry member => bne_iff_ne.mpr (foreign.1 entry member)
      rw [rows_clearSource_cons, kept, if_neg openedHere, ih openedThere foreign.2]

/-- To clear a source that had no entries takes back all that it added since. -/
theorem clearSource_addAll_of_foreign (opened : ∀ row ∈ ledger.rows, row.2 ≠ [])
    (foreign : ∀ entry ∈ ledger.entries, entry.source ≠ source)
    (own : ∀ modifier ∈ modifiers, modifier.source = source) :
    (ledger.addAll modifiers).clearSource source = ledger := by
  rw [clearSource_addAll own, clearSource_eq_self opened foreign]

theorem countSource_addAll_of_foreign
    (foreign : ∀ entry ∈ ledger.entries, entry.source ≠ source)
    (own : ∀ modifier ∈ modifiers, modifier.source = source) :
    (ledger.addAll modifiers).countSource source = modifiers.length := by
  have none : ledger.entries.countP (·.source == source) = 0 :=
    List.countP_eq_zero.mpr fun entry member same =>
      foreign entry member (beq_iff_eq.mp same)
  have all : modifiers.countP (·.source == source) = modifiers.length :=
    List.countP_eq_length.mpr fun modifier member => beq_iff_eq.mpr (own modifier member)
  rw [countSource, (entries_addAll_perm ledger modifiers).countP_eq, List.countP_append, none,
    all, Nat.zero_add]

end Skirmish.Ledger
