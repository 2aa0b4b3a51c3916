import Mathlib.Data.List.Perm.Subperm
import Mathlib.Order.Defs.Unbundled
import Skirmish.Ledger

/-!
# Growth of ledgers

To add a modifier changes the row of its stat only, which gains the modifier.  So a ledger
is confined to the stats that were added to it.  A ledger lies within another one when the
other has all its stats and, stat by stat, all its entries, with their multiplicities.
What a ledger is asked about single stats only grows along this order.
-/

namespace Skirmish.Ledger

/-! ## Adding -/

theorem insertByPriority_perm (modifier : Modifier) (entries : List Modifier) :
    (insertByPriority modifier entries).Perm (modifier :: entries) := by
  induction entries with
  | nil => exact List.Perm.refl _
  | cons entry rest ih =>
      unfold insertByPriority
      split
      · exact List.Perm.refl _
      · exact (ih.cons entry).trans (List.Perm.swap modifier entry rest)

theorem lookup_addToRows (modifier : Modifier) (rows : List (String × List Modifier))
    (stat : String) :
    ((addToRows modifier rows).lookup stat).getD [] =
      if stat = modifier.stat then insertByPriority modifier ((rows.lookup stat).getD [])
      else (rows.lookup stat).getD [] := by
  induction rows with
  | nil =>
      by_cases own : stat = modifier.stat
      · simp [addToRows, own, insertByPriority]
      · have differs : (stat == modifier.stat) = false := beq_eq_false_iff_ne.mpr own
        simp [addToRows, List.lookup_cons, own, differs]
  | cons row rest ih =>
      obtain ⟨head, entries⟩ := row
      unfold addToRows
      by_cases own : stat = head
      · subst own
        by_cases opened : stat = modifier.stat
        · rw [if_pos opened, if_pos opened, List.lookup_cons_self, List.lookup_cons_self]
          rfl
        · rw [if_neg opened, if_neg opened, List.lookup_cons_self, List.lookup_cons_self]
      · have differs : (stat == head) = false := beq_eq_false_iff_ne.mpr own
        by_cases opened : head = modifier.stat
        · have other : stat ≠ modifier.stat := opened ▸ own
          rw [if_pos opened, if_neg other, List.lookup_cons, List.lookup_cons, differs]
        · rw [if_neg opened, List.lookup_cons, List.lookup_cons, differs]
          exact ih

/-- To add a modifier changes the entries of its stat only. -/
theorem entriesFor_add (ledger : Ledger) (modifier : Modifier) (stat : String) :
    (ledger.add modifier).entriesFor stat =
      if stat = modifier.stat then insertByPriority modifier (ledger.entriesFor stat)
      else ledger.entriesFor stat :=
  lookup_addToRows modifier ledger.rows stat

theorem stats_add (ledger : Ledger) (modifier : Modifier) :
    (ledger.add modifier).stats =
      if modifier.stat ∈ ledger.stats then ledger.stats else ledger.stats ++ [modifier.stat] := by
  unfold stats add
  induction ledger.rows with
  | nil => simp [addToRows]
  | cons row rest ih =>
      obtain ⟨head, entries⟩ := row
      unfold addToRows
      by_cases opened : head = modifier.stat
      · simp [opened]
      · rw [if_neg opened, List.map_cons, ih, List.map_cons]
        by_cases later : modifier.stat ∈ rest.map (·.1)
        · rw [if_pos later, if_pos (List.mem_cons_of_mem _ later)]
        · have absent : modifier.stat ∉ head :: rest.map (·.1) :=
            List.not_mem_cons_of_ne_of_not_mem (Ne.symm opened) later
          rw [if_neg later, if_neg absent, List.cons_append]

theorem mem_stats_add {ledger : Ledger} {modifier : Modifier} {stat : String} :
    stat ∈ (ledger.add modifier).stats ↔ stat = modifier.stat ∨ stat ∈ ledger.stats := by
  rw [stats_add]
  split
  · rename_i old
    exact ⟨.inr, fun found => found.elim (fun same => same ▸ old) id⟩
  · rw [List.mem_append, List.mem_singleton, or_comm]

theorem entries_add_perm (ledger : Ledger) (modifier : Modifier) :
    (ledger.add modifier).entries.Perm (modifier :: ledger.entries) := by
  unfold entries add
  induction ledger.rows with
  | nil => exact List.Perm.refl _
  | cons row rest ih =>
      obtain ⟨head, own⟩ := row
      unfold addToRows
      by_cases opened : head = modifier.stat
      · rw [if_pos opened, List.flatMap_cons, List.flatMap_cons, ← List.cons_append]
        exact (insertByPriority_perm modifier own).append_right _
      · rw [if_neg opened, List.flatMap_cons, List.flatMap_cons]
        exact (ih.append_left own).trans List.perm_middle

theorem mem_entries_add {ledger : Ledger} {modifier entry : Modifier} :
    entry ∈ (ledger.add modifier).entries ↔ entry = modifier ∨ entry ∈ ledger.entries :=
  (entries_add_perm ledger modifier).mem_iff.trans List.mem_cons

theorem entriesFor_eq_nil {ledger : Ledger} {stat : String} (absent : stat ∉ ledger.stats) :
    ledger.entriesFor stat = [] := by
  have missing : ledger.rows.lookup stat = none := by
    rw [List.lookup_eq_none_iff]
    intro row member
    refine bne_iff_ne.mpr fun same => absent ?_
    exact same ▸ List.mem_map_of_mem member
  rw [entriesFor, missing, Option.getD_none]

/-- The ledger has only stats of a certain sort, and only entries for such stats. -/
structure Confined (ledger : Ledger) (allowed : String → Prop) : Prop where
  stats : ∀ stat ∈ ledger.stats, allowed stat
  entries : ∀ entry ∈ ledger.entries, allowed entry.stat

namespace Confined

variable {ledger : Ledger} {allowed : String → Prop}

theorem empty : Ledger.empty.Confined allowed :=
  ⟨fun _ member => (List.not_mem_nil member).elim, fun _ member => (List.not_mem_nil member).elim⟩

theorem add (confined : ledger.Confined allowed) {modifier : Modifier}
    (fits : allowed modifier.stat) : (ledger.add modifier).Confined allowed := by
  constructor
  · intro stat member
    rcases mem_stats_add.mp member with rfl | old
    · exact fits
    · exact confined.stats stat old
  · intro entry member
    rcases mem_entries_add.mp member with rfl | old
    · exact fits
    · exact confined.entries entry old

theorem entriesFor_eq_nil (confined : ledger.Confined allowed) {stat : String}
    (barred : ¬ allowed stat) : ledger.entriesFor stat = [] :=
  Ledger.entriesFor_eq_nil fun member => barred (confined.stats stat member)

end Confined

/-- The entries of every stat are of a sort that may depend on the stat. -/
def AllEntries (ledger : Ledger) (good : String → Modifier → Prop) : Prop :=
  ∀ stat, ∀ entry ∈ ledger.entriesFor stat, good stat entry

theorem allEntries_empty {good : String → Modifier → Prop} : empty.AllEntries good :=
  fun _ _ member => (List.not_mem_nil member).elim

theorem AllEntries.add {ledger : Ledger} {good : String → Modifier → Prop}
    (all : ledger.AllEntries good) {modifier : Modifier} (fits : good modifier.stat modifier) :
    (ledger.add modifier).AllEntries good := by
  intro stat entry member
  rw [entriesFor_add] at member
  split at member
  · rename_i own
    have gained := (insertByPriority_perm modifier _).mem_iff.mp member
    rcases List.mem_cons.mp gained with rfl | old
    · exact own ▸ fits
    · exact all stat entry old
  · exact all stat entry member

/-! ## Order -/

/-- The other ledger has all stats and entries of this one. -/
structure Within (ledger other : Ledger) : Prop where
  entries : ∀ stat, (ledger.entriesFor stat).Subperm (other.entriesFor stat)
  stats : ledger.stats ⊆ other.stats

namespace Within

variable {ledger other last : Ledger}

theorem refl (ledger : Ledger) : ledger.Within ledger :=
  ⟨fun _ => List.Subperm.refl _, List.Subset.refl _⟩

theorem trans (first : ledger.Within other) (second : other.Within last) :
    ledger.Within last :=
  ⟨fun stat => (first.entries stat).trans (second.entries stat),
    List.Subset.trans first.stats second.stats⟩

theorem add_both (within : ledger.Within other) (modifier : Modifier) :
    (ledger.add modifier).Within (other.add modifier) := by
  constructor
  · intro stat
    rw [entriesFor_add, entriesFor_add]
    split
    · have both := (List.subperm_cons modifier).mpr (within.entries stat)
      exact (insertByPriority_perm _ _).subperm.trans
        (both.trans (insertByPriority_perm _ _).symm.subperm)
    · exact within.entries stat
  · intro stat member
    rw [mem_stats_add] at member ⊢
    exact member.imp_right fun old => within.stats old

theorem add (ledger : Ledger) (modifier : Modifier) : ledger.Within (ledger.add modifier) := by
  constructor
  · intro stat
    rw [entriesFor_add]
    split
    · exact (List.sublist_cons_self _ _).subperm.trans
        (insertByPriority_perm _ _).symm.subperm
    · exact List.Subperm.refl _
  · intro stat member
    exact mem_stats_add.mpr (.inr member)

theorem has (within : ledger.Within other) {stat : String}
    (granted : ledger.has stat = true) : other.has stat = true := by
  unfold Ledger.has at granted ⊢
  rw [List.any_eq_true] at granted ⊢
  obtain ⟨entry, member, positive⟩ := granted
  exact ⟨entry, (within.entries stat).subset member, positive⟩

end Within

/-! ## Several modifiers -/

/-- The ledger with modifiers added one after the other. -/
def addAll (ledger : Ledger) (modifiers : List Modifier) : Ledger :=
  modifiers.foldl add ledger

theorem entriesFor_addAll_perm (ledger : Ledger) (modifiers : List Modifier) (stat : String) :
    ((ledger.addAll modifiers).entriesFor stat).Perm
      (ledger.entriesFor stat ++ modifiers.filter (·.stat == stat)) := by
  induction modifiers generalizing ledger with
  | nil => simp [addAll]
  | cons modifier rest ih =>
      refine (ih (ledger.add modifier)).trans ?_
      rw [entriesFor_add, List.filter_cons]
      by_cases own : stat = modifier.stat
      · rw [if_pos own, if_pos (beq_iff_eq.mpr own.symm)]
        exact ((insertByPriority_perm _ _).append_right _).trans List.perm_middle.symm
      · rw [if_neg own, if_neg fun same => own (beq_iff_eq.mp same).symm]

theorem mem_stats_addAll {ledger : Ledger} {modifiers : List Modifier} {stat : String} :
    stat ∈ (ledger.addAll modifiers).stats ↔
      stat ∈ ledger.stats ∨ ∃ modifier ∈ modifiers, modifier.stat = stat := by
  induction modifiers generalizing ledger with
  | nil => simp [addAll]
  | cons modifier rest ih =>
      rw [addAll, List.foldl_cons, ← addAll, ih, mem_stats_add, List.exists_mem_cons_iff]
      tauto

/-- It does not matter in which order modifiers are added. -/
theorem Within.addAll_of_perm {modifiers others : List Modifier}
    (perm : modifiers.Perm others) (ledger : Ledger) :
    (ledger.addAll modifiers).Within (ledger.addAll others) := by
  constructor
  · intro stat
    have same := (perm.filter (·.stat == stat)).append_left (ledger.entriesFor stat)
    exact ((entriesFor_addAll_perm ledger modifiers stat).trans
      (same.trans (entriesFor_addAll_perm ledger others stat).symm)).subperm
  · intro stat member
    rw [mem_stats_addAll] at member ⊢
    exact member.imp_right fun ⟨modifier, added, own⟩ => ⟨modifier, perm.mem_iff.mp added, own⟩

end Skirmish.Ledger
