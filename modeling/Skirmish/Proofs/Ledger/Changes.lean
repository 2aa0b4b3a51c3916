import Mathlib.Data.List.Induction
import Mathlib.Data.List.Nodup
import Skirmish.Proofs.Ledger
import Skirmish.Proofs.StableSort

/-!
# Changes to a ledger

A ledger is changed by adding modifiers and by clearing sources.  Its history alone says
what it holds: a modifier survives unless its source is cleared after the modifier was
added, and each stat has its survivors, sorted by priority, ties in the order of addition.
The invariant `Ledger.Holds` relates a ledger to its survivors; each change keeps it.
-/

namespace Skirmish

/-- The modifier stands no later than another one by its priority. -/
def Modifier.isNoLater (modifier other : Modifier) : Bool :=
  modifier.priority ≤ other.priority

theorem Modifier.isNoLater_total (first second : Modifier) :
    (first.isNoLater second || second.isNoLater first) = true := by
  simp only [isNoLater, Bool.or_eq_true, decide_eq_true_eq]
  omega

theorem Modifier.isNoLater_trans (first second third : Modifier)
    (before : first.isNoLater second = true) (after : second.isNoLater third = true) :
    first.isNoLater third = true := by
  simp only [isNoLater, decide_eq_true_eq] at before after ⊢
  omega

/-- Modifiers in the order of their priorities.  Those of one priority keep their order. -/
def Modifier.inOrder (modifiers : List Modifier) : List Modifier :=
  modifiers.mergeSort isNoLater

namespace Ledger

/-- A change to a ledger. -/
inductive Change where
  | add (modifier : Modifier)
  | clear (source : String)
  deriving DecidableEq, Repr

def change (ledger : Ledger) : Change → Ledger
  | .add modifier => ledger.add modifier
  | .clear source => ledger.clearSource source

/-- A new ledger after changes, the first one first. -/
def after (changes : List Change) : Ledger :=
  changes.foldl change empty

/-- The modifiers whose source was not cleared after they were added, in the order of
their addition. -/
def survivors : List Change → List Modifier
  | [] => []
  | .add modifier :: later =>
    if .clear modifier.source ∈ later then survivors later else modifier :: survivors later
  | .clear _ :: later => survivors later

/-! ## Survivors -/

theorem survivors_append_add (changes : List Change) (modifier : Modifier) :
    survivors (changes ++ [.add modifier]) = survivors changes ++ [modifier] := by
  induction changes with
  | nil => simp [survivors]
  | cons first later ih =>
      cases first with
      | clear source => simpa [survivors] using ih
      | add earlier =>
          have same : Change.clear earlier.source ∈ later ++ [.add modifier] ↔
              .clear earlier.source ∈ later := by simp
          simp only [List.cons_append, survivors, same, ih]
          split <;> simp

theorem survivors_append_clear (changes : List Change) (source : String) :
    survivors (changes ++ [.clear source]) =
      (survivors changes).filter (·.source != source) := by
  induction changes with
  | nil => simp [survivors]
  | cons first later ih =>
      cases first with
      | clear earlier => simpa [survivors] using ih
      | add earlier =>
          have cleared : Change.clear earlier.source ∈ later ++ [.clear source] ↔
              .clear earlier.source ∈ later ∨ earlier.source = source := by simp
          simp only [List.cons_append, survivors, cleared, ih]
          by_cases before : Change.clear earlier.source ∈ later
          · simp [before]
          · by_cases own : earlier.source = source
            · subst own
              simp [before]
            · simp [before, own]

/-! ## Insertion -/

theorem insertByPriority_sorted (modifier : Modifier) {entries : List Modifier}
    (sorted : entries.Pairwise (·.isNoLater ·)) :
    (insertByPriority modifier entries).Pairwise (·.isNoLater ·) := by
  induction entries with
  | nil => exact List.pairwise_singleton _ _
  | cons entry rest ih =>
      obtain ⟨first, later⟩ := List.pairwise_cons.mp sorted
      unfold insertByPriority
      split
      · rename_i before
        have leads : modifier.isNoLater entry = true := by
          simp only [Modifier.isNoLater, decide_eq_true_eq]
          omega
        refine List.pairwise_cons.mpr ⟨fun other member => ?_, sorted⟩
        rcases List.mem_cons.mp member with rfl | member
        · exact leads
        · exact Modifier.isNoLater_trans _ _ _ leads (first other member)
      · rename_i notBefore
        refine List.pairwise_cons.mpr ⟨fun other member => ?_, ih later⟩
        have member := (insertByPriority_perm modifier rest).mem_iff.mp member
        rcases List.mem_cons.mp member with rfl | member
        · simp only [Modifier.isNoLater, decide_eq_true_eq]
          omega
        · exact first other member

/-- A modifier is inserted behind all entries that it is tied with. -/
theorem filter_isTied_insertByPriority (modifier item : Modifier) {entries : List Modifier}
    (sorted : entries.Pairwise (·.isNoLater ·)) :
    (insertByPriority modifier entries).filter (isTied Modifier.isNoLater item) =
      (entries ++ [modifier]).filter (isTied Modifier.isNoLater item) := by
  induction entries with
  | nil => rfl
  | cons entry rest ih =>
      obtain ⟨first, later⟩ := List.pairwise_cons.mp sorted
      unfold insertByPriority
      split
      · rename_i before
        by_cases own : isTied Modifier.isNoLater item modifier
        · -- Nothing that stands behind the modifier has its priority.
          have none : (entry :: rest).filter (isTied Modifier.isNoLater item) = [] := by
            refine List.filter_eq_nil_iff.mpr fun other member tied => ?_
            have behind := le_head_of_sorted Modifier.isNoLater_total sorted member
            simp only [isTied, Modifier.isNoLater, Bool.and_eq_true, decide_eq_true_eq]
              at own tied behind
            omega
          rw [List.filter_append, none, List.filter_cons_of_pos own, none]
          simp [own]
        · rw [List.filter_append, List.filter_cons_of_neg own]
          simp [own]
      · rw [List.cons_append, List.filter_cons, List.filter_cons, ih later]

theorem insertByPriority_inOrder (modifier : Modifier) (modifiers : List Modifier) :
    insertByPriority modifier (Modifier.inOrder modifiers) =
      Modifier.inOrder (modifiers ++ [modifier]) := by
  have sorted (modifiers : List Modifier) :
      (Modifier.inOrder modifiers).Pairwise (·.isNoLater ·) :=
    List.pairwise_mergeSort Modifier.isNoLater_trans Modifier.isNoLater_total modifiers
  have kept := filter_isTied_mergeSort Modifier.isNoLater_total Modifier.isNoLater_trans
  refine eq_of_sorted_of_filter_isTied_eq Modifier.isNoLater_total
    (insertByPriority_sorted modifier (sorted _)) (sorted _) fun item => ?_
  rw [filter_isTied_insertByPriority modifier item (sorted _), List.filter_append]
  unfold Modifier.inOrder
  rw [kept, kept, List.filter_append]

theorem rows_add_ne_nil {ledger : Ledger} (opened : ∀ row ∈ ledger.rows, row.2 ≠ [])
    (modifier : Modifier) : ∀ row ∈ (ledger.add modifier).rows, row.2 ≠ [] := by
  obtain ⟨rows⟩ := ledger
  unfold add
  induction rows with
  | nil => simp [addToRows]
  | cons row rest ih =>
      obtain ⟨head, entries⟩ := row
      obtain ⟨first, later⟩ := List.forall_mem_cons.mp opened
      have inserted : insertByPriority modifier entries ≠ [] := fun none => by
        simpa [none] using (insertByPriority_perm modifier entries).length_eq
      unfold addToRows
      split
      · exact List.forall_mem_cons.mpr ⟨inserted, later⟩
      · exact List.forall_mem_cons.mpr ⟨first, ih later⟩

/-! ## Clearing -/

theorem rows_clearSource_cons (stat source : String) (entries : List Modifier)
    (rest : List (String × List Modifier)) :
    ((Ledger.mk ((stat, entries) :: rest)).clearSource source).rows =
      if entries.filter (·.source != source) = [] then ((Ledger.mk rest).clearSource source).rows
      else (stat, entries.filter (·.source != source)) ::
        ((Ledger.mk rest).clearSource source).rows := by
  simp only [clearSource, List.map_cons, List.filter_cons]
  cases entries.filter (·.source != source) <;> rfl

theorem entries_clearSource (ledger : Ledger) (source : String) :
    (ledger.clearSource source).entries = ledger.entries.filter (·.source != source) := by
  obtain ⟨rows⟩ := ledger
  induction rows with
  | nil => rfl
  | cons row rest ih =>
      obtain ⟨head, own⟩ := row
      unfold entries at ih ⊢
      rw [rows_clearSource_cons, List.flatMap_cons, List.filter_append, ← ih]
      split
      · rename_i emptied
        rw [emptied, List.nil_append]
      · rw [List.flatMap_cons]

theorem stats_clearSource_sublist (ledger : Ledger) (source : String) :
    (ledger.clearSource source).stats.Sublist ledger.stats := by
  obtain ⟨rows⟩ := ledger
  induction rows with
  | nil => exact List.Sublist.refl _
  | cons row rest ih =>
      obtain ⟨head, own⟩ := row
      unfold stats at ih ⊢
      rw [rows_clearSource_cons]
      split
      · exact ih.cons _
      · exact ih.cons_cons _

/-- Clearing a source clears it from the entries of each stat, as long as no stat has two
rows. -/
theorem entriesFor_clearSource {ledger : Ledger} (distinct : ledger.stats.Nodup)
    (source stat : String) :
    (ledger.clearSource source).entriesFor stat =
      (ledger.entriesFor stat).filter (·.source != source) := by
  obtain ⟨rows⟩ := ledger
  induction rows with
  | nil => rfl
  | cons row rest ih =>
      obtain ⟨head, own⟩ := row
      obtain ⟨single, distinctRest⟩ := List.nodup_cons.mp distinct
      have step := ih distinctRest
      unfold entriesFor at step ⊢
      rw [rows_clearSource_cons]
      by_cases same : stat = head
      · subst same
        rw [List.lookup_cons_self, Option.getD_some]
        split
        · -- The row of the stat is gone, and there is no other one.
          rename_i emptied
          have absent : stat ∉ ((Ledger.mk rest).clearSource source).stats := fun member =>
            single ((stats_clearSource_sublist _ source).subset member)
          exact (entriesFor_eq_nil absent).trans emptied.symm
        · rw [List.lookup_cons_self, Option.getD_some]
      · have differs : (stat == head) = false := beq_eq_false_iff_ne.mpr same
        rw [List.lookup_cons, differs]
        split
        · exact step
        · rw [List.lookup_cons, differs]
          exact step

theorem entries_eq_flatMap {ledger : Ledger} (distinct : ledger.stats.Nodup) :
    ledger.entries = ledger.stats.flatMap ledger.entriesFor := by
  obtain ⟨rows⟩ := ledger
  induction rows with
  | nil => rfl
  | cons row rest ih =>
      obtain ⟨head, own⟩ := row
      obtain ⟨single, distinctRest⟩ := List.nodup_cons.mp distinct
      have others := ih distinctRest
      unfold entries stats entriesFor at *
      rw [List.flatMap_cons, List.map_cons, List.flatMap_cons, others]
      dsimp only
      rw [List.lookup_cons_self, Option.getD_some]
      refine congrArg (own ++ ·) (List.flatMap_congr fun stat member => ?_)
      have differs : (stat == head) = false :=
        beq_eq_false_iff_ne.mpr fun same => single (same ▸ member)
      rw [List.lookup_cons, differs]

/-! ## The invariant -/

/-- What the ledger holds is the given modifiers: each stat has a single row, with its
modifiers in order, and no row is empty. -/
structure Holds (ledger : Ledger) (modifiers : List Modifier) : Prop where
  distinct : ledger.stats.Nodup
  opened : ∀ row ∈ ledger.rows, row.2 ≠ []
  entriesFor : ∀ stat,
    ledger.entriesFor stat = Modifier.inOrder (modifiers.filter (·.stat == stat))
  entries : ledger.entries.Perm modifiers

namespace Holds

variable {ledger : Ledger} {modifiers : List Modifier}

theorem empty : Ledger.empty.Holds [] where
  distinct := List.nodup_nil
  opened row member := (List.not_mem_nil member).elim
  entriesFor stat := by simp [Ledger.entriesFor, Ledger.empty, Modifier.inOrder]
  entries := List.Perm.refl _

theorem add (holds : ledger.Holds modifiers) (modifier : Modifier) :
    (ledger.add modifier).Holds (modifiers ++ [modifier]) where
  distinct := by
    rw [stats_add]
    split
    · exact holds.distinct
    · rename_i fresh
      rw [← List.concat_eq_append]
      exact List.Nodup.concat fresh holds.distinct
  opened := rows_add_ne_nil holds.opened modifier
  entriesFor stat := by
    rw [entriesFor_add, holds.entriesFor, List.filter_append]
    split
    · rename_i own
      rw [insertByPriority_inOrder]
      simp [own]
    · rename_i other
      have none : [modifier].filter (·.stat == stat) = [] := by simp [Ne.symm other]
      rw [none, List.append_nil]
  entries :=
    (entries_add_perm ledger modifier).trans
      ((holds.entries.cons modifier).trans (List.perm_append_singleton _ _).symm)

theorem addAll (holds : ledger.Holds modifiers) (more : List Modifier) :
    (ledger.addAll more).Holds (modifiers ++ more) := by
  induction more generalizing ledger modifiers with
  | nil => simpa [Ledger.addAll] using holds
  | cons modifier rest ih =>
      have added := ih (holds.add modifier)
      rwa [List.append_assoc, List.singleton_append] at added

theorem clearSource (holds : ledger.Holds modifiers) (source : String) :
    (ledger.clearSource source).Holds (modifiers.filter (·.source != source)) where
  distinct := holds.distinct.sublist (stats_clearSource_sublist ledger source)
  opened row member := by
    have kept := (List.mem_filter.mp member).2
    simpa using kept
  entriesFor stat := by
    rw [entriesFor_clearSource holds.distinct, holds.entriesFor, Modifier.inOrder,
      filter_mergeSort Modifier.isNoLater_total Modifier.isNoLater_trans, List.filter_comm]
    rfl
  entries := by
    rw [entries_clearSource]
    exact holds.entries.filter _

theorem entriesFor_ne_nil_iff (holds : ledger.Holds modifiers) {stat : String} :
    ledger.entriesFor stat ≠ [] ↔ stat ∈ ledger.stats := by
  constructor
  · intro some
    by_contra absent
    exact some (entriesFor_eq_nil absent)
  · intro member
    have found : (ledger.rows.lookup stat).isSome := by
      obtain ⟨row, opened, rfl⟩ := List.mem_map.mp member
      exact List.lookup_isSome_iff.mpr ⟨row, opened, beq_self_eq_true _⟩
    obtain ⟨entries, looked⟩ := Option.isSome_iff_exists.mp found
    obtain ⟨before, behind, rows, -⟩ := List.lookup_eq_some_iff.mp looked
    have opened := holds.opened (stat, entries) (by simp [rows])
    rwa [Ledger.entriesFor, looked, Option.getD_some]

theorem mem_stats_iff (holds : ledger.Holds modifiers) {stat : String} :
    stat ∈ ledger.stats ↔ ∃ modifier ∈ modifiers, modifier.stat = stat := by
  rw [← holds.entriesFor_ne_nil_iff, holds.entriesFor, ← List.length_pos_iff,
    Modifier.inOrder, List.length_mergeSort, List.length_pos_iff_exists_mem]
  simp

end Holds

/-- A new ledger holds what survives its changes. -/
theorem holds_after (changes : List Change) : (after changes).Holds (survivors changes) := by
  induction changes using List.reverseRecOn with
  | nil => exact .empty
  | append_singleton earlier last ih =>
      unfold after at ih ⊢
      rw [List.foldl_append, List.foldl_cons, List.foldl_nil]
      cases last with
      | add modifier =>
          rw [survivors_append_add]
          exact ih.add modifier
      | clear source =>
          rw [survivors_append_clear]
          exact ih.clearSource source

/-- A ledger has the survivors of its history: each stat has its own in order, the stats
are those that have one, and the size is their number.  To clear a source now removes as
many entries as are counted for it. -/
theorem after_holds_survivors (changes : List Change) :
    (∀ stat, (after changes).entriesFor stat =
      Modifier.inOrder ((survivors changes).filter (·.stat == stat))) ∧
    (after changes).stats.Nodup ∧
    (∀ stat, stat ∈ (after changes).stats ↔
      ∃ modifier ∈ survivors changes, modifier.stat = stat) ∧
    (after changes).size = (survivors changes).length ∧
    ∀ source,
      (after changes).countSource source + (after (changes ++ [.clear source])).size =
        (after changes).size ∧
      (after changes).countSource source = (survivors changes).countP (·.source == source) := by
  have holds := holds_after changes
  refine ⟨holds.entriesFor, holds.distinct, fun _ => holds.mem_stats_iff,
    holds.entries.length_eq, fun source => ⟨?_, holds.entries.countP_eq _⟩⟩
  have cleared : after (changes ++ [.clear source]) = (after changes).clearSource source := by
    simp [after, change]
  have parts := List.length_eq_length_filter_add (l := (after changes).entries)
    (·.source == source)
  rw [cleared, countSource, List.countP_eq_length_filter, size, size, entries_clearSource]
  exact parts.symm

end Ledger

end Skirmish
