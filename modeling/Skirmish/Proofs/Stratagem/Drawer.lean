import Mathlib.Data.List.Lex
import Mathlib.Data.Prod.Lex
import Skirmish.Proofs.StableSort
import Skirmish.Rulebook.Stratagem

/-!
# The drawer and the stratagems of a phase

The drawer shows all stratagems that are open to a faction, and a player may also ask for
those of a phase.  The drawer divides the stratagems and then sorts both parts, while the
query selects some and sorts those.  Since a stable sort commutes with selection, the query
finds what is marked as usable in the drawer, in the same order.
-/

namespace Skirmish

/-- The order of texts is the lexicographic order of their code points. -/
theorem Text.atMost_iff {first second : String} :
    Text.atMost first second = true ↔ Text.points first ≤ Text.points second := by
  rw [Text.atMost, Bool.not_eq_true', List.lex_eq_false_iff_ge]
  exact not_lt

namespace Stratagem

variable {pool : List Stratagem} {ownTurn : Bool}

/-! ## The order of the drawer -/

/-- Stratagems of a detachment rank before the others. -/
def rank (stratagem : Stratagem) : Nat :=
  if isNamed stratagem.detachment then 0 else 1

/-- The place of a stratagem in the drawer: by rank, then by name in lower case. -/
def drawerKey (stratagem : Stratagem) : Nat ×ₗ List Nat :=
  toLex (stratagem.rank, Text.points (Text.lower stratagem.name))

theorem before_iff {first second : Stratagem} :
    before first second = true ↔ first.drawerKey ≤ second.drawerKey := by
  have opened : before first second =
      if first.rank = second.rank then
        Text.atMost (Text.lower first.name) (Text.lower second.name)
      else decide (first.rank < second.rank) := rfl
  rw [opened, drawerKey, drawerKey, Prod.Lex.toLex_le_toLex]
  by_cases same : first.rank = second.rank
  · simp [same, Text.atMost_iff]
  · simp [same]

theorem before_total (first second : Stratagem) :
    (before first second || before second first) = true := by
  simpa [before_iff] using le_total first.drawerKey second.drawerKey

theorem before_trans (first second third : Stratagem) (left : before first second = true)
    (right : before second third = true) : before first third = true := by
  rw [before_iff] at left right ⊢
  exact left.trans right

theorem inOrder_perm (stratagems : List Stratagem) : (inOrder stratagems).Perm stratagems :=
  List.mergeSort_perm ..

theorem inOrder_sorted (stratagems : List Stratagem) :
    (inOrder stratagems).Pairwise fun first second => first.drawerKey ≤ second.drawerKey :=
  (List.pairwise_mergeSort before_trans before_total stratagems).imp before_iff.mp

theorem filter_inOrder (stratagems : List Stratagem) (selected : Stratagem → Bool) :
    (inOrder stratagems).filter selected = inOrder (stratagems.filter selected) :=
  filter_mergeSort before_total before_trans stratagems selected

theorem filter_key_inOrder (stratagems : List Stratagem) (key : Nat ×ₗ List Nat) :
    (inOrder stratagems).filter (·.drawerKey = key) =
      stratagems.filter (·.drawerKey = key) := by
  rw [filter_inOrder]
  -- What is left has one key, so it is in order as it stands.
  refine List.mergeSort_of_pairwise (List.pairwise_of_forall_mem_list ?_)
  intro first firstMember second secondMember
  simp only [List.mem_filter, decide_eq_true_eq] at firstMember secondMember
  rw [before_iff, firstMember.2, secondMember.2]

/-! ## The drawer -/

/-- The entries show a pool of stratagems as a drawer does: all of them, each with whether it may
be used this turn; those that may be used stand before the others; both groups are in order,
and stratagems of the same place in it stand as they do in the pool. -/
structure Shows (pool : List Stratagem) (ownTurn : Bool) (entries : List (Stratagem × Bool)) :
    Prop where
  all : (entries.map Prod.fst).Perm pool
  marked : ∀ entry ∈ entries, entry.2 = entry.1.allowsTurn ownTurn
  usableFirst : entries.Pairwise fun first second => second.2 = true → first.2 = true
  ordered : entries.Pairwise fun first second =>
    first.2 = second.2 → first.1.drawerKey ≤ second.1.drawerKey
  stable : ∀ usable key,
    (entries.filter fun entry => entry.1.drawerKey = key ∧ entry.2 = usable).map Prod.fst =
      pool.filter fun stratagem =>
        stratagem.drawerKey = key ∧ stratagem.allowsTurn ownTurn = usable

theorem drawer_shows (pool : List Stratagem) (ownTurn : Bool) :
    Shows pool ownTurn (drawer pool ownTurn) where
  all := by
    simp only [drawer, List.map_append, List.map_map, Function.comp_def, List.map_id']
    exact ((inOrder_perm _).append (inOrder_perm _)).trans (List.filter_append_perm _ _)
  marked entry member := by
    simp only [drawer, List.mem_append, List.mem_map] at member
    rcases member with ⟨stratagem, listed, rfl⟩ | ⟨stratagem, listed, rfl⟩
    · exact (List.mem_filter.mp ((inOrder_perm _).mem_iff.mp listed)).2.symm
    · have other := (List.mem_filter.mp ((inOrder_perm _).mem_iff.mp listed)).2
      simpa using other.symm
  usableFirst := by
    simp [drawer, List.pairwise_append, List.pairwise_map, List.pairwise_of_forall]
  ordered := by
    simp [drawer, List.pairwise_append, List.pairwise_map, inOrder_sorted]
  stable usable key := by
    cases usable
    · simp [drawer, List.filter_map, Function.comp_def, filter_key_inOrder]
    · simp [drawer, List.filter_map, Function.comp_def, filter_key_inOrder]

/-! ## The stratagems of a phase -/

/-- The stratagem may be used in a phase of the battle: in any phase, in this one under the name
that stratagems have for it, or in both phases in which units move. -/
def MatchesPhase (stratagem : Stratagem) (phase : String) : Prop :=
  stratagem.phase = .any ∨ Vocabulary.word stratagem.phase = phaseName phase ∨
    stratagem.phase = .moveOrCharge ∧ (phaseName phase = "move" ∨ phaseName phase = "charge")

instance (stratagem : Stratagem) (phase : String) : Decidable (stratagem.MatchesPhase phase) :=
  inferInstanceAs (Decidable (_ ∨ _ ∨ _))

theorem suitsPhase_eq (stratagem : Stratagem) (phase : String) :
    stratagem.suitsPhase phase = decide (stratagem.MatchesPhase phase) := by
  rw [Bool.eq_iff_iff, decide_eq_true_iff]
  simp [suitsPhase, MatchesPhase, or_assoc]

/-- What the drawer marks as usable and a check selects, is what the check selects from the
stratagems of the turn. -/
theorem map_filter_drawer (pool : List Stratagem) (ownTurn : Bool)
    (selected : Stratagem → Bool) :
    ((drawer pool ownTurn).filter fun entry => entry.2 && selected entry.1).map Prod.fst =
      inOrder (pool.filter fun stratagem =>
        stratagem.allowsTurn ownTurn && selected stratagem) := by
  simp [drawer, List.filter_map, Function.comp_def, filter_inOrder, Bool.and_comm]

/-- The stratagems that are open to a faction and a detachment keep the order of the catalogue,
and their drawer shows all of them.  Those that may be used in a phase and a round are the
entries that it marks as usable and whose phase and round are right, in the same order. -/
theorem drawer_agrees_with_usable (catalogue : List Stratagem)
    (faction detachment : Option String) (phase : String) (ownTurn : Bool)
    (round : Option Int) :
    (available catalogue faction detachment).Sublist catalogue ∧
    Shows (available catalogue faction detachment) ownTurn
      (drawer (available catalogue faction detachment) ownTurn) ∧
    usable catalogue faction detachment phase ownTurn round =
      ((drawer (available catalogue faction detachment) ownTurn).filter fun entry =>
        entry.2 && (decide (entry.1.MatchesPhase phase) && entry.1.allowsRound round)).map
          Prod.fst := by
  refine ⟨List.filter_sublist, drawer_shows _ ownTurn, ?_⟩
  rw [map_filter_drawer _ ownTurn fun stratagem =>
    decide (stratagem.MatchesPhase phase) && stratagem.allowsRound round]
  unfold usable forPhase
  rw [List.filter_filter]
  refine congrArg inOrder (List.filter_congr fun stratagem _ => ?_)
  rw [suitsPhase_eq, Bool.and_assoc, Bool.and_comm (stratagem.allowsRound round)]

end Stratagem

end Skirmish
