import Skirmish.Combat.Evaluation
import Skirmish.Proofs.Ledger
import Skirmish.Proofs.Rulebook.Keywords
import Skirmish.Proofs.Rulebook.Parts
import Skirmish.Proofs.Runs

/-!
# Judging on growing boards

A condition is judged from the ledger and the granted abilities of a board, never from
its trace.  It only asks for the answers of the conditions within it, so boards that give
those alike give its answer alike.  While the weapon's printed keywords are legible every
condition has an answer.  A condition without negation that holds on one board still holds
on every board that has more, whatever the parts of it that were not judged before come to.
-/

namespace Skirmish

/-! ## Boards -/

/-- The other board has all that this one has. -/
structure Board.Within (board other : Board) : Prop where
  ledger : board.ledger.Within other.ledger
  granted : board.granted ⊆ other.granted

/-- The second board differs from the first in its trace only. -/
def Board.Retraced (board other : Board) : Prop :=
  ∃ trace, other = { board with trace }

instance : IsPreorder Board Board.Within where
  refl board := ⟨.refl board.ledger, List.Subset.refl _⟩
  trans _ _ _ first second :=
    ⟨first.ledger.trans second.ledger, List.Subset.trans first.granted second.granted⟩

namespace Board.Retraced

variable {board other last : Board}

theorem refl (board : Board) : board.Retraced board :=
  ⟨_, rfl⟩

theorem trans (first : board.Retraced other) (second : other.Retraced last) :
    board.Retraced last := by
  obtain ⟨_, rfl⟩ := first
  obtain ⟨trace, rfl⟩ := second
  exact ⟨trace, rfl⟩

theorem note (board : Board) (tag message : String) : board.Retraced (board.note tag message) :=
  ⟨_, rfl⟩

theorem noteUnknown (board : Board) (kinds : List String) :
    board.Retraced (board.noteUnknown kinds) := by
  induction kinds generalizing board with
  | nil => exact refl board
  | cons kind kinds ih => exact (note board _ _).trans (ih _)

theorem symm (retraced : board.Retraced other) : other.Retraced board := by
  obtain ⟨_, rfl⟩ := retraced
  exact ⟨board.trace, rfl⟩

theorem within (retraced : board.Retraced other) : board.Within other := by
  obtain ⟨_, rfl⟩ := retraced
  exact ⟨.refl _, List.Subset.refl _⟩

end Board.Retraced

theorem Evaluation.returns_noted_iff {α : Type} {tag message : String} {value answer : α}
    {board final : Board} :
    Returns (do Evaluation.note tag message; return value) board answer final ↔
      answer = value ∧ final = board.note tag message := by
  simp only [Evaluation.note, returns_bind_iff, returns_modify_iff, returns_pure_iff]
  constructor
  · rintro ⟨_, _, rfl, rfl, rfl⟩
    exact ⟨rfl, rfl⟩
  · rintro ⟨rfl, rfl⟩
    exact ⟨(), _, rfl, rfl, rfl⟩

/-! ## Answers -/

variable {view : View} {board other : Board}

/-- The keywords printed on the weapon can be read. -/
def View.IsLegible (view : View) : Prop :=
  ∃ keywords, Keywords.ofPrinted view.weapon.keywords = .ok keywords

theorem Condition.judgeLeaf_ok (legible : view.IsLegible) (leaf : Condition) :
    ∃ answer, leaf.judgeLeaf view board = .ok answer := by
  obtain ⟨printed, read⟩ := legible
  cases leaf with
  | weaponHasAbility ability =>
      simp only [judgeLeaf, Board.keywords, Keywords.effective_eq, read, Except.map]
      exact ⟨_, rfl⟩
  | _ => exact ⟨_, rfl⟩

mutual

/-- Every condition has an answer. -/
theorem Condition.judge_ok (legible : view.IsLegible) :
    ∀ condition : Condition, ∃ answer, (condition.judge view board).outcome = .ok answer := by
  intro condition
  cases condition with
  | all parts =>
      unfold Condition.judge
      exact Condition.judgeAll_ok legible parts
  | any parts =>
      unfold Condition.judge
      exact Condition.judgeAny_ok legible parts
  | not part =>
      obtain ⟨answer, judged⟩ := Condition.judge_ok legible part
      exact ⟨!answer, by simp only [Condition.judge, judged, Except.map]⟩
  | unknown kind extras =>
      unfold Condition.judge
      exact ⟨false, rfl⟩
  | _ =>
      simp only [Condition.judge]
      exact Condition.judgeLeaf_ok legible _

theorem Condition.judgeAll_ok (legible : view.IsLegible) :
    ∀ parts : List Condition,
      ∃ answer, (Condition.judgeAll view board parts).outcome = .ok answer := by
  intro parts
  cases parts with
  | nil => exact ⟨true, rfl⟩
  | cons part rest =>
      obtain ⟨answer, judged⟩ := Condition.judge_ok legible part
      unfold Condition.judgeAll
      cases answer with
      | false => simp only [judged, Except.ok.injEq, exists_eq']
      | true =>
          simp only [judged]
          exact Condition.judgeAll_ok legible rest

theorem Condition.judgeAny_ok (legible : view.IsLegible) :
    ∀ parts : List Condition,
      ∃ answer, (Condition.judgeAny view board parts).outcome = .ok answer := by
  intro parts
  cases parts with
  | nil => exact ⟨false, rfl⟩
  | cons part rest =>
      obtain ⟨answer, judged⟩ := Condition.judge_ok legible part
      unfold Condition.judgeAny
      cases answer with
      | true => simp only [judged, Except.ok.injEq, exists_eq']
      | false =>
          simp only [judged]
          exact Condition.judgeAny_ok legible rest

end

/-! ## The same answers -/

section

variable {viewOther : View}

mutual

/-- A condition whose leaves have the same answers in two views of two boards has the same
verdict in both. -/
theorem Condition.judge_congr : ∀ condition : Condition,
    (∀ node ∈ condition.nodes, node.judgeLeaf view board = node.judgeLeaf viewOther other) →
      condition.judge view board = condition.judge viewOther other := by
  intro condition same
  cases condition with
  | all parts =>
      unfold Condition.judge
      refine Condition.judgeAll_congr parts fun node member => same node ?_
      exact List.mem_cons_of_mem _ (nodesOfParts_eq parts ▸ member)
  | any parts =>
      unfold Condition.judge
      refine Condition.judgeAny_congr parts fun node member => same node ?_
      exact List.mem_cons_of_mem _ (nodesOfParts_eq parts ▸ member)
  | not part =>
      unfold Condition.judge
      rw [Condition.judge_congr part fun node member => same node (List.mem_cons_of_mem _ member)]
  | unknown kind extras => rfl
  | _ =>
      simp only [Condition.judge]
      rw [same _ (List.mem_singleton.mpr rfl)]

theorem Condition.judgeAll_congr : ∀ parts : List Condition,
    (∀ node ∈ parts.flatMap nodes,
      node.judgeLeaf view board = node.judgeLeaf viewOther other) →
      Condition.judgeAll view board parts = Condition.judgeAll viewOther other parts := by
  intro parts same
  cases parts with
  | nil => rfl
  | cons part rest =>
      rw [List.flatMap_cons, List.forall_mem_append] at same
      unfold Condition.judgeAll
      rw [Condition.judge_congr part same.1, Condition.judgeAll_congr rest same.2]

theorem Condition.judgeAny_congr : ∀ parts : List Condition,
    (∀ node ∈ parts.flatMap nodes,
      node.judgeLeaf view board = node.judgeLeaf viewOther other) →
      Condition.judgeAny view board parts = Condition.judgeAny viewOther other parts := by
  intro parts same
  cases parts with
  | nil => rfl
  | cons part rest =>
      rw [List.flatMap_cons, List.forall_mem_append] at same
      unfold Condition.judgeAny
      rw [Condition.judge_congr part same.1, Condition.judgeAny_congr rest same.2]

end

end

/-! ## Conditions without negation -/

/-- The node negates another one. -/
def Condition.isNegation : Condition → Bool
  | .not _ => true
  | _ => false

/-- No node of the condition negates another one. -/
def Condition.isPositive (condition : Condition) : Bool :=
  condition.nodes.all fun node => !node.isNegation

theorem Condition.isPositive_all {parts : List Condition}
    (positive : (Condition.all parts).isPositive = true) :
    ∀ part ∈ parts, part.isPositive = true := by
  intro part member
  simp only [isPositive, nodes, nodesOfParts_eq, List.all_cons, List.all_flatMap,
    Bool.and_eq_true, List.all_eq_true] at positive ⊢
  exact positive.2 part member

theorem Condition.isPositive_any {parts : List Condition}
    (positive : (Condition.any parts).isPositive = true) :
    ∀ part ∈ parts, part.isPositive = true := by
  intro part member
  simp only [isPositive, nodes, nodesOfParts_eq, List.all_cons, List.all_flatMap,
    Bool.and_eq_true, List.all_eq_true] at positive ⊢
  exact positive.2 part member

theorem Condition.leafHolds_mono (within : board.Within other) {leaf : Condition}
    (holds : leaf.leafHolds view board = true) : leaf.leafHolds view other = true := by
  cases leaf with
  | attackHasKeyword keywords =>
      simp only [leafHolds, shareText, Bool.or_eq_true, List.any_eq_true] at holds ⊢
      rcases holds with ⟨keyword, named, granted, member, same⟩ | printed
      · exact .inl ⟨keyword, named, granted,
          List.filterMap_subset _ within.ledger.stats member, same⟩
      · exact .inr printed
  | unitHasAbility ability =>
      simp only [leafHolds, Bool.or_eq_true] at holds ⊢
      exact holds.imp_left within.ledger.has
  | _ => exact holds

theorem Keywords.Within.includes {keywords more : Keywords} (within : keywords.Within more)
    {ability : WeaponAbility} (included : keywords.includes ability = true) :
    more.includes ability = true := by
  cases ability with
  | flag flag =>
      simp only [Keywords.includes, hasAbility, has, List.contains_iff_mem] at included ⊢
      exact within.flags included
  | rapidFire x =>
      simp only [Keywords.includes, decide_eq_true_eq] at included ⊢
      exact Int.le_trans included within.rapidFire
  | sustainedHits x =>
      simp only [Keywords.includes, decide_eq_true_eq] at included ⊢
      exact Int.le_trans included within.sustainedHits
  | melta x =>
      simp only [Keywords.includes, decide_eq_true_eq] at included ⊢
      exact Int.le_trans included within.melta
  | anti keyword threshold =>
      simp only [Keywords.includes, List.any_eq_true] at included ⊢
      obtain ⟨own, member, same⟩ := included
      exact ⟨own, within.anti member, same⟩

theorem Board.Within.keywords (within : board.Within other) {keywords more : Keywords}
    (merged : board.keywords view = .ok keywords) (mergedMore : other.keywords view = .ok more) :
    keywords.Within more :=
  Keywords.effective_within
    (fun _ present has => ⟨within.ledger.stats present, within.ledger.has has⟩)
    within.granted merged mergedMore

theorem Condition.judgeLeaf_mono (within : board.Within other) {leaf : Condition}
    {answer : Bool} (holds : leaf.judgeLeaf view board = .ok true)
    (judged : leaf.judgeLeaf view other = .ok answer) : answer = true := by
  cases leaf with
  | weaponHasAbility ability =>
      obtain ⟨keywords, merged, included⟩ := map_eq_ok_iff.mp holds
      obtain ⟨more, mergedMore, rfl⟩ := map_eq_ok_iff.mp judged
      exact (within.keywords merged mergedMore).includes included
  | _ =>
      have held := Except.ok.inj holds
      have answered := Except.ok.inj judged
      rw [← answered]
      exact leafHolds_mono within held

mutual

/-- A condition without negation that holds on one board holds on every board that has
more, when it has an answer there. -/
theorem Condition.judge_mono (within : board.Within other) :
    ∀ (condition : Condition) {answer : Bool}, condition.isPositive = true →
      (condition.judge view board).outcome = .ok true →
      (condition.judge view other).outcome = .ok answer → answer = true := by
  intro condition answer positive holds judged
  cases condition with
  | all parts =>
      unfold Condition.judge at holds judged
      exact Condition.judgeAll_mono within parts (isPositive_all positive) holds judged
  | any parts =>
      unfold Condition.judge at holds judged
      exact Condition.judgeAny_mono within parts (isPositive_any positive) holds judged
  | not part => simp [isPositive, nodes, isNegation] at positive
  | unknown kind extras =>
      unfold Condition.judge at holds
      cases holds
  | _ =>
      simp only [Condition.judge] at holds judged
      exact Condition.judgeLeaf_mono within holds judged

theorem Condition.judgeAll_mono (within : board.Within other) :
    ∀ (parts : List Condition) {answer : Bool}, (∀ part ∈ parts, part.isPositive = true) →
      (Condition.judgeAll view board parts).outcome = .ok true →
      (Condition.judgeAll view other parts).outcome = .ok answer → answer = true := by
  intro parts answer positive holds judged
  cases parts with
  | nil =>
      unfold Condition.judgeAll at judged
      exact (Except.ok.inj judged).symm
  | cons part rest =>
      unfold Condition.judgeAll at holds judged
      dsimp only at holds judged
      split at holds
      · rename_i first
        split at judged
        · exact Condition.judgeAll_mono within rest (fun other member =>
            positive other (by simp [member])) holds judged
        · exact Condition.judge_mono within part (positive part (by simp)) first judged
      · rename_i notTrue
        exact (notTrue holds).elim

theorem Condition.judgeAny_mono (within : board.Within other) :
    ∀ (parts : List Condition) {answer : Bool}, (∀ part ∈ parts, part.isPositive = true) →
      (Condition.judgeAny view board parts).outcome = .ok true →
      (Condition.judgeAny view other parts).outcome = .ok answer → answer = true := by
  intro parts answer positive holds judged
  cases parts with
  | nil =>
      unfold Condition.judgeAny at holds
      cases holds
  | cons part rest =>
      unfold Condition.judgeAny at holds judged
      dsimp only at holds judged
      split at judged
      · rename_i first
        split at holds
        · exact Condition.judgeAny_mono within rest (fun other member =>
            positive other (by simp [member])) holds judged
        · -- The part held before, so it cannot fail now.
          exact absurd (Condition.judge_mono within part (positive part (by simp)) holds first)
            Bool.false_ne_true
      · rename_i notFalse
        split at holds
        · cases answer with
          | true => rfl
          | false => exact (notFalse judged).elim
        · exact Condition.judge_mono within part (positive part (by simp)) holds judged

end

end Skirmish
