import Skirmish.Proofs.Combat.Numbers
import Skirmish.Proofs.Combat.Totals
import Skirmish.Proofs.Combat.Writings

/-!
# Stats that rules wrote

Rules write adjustments that add an integer or set one.  On such entries a stat comes to the
last number that is set, whatever the base is, or else to the base with all that is added.
What holds of every modifier that the rules of a side may write holds of the entries of its
ledger.
-/

namespace Skirmish

/-! ## Entries of a side -/

/-- What holds of the modifiers that the view lets a rule write holds of all entries after
its evaluation, if it held before. -/
theorem Rule.allEntries_evaluate {view : View} {good : String → Modifier → Prop} {rule : Rule}
    (written : ∀ {action limit conditions},
      .known action limit conditions ∈ Block.effectsOfAll rule.blocks → view.Admits action →
        good action.entry.stat (action.modifier rule.id)) :
    Moves (fun board other : Board =>
      board.ledger.AllEntries good → other.ledger.AllEntries good) (rule.evaluate view) := by
  refine moves_evaluate_of_writes ?_ fun {action _ _} member admitted board all => ?_
  · rintro board _ ⟨_, rfl⟩ all
    exact all
  · rw [action.writtenOn_ledger]
    exact all.add (written member admitted)

/-- What holds of all modifiers that rules may write holds of all entries of a side. -/
theorem Side.Evaluates.allEntries {side : Side} {view : View} {rules : List Rule}
    {good : String → Modifier → Prop} (evaluates : side.Evaluates view rules)
    (written : ∀ rule ∈ rules, ∀ {action limit conditions},
      .known action limit conditions ∈ Block.effectsOfAll rule.blocks → view.Admits action →
        good action.entry.stat (action.modifier rule.id)) :
    side.board.ledger.AllEntries good := by
  obtain ⟨final, returns, _, eq⟩ := evaluates
  rw [eq]
  have moves := Rule.moves_evaluateAll fun rule member =>
    Rule.allEntries_evaluate (written rule member)
  have kept := moves.of_returns returns
  exact kept Ledger.allEntries_empty

/-! ## Written entries -/

/-- The modifier adds an integer or sets one. -/
structure Modifier.IsWritten (modifier : Modifier) : Prop where
  value : modifier.value = .int modifier.amount
  operation : modifier.operation = .add ∨ modifier.operation = .set

theorem Action.isWritten_modifier (action : Action) (source : String) :
    (action.modifier source).IsWritten := by
  refine ⟨rfl, ?_⟩
  unfold modifier entry
  cases action <;> first | exact .inl rfl | exact .inr rfl

theorem Side.Evaluates.allWritten {side : Side} {view : View} {rules : List Rule}
    (evaluates : side.Evaluates view rules) :
    side.board.ledger.AllEntries fun _ entry => entry.IsWritten :=
  evaluates.allEntries fun rule _ {action _ _} _ _ => action.isWritten_modifier rule.id

namespace Ledger

variable {entries : List Modifier}

theorem mem_of_lastSet? {last : Modifier} (found : lastSet? entries = some last) :
    last ∈ entries ∧ last.operation = .set := by
  have member := List.mem_of_getLast? found
  rw [List.mem_filter, beq_iff_eq] at member
  exact member

theorem isBonus_of_lastSet?_eq_none (written : ∀ entry ∈ entries, entry.IsWritten)
    (unset : lastSet? entries = none) : ∀ entry ∈ entries, entry.IsBonus := by
  intro entry member
  unfold lastSet? at unset
  rw [List.getLast?_eq_none_iff, List.filter_eq_nil_iff] at unset
  have notSet := unset entry member
  rw [beq_iff_eq] at notSet
  exact ⟨(written entry member).operation.resolve_right notSet, (written entry member).value⟩

theorem clamp_foldlM_written (written : ∀ entry ∈ entries, entry.IsWritten)
    (folding : Folding) : entries.foldlM Folding.clamp? folding = some folding := by
  induction entries with
  | nil => rfl
  | cons entry rest ih =>
      obtain ⟨here, there⟩ := List.forall_mem_cons.mp written
      have kept : folding.clamp? entry = some folding := by
        unfold Folding.clamp?
        rcases here.operation with adds | sets
        · rw [adds]
        · rw [sets]
      rw [List.foldlM_cons, kept]
      exact ih there

/-- The last number that is set replaces the base and all that was added. -/
theorem fold?_value_of_lastSet? (written : ∀ entry ∈ entries, entry.IsWritten)
    {last : Modifier} (found : lastSet? entries = some last) {base : Number} {final : Folding}
    (folded : fold? entries base = some final) : final.value = .int last.amount := by
  have whole := (written last (mem_of_lastSet? found).1).value
  unfold fold? at folded
  obtain ⟨accumulated, -, folded⟩ := Option.bind_eq_some_iff.mp folded
  simp only [found, Option.bind_eq_bind] at folded
  obtain ⟨replaced, set, folded⟩ := Option.bind_eq_some_iff.mp folded
  rw [clamp_foldlM_written written, Option.bind_some] at folded
  obtain ⟨value, normal, same⟩ := Option.bind_eq_some_iff.mp folded
  obtain ⟨_, -, rfl⟩ := Option.map_eq_some_iff.mp set
  dsimp only at normal
  rw [whole] at normal
  cases same
  exact Number.eq_of_normalize?_int normal

/-- What written entries make of a base: the last number that is set, or the base with all
that is added. -/
def settled (entries : List Modifier) (base : Int) : Int :=
  match lastSet? entries with
  | some last => last.amount
  | none => base + sumOfAmounts entries

theorem settled_mono (entries : List Modifier) {base higher : Int} (le : base ≤ higher) :
    settled entries base ≤ settled entries higher := by
  unfold settled
  cases lastSet? entries with
  | some last => exact Int.le_refl _
  | none => exact Int.add_le_add_right le _

variable {ledger : Ledger} {stat : String}

theorem applyInt_eq_settled (written : ∀ entry ∈ ledger.entriesFor stat, entry.IsWritten)
    {base value : Int} (applied : ledger.applyInt stat base = .ok value) :
    value = settled (ledger.entriesFor stat) base := by
  unfold settled
  cases found : lastSet? (ledger.entriesFor stat) with
  | none => exact applyInt_eq (isBonus_of_lastSet?_eq_none written found) applied
  | some last =>
      obtain ⟨number, replaced, whole⟩ := Option.bind_eq_some_iff.mp (fitting_eq_ok_iff.mp applied)
      unfold valueOver? tracedValueOver? at replaced
      split at replaced
      · rename_i none
        rw [none] at found
        cases found
      · rw [Option.map_map] at replaced
        obtain ⟨folding, folded, rfl⟩ := Option.map_eq_some_iff.mp replaced
        rw [Function.comp_apply, fold?_value_of_lastSet? written found folded] at whole
        exact (Option.some.inj whole).symm

/-- A stat of written entries that starts from a higher base never ends lower. -/
theorem applyInt_mono (written : ∀ entry ∈ ledger.entriesFor stat, entry.IsWritten)
    {base higher value valueHigher : Int} (le : base ≤ higher)
    (applied : ledger.applyInt stat base = .ok value)
    (appliedHigher : ledger.applyInt stat higher = .ok valueHigher) : value ≤ valueHigher := by
  rw [applyInt_eq_settled written applied, applyInt_eq_settled written appliedHigher]
  exact settled_mono _ le

end Ledger

end Skirmish
