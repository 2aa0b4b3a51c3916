import Skirmish.Proofs.Combat.Blind
import Skirmish.Proofs.Combat.Growth
import Skirmish.Proofs.Ledger.Restoring

/-!
# Boards that evaluation leads to

From the empty board of a view, the evaluation of one rule after the other leads to further
boards; an evaluation that stops leads to what it wrote until then.  What such a board has
more than an earlier one are the deeds of the rules in between, in the order in which they
were done.  All deeds write modifiers of the same priority, so each stat has its modifiers
in that order, too.
-/

namespace Skirmish

variable {view : View} {source : String} {board start final : Board} {trace : Trace}

/-- Evaluations of rules lead from one board to another, whether they return or stop. -/
inductive View.Leads (view : View) (start : Board) : Board → Prop
  | start : view.Leads start start
  | evaluated (rule : Rule) {board : Board} (before : view.Leads start board) :
      view.Leads start (outcomeOf (rule.evaluate view) board).2

/-- What each step of an evaluation respects, evaluations of rules in a row respect. -/
theorem View.Leads.related {relation : Board → Board → Prop} [IsPreorder Board relation]
    (respects : ∀ source, view.Respects source relation) (leads : view.Leads start final) :
    relation start final := by
  induction leads with
  | start => exact refl_of relation start
  | evaluated rule before ih =>
      exact trans_of relation ih ((respects rule.id).moves_rule _)

/-! ## Deeds -/

/-- The last board has more than the first one by deeds of a certain sort. -/
def Board.GainsBy (good : Deed → Prop) (board final : Board) : Prop :=
  ∃ deeds : List Deed, (∀ deed ∈ deeds, good deed) ∧ board.Gains deeds final

instance (good : Deed → Prop) : IsPreorder Board (Board.GainsBy good) where
  refl board := ⟨[], List.forall_mem_nil _, (Board.Retraced.refl board).gains⟩
  trans := by
    rintro _ _ _ ⟨deeds, allGood, gains⟩ ⟨more, moreGood, later⟩
    exact ⟨deeds ++ more, List.forall_mem_append.mpr ⟨allGood, moreGood⟩, gains.append later⟩

theorem View.respects_gainsBy {good : Deed → Prop}
    (fits : ∀ action, view.Admits action → good ⟨action, source⟩) :
    view.Respects source (Board.GainsBy good) where
  note retraced := ⟨[], List.forall_mem_nil _, retraced.gains⟩
  write {action} board admitted :=
    ⟨[⟨action, source⟩], List.forall_mem_singleton.mpr (fits action admitted),
      board.gains_writtenOn action⟩

/-- What a rule gains is written by deeds of its own. -/
theorem Rule.gainsBy_evaluate {rule : Rule} {resolution : Resolution}
    (returns : Returns (rule.evaluate view) board resolution final) :
    board.GainsBy (·.source = rule.id) final :=
  (View.respects_gainsBy fun _ _ => rfl).moves_rule.of_returns returns

/-- A board that evaluation leads to has more by the deeds of the rules in between. -/
theorem View.Leads.exists_gains (leads : view.Leads start final) :
    ∃ deeds, start.Gains deeds final := by
  have gained : Board.GainsBy (fun _ => True) start final :=
    leads.related fun _ => View.respects_gainsBy fun _ _ => trivial
  obtain ⟨deeds, -, gains⟩ := gained
  exact ⟨deeds, gains⟩

/-! ## Ledgers of deeds -/

namespace Ledger

theorem priority_of_mem_modifiers {deeds : List Deed} :
    ∀ modifier ∈ deeds.map Deed.modifier, modifier.priority = 0 :=
  List.forall_mem_map.mpr fun _ _ => rfl

theorem entriesFor_addAll_deeds (deeds : List Deed) (stat : String) :
    (empty.addAll (deeds.map Deed.modifier)).entriesFor stat =
      (deeds.map Deed.modifier).filter (·.stat == stat) :=
  entriesFor_addAll_of_level allEntries_empty priority_of_mem_modifiers stat

end Ledger

theorem Board.Gains.holds {deeds : List Deed} (gains : (view.board trace).Gains deeds board) :
    board.ledger.Holds (deeds.map Deed.modifier) := by
  have ledger : board.ledger = Ledger.empty.addAll (deeds.map Deed.modifier) := gains.ledger
  rw [ledger]
  exact Ledger.Holds.empty.addAll (deeds.map Deed.modifier)

theorem Board.Gains.entriesFor {deeds : List Deed}
    (gains : (view.board trace).Gains deeds board) (stat : String) :
    board.ledger.entriesFor stat = (deeds.map Deed.modifier).filter (·.stat == stat) := by
  have ledger : board.ledger = Ledger.empty.addAll (deeds.map Deed.modifier) := gains.ledger
  rw [ledger]
  exact Ledger.entriesFor_addAll_deeds deeds stat

namespace View.Leads

variable (leads : view.Leads (view.board trace) board)
include leads

/-- The ledger of a board that evaluation leads to holds the modifiers of deeds, which stand
in the order of the deeds. -/
theorem exists_holds :
    ∃ deeds, (view.board trace).Gains deeds board ∧
      board.ledger.Holds (deeds.map Deed.modifier) ∧
      ∀ stat, board.ledger.entriesFor stat =
        (deeds.map Deed.modifier).filter (·.stat == stat) := by
  obtain ⟨deeds, gains⟩ := leads.exists_gains
  exact ⟨deeds, gains, gains.holds, gains.entriesFor⟩

theorem level : board.ledger.AllEntries fun _ entry => entry.priority = 0 := by
  obtain ⟨deeds, -, -, entriesFor⟩ := leads.exists_holds
  intro stat entry member
  rw [entriesFor] at member
  exact Ledger.priority_of_mem_modifiers entry (List.mem_of_mem_filter member)

theorem stat_of_mem_entriesFor :
    board.ledger.AllEntries fun stat entry => entry.stat = stat := by
  obtain ⟨deeds, -, -, entriesFor⟩ := leads.exists_holds
  intro stat entry member
  rw [entriesFor, List.mem_filter] at member
  exact beq_iff_eq.mp member.2

end View.Leads

/-! ## Rules that are framed -/

namespace Rule

/-- A rule that is not applicable, waits for a choice or reminds its player performs no
blocks. -/
theorem blocksFor_eq_nil {rule : Rule}
    (idle : (rule.resolutionFor view).status = .notApplicable ∨
      (rule.resolutionFor view).status = .choicePending ∨
      (rule.resolutionFor view).status = .reminderApplicable) :
    rule.blocksFor view = [] := by
  unfold resolutionFor at idle
  unfold blocksFor
  cases body : rule.body with
  | reminder => rfl
  | passive blocks => simp [body] at idle
  | choice choice =>
      simp only [body] at idle ⊢
      cases found : rule.optionFor? view with
      | none => rfl
      | some option => simp [found] at idle

theorem retraced_of_idle {rule : Rule} {resolution : Resolution}
    (returns : Returns (rule.evaluate view) board resolution final)
    (idle : resolution.status = .notApplicable ∨ resolution.status = .choicePending ∨
      resolution.status = .reminderApplicable) : board.Retraced final := by
  rcases returns_evaluate returns with
    ⟨-, retraced, rfl⟩ | ⟨-, ⟨noted, after, before, performed, behind⟩, rfl⟩
  · exact retraced
  · rw [blocksFor_eq_nil idle, Block.evaluateAll] at performed
    obtain ⟨-, rfl⟩ := returns_pure_iff.mp performed
    exact before.trans behind

/-- A rule writes under its own name only, behind what is there, and nothing while it is not
applicable, waits for a choice or reminds its player.  If it had written nothing before, to
clear its name takes back what it wrote and nothing else. -/
theorem evaluate_appends_own_entries {rule : Rule} {resolution : Resolution}
    (leads : view.Leads (view.board trace) board)
    (returns : Returns (rule.evaluate view) board resolution final) :
    (resolution.status = .notApplicable ∨ resolution.status = .choicePending ∨
        resolution.status = .reminderApplicable →
      final.ledger = board.ledger ∧ final.granted = board.granted) ∧
    ∃ written : List Modifier,
      (∀ entry ∈ written, entry.source = rule.id) ∧
      final.ledger = board.ledger.addAll written ∧
      (∀ stat, final.ledger.entriesFor stat =
        board.ledger.entriesFor stat ++ written.filter (·.stat == stat)) ∧
      ((∀ entry ∈ board.ledger.entries, entry.source ≠ rule.id) →
        final.ledger.clearSource rule.id = board.ledger ∧
        final.ledger.countSource rule.id = written.length) := by
  obtain ⟨_, -, holds, -⟩ := leads.exists_holds
  obtain ⟨deeds, ownDeeds, gains⟩ := gainsBy_evaluate returns
  have own : ∀ entry ∈ deeds.map Deed.modifier, entry.source = rule.id :=
    List.forall_mem_map.mpr ownDeeds
  refine ⟨fun idle => ?_, deeds.map Deed.modifier, own, gains.ledger, fun stat => ?_,
    fun foreign => ⟨?_, ?_⟩⟩
  · obtain ⟨_, rfl⟩ := retraced_of_idle returns idle
    exact ⟨rfl, rfl⟩
  · rw [gains.ledger]
    exact Ledger.entriesFor_addAll_of_level leads.level Ledger.priority_of_mem_modifiers stat
  · rw [gains.ledger]
    exact Ledger.clearSource_addAll_of_foreign holds.opened foreign own
  · rw [gains.ledger]
    exact Ledger.countSource_addAll_of_foreign foreign own

/-- A lance that is couched behind the aim is the only thing that is taken back with it. -/
theorem couching_appends_own_entries :
    ∃ board resolution final, chargingView.Leads (chargingView.board none) board ∧
      Returns (couching.evaluate chargingView) board resolution final ∧
      resolution.status = .passiveApplied ∧
      board.ledger.entries.map (·.source) = ["aiming"] ∧
      ∃ written : List Modifier,
        (∀ entry ∈ written, entry.source = "couching") ∧
        final.ledger = board.ledger.addAll written ∧
        final.ledger.clearSource "couching" = board.ledger ∧
        final.ledger.countSource "couching" = written.length := by
  have leads : chargingView.Leads (chargingView.board none) _ := .evaluated aiming .start
  have ran : (outcomeOf (couching.evaluate chargingView)
      (outcomeOf (aiming.evaluate chargingView) (chargingView.board none)).2).1.toOption.map
      (·.status) = some .passiveApplied := by
    decide +kernel
  have sources : ((outcomeOf (aiming.evaluate chargingView)
      (chargingView.board none)).2.ledger.entries).map (·.source) = ["aiming"] := by
    decide +kernel
  obtain ⟨resolution, final, returns, applied⟩ := exists_returns_of_shown ran
  obtain ⟨-, written, own, ledger, -, restored⟩ := evaluate_appends_own_entries leads returns
  have foreign : ∀ entry ∈ (outcomeOf (aiming.evaluate chargingView)
      (chargingView.board none)).2.ledger.entries, entry.source ≠ couching.id := by
    intro entry member same
    have listed := sources ▸ List.mem_map_of_mem (f := Modifier.source) member
    rw [same] at listed
    exact absurd listed (by decide)
  obtain ⟨cleared, counted⟩ := restored foreign
  exact ⟨_, resolution, final, leads, returns, applied, sources, written, own, ledger, cleared,
    counted⟩

end Rule

end Skirmish
