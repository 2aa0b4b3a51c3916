import Mathlib.Data.Multiset.Basic
import Skirmish.Proofs.Combat.Writings

/-!
# Rules only add

Evaluation never takes anything off a board.  When no condition negates another one, what
a rule wrote on a board it also writes on every board that has more: its conditions still
hold there, whatever else was switched on in between.  So to insert a rule into a list
leaves every rule applied that was applied before, and every entry in the ledger.
-/

namespace Skirmish

variable {view : View} {source : String} {board other final finalOther : Board}

/-! ## Single runs -/

theorem Action.within_writtenOn (action : Action) :
    board.Within (action.writtenOn view source board) :=
  ⟨.add board.ledger _, List.subset_append_left _ _⟩

theorem View.respects_within (view : View) (source : String) :
    view.Respects source Board.Within where
  note retraced := retraced.within
  write _ _ := Action.within_writtenOn _

theorem Effect.grows_apply {effect : Effect} {wrote : Bool}
    (returns : Returns (effect.apply view source) board wrote final) : board.Within final :=
  (effect.moves_apply (view.respects_within source)).of_returns returns

theorem Block.grows_evaluate (block : Block)
    (returns : Returns (block.evaluate view source) board () final) : board.Within final :=
  (Block.moves_evaluate block ((view.respects_within source).carries _ _)).of_returns returns

theorem Rule.grows_evaluate {rule : Rule} {resolution : Resolution}
    (returns : Returns (rule.evaluate view) board resolution final) : board.Within final :=
  (view.respects_within rule.id).moves_rule.of_returns returns

/-! ## Two runs -/

/-- No condition of the effect negates another one. -/
def Effect.isPositive : Effect → Bool
  | .known _ _ conditions => conditions.all (·.isPositive)
  | .unknown .. => true

mutual

/-- No condition of the block negates another one, at any depth. -/
def Block.isPositive : Block → Bool
  | .perform effects => effects.all (·.isPositive)
  | .guarded condition blocks => condition.isPositive && Block.allPositive blocks

/-- No condition of the blocks negates another one, at any depth. -/
def Block.allPositive : List Block → Bool
  | [] => true
  | block :: rest => Block.isPositive block && Block.allPositive rest

end

/-- No condition of the rule, of its blocks or of its effects negates another one. -/
def Rule.isPositive (rule : Rule) : Bool :=
  rule.condition.isPositive && rule.blocks.all (·.isPositive)

theorem Block.allPositive_eq (blocks : List Block) :
    Block.allPositive blocks = blocks.all (·.isPositive) := by
  induction blocks with
  | nil => rfl
  | cons block rest ih => rw [Block.allPositive, ih, List.all_cons]

theorem Rule.blocksFor_positive {rule : Rule} (positive : rule.isPositive = true) :
    Block.allPositive (rule.blocksFor view) = true := by
  have all := List.all_eq_true.mp (Bool.and_eq_true_iff.mp positive).2
  rw [Block.allPositive_eq, List.all_eq_true]
  exact fun block member => all block (rule.blocksFor_subset view member)

theorem Board.Within.written (within : board.Within other) (action : Action) :
    (action.writtenOn view source board).Within (action.writtenOn view source other) := by
  constructor
  · rw [action.writtenOn_ledger, action.writtenOn_ledger]
    exact within.ledger.add_both _
  · rw [action.writtenOn_granted, action.writtenOn_granted]
    exact List.append_subset.mpr ⟨List.Subset.trans within.granted (List.subset_append_left _ _),
      List.subset_append_right _ _⟩

theorem Board.Retraced.within_congr {noted notedOther : Board} (retraced : board.Retraced noted)
    (retracedOther : other.Retraced notedOther) (within : board.Within other) :
    noted.Within notedOther := by
  obtain ⟨_, rfl⟩ := retraced
  obtain ⟨_, rfl⟩ := retracedOther
  exact ⟨within.ledger, within.granted⟩

/-- An effect that is open on a board is open on every board that has more. -/
theorem Effect.opens_mono (within : board.Within other) {effect : Effect} {answer : Bool}
    (positive : effect.isPositive = true) (opens : effect.opens view board = .ok true)
    (opensOther : effect.opens view other = .ok answer) : answer = true := by
  cases barred : effect.isBarred view with
  | true =>
      rw [opens_of_barred barred] at opens
      cases opens
  | false =>
      cases effect with
      | known action limit conditions =>
          rw [opens_known barred] at opens opensOther
          exact Condition.judgeAll_mono within conditions (List.all_eq_true.mp positive) opens
            opensOther
      | unknown kind extras =>
          rw [opens_unknown barred, Except.ok.injEq] at opensOther
          exact opensOther.symm

theorem Effect.apply_mono (within : board.Within other) {effect : Effect}
    {wrote wroteOther : Bool} (positive : effect.isPositive = true)
    (returns : Returns (effect.apply view source) board wrote final)
    (returnsOther : Returns (effect.apply view source) other wroteOther finalOther) :
    final.Within finalOther := by
  have grown := grows_apply returnsOther
  cases effect with
  | known action limit conditions =>
      obtain ⟨opens, noted, retraced, written⟩ := returns_apply_known returns
      obtain ⟨opensOther, notedOther, retracedOther, writtenOther⟩ :=
        returns_apply_known returnsOther
      cases wrote with
      | false =>
          rw [if_neg Bool.false_ne_true] at written
          exact (retraced.trans written).within_congr (.refl _)
            (trans_of Board.Within within grown)
      | true =>
          obtain rfl := opens_mono within positive opens opensOther
          rw [if_pos rfl] at written writtenOther
          rw [written.2, writtenOther.2]
          exact (retraced.within_congr retracedOther within).written action
  | unknown kind extras =>
      exact (returns_apply_unknown returns).2.within_congr (.refl _)
        (trans_of Board.Within within grown)

theorem applyEffects_mono (within : board.Within other) {effects : List Effect}
    (positive : ∀ effect ∈ effects, effect.isPositive = true)
    (returns : Returns (applyEffects view source effects) board () final)
    (returnsOther : Returns (applyEffects view source effects) other () finalOther) :
    final.Within finalOther := by
  induction effects generalizing board other with
  | nil =>
      obtain ⟨-, rfl⟩ := returns_pure_iff.mp returns
      obtain ⟨-, rfl⟩ := returns_pure_iff.mp returnsOther
      exact within
  | cons effect rest ih =>
      unfold applyEffects at returns returnsOther
      obtain ⟨wrote, middle, applied, later⟩ := returns_bind_iff.mp returns
      obtain ⟨wroteOther, middleOther, appliedOther, laterOther⟩ :=
        returns_bind_iff.mp returnsOther
      have step := Effect.apply_mono within (positive effect (by simp)) applied appliedOther
      exact ih step (fun effect member => positive effect (by simp [member])) later laterOther

mutual

theorem Block.evaluate_mono : ∀ (block : Block) {board other final finalOther : Board},
    board.Within other → block.isPositive = true →
      Returns (block.evaluate view source) board () final →
      Returns (block.evaluate view source) other () finalOther → final.Within finalOther := by
  intro block board other final finalOther within positive returns returnsOther
  have grown := Block.grows_evaluate block returnsOther
  cases block with
  | perform effects =>
      unfold Block.isPositive at positive
      unfold Block.evaluate at returns returnsOther
      exact applyEffects_mono within (List.all_eq_true.mp positive) returns returnsOther
  | guarded condition blocks =>
      unfold Block.isPositive at positive
      obtain ⟨positiveHere, positiveThere⟩ := Bool.and_eq_true_iff.mp positive
      unfold Block.evaluate at returns returnsOther
      obtain ⟨holds, noted, judged, later⟩ := returns_bind_iff.mp returns
      obtain ⟨holdsOther, notedOther, judgedOther, laterOther⟩ :=
        returns_bind_iff.mp returnsOther
      obtain ⟨answer, rfl⟩ := Evaluation.returns_holds_iff.mp judged
      obtain ⟨answerOther, rfl⟩ := Evaluation.returns_holds_iff.mp judgedOther
      cases holds with
      | false =>
          -- Nothing is written here, and nothing is taken off there.
          obtain rfl := returns_modify_iff.mp later
          exact ((Board.Retraced.noteUnknown _ _).trans (.note _ _ _)).within_congr (.refl _)
            (trans_of Board.Within within grown)
      | true =>
          obtain rfl := Condition.judge_mono within condition positiveHere answer answerOther
          rw [if_pos rfl] at later laterOther
          exact Block.evaluateAll_mono blocks
            ((Board.Retraced.noteUnknown _ _).within_congr (.noteUnknown _ _) within)
            positiveThere later laterOther

theorem Block.evaluateAll_mono : ∀ (blocks : List Block)
    {board other final finalOther : Board}, board.Within other →
      Block.allPositive blocks = true →
      Returns (Block.evaluateAll view source blocks) board () final →
      Returns (Block.evaluateAll view source blocks) other () finalOther →
      final.Within finalOther := by
  intro blocks board other final finalOther within positive returns returnsOther
  cases blocks with
  | nil =>
      unfold Block.evaluateAll at returns returnsOther
      obtain ⟨-, rfl⟩ := returns_pure_iff.mp returns
      obtain ⟨-, rfl⟩ := returns_pure_iff.mp returnsOther
      exact within
  | cons block rest =>
      unfold Block.allPositive at positive
      obtain ⟨positiveHere, positiveThere⟩ := Bool.and_eq_true_iff.mp positive
      unfold Block.evaluateAll at returns returnsOther
      obtain ⟨_, middle, evaluated, later⟩ := returns_bind_iff.mp returns
      obtain ⟨_, middleOther, evaluatedOther, laterOther⟩ := returns_bind_iff.mp returnsOther
      have step := Block.evaluate_mono block within positiveHere evaluated evaluatedOther
      exact Block.evaluateAll_mono rest step positiveThere later laterOther

end

/-! ## Rules -/

namespace Rule

/-- A rule that was applied on a board comes to the same on every board that has more. -/
theorem evaluate_mono (within : board.Within other) {rule : Rule}
    {resolution resolutionOther : Resolution} (positive : rule.isPositive = true)
    (returns : Returns (rule.evaluate view) board resolution final)
    (returnsOther : Returns (rule.evaluate view) other resolutionOther finalOther) :
    (resolution.isApplied = true → resolutionOther = resolution) ∧
      final.Within finalOther := by
  have grown := grows_evaluate returnsOther
  rcases returns_evaluate returns with
    ⟨-, retraced, rfl⟩ | ⟨answer, ⟨noted, after, first, performed, last⟩, rfl⟩
  · refine ⟨fun applied => absurd applied Bool.false_ne_true, ?_⟩
    exact retraced.within_congr (.refl _) (trans_of Board.Within within grown)
  · have positiveHere := (Bool.and_eq_true_iff.mp positive).1
    rcases returns_evaluate returnsOther with
      ⟨answerOther, -, -⟩ | ⟨-, ⟨notedOther, afterOther, firstOther, performedOther,
        lastOther⟩, rfl⟩
    · cases Condition.judge_mono within rule.condition positiveHere answer answerOther
    · have step := Block.evaluateAll_mono _ (first.within_congr firstOther within)
        (blocksFor_positive positive) performed performedOther
      exact ⟨fun _ => rfl, last.within_congr lastOther step⟩

theorem returns_evaluateAll_append {before after : List Rule} {resolutions : List Resolution}
    (returns : Returns (evaluateAll view (before ++ after)) board resolutions final) :
    ∃ first middle later, Returns (evaluateAll view before) board first middle ∧
      Returns (evaluateAll view after) middle later final ∧
      resolutions = first ++ later ∧ first.length = before.length := by
  induction before generalizing board resolutions with
  | nil => exact ⟨[], board, resolutions, rfl, returns, rfl, rfl⟩
  | cons rule rest ih =>
      rw [List.cons_append, returns_evaluateAll_cons_iff] at returns
      obtain ⟨resolution, next, others, evaluated, ranOthers, rfl⟩ := returns
      obtain ⟨first, middle, later, ranFirst, ranLater, rfl, length⟩ := ih ranOthers
      refine ⟨resolution :: first, middle, later, ?_, ranLater, rfl, ?_⟩
      · exact returns_evaluateAll_cons_iff.mpr
          ⟨resolution, next, first, evaluated, ranFirst, rfl⟩
      · rw [List.length_cons, List.length_cons, length]

theorem evaluateAll_mono (within : board.Within other) {rules : List Rule}
    {resolutions resolutionsOther : List Resolution}
    (positive : ∀ rule ∈ rules, rule.isPositive = true)
    (returns : Returns (evaluateAll view rules) board resolutions final)
    (returnsOther : Returns (evaluateAll view rules) other resolutionsOther finalOther) :
    List.Forall₂ (fun resolution resolutionOther =>
        resolution.isApplied = true → resolutionOther = resolution)
      resolutions resolutionsOther ∧
      final.Within finalOther := by
  induction rules generalizing board other resolutions resolutionsOther with
  | nil =>
      obtain ⟨rfl, rfl⟩ := returns_pure_iff.mp returns
      obtain ⟨rfl, rfl⟩ := returns_pure_iff.mp returnsOther
      exact ⟨.nil, within⟩
  | cons rule rest ih =>
      obtain ⟨resolution, middle, others, evaluated, ranOthers, rfl⟩ :=
        returns_evaluateAll_cons_iff.mp returns
      obtain ⟨resolutionOther, middleOther, othersOther, evaluatedOther, ranOthersOther, rfl⟩ :=
        returns_evaluateAll_cons_iff.mp returnsOther
      obtain ⟨same, step⟩ :=
        evaluate_mono within (positive rule (by simp)) evaluated evaluatedOther
      obtain ⟨rest, grown⟩ := ih step (fun other member => positive other (by simp [member]))
        ranOthers ranOthersOther
      exact ⟨.cons same rest, grown⟩

/-- To insert a rule among rules without negation leaves every rule that was applied
applied, with the same choice, and every entry of the ledger in it, as often as it was. -/
theorem evaluateAll_insert {before after : List Rule} {inserted : Rule}
    {short long : List Resolution} {finalLong : Board}
    (positive : ∀ rule ∈ before ++ inserted :: after, rule.isPositive = true)
    (returns : Returns (evaluateAll view (before ++ after)) board short final)
    (returnsLong : Returns (evaluateAll view (before ++ inserted :: after)) board long
      finalLong) :
    List.Forall₂ (fun old new => old.isApplied = true → new = old) short
      (long.eraseIdx before.length) ∧
    ∀ stat, (final.ledger.entriesFor stat : Multiset Modifier) ≤
      finalLong.ledger.entriesFor stat := by
  obtain ⟨first, middle, later, ranFirst, ranLater, rfl, length⟩ :=
    returns_evaluateAll_append returns
  obtain ⟨firstLong, middleLong, laterLong, ranFirstLong, ranLaterLong, rfl, lengthLong⟩ :=
    returns_evaluateAll_append returnsLong
  -- Both evaluations begin alike, up to the place of the inserted rule.
  obtain ⟨rfl, rfl⟩ := ranFirst.unique ranFirstLong
  obtain ⟨resolution, grown, others, evaluated, ranOthers, rfl⟩ :=
    returns_evaluateAll_cons_iff.mp ranLaterLong
  obtain ⟨kept, within⟩ := evaluateAll_mono (grows_evaluate evaluated)
    (fun rule member => positive rule (by simp [member])) ranLater ranOthers
  constructor
  · rw [← length, List.eraseIdx_append_of_length_le (le_refl _), Nat.sub_self,
      List.eraseIdx_cons_zero]
    exact List.rel_append (List.forall₂_same.mpr fun _ _ _ => rfl) kept
  · intro stat
    exact Multiset.coe_le.mpr (within.ledger.entries stat)

/-- A charge as its attacker sees it. -/
def chargingView : View :=
  Encounter.view
    { attacker := { id := "riders", armyId := "wolves" }
      defender := { id := "boyz", armyId := "orks" }
      weapon := { name := "Spear" }
      circumstances := { unitHasCharged := true } }
    .attacker

/-- A rule that does its work at once. -/
def passiveRule (id : String) (condition : Condition) (action : Action) : Rule where
  id
  name := id
  condition
  body := .passive [.perform [.known action .all []]]

/-- A rule that improves hit rolls. -/
def aiming : Rule :=
  passiveRule "aiming" .always (.modHit 1)

/-- A rule that makes the weapon a lance. -/
def couching : Rule :=
  passiveRule "couching" .always (.addWeaponAbility (.flag .lance))

/-- A rule that improves wound rolls of lances. -/
def thrusting : Rule :=
  passiveRule "thrusting" (.weaponHasAbility (.flag .lance)) (.modWound 1)

/-- The rule that makes the weapon a lance switches on the one that asks for it, and what
was applied without it is applied still. -/
theorem couching_switches_on_thrusting :
    (∀ rule ∈ [aiming] ++ couching :: [thrusting], rule.isPositive = true) ∧
    ∃ short final long finalLong,
      Returns (evaluateAll chargingView ([aiming] ++ [thrusting])) {} short final ∧
      Returns (evaluateAll chargingView ([aiming] ++ couching :: [thrusting])) {} long
        finalLong ∧
      short.map (·.isApplied) = [true, false] ∧ long.map (·.isApplied) = [true, true, true] ∧
      List.Forall₂ (fun old new => old.isApplied = true → new = old) short (long.eraseIdx 1) ∧
      ∀ stat, (final.ledger.entriesFor stat : Multiset Modifier) ≤
        finalLong.ledger.entriesFor stat := by
  have positive : ∀ rule ∈ [aiming] ++ couching :: [thrusting], rule.isPositive = true := by
    decide +kernel
  have ran : (outcomeOf (evaluateAll chargingView ([aiming] ++ [thrusting])) {}).1.toOption.map
      (fun resolutions => resolutions.map (·.isApplied)) = some [true, false] := by
    decide +kernel
  have ranLong : (outcomeOf (evaluateAll chargingView ([aiming] ++ couching :: [thrusting]))
      {}).1.toOption.map (fun resolutions => resolutions.map (·.isApplied)) =
      some [true, true, true] := by
    decide +kernel
  obtain ⟨short, final, returns, shown⟩ := exists_returns_of_shown ran
  obtain ⟨long, finalLong, returnsLong, shownLong⟩ := exists_returns_of_shown ranLong
  obtain ⟨kept, contained⟩ := evaluateAll_insert positive returns returnsLong
  exact ⟨positive, short, final, long, finalLong, returns, returnsLong, shown, shownLong, kept,
    contained⟩

end Rule

end Skirmish
