import Skirmish.Proofs.Combat.Judgement
import Skirmish.Proofs.Rulebook.Stats
import Skirmish.Proofs.Schema

/-!
# What an effect does to a board

An effect may be barred by the view, which does not change, or be shut by its own
conditions on a board; else it is open.  A known effect writes its modifier exactly when
it is open.  All else that effects do concerns the trace.
-/

namespace Skirmish

variable {view : View} {source : String} {board final : Board}

/-! ## Writing -/

theorem Modifier.orFault_checked_ok (modifier : Modifier) :
    (∃ given, (checked (.accepted modifier)).orFault = .ok given) ↔
      modifier.problem? = none := by
  unfold checked Schema.Checked.ensure
  dsimp only
  cases modifier.problem? with
  | none => exact iff_of_true ⟨modifier, rfl⟩ rfl
  | some problem =>
      simp [Schema.Checked.orFault_eq_ok_iff, Schema.Checked.reject_ne_accepted]

theorem Action.writable_value_iff {action : Action} :
    writable [action.entry.value] = .ok () ↔ action.isOversized = false := by
  rw [writable_eq_ok_iff, List.forall_mem_singleton, isOversized_eq_false_iff]

/-- An action writes unless it is broken. -/
theorem Action.returns_write_iff {action : Action} {value : Unit} :
    Returns (action.write view source) board value final ↔
      action.isBroken = false ∧ final = action.writtenOn view source board := by
  rw [isBroken, Bool.or_eq_false_iff, ← action.problem?_modifier source,
    ← Modifier.orFault_checked_ok, ← writable_value_iff]
  unfold write
  cases (Modifier.checked (.accepted (action.modifier source))).orFault with
  | error fault => simp
  | ok given =>
      simp only [returns_bind_iff, returns_modify_iff, returns_lift_iff]
      constructor
      · rintro ⟨_, _, rfl, _, _, ⟨told, rfl⟩, rfl⟩
        exact ⟨⟨⟨given, rfl⟩, told⟩, rfl⟩
      · rintro ⟨⟨-, told⟩, rfl⟩
        exact ⟨(), _, rfl, (), _, ⟨told, rfl⟩, rfl⟩

theorem Action.writtenOn_ledger (action : Action) :
    (action.writtenOn view source board).ledger = board.ledger.add (action.modifier source) :=
  rfl

theorem Action.writtenOn_granted (action : Action) :
    (action.writtenOn view source board).granted =
      board.granted ++ action.granted?.toList :=
  rfl

/-! ## Gates -/

namespace Effect

/-- The view alone keeps the effect from writing: it is the other side's, or the unit is
not one that the effect applies to. -/
def isBarred (view : View) (effect : Effect) : Bool :=
  (effect.intent.obstacle? view.role).isSome ||
    (limitObstacle? effect.limitWord view.ownUnit).isSome

/-- Whether the effect may write on a board: it is not barred, and its own conditions
hold.  Those of an unknown effect have no meaning and do not count. -/
def opens (view : View) (board : Board) (effect : Effect) : Except Fault Bool :=
  if effect.isBarred view then .ok false
  else
    match effect with
    | .known _ _ conditions => (Condition.judgeAll view board conditions).outcome
    | .unknown .. => .ok true

/-- The reasons for which an effect is skipped. -/
def skipReasons : List String :=
  ["offensive effect skipped in defender view", "defensive effect skipped in attacker view",
    "appliesTo=leader but unit is not a leader", "appliesTo=bodyguard but unit is a leader",
    conditionObstacle]

theorem mem_skipReasons_of_intent {intent : Intent} {role : Role} {reason : String}
    (found : intent.obstacle? role = some reason) : reason ∈ skipReasons := by
  cases intent <;> cases role <;> cases found <;> decide

theorem mem_skipReasons_of_limit {limit : String} {unit : BattleUnit} {reason : String}
    (found : limitObstacle? limit unit = some reason) : reason ∈ skipReasons := by
  unfold limitObstacle? at found
  split at found
  · cases found
    decide
  · split at found
    · cases found
      decide
    · cases found

theorem obstacle?_of_barred {effect : Effect} (barred : effect.isBarred view = true) :
    ∃ reason ∈ skipReasons, effect.obstacle? view = pure (some reason) := by
  unfold isBarred at barred
  unfold obstacle?
  cases own : effect.intent.obstacle? view.role with
  | some reason => exact ⟨reason, mem_skipReasons_of_intent own, rfl⟩
  | none =>
      rw [own, Option.isSome_none, Bool.false_or] at barred
      obtain ⟨reason, limited⟩ := Option.isSome_iff_exists.mp barred
      simp only [limited]
      exact ⟨reason, mem_skipReasons_of_limit limited, rfl⟩

theorem obstacle?_of_not_barred {effect : Effect} (free : effect.isBarred view = false) :
    effect.obstacle? view = effect.conditionsObstacle? view := by
  unfold isBarred at free
  obtain ⟨own, limit⟩ := Bool.or_eq_false_iff.mp free
  rw [Option.isSome_eq_false_iff, Option.isNone_iff_eq_none] at own limit
  unfold obstacle?
  simp only [own, limit]

theorem opens_of_barred {effect : Effect} (barred : effect.isBarred view = true) :
    effect.opens view board = .ok false := by
  unfold opens
  rw [if_pos barred]

theorem opens_known {action : Action} {limit : AppliesTo} {conditions : List Condition}
    (free : (known action limit conditions).isBarred view = false) :
    (known action limit conditions).opens view board =
      (Condition.judgeAll view board conditions).outcome := by
  unfold opens
  rw [free]
  rfl

theorem opens_unknown {kind : String} {extras : Fields}
    (free : (unknown kind extras).isBarred view = false) :
    (unknown kind extras).opens view board = .ok true := by
  unfold opens
  rw [free]
  rfl

theorem returns_conditionsObstacle_known_iff {action : Action} {limit : AppliesTo}
    {conditions : List Condition} {reason : Option String} :
    Returns ((known action limit conditions).conditionsObstacle? view) board reason final ↔
      ∃ met, (Condition.judgeAll view board conditions).outcome = .ok met ∧
        reason = (if met then none else some conditionObstacle) ∧
        final = board.noteUnknown (Condition.judgeAll view board conditions).unknownKinds := by
  simp only [conditionsObstacle?, returns_bind_iff, returns_get_iff, returns_modify_iff,
    returns_lift_iff, returns_pure_iff]
  constructor
  · rintro ⟨_, _, ⟨rfl, rfl⟩, _, _, rfl, met, _, ⟨judged, rfl⟩, rfl, rfl⟩
    exact ⟨met, judged, rfl, rfl⟩
  · rintro ⟨met, judged, rfl, rfl⟩
    exact ⟨_, _, ⟨rfl, rfl⟩, (), _, rfl, met, _, ⟨judged, rfl⟩, rfl, rfl⟩

/-- A known effect writes exactly when it is open, and then it must not be broken. -/
theorem returns_apply_known {action : Action} {limit : AppliesTo}
    {conditions : List Condition} {wrote : Bool}
    (returns : Returns ((known action limit conditions).apply view source) board wrote
      final) :
    (known action limit conditions).opens view board = .ok wrote ∧
      ∃ noted, board.Retraced noted ∧
        if wrote then
          action.isBroken = false ∧ final = action.writtenOn view source noted
        else
          noted.Retraced final := by
  unfold Effect.apply at returns
  rw [returns_bind_iff] at returns
  obtain ⟨reason, noted, found, returns⟩ := returns
  cases barred : (known action limit conditions).isBarred view with
  | true =>
      obtain ⟨given, -, eq⟩ := obstacle?_of_barred barred
      rw [eq, returns_pure_iff] at found
      obtain ⟨rfl, rfl⟩ := found
      obtain ⟨rfl, rfl⟩ := Evaluation.returns_noted_iff.mp returns
      exact ⟨opens_of_barred barred, noted, .refl _, .note _ _ _⟩
  | false =>
      rw [obstacle?_of_not_barred barred, returns_conditionsObstacle_known_iff] at found
      obtain ⟨met, judged, rfl, rfl⟩ := found
      rw [opens_known barred]
      cases met with
      | false =>
          obtain ⟨rfl, rfl⟩ := Evaluation.returns_noted_iff.mp returns
          exact ⟨judged, _, .noteUnknown _ _, .note _ _ _⟩
      | true =>
          simp only [if_true, returns_bind_iff, Action.returns_write_iff, returns_pure_iff]
            at returns
          obtain ⟨_, _, ⟨named, rfl⟩, rfl, rfl⟩ := returns
          exact ⟨judged, _, .noteUnknown _ _, named, rfl⟩

/-- A known effect that is open writes unless it is broken. -/
theorem returns_apply_of_opens {action : Action} {limit : AppliesTo}
    {conditions : List Condition}
    (isOpen : (known action limit conditions).opens view board = .ok true)
    (whole : action.isBroken = false) :
    Returns ((known action limit conditions).apply view source) board true
      (action.writtenOn view source
        (board.noteUnknown (Condition.judgeAll view board conditions).unknownKinds)) := by
  cases barred : (known action limit conditions).isBarred view with
  | true =>
      rw [opens_of_barred barred] at isOpen
      cases isOpen
  | false =>
      rw [opens_known barred] at isOpen
      unfold Effect.apply
      rw [obstacle?_of_not_barred barred, returns_bind_iff]
      refine ⟨none, _, returns_conditionsObstacle_known_iff.mpr ⟨true, isOpen, rfl, rfl⟩, ?_⟩
      exact returns_bind_iff.mpr ⟨(), _, Action.returns_write_iff.mpr ⟨whole, rfl⟩,
        returns_pure_iff.mpr ⟨rfl, rfl⟩⟩

/-- An unknown effect only takes notes. -/
theorem returns_apply_unknown {kind : String} {extras : Fields} {wrote : Bool}
    (returns : Returns ((unknown kind extras).apply view source) board wrote final) :
    wrote = false ∧ board.Retraced final := by
  unfold Effect.apply at returns
  rw [returns_bind_iff] at returns
  obtain ⟨reason, noted, found, returns⟩ := returns
  have retraced : board.Retraced noted := by
    cases barred : (unknown kind extras).isBarred view with
    | true =>
        obtain ⟨given, -, eq⟩ := obstacle?_of_barred barred
        rw [eq, returns_pure_iff] at found
        exact found.2 ▸ .refl _
    | false =>
        rw [obstacle?_of_not_barred barred] at found
        unfold conditionsObstacle? at found
        dsimp only at found
        split at found
        · exact (returns_pure_iff.mp found).2 ▸ .refl _
        · simp only [returns_bind_iff, returns_modify_iff, returns_pure_iff] at found
          obtain ⟨_, _, rfl, -, rfl⟩ := found
          exact .noteUnknown _ _
        · exact (not_returns_throw found).elim
  cases reason <;>
  · obtain ⟨rfl, rfl⟩ := Evaluation.returns_noted_iff.mp returns
    exact ⟨rfl, retraced.trans (.note _ _ _)⟩

end Effect

end Skirmish
