import Skirmish.Proofs.Combat.Choosing

/-!
# The time in which a state is live

The battle clock goes on from phase to phase and from turn to turn.  A state is live in one
interval of it, which begins with the turn of its activation and ends with the phase in which
it expires, if there is one.  So a state that is no longer live never is again.
-/

namespace Skirmish

/-! ## The battle clock -/

/-- A moment of the battle: a turn, and a phase of it that is given by a word. -/
structure Moment where
  turn : Int
  phase : String

/-- The place of a moment on the battle clock, by turns and then by phases. -/
def Moment.clock (moment : Moment) : Int ×ₗ Nat :=
  toLex (moment.turn, phaseIndex moment.phase)

instance : Preorder Moment where
  le earlier later := earlier.clock ≤ later.clock
  le_refl moment := le_refl moment.clock
  le_trans _ _ _ := le_trans

theorem Moment.le_iff {earlier later : Moment} :
    earlier ≤ later ↔ earlier.turn < later.turn ∨
      earlier.turn = later.turn ∧ phaseIndex earlier.phase ≤ phaseIndex later.phase :=
  Prod.Lex.toLex_le_toLex

theorem exists_phase (word : String) :
    ∃ phase : Phase, phaseIndex word = phaseIndex (Vocabulary.word phase) := by
  cases known : (Vocabulary.ofWord? word : Option Phase) with
  | none => exact ⟨.any, by simp only [phaseIndex, known]; rfl⟩
  | some phase => exact ⟨phase, by rw [ArmyState.phaseIndex_word, phaseIndex, known]⟩

namespace ArmyState

variable {states : List ArmyState} {state : ArmyState} {armyId : String}
  {moment earlier later : Moment}

/-! ## The interval of a state -/

/-- The last place on the battle clock at which the state is live, if it ends. -/
def lastPlace? (state : ArmyState) : Option (Int ×ₗ Nat) :=
  state.expiresPhase.map fun expiry => toLex (state.lastTurn, expiry.index)

/-- Of a phase only its place within the turn counts. -/
theorem isLive_congr {turn : Int} {phase other : String}
    (same : phaseIndex phase = phaseIndex other) :
    state.isLive turn (some phase) = state.isLive turn (some other) := by
  simp only [isLive, same]

/-- A state is live from its activation on, up to its last place on the clock. -/
theorem isLive_iff_clock :
    state.isLive moment.turn (some moment.phase) = true ↔
      state.activatedTurn ≤ moment.turn ∧ ∀ last ∈ state.lastPlace?, moment.clock ≤ last := by
  obtain ⟨phase, same⟩ := exists_phase moment.phase
  rw [isLive_congr same, isLive_iff, IsLiveAt, Moment.clock, same, phaseIndex_word, lastPlace?]
  cases state.expiresPhase with
  | none => simp
  | some expiry => simp [Prod.Lex.toLex_le_toLex]

theorem isLive_of_later (inOrder : earlier ≤ later)
    (activated : state.activatedTurn ≤ earlier.turn)
    (live : state.isLive later.turn (some later.phase) = true) :
    state.isLive earlier.turn (some earlier.phase) = true := by
  rw [isLive_iff_clock] at live ⊢
  have before : earlier.clock ≤ later.clock := inOrder
  exact ⟨activated, fun last ends => before.trans (live.2 last ends)⟩

theorem mem_forArmy_iff :
    state ∈ forArmy states armyId (some moment.turn) (some moment.phase) ↔
      armyId ≠ "" ∧ state ∈ states ∧ state.armyId = armyId ∧
        state.isLive moment.turn (some moment.phase) = true := by
  unfold forArmy
  by_cases nameless : armyId = ""
  · simp [nameless]
  · simp [nameless, and_comm]

/-- A state is live in one interval of the battle clock.  So of two moments in the order of the
clock, of which both come after its activation, it is live at the earlier one if it is live at
the later one; and once it is not among the live states of an army any more, it never is again,
whatever states are entered meanwhile. -/
theorem live_in_one_interval (state : ArmyState) :
    (∀ moment : Moment, state.isLive moment.turn (some moment.phase) = true ↔
      state.activatedTurn ≤ moment.turn ∧ ∀ expiry, state.expiresPhase = some expiry →
        toLex (moment.turn, phaseIndex moment.phase) ≤
          toLex (state.expiresTurn.getD state.activatedTurn, expiry.index)) ∧
    ∀ earlier later : Moment, earlier ≤ later → state.activatedTurn ≤ earlier.turn →
      (state.isLive later.turn (some later.phase) = true →
        state.isLive earlier.turn (some earlier.phase) = true) ∧
      ∀ states armyId, state ∈ states →
        state ∉ forArmy states armyId (some earlier.turn) (some earlier.phase) →
        ∀ more, state ∉ forArmy more armyId (some later.turn) (some later.phase) := by
  refine ⟨fun moment => ?_, fun earlier later inOrder activated =>
    ⟨isLive_of_later inOrder activated, fun states armyId listed gone more back => gone ?_⟩⟩
  · rw [isLive_iff_clock, lastPlace?]
    cases state.expiresPhase with
    | none => simp
    | some expiry => simp [Moment.clock, lastTurn]
  · obtain ⟨named, -, own, live⟩ := mem_forArmy_iff.mp back
    exact mem_forArmy_iff.mpr ⟨named, listed, own, isLive_of_later inOrder activated live⟩

/-- An oath that is kept until the end of the shooting phase of the turn in which it is
sworn. -/
def oathOfTheHunt : ArmyState where
  id := "oath"
  armyId := "wolves"
  state := "oath"
  activatedTurn := 2
  expiresPhase := some .shooting

/-- The oath is live in the shooting phase of its turn and so was before.  It is gone in the
fight phase, and does not come back in the next turn, nor in a phase that the rulebook does not
know. -/
theorem oathOfTheHunt_is_gone :
    oathOfTheHunt.isLive 2 (some "shooting") = true ∧
    oathOfTheHunt.isLive 2 (some "movement") = true ∧
    oathOfTheHunt ∉ forArmy [oathOfTheHunt] "wolves" (some 2) (some "fight") ∧
    oathOfTheHunt ∉ forArmy [oathOfTheHunt] "wolves" (some 3) (some "command") ∧
    oathOfTheHunt ∉ forArmy [oathOfTheHunt] "wolves" (some 2) (some "night") := by
  have interval := (live_in_one_interval oathOfTheHunt).2
  have live : oathOfTheHunt.isLive 2 (some "shooting") = true := by decide
  have gone : oathOfTheHunt ∉ forArmy [oathOfTheHunt] "wolves" (some 2) (some "fight") := by
    decide
  have never := fun later place => (interval ⟨2, "fight"⟩ later place (by decide)).2
    [oathOfTheHunt] "wolves" (List.mem_singleton.mpr rfl) gone [oathOfTheHunt]
  have earlier : (⟨2, "movement"⟩ : Moment) ≤ ⟨2, "shooting"⟩ := Moment.le_iff.mpr (by decide)
  exact ⟨live, (interval _ _ earlier (by decide)).1 live, gone,
    never ⟨3, "command"⟩ (Moment.le_iff.mpr (by decide)),
    never ⟨2, "night"⟩ (Moment.le_iff.mpr (by decide))⟩

end ArmyState

end Skirmish
