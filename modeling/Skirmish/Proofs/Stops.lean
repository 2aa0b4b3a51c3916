import Skirmish.Proofs.Runs

/-!
# Calculations that stop

A calculation that returns no value stops with a fault, and still leaves a state.  A
composite stops in its first part, or in the second one after the first one returned.
-/

namespace Skirmish

variable {S α β : Type} {start final : S} {fault : Fault}

/-- The calculation stops with `fault` when it begins in the state `start`, and leaves the
state `final`. -/
def Stops (calculation : Calculation S α) (start : S) (fault : Fault) (final : S) : Prop :=
  outcomeOf calculation start = (.error fault, final)

theorem completes_or_stops (calculation : Calculation S α) (start : S) :
    Completes calculation start ∨ ∃ fault final, Stops calculation start fault final := by
  rcases ran : outcomeOf calculation start with ⟨fault | value, final⟩
  · exact .inr ⟨fault, final, ran⟩
  · exact .inl ⟨value, final, ran⟩

theorem Completes.not_stops {calculation : Calculation S α}
    (completes : Completes calculation start) : ¬ Stops calculation start fault final := by
  obtain ⟨value, other, returns⟩ := completes
  intro stops
  cases returns.symm.trans stops

@[simp]
theorem not_stops_pure {value : α} :
    ¬ Stops (pure value : Calculation S α) start fault final :=
  (completes_pure value).not_stops

@[simp]
theorem stops_throw_iff {given : Fault} :
    Stops (throw given : Calculation S α) start fault final ↔ fault = given ∧ final = start := by
  constructor
  · intro stops
    cases stops
    exact ⟨rfl, rfl⟩
  · rintro ⟨rfl, rfl⟩
    rfl

@[simp]
theorem stops_lift_iff {outcome : Except Fault α} :
    Stops (liftM outcome : Calculation S α) start fault final ↔
      outcome = .error fault ∧ final = start := by
  constructor
  · intro stops
    cases outcome with
    | error given =>
        cases stops
        exact ⟨rfl, rfl⟩
    | ok value => cases stops
  · rintro ⟨rfl, rfl⟩
    rfl

@[simp]
theorem stops_bind_iff {first : Calculation S α} {next : α → Calculation S β} :
    Stops (first >>= next) start fault final ↔
      Stops first start fault final ∨ ∃ middle state, Returns first start middle state ∧
        Stops (next middle) state fault final := by
  unfold Stops Returns
  rw [outcomeOf_bind]
  rcases outcomeOf first start with ⟨given | middle, state⟩ <;> simp [and_assoc]

/-- A calculation with a handler returns what the calculation returns, or else what the
handler makes of its fault. -/
theorem returns_tryCatch_iff {first : Calculation S α} {handle : Fault → Calculation S α}
    {value : α} :
    Returns (tryCatch first handle) start value final ↔
      Returns first start value final ∨ ∃ fault state, Stops first start fault state ∧
        Returns (handle fault) state value final := by
  unfold Stops Returns
  rw [outcomeOf_tryCatch]
  rcases outcomeOf first start with ⟨given | value, state⟩ <;> simp [and_assoc]

theorem fault_of_stops_mapM {ι : Type} (good : Fault → Prop) {step : ι → Calculation S α}
    {items : List ι}
    (each : ∀ item ∈ items, ∀ {start fault final}, Stops (step item) start fault final →
      good fault)
    (stops : Stops (items.mapM step) start fault final) : good fault := by
  induction items generalizing start with
  | nil => exact (not_stops_pure stops).elim
  | cons item items ih =>
      obtain ⟨here, there⟩ := List.forall_mem_cons.mp each
      simp only [List.mapM_cons, stops_bind_iff, not_stops_pure, and_false, exists_false,
        or_false] at stops
      rcases stops with stopsHere | ⟨value, state, -, stopsThere⟩
      · exact here stopsHere
      · exact ih there stopsThere

/-- A row of calculations stops at the first step that does not return. -/
theorem stops_mapM_of_split {ι : Type} {step : ι → Calculation S α} {before : List ι}
    {item : ι} {values : List α} {middle : S}
    (returns : Returns (before.mapM step) start values middle)
    (stops : Stops (step item) middle fault final) (after : List ι) :
    Stops ((before ++ item :: after).mapM step) start fault final := by
  rw [List.mapM_append, stops_bind_iff]
  refine .inr ⟨values, middle, returns, stops_bind_iff.mpr (.inl ?_)⟩
  rw [List.mapM_cons, stops_bind_iff]
  exact .inl stops

end Skirmish
