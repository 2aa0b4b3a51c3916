import Mathlib.Data.List.Forall2
import Mathlib.Order.Defs.Unbundled
import Skirmish.Fault

/-!
# Runs of calculations

A calculation on a state either returns a value or stops with a fault, and leaves
a state in both cases.  Rolling dice and evaluating rules are calculations of this
kind.  The lemmas here take a run apart along the steps of the calculation, so a
proof about a longer calculation never looks at how steps are composed.  The same is done
for two runs side by side that begin in related states.
-/

namespace Skirmish

/-! ## Outcomes -/

section

variable {α β : Type}

theorem bind_eq_ok_iff {ε : Type} {first : Except ε α} {next : α → Except ε β} {value : β} :
    first >>= next = .ok value ↔ ∃ middle, first = .ok middle ∧ next middle = .ok value := by
  cases first <;> simp [bind, Except.bind]

theorem map_eq_ok_iff {outcome : Except Fault α} {change : α → β} {value : β} :
    outcome.map change = .ok value ↔ ∃ given, outcome = .ok given ∧ change given = value := by
  cases outcome <;> simp [Except.map]

theorem mapM_eq_ok_iff {step : α → Except Fault β} {items : List α} {values : List β} :
    items.mapM step = .ok values ↔
      List.Forall₂ (fun item value => step item = .ok value) items values := by
  induction items generalizing values with
  | nil =>
      rw [List.mapM_nil, List.forall₂_nil_left_iff]
      exact ⟨fun same => (Except.ok.inj same).symm, fun same => same ▸ rfl⟩
  | cons item items ih =>
      simp only [List.mapM_cons, bind_eq_ok_iff, ih, List.forall₂_cons_left_iff]
      constructor
      · rintro ⟨value, found, others, foundOthers, same⟩
        exact ⟨value, others, found, foundOthers, (Except.ok.inj same).symm⟩
      · rintro ⟨value, others, found, foundOthers, rfl⟩
        exact ⟨value, found, others, foundOthers, rfl⟩

theorem exists_mapM_iff {step : α → Except Fault β} {items : List α} :
    (∃ values, items.mapM step = .ok values) ↔
      ∀ item ∈ items, ∃ value, step item = .ok value := by
  simp only [mapM_eq_ok_iff]
  induction items with
  | nil => simp
  | cons item items ih =>
      rw [List.forall_mem_cons, ← ih]
      constructor
      · rintro ⟨_, row⟩
        cases row with
        | cons here there => exact ⟨⟨_, here⟩, ⟨_, there⟩⟩
      · rintro ⟨⟨value, here⟩, ⟨values, there⟩⟩
        exact ⟨value :: values, .cons here there⟩

theorem ok_unique {outcome : Except Fault α} {first second : α} (found : outcome = .ok first)
    (again : outcome = .ok second) : first = second :=
  Except.ok.inj (found.symm.trans again)

theorem made_unique {outcome : Except Fault α} {make : α → β} {first second : β}
    (made : ∃ value, outcome = .ok value ∧ first = make value)
    (again : ∃ value, outcome = .ok value ∧ second = make value) : first = second := by
  obtain ⟨value, found, rfl⟩ := made
  obtain ⟨valueAgain, foundAgain, rfl⟩ := again
  rw [ok_unique found foundAgain]

/-- An outcome whose value can be looked at is one. -/
theorem exists_ok_of_shown {ε : Type} {outcome : Except ε α} {look : α → β} {shown : β}
    (found : outcome.toOption.map look = some shown) :
    ∃ value, outcome = .ok value ∧ look value = shown := by
  cases outcome with
  | error fault => cases found
  | ok value => exact ⟨value, rfl, Option.some.inj found⟩

end

theorem lt_numeralBound {n : Nat} (small : n < 10) : n < Text.numeralBound := by
  have positive : 1 ≤ Text.numeralLimit := by decide
  unfold Text.numeralBound
  generalize Text.numeralLimit = limit at positive ⊢
  calc n < 10 ^ 1 := small
    _ ≤ 10 ^ limit := Nat.pow_le_pow_right (by decide) positive

theorem numeralBound_pos : 0 < Text.numeralBound :=
  lt_numeralBound (by decide)

/-- Numbers can be written when each of them has as many digits as a numeral may have. -/
theorem writable_eq_ok_iff {numbers : List Int} :
    writable numbers = .ok () ↔ ∀ number ∈ numbers, number.natAbs < Text.numeralBound := by
  unfold writable
  split
  · rename_i oversized
    obtain ⟨number, member, exceeds⟩ := List.any_eq_true.mp oversized
    refine iff_of_false (fun same => by cases same) fun small => ?_
    exact absurd (of_decide_eq_true exceeds) (Nat.not_le.mpr (small number member))
  · rename_i small
    refine iff_of_true rfl fun number member => Nat.lt_of_not_le fun large => small ?_
    exact List.any_eq_true.mpr ⟨number, member, decide_eq_true large⟩

/-! ## Runs -/

/-- A calculation on a state of type `S` that may stop. -/
abbrev Calculation (S α : Type) := ExceptT Fault (StateM S) α

section

variable {S α β : Type}

/-- What a calculation comes to when it begins in the state `start`. -/
def outcomeOf (calculation : Calculation S α) (start : S) : Except Fault α × S :=
  calculation.run start

/-- The calculation returns `value` when it begins in the state `start`, and leaves
the state `final`. -/
def Returns (calculation : Calculation S α) (start : S) (value : α) (final : S) : Prop :=
  outcomeOf calculation start = (.ok value, final)

/-- The calculation returns, whatever it is, when it begins in the state `start`. -/
def Completes (calculation : Calculation S α) (start : S) : Prop :=
  ∃ value final, Returns calculation start value final

variable {start final : S}

theorem outcomeOf_get : outcomeOf (get : Calculation S S) start = (.ok start, start) :=
  rfl

theorem outcomeOf_bind (first : Calculation S α) (next : α → Calculation S β) :
    outcomeOf (first >>= next) start =
      match outcomeOf first start with
      | (.ok middle, state) => outcomeOf (next middle) state
      | (.error fault, state) => (.error fault, state) := by
  simp only [outcomeOf, ExceptT.run, bind, ExceptT.bind, ExceptT.mk, StateT.bind,
    ExceptT.bindCont]
  rcases first start with ⟨_ | middle, state⟩ <;> rfl

theorem outcomeOf_tryCatch (first : Calculation S α) (handle : Fault → Calculation S α) :
    outcomeOf (tryCatch first handle) start =
      match outcomeOf first start with
      | (.ok value, state) => (.ok value, state)
      | (.error fault, state) => outcomeOf (handle fault) state := by
  simp only [outcomeOf, ExceptT.run, tryCatch, tryCatchThe, MonadExceptOf.tryCatch,
    ExceptT.tryCatch, ExceptT.mk, bind, StateT.bind]
  rcases first start with ⟨_ | value, state⟩ <;> rfl

theorem outcomeOf_map (calculation : Calculation S α) (change : α → β) :
    outcomeOf (change <$> calculation) start =
      ((outcomeOf calculation start).1.map change, (outcomeOf calculation start).2) := by
  rw [← bind_pure_comp, outcomeOf_bind]
  rcases outcomeOf calculation start with ⟨_ | value, state⟩ <;> rfl

theorem Returns.unique {calculation : Calculation S α} {first second : α} {other : S}
    (returns : Returns calculation start first final)
    (again : Returns calculation start second other) :
    first = second ∧ final = other := by
  have same := returns.symm.trans again
  cases same
  exact ⟨rfl, rfl⟩

theorem exists_returns_of_shown {γ : Type} {calculation : Calculation S α} {look : α → γ}
    {shown : γ} (found : (outcomeOf calculation start).1.toOption.map look = some shown) :
    ∃ value final, Returns calculation start value final ∧ look value = shown := by
  unfold Returns
  rcases ran : outcomeOf calculation start with ⟨_ | value, final⟩ <;> rw [ran] at found
  · cases found
  · exact ⟨value, final, rfl, Option.some.inj found⟩

@[simp]
theorem returns_pure_iff {given value : α} :
    Returns (pure given : Calculation S α) start value final ↔
      value = given ∧ final = start := by
  constructor
  · intro returns
    cases returns
    exact ⟨rfl, rfl⟩
  · rintro ⟨rfl, rfl⟩
    rfl

/-- A composite returns exactly when both of its parts do, one after the other. -/
@[simp]
theorem returns_bind_iff {first : Calculation S α} {next : α → Calculation S β}
    {value : β} :
    Returns (first >>= next) start value final ↔
      ∃ middle state, Returns first start middle state ∧
        Returns (next middle) state value final := by
  unfold Returns
  rw [outcomeOf_bind]
  rcases outcomeOf first start with ⟨_ | middle, state⟩ <;> simp [and_assoc]

/-- A composite completes when its first part returns and its second part completes from
there. -/
theorem completes_bind_iff {first : Calculation S α} {next : α → Calculation S β} :
    Completes (first >>= next) start ↔
      ∃ middle state, Returns first start middle state ∧ Completes (next middle) state := by
  simp only [Completes, returns_bind_iff]
  constructor
  · rintro ⟨value, final, middle, state, ranFirst, ranNext⟩
    exact ⟨middle, state, ranFirst, value, final, ranNext⟩
  · rintro ⟨middle, state, ranFirst, value, final, ranNext⟩
    exact ⟨value, final, middle, state, ranFirst, ranNext⟩

/-- A run has one outcome only, so the second part completes from wherever the first one
returns. -/
theorem completes_bind_iff_forall {first : Calculation S α} {next : α → Calculation S β} :
    Completes (first >>= next) start ↔
      Completes first start ∧
        ∀ middle state, Returns first start middle state → Completes (next middle) state := by
  rw [completes_bind_iff]
  constructor
  · rintro ⟨middle, state, returns, completes⟩
    refine ⟨⟨middle, state, returns⟩, fun other otherState again => ?_⟩
    obtain ⟨rfl, rfl⟩ := returns.unique again
    exact completes
  · rintro ⟨⟨middle, state, returns⟩, completes⟩
    exact ⟨middle, state, returns, completes middle state returns⟩

theorem completes_pure (given : α) : Completes (pure given : Calculation S α) start :=
  ⟨given, start, rfl⟩

@[simp]
theorem returns_get_iff {value : S} :
    Returns (get : Calculation S S) start value final ↔ value = start ∧ final = start := by
  constructor
  · intro returns
    cases returns
    exact ⟨rfl, rfl⟩
  · rintro ⟨rfl, rfl⟩
    rfl

@[simp]
theorem returns_set_iff {given : S} {value : PUnit} :
    Returns (set given : Calculation S PUnit) start value final ↔ final = given := by
  constructor
  · intro returns
    cases returns
    rfl
  · rintro rfl
    rfl

@[simp]
theorem returns_modify_iff {change : S → S} {value : PUnit} :
    Returns (modify change : Calculation S PUnit) start value final ↔
      final = change start := by
  constructor
  · intro returns
    cases returns
    rfl
  · rintro rfl
    rfl

@[simp]
theorem not_returns_throw {fault : Fault} {value : α} :
    ¬ Returns (throw fault : Calculation S α) start value final := by
  intro returns
  cases returns

@[simp]
theorem returns_lift_iff {outcome : Except Fault α} {value : α} :
    Returns (liftM outcome : Calculation S α) start value final ↔
      outcome = .ok value ∧ final = start := by
  constructor
  · intro returns
    cases outcome with
    | error fault => cases returns
    | ok given =>
        cases returns
        exact ⟨rfl, rfl⟩
  · rintro ⟨rfl, rfl⟩
    rfl

@[simp]
theorem returns_map_iff {calculation : Calculation S α} {change : α → β} {value : β} :
    Returns (change <$> calculation) start value final ↔
      ∃ given, Returns calculation start given final ∧ value = change given := by
  rw [← bind_pure_comp, returns_bind_iff]
  simp

theorem completes_mapM {ι : Type} {step : ι → Calculation S α} {items : List ι}
    (completes : ∀ item ∈ items, ∀ start, Completes (step item) start) (start : S) :
    Completes (items.mapM step) start := by
  induction items generalizing start with
  | nil => exact completes_pure []
  | cons item items ih =>
      obtain ⟨here, there⟩ := List.forall_mem_cons.mp completes
      obtain ⟨value, middle, returns⟩ := here start
      obtain ⟨values, final, others⟩ := ih there middle
      rw [List.mapM_cons, completes_bind_iff]
      exact ⟨value, middle, returns, completes_bind_iff.mpr
        ⟨values, final, others, completes_pure _⟩⟩

theorem forall₂_of_returns_mapM {ι : Type} {relation : ι → α → Prop} {items : List ι}
    {step : ι → Calculation S α} {values : List α}
    (each : ∀ {item start value final}, Returns (step item) start value final →
      relation item value)
    (returns : Returns (items.mapM step) start values final) :
    List.Forall₂ relation items values := by
  induction items generalizing start values with
  | nil =>
      obtain ⟨rfl, rfl⟩ := returns_pure_iff.mp returns
      exact .nil
  | cons item items ih =>
      simp only [List.mapM_cons, returns_bind_iff, returns_pure_iff] at returns
      obtain ⟨value, _, ranItem, others, _, ranOthers, rfl, rfl⟩ := returns
      exact .cons (each ranItem) (ih ranOthers)

/-! ## What a run leaves behind -/

/-- Whatever the calculation comes to, the state in which it began is related to the one
that it leaves. -/
def Moves (relation : S → S → Prop) (calculation : Calculation S α) : Prop :=
  ∀ start, relation start (outcomeOf calculation start).2

theorem Moves.of_returns {relation : S → S → Prop} {calculation : Calculation S α} {value : α}
    (moves : Moves relation calculation) (returns : Returns calculation start value final) :
    relation start final := by
  have related := moves start
  rwa [returns] at related

theorem moves_modify {relation : S → S → Prop} {change : S → S}
    (related : ∀ state, relation state (change state)) :
    Moves relation (modify change : Calculation S PUnit) :=
  related

variable {relation : S → S → Prop} [IsPreorder S relation]

theorem moves_pure (value : α) : Moves relation (pure value : Calculation S α) :=
  fun _ => refl_of relation _

theorem moves_throw (fault : Fault) : Moves relation (throw fault : Calculation S α) :=
  fun _ => refl_of relation _

theorem moves_get : Moves relation (get : Calculation S S) :=
  fun _ => refl_of relation _

theorem moves_lift (outcome : Except Fault α) :
    Moves relation (liftM outcome : Calculation S α) :=
  fun _ => refl_of relation _

/-- What follows a calculation has to move only where the calculation returned. -/
theorem moves_bind_of_returns {first : Calculation S α} {next : α → Calculation S β}
    (moves : Moves relation first)
    (movesNext : ∀ {start middle state}, Returns first start middle state →
      Moves relation (next middle)) :
    Moves relation (first >>= next) := by
  intro start
  have related := moves start
  rw [outcomeOf_bind]
  rcases ran : outcomeOf first start with ⟨_ | middle, state⟩ <;> rw [ran] at related
  · exact related
  · exact trans_of relation related (movesNext ran state)

theorem moves_bind {first : Calculation S α} {next : α → Calculation S β}
    (moves : Moves relation first) (movesNext : ∀ middle, Moves relation (next middle)) :
    Moves relation (first >>= next) :=
  moves_bind_of_returns moves fun {_ middle _} _ => movesNext middle

theorem moves_tryCatch {first : Calculation S α} {handle : Fault → Calculation S α}
    (moves : Moves relation first) (movesNext : ∀ fault, Moves relation (handle fault)) :
    Moves relation (tryCatch first handle) := by
  intro start
  have related := moves start
  rw [outcomeOf_tryCatch]
  rcases ran : outcomeOf first start with ⟨fault | value, state⟩ <;> rw [ran] at related
  · exact trans_of relation related (movesNext fault state)
  · exact related

theorem moves_mapM {ι : Type} {items : List ι} {step : ι → Calculation S α}
    (moves : ∀ item ∈ items, Moves relation (step item)) :
    Moves relation (items.mapM step) := by
  induction items with
  | nil => exact moves_pure []
  | cons item items ih =>
      rw [List.mapM_cons]
      refine moves_bind (moves item (by simp)) fun _ => ?_
      refine moves_bind (ih fun other member => moves other (by simp [member])) ?_
      exact fun _ => moves_pure _

end

/-! ## Invariants -/

/-- A state keeps an invariant that it had. -/
instance isPreorder_keeps {S : Type} (invariant : S → Prop) :
    IsPreorder S fun start final => invariant start → invariant final where
  refl _ holds := holds
  trans _ _ _ first second holds := second (first holds)

/-! ## Two runs side by side -/

section

variable {S α β : Type} {relation : S → S → Prop}

/-- Begun in related states, both calculations come to the same outcome, and the states
that they leave are related. -/
def Agree (relation : S → S → Prop) (first second : Calculation S α) : Prop :=
  ∀ start other, relation start other →
    (outcomeOf first start).1 = (outcomeOf second other).1 ∧
      relation (outcomeOf first start).2 (outcomeOf second other).2

theorem Agree.returns {first second : Calculation S α} {start final other : S} {value : α}
    (agree : Agree relation first second) (related : relation start other)
    (returns : Returns first start value final) :
    ∃ finalOther, Returns second other value finalOther ∧ relation final finalOther := by
  obtain ⟨same, relatedAfter⟩ := agree start other related
  rw [returns] at same relatedAfter
  exact ⟨(outcomeOf second other).2, Prod.ext same.symm rfl, relatedAfter⟩

theorem Agree.unique {first second : Calculation S α} {start final other finalOther : S}
    {value valueOther : α} (agree : Agree relation first second) (related : relation start other)
    (returns : Returns first start value final)
    (returnsOther : Returns second other valueOther finalOther) :
    value = valueOther ∧ relation final finalOther := by
  obtain ⟨_, again, relatedAfter⟩ := agree.returns related returns
  obtain ⟨rfl, rfl⟩ := again.unique returnsOther
  exact ⟨rfl, relatedAfter⟩

theorem agree_pure (value : α) :
    Agree relation (pure value : Calculation S α) (pure value) :=
  fun _ _ related => ⟨rfl, related⟩

theorem agree_throw (fault : Fault) :
    Agree relation (throw fault : Calculation S α) (throw fault) :=
  fun _ _ related => ⟨rfl, related⟩

theorem agree_lift (outcome : Except Fault α) :
    Agree relation (liftM outcome : Calculation S α) (liftM outcome) := by
  cases outcome with
  | error fault => exact agree_throw fault
  | ok value => exact agree_pure value

/-- What is done with the states that are read has to agree where they were read. -/
theorem agree_get {next nextOther : S → Calculation S α}
    (agree : ∀ start other, relation start other →
      (outcomeOf (next start) start).1 = (outcomeOf (nextOther other) other).1 ∧
        relation (outcomeOf (next start) start).2 (outcomeOf (nextOther other) other).2) :
    Agree relation (get >>= next) (get >>= nextOther) := by
  intro start other related
  rw [outcomeOf_bind, outcomeOf_bind, outcomeOf_get, outcomeOf_get]
  exact agree start other related

theorem agree_modify {change changeOther : S → S}
    (related : ∀ start other, relation start other →
      relation (change start) (changeOther other)) :
    Agree relation (modify change : Calculation S PUnit) (modify changeOther) :=
  fun start other before => ⟨rfl, related start other before⟩

theorem agree_bind {first second : Calculation S α} {next nextOther : α → Calculation S β}
    (agree : Agree relation first second)
    (agreeNext : ∀ middle, Agree relation (next middle) (nextOther middle)) :
    Agree relation (first >>= next) (second >>= nextOther) := by
  intro start other related
  obtain ⟨same, relatedAfter⟩ := agree start other related
  rw [outcomeOf_bind, outcomeOf_bind]
  rcases ran : outcomeOf first start with ⟨_ | middle, state⟩ <;>
    rcases ranOther : outcomeOf second other with ⟨_ | middleOther, stateOther⟩ <;>
    rw [ran, ranOther] at same relatedAfter
  · exact ⟨congrArg Except.error (Except.error.inj same), relatedAfter⟩
  · cases same
  · cases same
  · obtain rfl := Except.ok.inj same
    exact agreeNext middle state stateOther relatedAfter

theorem agree_map {first second : Calculation S α} (change : α → β)
    (agree : Agree relation first second) :
    Agree relation (change <$> first) (change <$> second) := by
  rw [← bind_pure_comp, ← bind_pure_comp]
  exact agree_bind agree fun _ => agree_pure _

/-- What the next part does not read of a value may be forgotten before. -/
theorem agree_bind_forget {first second : Calculation S α} {next : α → Calculation S β}
    (forget : α → α) (unread : ∀ middle, next (forget middle) = next middle)
    (agree : Agree relation (forget <$> first) (forget <$> second))
    (agreeNext : ∀ middle, Agree relation (next middle) (next middle)) :
    Agree relation (first >>= next) (second >>= next) := by
  have forgotten (calculation : Calculation S α) :
      calculation >>= next = forget <$> calculation >>= next := by
    simp only [bind_map_left, unread]
  rw [forgotten first, forgotten second]
  exact agree_bind agree agreeNext

theorem agree_tryCatch {first second : Calculation S α}
    {handle handleOther : Fault → Calculation S α} (agree : Agree relation first second)
    (agreeNext : ∀ fault, Agree relation (handle fault) (handleOther fault)) :
    Agree relation (tryCatch first handle) (tryCatch second handleOther) := by
  intro start other related
  obtain ⟨same, relatedAfter⟩ := agree start other related
  rw [outcomeOf_tryCatch, outcomeOf_tryCatch]
  rcases ran : outcomeOf first start with ⟨fault | value, state⟩ <;>
    rcases ranOther : outcomeOf second other with ⟨faultOther | valueOther, stateOther⟩ <;>
    rw [ran, ranOther] at same relatedAfter
  · obtain rfl := Except.error.inj same
    exact agreeNext fault state stateOther relatedAfter
  · cases same
  · cases same
  · exact ⟨congrArg Except.ok (Except.ok.inj same), relatedAfter⟩

theorem agree_mapM {ι : Type} {step stepOther : ι → Calculation S α} (items : List ι)
    (agree : ∀ item, Agree relation (step item) (stepOther item)) :
    Agree relation (items.mapM step) (items.mapM stepOther) := by
  induction items with
  | nil => exact agree_pure []
  | cons item items ih =>
      rw [List.mapM_cons, List.mapM_cons]
      refine agree_bind (agree item) fun _ => ?_
      exact agree_bind ih fun _ => agree_pure _

end

end Skirmish
