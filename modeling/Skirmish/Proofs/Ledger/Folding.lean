import Mathlib.Algebra.Order.Ring.Int
import Mathlib.Data.List.Infix
import Skirmish.Proofs.Combat.Written
import Skirmish.Proofs.Ledger.Changes

/-!
# Folding in closed form

A ledger folds the entries of a stat in three passes, and tells each step.  On whole numbers
the passes have a closed form: the last number that is set, or else the base with all
additions and subtractions, brought between the highest lower bound and the lowest upper
bound.  The clamps come one after the other, so this needs bounds that agree: then a clamp
never undoes an earlier one.

`Folding.StandsAt` is what every step keeps.  Besides the number reached it knows that the
last line tells this number, and that nothing has happened before the first line.
-/

namespace Skirmish

/-- The integer is small enough to become a floating number. -/
def IsFloatable (n : Int) : Prop :=
  (Binary64.ofInt? n).isSome = true

instance (n : Int) : Decidable (IsFloatable n) :=
  inferInstanceAs (Decidable (_ = _))

theorem IsFloatable.normalize? {n : Int} (small : IsFloatable n) :
    (Number.int n).normalize? = some (.int n) := by
  obtain ⟨x, converted⟩ := Option.isSome_iff_exists.mp small
  simp [Number.normalize?, converted]

namespace Modifier

/-- The modifier brings an integer. -/
def IsWhole (modifier : Modifier) : Prop :=
  ∃ n : Int, modifier.value = .int n

/-- What the modifier adds to a sum. -/
def share (modifier : Modifier) : Int :=
  match modifier.operation with
  | .add => modifier.amount
  | .subtract => -modifier.amount
  | .set | .clampMin | .clampMax => 0

/-- What the modifier makes of a number when it is a clamp. -/
def clamped (modifier : Modifier) (n : Int) : Int :=
  match modifier.operation with
  | .clampMin => max n modifier.amount
  | .clampMax => min n modifier.amount
  | .add | .subtract | .set => n

/-- The modifier adds or subtracts. -/
def isSummand (modifier : Modifier) : Bool :=
  modifier.operation == .add || modifier.operation == .subtract

variable {modifier : Modifier}

theorem IsWhole.value (whole : modifier.IsWhole) : modifier.value = .int modifier.amount := by
  obtain ⟨n, value⟩ := whole
  simp [amount, value]

theorem IsWhole.signedValue (whole : modifier.IsWhole) (summand : modifier.isSummand = true) :
    modifier.signedValue = .int modifier.share := by
  unfold isSummand at summand
  unfold Modifier.signedValue share
  rw [whole.value]
  cases operation : modifier.operation <;> simp [operation] at summand
  · rfl
  · rfl

end Modifier

namespace Ledger

/-! ## Closed form -/

/-- What the modifiers with a given operation bring, in their order. -/
def amountsOf (operation : Operation) (modifiers : List Modifier) : List Int :=
  (modifiers.filter (·.operation == operation)).map Modifier.amount

/-- A base with all additions and without all subtractions. -/
def accumulated (modifiers : List Modifier) (base : Int) : Int :=
  base + (amountsOf .add modifiers).sum - (amountsOf .subtract modifiers).sum

/-- The last number that is set, or else the accumulated base. -/
def unclamped (modifiers : List Modifier) (base : Int) : Int :=
  (amountsOf .set modifiers).getLast?.getD (accumulated modifiers base)

/-- The highest of the lower bounds. -/
def lowerBound (modifiers : List Modifier) : Option Int :=
  (amountsOf .clampMin modifiers).max?

/-- The lowest of the upper bounds. -/
def upperBound (modifiers : List Modifier) : Option Int :=
  (amountsOf .clampMax modifiers).min?

/-- No lower bound is above an upper one. -/
def BoundsAgree (modifiers : List Modifier) : Prop :=
  ∀ low ∈ lowerBound modifiers, ∀ high ∈ upperBound modifiers, low ≤ high

/-- A number brought above a lower bound, and then below an upper one, as far as there are
bounds. -/
def between (lower upper : Option Int) (n : Int) : Int :=
  let raised := lower.elim n (max · n)
  upper.elim raised (min · raised)

/-- The numbers on the way from a base through modifiers are small enough to become floating
numbers: the sums from the base on and from zero, and all numbers that are set or clamped
to. -/
structure SmallOnTheWay (modifiers : List Modifier) (base : Int) : Prop where
  sums : ∀ earlier ∈ modifiers.inits, IsFloatable (accumulated earlier base)
  net : IsFloatable (accumulated modifiers 0)
  others : ∀ modifier ∈ modifiers, modifier.isSummand = false → IsFloatable modifier.amount

variable {entry : Modifier} {entries : List Modifier}

theorem amountsOf_cons (operation : Operation) (entry : Modifier) (rest : List Modifier) :
    amountsOf operation (entry :: rest) =
      if entry.operation = operation then entry.amount :: amountsOf operation rest
      else amountsOf operation rest := by
  by_cases own : entry.operation = operation
  · simp [amountsOf, own]
  · simp [amountsOf, own]

theorem accumulated_nil (base : Int) : accumulated [] base = base := by
  simp [accumulated, amountsOf]

theorem SmallOnTheWay.base {base : Int} (small : SmallOnTheWay entries base) :
    IsFloatable base := by
  have none := small.sums [] (by simp)
  rwa [accumulated_nil] at none

theorem accumulated_cons (entry : Modifier) (rest : List Modifier) (base : Int) :
    accumulated (entry :: rest) base = accumulated rest (base + entry.share) := by
  unfold accumulated Modifier.share
  rw [amountsOf_cons, amountsOf_cons]
  cases operation : entry.operation <;> simp <;> omega

theorem unclamped_eq (entries : List Modifier) (base : Int) :
    unclamped entries base =
      match lastSet? entries with
      | some entry => entry.amount
      | none => accumulated entries base := by
  unfold unclamped amountsOf lastSet?
  rw [List.getLast?_map]
  cases (entries.filter (·.operation == .set)).getLast? <;> rfl

/-! ## Clamps -/

theorem BoundsAgree.le (agree : BoundsAgree entries) {low high : Int}
    (lower : low ∈ amountsOf .clampMin entries) (upper : high ∈ amountsOf .clampMax entries) :
    low ≤ high := by
  cases highest : lowerBound entries with
  | none =>
      rw [List.max?_eq_none_iff.mp highest] at lower
      exact (List.not_mem_nil lower).elim
  | some highestLow =>
      cases lowest : upperBound entries with
      | none =>
          rw [List.min?_eq_none_iff.mp lowest] at upper
          exact (List.not_mem_nil upper).elim
      | some lowestHigh =>
          have above := (List.max?_eq_some_iff.mp highest).2 low lower
          have below := (List.min?_eq_some_iff.mp lowest).2 high upper
          have agreed := agree highestLow highest lowestHigh lowest
          omega

theorem between_max (lower upper : Option Int) (bound n : Int) :
    between lower upper (max n bound) =
      between (some (lower.elim bound (max bound))) upper n := by
  cases lower <;> cases upper <;>
    simp only [between, Option.elim_some, Option.elim_none] <;> omega

/-- A number may be lowered before it is raised when it is not lowered below the lower
bound. -/
theorem between_min {lower : Option Int} {bound : Int} (below : ∀ low ∈ lower, low ≤ bound)
    (upper : Option Int) (n : Int) :
    between lower upper (min n bound) =
      between lower (some (upper.elim bound (min bound))) n := by
  cases lower with
  | none =>
      cases upper <;> simp only [between, Option.elim_some, Option.elim_none] <;> omega
  | some low =>
      have le := below low rfl
      cases upper <;> simp only [between, Option.elim_some, Option.elim_none] <;> omega

/-- To clamp one after the other leads between the bounds when no lower bound is above an
upper one. -/
theorem foldl_clamped
    (agree : ∀ low ∈ amountsOf .clampMin entries, ∀ high ∈ amountsOf .clampMax entries,
      low ≤ high) (n : Int) :
    entries.foldl (fun reached entry => entry.clamped reached) n =
      between (lowerBound entries) (upperBound entries) n := by
  unfold lowerBound upperBound
  induction entries generalizing n with
  | nil => rfl
  | cons entry rest ih =>
      rw [amountsOf_cons, amountsOf_cons] at agree ⊢
      rw [List.foldl_cons, Modifier.clamped]
      cases operation : entry.operation with
      | add | subtract | set =>
          simp only [operation, reduceCtorEq, if_false] at agree ⊢
          exact ih agree n
      | clampMin =>
          simp only [operation, reduceCtorEq, if_true, if_false, List.forall_mem_cons,
            List.max?_cons] at agree ⊢
          rw [ih agree.2]
          exact between_max _ _ _ _
      | clampMax =>
          simp only [operation, reduceCtorEq, if_true, if_false, List.forall_mem_cons,
            List.min?_cons] at agree ⊢
          rw [ih fun low member => (agree low member).2]
          refine between_min (fun low highest => ?_) _ _
          exact (agree low (List.max?_mem highest)).1

/-! ## Steps -/

/-- A folding from a base has reached a number that is small enough to be told.  The last
line ends in it, and without lines it is still the base. -/
structure Folding.StandsAt (base n : Int) (folding : Folding) : Prop where
  value : folding.value = .int n
  small : IsFloatable n
  told : ∀ line ∈ folding.lines.getLast?, ∃ start, line = start ++ " -> " ++ toString n
  untold : folding.lines = [] → n = base

theorem stepLine_ends (entry : Modifier) (n : Int) :
    ∃ start, stepLine entry (.int n) = start ++ " -> " ++ toString n := by
  refine ⟨s!"[Ledger] {entry.stat} {Vocabulary.word entry.operation} {entry.value.text} " ++
    s!"({entry.source})", ?_⟩
  have joined : ") -> " = ")" ++ " -> " := rfl
  -- An equation for the line would be checked by comparing texts character by character.
  delta stepLine
  simp only [joined, String.append_assoc]
  rfl

namespace Folding

variable {folding : Folding} {base n : Int}

theorem standsAt_base (small : IsFloatable base) :
    (⟨.int base, []⟩ : Folding).StandsAt base base where
  value := rfl
  small := small
  told line last := by cases last
  untold _ := rfl

/-- A step to a small number is taken and told, wherever the folding stands. -/
theorem exists_step (folding : Folding) (entry : Modifier) {next : Int}
    (small : IsFloatable next) :
    ∃ final, folding.step? entry (.int next) = some final ∧ final.StandsAt base next := by
  refine ⟨⟨.int next, folding.lines ++ [stepLine entry (.int next)]⟩, ?_, ?_⟩
  · unfold step?
    rw [small.normalize?, Option.map_some]
  · refine ⟨rfl, small, fun line last => ?_, fun none => ?_⟩
    · obtain rfl : stepLine entry (.int next) = line := by simpa using last
      exact stepLine_ends entry next
    · simp at none

theorem exists_accumulate (stands : folding.StandsAt base n) (whole : entry.IsWhole)
    (small : IsFloatable (n + entry.share)) :
    ∃ next, folding.accumulate? entry = some next ∧ next.StandsAt base (n + entry.share) := by
  cases summand : entry.isSummand with
  | true =>
      obtain ⟨next, stepped, standsNext⟩ := exists_step folding entry small
      refine ⟨next, ?_, standsNext⟩
      unfold accumulate?
      rw [stands.value, whole.signedValue summand]
      unfold Modifier.isSummand at summand
      cases operation : entry.operation <;> simp [operation] at summand
      · exact stepped
      · exact stepped
  | false =>
      -- Nothing is added, so the folding stays where it is.
      unfold Modifier.isSummand at summand
      refine ⟨folding, ?_, ?_⟩
      · unfold accumulate?
        cases operation : entry.operation <;> simp [operation] at summand ⊢
      · have nothing : entry.share = 0 := by
          unfold Modifier.share
          cases operation : entry.operation <;> simp [operation] at summand ⊢
        rw [nothing, Int.add_zero]
        exact stands

theorem exists_clamp (stands : folding.StandsAt base n) (whole : entry.IsWhole)
    (small : entry.isSummand = false → IsFloatable entry.amount) :
    ∃ next, folding.clamp? entry = some next ∧ next.StandsAt base (entry.clamped n) := by
  unfold clamp? Modifier.clamped
  unfold Modifier.isSummand at small
  rw [stands.value, whole.value]
  cases operation : entry.operation with
  | add | subtract | set => exact ⟨folding, rfl, stands⟩
  | clampMin =>
      rw [operation] at small
      by_cases acts : n < entry.amount
      · simp only [Number.lt, acts, decide_true, if_true]
        rw [Int.max_eq_right (Int.le_of_lt acts)]
        exact exists_step folding entry (small rfl)
      · simp only [Number.lt, acts, decide_false, Bool.false_eq_true, if_false]
        rw [Int.max_eq_left (Int.not_lt.mp acts)]
        exact ⟨folding, rfl, stands⟩
  | clampMax =>
      rw [operation] at small
      by_cases acts : entry.amount < n
      · simp only [Number.lt, acts, decide_true, if_true]
        rw [Int.min_eq_right (Int.le_of_lt acts)]
        exact exists_step folding entry (small rfl)
      · simp only [Number.lt, acts, decide_false, Bool.false_eq_true, if_false]
        rw [Int.min_eq_left (Int.not_lt.mp acts)]
        exact ⟨folding, rfl, stands⟩

/-! ## Passes -/

theorem exists_foldlM_accumulate (stands : folding.StandsAt base n)
    (whole : ∀ entry ∈ entries, entry.IsWhole)
    (small : ∀ earlier ∈ entries.inits, IsFloatable (accumulated earlier n)) :
    ∃ final, entries.foldlM accumulate? folding = some final ∧
      final.StandsAt base (accumulated entries n) := by
  induction entries generalizing folding n with
  | nil => exact ⟨folding, rfl, by rwa [accumulated_nil]⟩
  | cons entry rest ih =>
      obtain ⟨wholeHere, wholeThere⟩ := List.forall_mem_cons.mp whole
      have smallHere : IsFloatable (n + entry.share) := by
        have first := small [entry] (by simp)
        rwa [accumulated_cons, accumulated_nil] at first
      obtain ⟨next, stepped, standsNext⟩ := exists_accumulate stands wholeHere smallHere
      obtain ⟨final, folded, standsFinal⟩ := ih standsNext wholeThere fun earlier member => by
        have longer := small (entry :: earlier) (by simpa using member)
        rwa [accumulated_cons] at longer
      refine ⟨final, ?_, ?_⟩
      · rw [List.foldlM_cons, stepped]
        exact folded
      · rwa [accumulated_cons]

theorem exists_foldlM_clamp (stands : folding.StandsAt base n)
    (whole : ∀ entry ∈ entries, entry.IsWhole)
    (small : ∀ entry ∈ entries, entry.isSummand = false → IsFloatable entry.amount) :
    ∃ final, entries.foldlM clamp? folding = some final ∧
      final.StandsAt base (entries.foldl (fun reached entry => entry.clamped reached) n) := by
  induction entries generalizing folding n with
  | nil => exact ⟨folding, rfl, stands⟩
  | cons entry rest ih =>
      obtain ⟨wholeHere, wholeThere⟩ := List.forall_mem_cons.mp whole
      obtain ⟨smallHere, smallThere⟩ := List.forall_mem_cons.mp small
      obtain ⟨next, stepped, standsNext⟩ := exists_clamp stands wholeHere smallHere
      obtain ⟨final, folded, standsFinal⟩ := ih standsNext wholeThere smallThere
      refine ⟨final, ?_, standsFinal⟩
      rw [List.foldlM_cons, stepped]
      exact folded

end Folding

/-- The second pass: the last number that is set, if there is one, replaces the number. -/
def Folding.replaceBy? (entries : List Modifier) (folding : Folding) : Option Folding :=
  match lastSet? entries with
  | some entry => folding.replace? entry
  | none => some folding

theorem fold?_eq (entries : List Modifier) (base : Number) :
    fold? entries base =
      (entries.foldlM Folding.accumulate? ⟨base, []⟩).bind fun accumulated =>
        (accumulated.replaceBy? entries).bind fun replaced =>
          (entries.foldlM Folding.clamp? replaced).bind fun clamped =>
            clamped.value.normalize?.bind fun value => some { clamped with value } := by
  unfold fold? Folding.replaceBy?
  cases lastSet? entries <;> rfl

theorem Folding.exists_replaceBy {folding : Folding} {base : Int}
    (stands : folding.StandsAt base (accumulated entries base))
    (whole : ∀ entry ∈ entries, entry.IsWhole)
    (small : ∀ entry ∈ entries, entry.isSummand = false → IsFloatable entry.amount) :
    ∃ next, folding.replaceBy? entries = some next ∧
      next.StandsAt base (unclamped entries base) := by
  rw [unclamped_eq]
  unfold replaceBy?
  cases found : lastSet? entries with
  | none => exact ⟨folding, rfl, stands⟩
  | some last =>
      obtain ⟨member, sets⟩ := mem_of_lastSet? found
      have smallLast := small last member (by simp [Modifier.isSummand, sets])
      dsimp only [replace?]
      rw [(whole last member).value]
      exact exists_step folding last smallLast

/-- Whole numbers are folded through all three passes. -/
theorem exists_fold (whole : ∀ entry ∈ entries, entry.IsWhole) {base : Int}
    (small : SmallOnTheWay entries base) :
    ∃ final, fold? entries (.int base) = some final ∧
      final.StandsAt base (entries.foldl (fun reached entry => entry.clamped reached)
        (unclamped entries base)) := by
  obtain ⟨first, accumulates, standsFirst⟩ :=
    Folding.exists_foldlM_accumulate (Folding.standsAt_base small.base) whole small.sums
  obtain ⟨second, replaces, standsSecond⟩ :=
    Folding.exists_replaceBy standsFirst whole small.others
  obtain ⟨third, clamps, standsThird⟩ :=
    Folding.exists_foldlM_clamp standsSecond whole small.others
  refine ⟨third, ?_, standsThird⟩
  rw [fold?_eq, accumulates, Option.bind_some, replaces, Option.bind_some, clamps,
    Option.bind_some, standsThird.value, standsThird.small.normalize?, Option.bind_some,
    ← standsThird.value]

/-! ## Sums -/

theorem foldlM_add?_of_share (whole : ∀ entry ∈ entries, entry.IsWhole)
    (summands : ∀ entry ∈ entries, entry.isSummand = true) (start : Int) :
    entries.foldlM (fun sum entry => Number.add? sum entry.signedValue) (Number.int start) =
      some (.int (accumulated entries start)) := by
  induction entries generalizing start with
  | nil => rw [accumulated_nil]; rfl
  | cons entry rest ih =>
      obtain ⟨wholeHere, wholeThere⟩ := List.forall_mem_cons.mp whole
      obtain ⟨summandHere, summandsThere⟩ := List.forall_mem_cons.mp summands
      rw [List.foldlM_cons, wholeHere.signedValue summandHere, accumulated_cons]
      exact ih wholeThere summandsThere _

theorem amountsOf_eq_nil (summands : ∀ entry ∈ entries, entry.isSummand = true)
    {operation : Operation} (other : operation ≠ .add ∧ operation ≠ .subtract) :
    amountsOf operation entries = [] := by
  unfold amountsOf
  rw [List.map_eq_nil_iff, List.filter_eq_nil_iff]
  intro entry member
  have summand := summands entry member
  rw [beq_iff_eq]
  rintro rfl
  simp [Modifier.isSummand, other] at summand

theorem accumulated_eq (entries : List Modifier) (base : Int) :
    accumulated entries base = base + accumulated entries 0 := by
  unfold accumulated
  omega

/-! ## Ledgers -/

/-- The modifiers of a stat that are left after changes, in the order of their priorities
and then of their addition. -/
def inEffect (changes : List Change) (stat : String) : List Modifier :=
  Modifier.inOrder ((survivors changes).filter (·.stat == stat))

theorem added_of_mem_survivors {changes : List Change} {modifier : Modifier}
    (member : modifier ∈ survivors changes) : .add modifier ∈ changes := by
  induction changes with
  | nil => simp [survivors] at member
  | cons first later ih =>
      cases first with
      | clear source => exact List.mem_cons_of_mem _ (ih member)
      | add earlier =>
          rw [survivors] at member
          split at member
          · exact List.mem_cons_of_mem _ (ih member)
          · rcases List.mem_cons.mp member with rfl | member
            · exact List.mem_cons_self ..
            · exact List.mem_cons_of_mem _ (ih member)

theorem added_of_mem_inEffect {changes : List Change} {stat : String} {modifier : Modifier}
    (member : modifier ∈ inEffect changes stat) : .add modifier ∈ changes := by
  have filtered := (List.mergeSort_perm _ _).mem_iff.mp member
  exact added_of_mem_survivors (List.mem_filter.mp filtered).1

theorem tracedValueOver?_of_fold {ledger : Ledger} {stat : String} {base : Int} {final : Folding}
    (smallBase : IsFloatable base)
    (folded : fold? (ledger.entriesFor stat) (.int base) = some final) :
    ledger.tracedValueOver? stat (.int base) = some (final.value, final.lines) := by
  unfold tracedValueOver?
  split
  · -- Without entries the base is returned as it is, and folding does the same to a small one.
    rename_i none
    rw [none, fold?_eq] at folded
    simp only [List.foldlM_nil, Option.pure_def, Option.bind_some, Folding.replaceBy?, lastSet?,
      List.filter_nil, List.getLast?_nil, smallBase.normalize?, Option.some.injEq] at folded
    rw [← folded]
  · rw [folded, Option.map_some]

/-- A ledger of whole numbers folds a stat in closed form: onto a base it returns the last
number that is set, or else the base with all additions and without all subtractions, brought
between the bounds if these agree.  When the stat is only added to and subtracted from, that
is the base with the net value.  The trace comes to the same number; its last line ends in
it, and without lines the number is the base. -/
theorem after_folds_in_closed_form {changes : List Change}
    (whole : ∀ modifier, .add modifier ∈ changes → modifier.IsWhole) (stat : String) {base : Int}
    (small : SmallOnTheWay (inEffect changes stat) base) :
    ∃ value lines,
      (after changes).valueOver? stat (.int base) = some (.int value) ∧
      (after changes).tracedValueOver? stat (.int base) = some (.int value, lines) ∧
      (BoundsAgree (inEffect changes stat) →
        value = between (lowerBound (inEffect changes stat)) (upperBound (inEffect changes stat))
          (unclamped (inEffect changes stat) base)) ∧
      ((∀ entry ∈ inEffect changes stat, entry.isSummand = true) →
        ∃ net, (after changes).netValue? stat = some (.int net) ∧ value = base + net) ∧
      (∀ line ∈ lines.getLast?, ∃ start, line = start ++ " -> " ++ toString value) ∧
      (lines = [] → value = base) := by
  have entries : (after changes).entriesFor stat = inEffect changes stat :=
    (holds_after changes).entriesFor stat
  have wholeEntries : ∀ entry ∈ inEffect changes stat, entry.IsWhole :=
    fun entry member => whole entry (added_of_mem_inEffect member)
  obtain ⟨final, folded, stands⟩ := exists_fold wholeEntries small
  have traced : (after changes).tracedValueOver? stat (.int base) =
      some (final.value, final.lines) := by
    refine tracedValueOver?_of_fold small.base ?_
    rwa [entries]
  rw [stands.value] at traced
  refine ⟨_, final.lines, ?_, traced, fun agree => ?_, fun summands => ?_, stands.told,
    stands.untold⟩
  · rw [valueOver?, traced, Option.map_some]
  · exact foldl_clamped (fun low lower high upper => agree.le lower upper) _
  · refine ⟨accumulated (inEffect changes stat) 0, ?_, ?_⟩
    · unfold netValue?
      rw [entries, foldlM_add?_of_share wholeEntries summands, Option.bind_some,
        small.net.normalize?]
    · have unset : amountsOf .set (inEffect changes stat) = [] :=
        amountsOf_eq_nil summands (by decide)
      have unraised : amountsOf .clampMin (inEffect changes stat) = [] :=
        amountsOf_eq_nil summands (by decide)
      have unlowered : amountsOf .clampMax (inEffect changes stat) = [] :=
        amountsOf_eq_nil summands (by decide)
      rw [foldl_clamped (by simp [unraised]), lowerBound, upperBound, unraised, unlowered,
        unclamped, unset, ← accumulated_eq]
      rfl

/-- Changes to the strength of a weapon, one of which is taken back. -/
def strengthChanges : List Change := [
  .add { source := "oath", stat := "S", value := .int 9, operation := .clampMax, priority := 1 },
  .add { source := "curse", stat := "S", value := .int 2, operation := .subtract },
  .add { source := "relic", stat := "S", value := .int 12, operation := .set },
  .add { source := "oath", stat := "S", value := .int 3, operation := .clampMin },
  .clear "relic",
  .add { source := "banner", stat := "S", value := .int 8 },
  .add { source := "banner", stat := "T", value := .int 1 }]

/-- A strength of five is lowered by two and raised by eight, and then brought down to
nine. -/
theorem strengthChanges_fold :
    (∀ modifier, .add modifier ∈ strengthChanges → modifier.IsWhole) ∧
    SmallOnTheWay (inEffect strengthChanges "S") 5 ∧
    ∃ lines,
      (after strengthChanges).valueOver? "S" (.int 5) = some (.int 9) ∧
      (after strengthChanges).tracedValueOver? "S" (.int 5) = some (.int 9, lines) ∧
      ∀ line ∈ lines.getLast?, ∃ start, line = start ++ " -> " ++ toString (9 : Int) := by
  have whole : ∀ modifier, .add modifier ∈ strengthChanges → modifier.IsWhole := by
    intro modifier member
    simp only [strengthChanges, List.mem_cons, Change.add.injEq, reduceCtorEq, List.not_mem_nil,
      or_false, false_or] at member
    rcases member with rfl | rfl | rfl | rfl | rfl | rfl <;> exact ⟨_, rfl⟩
  have entries : inEffect strengthChanges "S" = (after strengthChanges).entriesFor "S" :=
    ((holds_after strengthChanges).entriesFor "S").symm
  have small : SmallOnTheWay (inEffect strengthChanges "S") 5 := by
    rw [entries]
    exact ⟨by decide +kernel, by decide +kernel, by decide +kernel⟩
  obtain ⟨value, lines, applied, traced, closed, -, told, -⟩ :=
    after_folds_in_closed_form whole "S" small
  rw [entries] at closed
  obtain rfl : value = 9 := (closed (by unfold BoundsAgree; decide +kernel)).trans (by decide +kernel)
  exact ⟨whole, small, lines, applied, traced, told⟩

end Ledger

end Skirmish
