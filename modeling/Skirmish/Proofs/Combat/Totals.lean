import Skirmish.Combat.Numbers
import Skirmish.Proofs.Ledger
import Skirmish.Proofs.Runs

/-!
# Stats that add up

A stat adds up in a ledger when all its entries add integers.  What the ledger makes of
such a stat is then a plain sum, which the order of the entries does not change.  Only
whether it is small enough may depend on what was summed up on the way, so the sums are
known where they are found at all.
-/

namespace Skirmish

namespace Modifier

/-- The integer that the modifier brings. -/
def amount (modifier : Modifier) : Int :=
  match modifier.value with
  | .int n => n
  | .float _ => 0

/-- The modifier adds an integer. -/
structure IsBonus (modifier : Modifier) : Prop where
  operation : modifier.operation = .add
  value : modifier.value = .int modifier.amount

theorem IsBonus.signedValue {modifier : Modifier} (bonus : modifier.IsBonus) :
    modifier.signedValue = .int modifier.amount := by
  unfold Modifier.signedValue
  rw [bonus.operation]
  exact bonus.value

end Modifier

theorem Number.eq_of_normalize?_int {n : Int} {number : Number}
    (normal : (Number.int n).normalize? = some number) : number = .int n := by
  obtain ⟨_, -, same⟩ := Option.map_eq_some_iff.mp normal
  exact same.symm

theorem fitting_eq_ok_iff {α : Type} {found : Option α} {value : α} :
    fitting found = .ok value ↔ found = some value := by
  cases found <;> simp [fitting]

/-! ## Entries -/

/-- The sum of what modifiers bring. -/
def sumOfAmounts : List Modifier → Int
  | [] => 0
  | entry :: rest => entry.amount + sumOfAmounts rest

variable {entries : List Modifier}

theorem sumOfAmounts_perm {others : List Modifier} (perm : entries.Perm others) :
    sumOfAmounts entries = sumOfAmounts others := by
  induction perm with
  | nil => rfl
  | cons entry _ ih => rw [sumOfAmounts, sumOfAmounts, ih]
  | swap first second rest =>
      simp only [sumOfAmounts]
      omega
  | trans _ _ ih ihOther => exact ih.trans ihOther

theorem foldlM_add?_eq (bonuses : ∀ entry ∈ entries, entry.IsBonus) (start : Int) :
    entries.foldlM (fun sum entry => Number.add? sum entry.signedValue) (Number.int start) =
      some (.int (start + sumOfAmounts entries)) := by
  induction entries generalizing start with
  | nil => simp [sumOfAmounts]
  | cons entry rest ih =>
      obtain ⟨bonus, others⟩ := List.forall_mem_cons.mp bonuses
      rw [List.foldlM_cons, bonus.signedValue]
      exact (ih others _).trans (by rw [sumOfAmounts, Int.add_assoc])

namespace Ledger

/-- Entries that add integers take a folding that stands at an integer to the sum. -/
theorem accumulate_foldlM (bonuses : ∀ entry ∈ entries, entry.IsBonus) {start : Int}
    {folding final : Folding} (begins : folding.value = .int start)
    (folded : entries.foldlM Folding.accumulate? folding = some final) :
    final.value = .int (start + sumOfAmounts entries) := by
  induction entries generalizing start folding with
  | nil =>
      cases folded
      simpa [sumOfAmounts] using begins
  | cons entry rest ih =>
      obtain ⟨bonus, others⟩ := List.forall_mem_cons.mp bonuses
      rw [List.foldlM_cons] at folded
      obtain ⟨next, accumulated, later⟩ := Option.bind_eq_some_iff.mp folded
      have reached : next.value = .int (start + entry.amount) := by
        unfold Folding.accumulate? at accumulated
        simp only [bonus.operation, begins, bonus.signedValue, Number.add?, Option.bind_some,
          Folding.step?] at accumulated
        obtain ⟨_, -, rfl⟩ := Option.map_eq_some_iff.mp accumulated
        rfl
      rw [ih others reached later, sumOfAmounts, Int.add_assoc]

theorem clamp_foldlM (bonuses : ∀ entry ∈ entries, entry.IsBonus) (folding : Folding) :
    entries.foldlM Folding.clamp? folding = some folding := by
  induction entries with
  | nil => rfl
  | cons entry rest ih =>
      obtain ⟨bonus, others⟩ := List.forall_mem_cons.mp bonuses
      have kept : folding.clamp? entry = some folding := by
        unfold Folding.clamp?
        rw [bonus.operation]
      rw [List.foldlM_cons, kept]
      exact ih others

theorem fold?_value (bonuses : ∀ entry ∈ entries, entry.IsBonus) {base : Int}
    {final : Folding} (folded : fold? entries (.int base) = some final) :
    final.value = .int (base + sumOfAmounts entries) := by
  have unset : lastSet? entries = none := by
    unfold lastSet?
    rw [List.getLast?_eq_none_iff, List.filter_eq_nil_iff]
    intro entry member
    rw [(bonuses entry member).operation]
    decide
  unfold fold? at folded
  obtain ⟨accumulated, summed, folded⟩ := Option.bind_eq_some_iff.mp folded
  simp only [unset, Option.bind_some, clamp_foldlM bonuses, Option.bind_eq_bind] at folded
  obtain ⟨value, normal, same⟩ := Option.bind_eq_some_iff.mp folded
  rw [accumulate_foldlM bonuses rfl summed] at normal
  cases same
  exact Number.eq_of_normalize?_int normal

/-! ## Stats -/

/-- All entries of the stat add integers. -/
def AddsUp (ledger : Ledger) (stat : String) : Prop :=
  ∀ entry ∈ ledger.entriesFor stat, entry.IsBonus

/-- The sum of what the entries of a stat bring. -/
def total (ledger : Ledger) (stat : String) : Int :=
  sumOfAmounts (ledger.entriesFor stat)

theorem total_eq_of_within {ledger other : Ledger} (within : ledger.Within other)
    (back : other.Within ledger) (stat : String) : ledger.total stat = other.total stat := by
  have perm := (within.entries stat).antisymm (back.entries stat)
  exact sumOfAmounts_perm perm

variable {ledger other : Ledger} {stat : String}

theorem netValue?_eq (adds : ledger.AddsUp stat) {net : Number}
    (summed : ledger.netValue? stat = some net) : net = .int (ledger.total stat) := by
  unfold netValue? at summed
  rw [foldlM_add?_eq adds, Option.bind_some, Int.zero_add] at summed
  exact Number.eq_of_normalize?_int summed

theorem netInt_eq (adds : ledger.AddsUp stat) {net : Int}
    (summed : ledger.netInt stat = .ok net) : net = ledger.total stat := by
  obtain ⟨number, sum, whole⟩ := Option.bind_eq_some_iff.mp (fitting_eq_ok_iff.mp summed)
  obtain rfl := netValue?_eq adds sum
  exact (Option.some.inj whole).symm

theorem netIntOfBoth_eq (adds : ledger.AddsUp stat) (addsOther : other.AddsUp stat) {net : Int}
    (summed : ledger.netIntOfBoth other stat = .ok net) :
    net = ledger.total stat + other.total stat := by
  obtain ⟨first, sum, summed⟩ := Option.bind_eq_some_iff.mp (fitting_eq_ok_iff.mp summed)
  obtain ⟨second, sumOther, summed⟩ := Option.bind_eq_some_iff.mp summed
  obtain rfl := netValue?_eq adds sum
  obtain rfl := netValue?_eq addsOther sumOther
  exact (Option.some.inj summed).symm

theorem applyInt_eq (adds : ledger.AddsUp stat) {base value : Int}
    (applied : ledger.applyInt stat base = .ok value) : value = base + ledger.total stat := by
  obtain ⟨number, found, whole⟩ := Option.bind_eq_some_iff.mp (fitting_eq_ok_iff.mp applied)
  unfold total
  unfold AddsUp at adds
  unfold valueOver? tracedValueOver? at found
  split at found
  · rename_i none
    cases found
    rw [none, sumOfAmounts, Int.add_zero]
    exact (Option.some.inj whole).symm
  · rw [Option.map_map] at found
    obtain ⟨folding, folded, rfl⟩ := Option.map_eq_some_iff.mp found
    have sum := fold?_value adds folded
    dsimp only [Function.comp_apply] at whole
    rw [sum] at whole
    exact (Option.some.inj whole).symm

end Ledger

end Skirmish
