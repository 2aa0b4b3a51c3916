import Mathlib.Data.List.Forall2
import Skirmish.Fault
import Skirmish.Schema.Field

/-!
# Accepted readings

A reading that is accepted was accepted in all its parts.  The lemmas here take accepted
readings apart along the combinators of fields, so that a record which was read tells what
its fields hold.
-/

namespace Skirmish.Schema

variable {α β : Type}

namespace Checked

/-- The value of an accepted reading. -/
def accepted? : Checked α → Option α
  | .accepted value => some value
  | .rejected _ | .stopped _ => none

theorem accepted?_eq_some_iff {reading : Checked α} {value : α} :
    reading.accepted? = some value ↔ reading = .accepted value := by
  cases reading <;> simp [accepted?]

theorem orFault_eq_ok_iff {reading : Checked α} {value : α} :
    reading.orFault = .ok value ↔ reading = .accepted value := by
  cases reading <;> simp [orFault]

theorem reject_ne_accepted {problem : Problem} {value : α} :
    (reject problem : Checked α) ≠ .accepted value := by
  unfold reject
  split
  · split <;> exact nofun
  · exact nofun

theorem seq_eq_accepted_iff {first : Checked (α → β)} {second : Checked α} {value : β} :
    first <*> second = .accepted value ↔
      ∃ change given, first = .accepted change ∧ second = .accepted given ∧
        change given = value := by
  change seq first second = _ ↔ _
  cases first <;> cases second <;> simp [seq]

theorem map_eq_accepted_iff {change : α → β} {reading : Checked α} {value : β} :
    change <$> reading = .accepted value ↔
      ∃ given, reading = .accepted given ∧ change given = value := by
  change seq (.accepted change) reading = _ ↔ _
  cases reading <;> simp [seq]

@[simp]
theorem accepted_seq {change : α → β} {given : α} :
    (accepted change <*> accepted given : Checked β) = .accepted (change given) :=
  rfl

@[simp]
theorem map_accepted {change : α → β} {given : α} :
    change <$> (accepted given : Checked α) = .accepted (change given) :=
  rfl

@[simp]
theorem under_accepted {step : Step} {given : α} :
    (accepted given : Checked α).under step = .accepted given :=
  rfl

theorem under_eq_accepted_iff {step : Step} {reading : Checked α} {value : α} :
    reading.under step = .accepted value ↔ reading = .accepted value := by
  cases reading <;> simp [under]

theorem ensure_eq_accepted_iff {reading : Checked α} {check : α → Option Problem} {value : α} :
    reading.ensure check = .accepted value ↔ reading = .accepted value ∧ check value = none := by
  cases reading with
  | accepted given =>
      unfold ensure
      dsimp only
      cases checked : check given with
      | none =>
          refine ⟨fun accepted => ?_, fun accepted => accepted.1⟩
          cases accepted
          exact ⟨rfl, checked⟩
      | some problem =>
          refine iff_of_false reject_ne_accepted ?_
          rintro ⟨accepted, unproblematic⟩
          cases accepted
          rw [checked] at unproblematic
          cases unproblematic
  | rejected violations => simp [ensure]
  | stopped obstacle => simp [ensure]

theorem itemsFrom_eq_accepted_iff {start : Nat} {readings : List (Checked α)} {values : List α} :
    itemsFrom start readings = .accepted values ↔
      List.Forall₂ (fun reading value => reading = .accepted value) readings values := by
  induction readings generalizing start values with
  | nil => simp [itemsFrom, eq_comm]
  | cons reading rest ih =>
      simp only [itemsFrom, seq_eq_accepted_iff, map_eq_accepted_iff, under_eq_accepted_iff, ih]
      constructor
      · rintro ⟨_, values, ⟨value, first, rfl⟩, others, rfl⟩
        exact .cons first others
      · rintro (_ | ⟨first, others⟩)
        exact ⟨_, _, ⟨_, first, rfl⟩, others, rfl⟩

end Checked

open Checked

/-! ## Fields -/

theorem record_eq_accepted_iff {read : Fields → Checked α} {value : Value} {given : α} :
    record read value = .accepted given ↔
      ∃ fields, value = .object fields ∧ read fields = .accepted given := by
  cases value <;> simp [record, reject_ne_accepted]

theorem required_eq_accepted_iff {fields : Fields} {name : String} {read : Value → Checked α}
    {given : α} :
    required fields name read = .accepted given ↔
      ∃ value, fields.get? name = some value ∧ read value = .accepted given := by
  unfold required
  cases fields.get? name <;> simp [under_eq_accepted_iff]

/-- A field with a fallback holds what is read, or the fallback when it is not there. -/
theorem defaulted_eq_accepted_iff {fields : Fields} {name : String} {fallback : α}
    {read : Value → Checked α} {given : α} :
    defaulted fields name fallback read = .accepted given ↔
      (∃ value, fields.get? name = some value ∧ read value = .accepted given) ∨
        fields.get? name = none ∧ given = fallback := by
  unfold defaulted
  cases fields.get? name with
  | some value => simp [under_eq_accepted_iff]
  | none => simp [eq_comm]

theorem text_eq_accepted_iff {value : Value} {given : String} :
    text value = .accepted given ↔ value = .text given := by
  cases value <;> simp [text, reject_ne_accepted]

/-! ## Lists -/

theorem list_eq_accepted_iff {read : Value → Checked α} {value : Value} {given : List α} :
    list read value = .accepted given ↔ ∃ items, value = .list items ∧
      List.Forall₂ (fun item each => read item = .accepted each) items given := by
  cases value with
  | list items => simp [list, Checked.items, itemsFrom_eq_accepted_iff]
  | _ => simp [list, reject_ne_accepted]

theorem exists_read_of_mem {read : Value → Checked α} {value : Value} {given : List α}
    (accepted : list read value = .accepted given) {each : α} (member : each ∈ given) :
    ∃ items item, value = .list items ∧ item ∈ items ∧ read item = .accepted each := by
  obtain ⟨items, rfl, all⟩ := list_eq_accepted_iff.mp accepted
  obtain ⟨item, listed, readItem⟩ : ∃ item ∈ items, read item = .accepted each := by
    clear accepted
    induction all with
    | nil => exact (List.not_mem_nil member).elim
    | @cons item _ _ _ first _ ih =>
        rcases List.mem_cons.mp member with rfl | later
        · exact ⟨item, List.mem_cons_self, first⟩
        · obtain ⟨item, listed, readItem⟩ := ih later
          exact ⟨item, List.mem_cons_of_mem _ listed, readItem⟩
  exact ⟨items, item, rfl, listed, readItem⟩

theorem listOfSome_eq_accepted_iff {read : Value → Checked α} {value : Value}
    {given : List α} :
    listOfSome read value = .accepted given ↔ list read value = .accepted given ∧ given ≠ [] := by
  by_cases empty : value = .list []
  · subst empty
    have rejected : listOfSome read (.list []) = .reject .tooShort := rfl
    rw [rejected]
    refine iff_of_false reject_ne_accepted ?_
    rintro ⟨accepted, some⟩
    cases accepted
    exact some rfl
  · have same : listOfSome read value = list read value := by
      unfold listOfSome
      split
      · exact absurd rfl empty
      · rfl
    rw [same]
    refine ⟨fun accepted => ⟨accepted, ?_⟩, fun accepted => accepted.1⟩
    rintro rfl
    obtain ⟨items, rfl, each⟩ := list_eq_accepted_iff.mp accepted
    cases each
    exact empty rfl

/-! ## Nodes -/

theorem tagged_eq_accepted_iff {tag : String} {shape? : String → Option (Fields → Checked α)}
    {value : Value} {given : α} :
    tagged tag shape? value = .accepted given ↔
      ∃ (fields : Fields) (name : String) (read : Fields → Checked α),
        value = .object fields ∧ fields.get? tag = some (.text name) ∧
          shape? name = some read ∧ read fields = .accepted given := by
  unfold tagged
  split
  · rename_i fields
    split
    · rename_i untagged
      refine iff_of_false reject_ne_accepted ?_
      rintro ⟨_, name, _, same, named, -⟩
      cases same
      rw [untagged] at named
      cases named
    · rename_i name named
      split
      · rename_i read shape
        simp [named, shape, under_eq_accepted_iff]
      · rename_i shapeless
        simp [named, shapeless, reject_ne_accepted]
    · rename_i other notText named
      refine iff_of_false reject_ne_accepted ?_
      rintro ⟨_, name, _, same, text, -⟩
      cases same
      rw [named, Option.some.injEq] at text
      exact notText name text
  · rename_i notObject
    refine iff_of_false reject_ne_accepted ?_
    rintro ⟨fields, _, _, rfl, -⟩
    exact notObject fields rfl

theorem kept_eq_accepted_iff {fields : Fields} {reading : Checked α} {given : α} :
    kept fields reading = .accepted given ↔
      (fields.any fun field => Text.holdsHalf field.1) = false ∧ reading = .accepted given := by
  unfold kept
  cases fields.any fun field => Text.holdsHalf field.1 <;> simp [reject_ne_accepted]

theorem nested_eq_accepted_iff {steps : Nat} {tag : String} {reading : Checked α} {given : α} :
    nested steps tag reading = .accepted given ↔
      steps ≤ nestingLimit ∧ reading = .accepted given := by
  unfold nested
  split
  · rename_i within
    rw [under_eq_accepted_iff]
    exact ⟨fun accepted => ⟨within, accepted⟩, fun accepted => accepted.2⟩
  · rename_i beyond
    exact iff_of_false nofun fun accepted => beyond accepted.1

end Skirmish.Schema
