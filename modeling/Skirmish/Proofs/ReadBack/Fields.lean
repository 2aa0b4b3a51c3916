import Skirmish.Proofs.Schema

/-!
# Reading back fields

What was read can be dumped again.  A reader reads back when it accepts every dump of what
it has once accepted, as the same value.  The lemmas here carry this through the combinators
of fields, so a record reads back when its fields do.
-/

namespace Skirmish.Schema

variable {α β γ : Type}

open Checked

/-- What was read is read again, as the same value, from its dump. -/
def ReadsBack (read : Value → Checked α) (dump : α → Value) : Prop :=
  ∀ ⦃value : Value⦄ ⦃given : α⦄, read value = .accepted given →
    read (dump given) = .accepted given

/-! ## Scalars -/

@[simp]
theorem text_text (s : String) : text (.text s) = .accepted s :=
  rfl

@[simp]
theorem int_int (n : Int) : int (.int n) = .accepted n :=
  rfl

@[simp]
theorem bool_bool (b : Bool) : bool (.bool b) = .accepted b :=
  rfl

theorem readsBack_text : ReadsBack text .text :=
  fun _ s _ => text_text s

theorem readsBack_int : ReadsBack int .int :=
  fun _ n _ => int_int n

theorem readsBack_word [Vocabulary α] :
    ReadsBack word fun (given : α) => .text (Vocabulary.word given) := by
  intro value given accepted
  cases value with
  | text s =>
      simp only [word] at accepted ⊢
      split at accepted
      · rename_i known
        cases accepted
        have same : Vocabulary.word given = s := by
          simpa using List.find?_some known
        rw [same, known]
      · exact absurd accepted reject_ne_accepted
  | _ => simp [word, reject_ne_accepted] at accepted

/-- The words of a vocabulary tell its values apart, all of which are listed. -/
class LawfulVocabulary (α : Type) [Vocabulary α] : Prop where
  ofWord?_word : ∀ given : α, Vocabulary.ofWord? (Vocabulary.word given) = some given

@[simp]
theorem word_word [Vocabulary α] [LawfulVocabulary α] (given : α) :
    word (.text (Vocabulary.word given)) = .accepted given := by
  simp only [word, LawfulVocabulary.ofWord?_word]

theorem ReadsBack.ensure {read : Value → Checked α} {dump : α → Value}
    (back : ReadsBack read dump) (check : α → Option Problem) :
    ReadsBack (fun value => (read value).ensure check) dump := by
  intro value given accepted
  obtain ⟨accepted, sound⟩ := ensure_eq_accepted_iff.mp accepted
  exact ensure_eq_accepted_iff.mpr ⟨back accepted, sound⟩

theorem readsBack_intFrom (low : Int) : ReadsBack (intFrom low) .int :=
  readsBack_int.ensure _

theorem readsBack_intBetween (low high : Int) : ReadsBack (intBetween low high) .int :=
  readsBack_int.ensure _

/-! ## Options, lists and mappings -/

theorem optional_optional {read : Value → Checked α} {dump : α → Value}
    (present : ∀ given, dump given ≠ .null) (again : ∀ given, read (dump given) = .accepted given)
    (given : Option α) : optional read (Value.optional dump given) = .accepted given := by
  cases given with
  | none => rfl
  | some given =>
      simp only [Value.optional, Schema.optional]
      split
      · exact absurd ‹_› (present given)
      · rw [again given, map_accepted]

@[simp]
theorem optional_text (given : Option String) :
    optional text (Value.optional .text given) = .accepted given :=
  optional_optional nofun text_text given

@[simp]
theorem optional_int (given : Option Int) :
    optional int (Value.optional .int given) = .accepted given :=
  optional_optional nofun int_int given

@[simp]
theorem optional_bool (given : Option Bool) :
    optional bool (Value.optional .bool given) = .accepted given :=
  optional_optional nofun bool_bool given

@[simp]
theorem optional_word [Vocabulary α] [LawfulVocabulary α] (given : Option α) :
    optional word (Value.optional (fun each => .text (Vocabulary.word each)) given) =
      .accepted given :=
  optional_optional nofun word_word given

theorem list_map {read : Value → Checked α} {dump : α → Value} {given : List α}
    (again : ∀ each ∈ given, read (dump each) = .accepted each) :
    list read (.list (given.map dump)) = .accepted given := by
  refine list_eq_accepted_iff.mpr ⟨_, rfl, ?_⟩
  rw [List.forall₂_map_left_iff, List.forall₂_same]
  exact again

@[simp]
theorem list_texts (given : List String) : list text (.texts given) = .accepted given :=
  list_map fun each _ => text_text each

@[simp]
theorem list_words [Vocabulary α] [LawfulVocabulary α] (given : List α) :
    list word (.texts (given.map Vocabulary.word)) = .accepted given := by
  rw [Value.texts, List.map_map]
  exact list_map fun each _ => word_word each

@[simp]
theorem mapping_texts (given : List (String × String)) :
    mapping text (.object (given.map fun (name, each) => (name, .text each))) =
      .accepted given := by
  simp only [mapping]
  induction given with
  | nil => rfl
  | cons entry rest ih => simp [entries, ih]

theorem ReadsBack.list {read : Value → Checked α} {dump : α → Value}
    (back : ReadsBack read dump) :
    ReadsBack (list read) fun given => .list (given.map dump) := by
  intro value given accepted
  obtain ⟨items, rfl, each⟩ := list_eq_accepted_iff.mp accepted
  refine list_map fun one member => ?_
  clear accepted
  induction each with
  | nil => cases member
  | cons first _ ih =>
      rcases List.mem_cons.mp member with rfl | member
      · exact back first
      · exact ih member

theorem ReadsBack.listOfSome {read : Value → Checked α} {dump : α → Value}
    (back : ReadsBack read dump) :
    ReadsBack (listOfSome read) fun given => .list (given.map dump) := by
  intro value given accepted
  obtain ⟨accepted, some⟩ := listOfSome_eq_accepted_iff.mp accepted
  exact listOfSome_eq_accepted_iff.mpr ⟨back.list accepted, some⟩

theorem readsBack_someWords [Vocabulary α] :
    ReadsBack (listOfSome word) fun (given : List α) =>
      .texts (given.map Vocabulary.word) := by
  simpa only [Value.texts, List.map_map, Function.comp_def] using readsBack_word.listOfSome

/-! ## Fields -/

variable {read : Value → Checked α} {dump : α → Value} {fields : Fields} {name : String}

theorem get?_cons (name other : String) (value : Value) (rest : Fields) :
    Fields.get? ((other, value) :: rest) name =
      if name = other then some value else rest.get? name := by
  unfold Fields.get?
  rw [List.lookup_cons]
  split <;> simp_all

@[simp]
theorem required_cons (other : String) (value : Value) (rest : Fields) :
    required ((other, value) :: rest) name read =
      if name = other then (read value).under (.name name) else required rest name read := by
  unfold required
  rw [get?_cons]
  by_cases same : name = other
  · rw [if_pos same, if_pos same]
  · rw [if_neg same, if_neg same]

@[simp]
theorem defaulted_cons (other : String) (value : Value) (rest : Fields) (fallback : α) :
    defaulted ((other, value) :: rest) name fallback read =
      if name = other then (read value).under (.name name)
      else defaulted rest name fallback read := by
  unfold defaulted
  rw [get?_cons]
  by_cases same : name = other
  · rw [if_pos same, if_pos same]
  · rw [if_neg same, if_neg same]

theorem ReadsBack.required (back : ReadsBack read dump) {given : α}
    (accepted : required fields name read = .accepted given) :
    read (dump given) = .accepted given := by
  obtain ⟨value, -, accepted⟩ := required_eq_accepted_iff.mp accepted
  exact back accepted

theorem required_of_get? {given : α} {value : Value} (found : fields.get? name = some value)
    (accepted : read value = .accepted given) : required fields name read = .accepted given :=
  required_eq_accepted_iff.mpr ⟨value, found, accepted⟩

theorem defaulted_of_get? {fallback given : α} {value : Value}
    (found : fields.get? name = some value) (accepted : read value = .accepted given) :
    defaulted fields name fallback read = .accepted given :=
  defaulted_eq_accepted_iff.mpr (.inl ⟨value, found, accepted⟩)

theorem requiredIs_of_get? {given : α} {value : Value}
    (found : fields.get? "is" = some value) (accepted : read value = .accepted given) :
    requiredIs fields read = .accepted given := by
  simp only [requiredIs, found, accepted, under_accepted]

theorem ReadsBack.requiredIs (back : ReadsBack read dump) {given : α}
    (accepted : requiredIs fields read = .accepted given) :
    read (dump given) = .accepted given := by
  unfold Schema.requiredIs at accepted
  split at accepted
  · exact back (under_eq_accepted_iff.mp accepted)
  · split at accepted
    · exact back (under_eq_accepted_iff.mp accepted)
    · cases accepted

theorem ReadsBack.defaulted (back : ReadsBack read dump) {fallback given : α}
    (fallbackAgain : read (dump fallback) = .accepted fallback)
    (accepted : defaulted fields name fallback read = .accepted given) :
    read (dump given) = .accepted given := by
  rcases defaulted_eq_accepted_iff.mp accepted with ⟨value, -, accepted⟩ | ⟨-, rfl⟩
  · exact back accepted
  · exact fallbackAgain

theorem ReadsBack.map_required (back : ReadsBack read dump) {make : α → β} {given : β}
    (accepted : make <$> Schema.required fields name read = .accepted given) :
    ∃ each, given = make each ∧ ∀ again : Fields, again.get? name = some (dump each) →
      make <$> Schema.required again name read = .accepted given := by
  obtain ⟨each, acceptedEach, rfl⟩ := map_eq_accepted_iff.mp accepted
  refine ⟨each, rfl, fun again found => map_eq_accepted_iff.mpr ⟨each, ?_, rfl⟩⟩
  exact required_of_get? found (back.required acceptedEach)

theorem ReadsBack.map_required_seq_required {readNext : Value → Checked β}
    {dumpNext : β → Value} {nameNext : String} (back : ReadsBack read dump)
    (backNext : ReadsBack readNext dumpNext) {make : α → β → γ} {given : γ}
    (accepted : make <$> Schema.required fields name read <*>
      Schema.required fields nameNext readNext = .accepted given) :
    ∃ each next, given = make each next ∧ ∀ again : Fields,
      again.get? name = some (dump each) → again.get? nameNext = some (dumpNext next) →
        make <$> Schema.required again name read <*> Schema.required again nameNext readNext =
          .accepted given := by
  obtain ⟨_, next, acceptedEach, acceptedNext, rfl⟩ := seq_eq_accepted_iff.mp accepted
  obtain ⟨each, rfl, eachAgain⟩ := back.map_required acceptedEach
  refine ⟨each, next, rfl, fun again found foundNext => ?_⟩
  exact seq_eq_accepted_iff.mpr ⟨_, next, eachAgain again found,
    required_of_get? foundNext (backNext.required acceptedNext), rfl⟩

/-! ## Nodes -/

/-- A tagged record reads back when the dump of every shape names its tag and holds its
fields. -/
theorem readsBack_tagged {tag : String} {shape? : String → Option (Fields → Checked α)}
    {dump : α → Value}
    (shapes : ∀ {kind : String} {readShape : Fields → Checked α} {fields : Fields} {given : α},
      shape? kind = some readShape → readShape fields = .accepted given →
        ∃ again : Fields, dump given = .object again ∧ again.get? tag = some (.text kind) ∧
          readShape again = .accepted given) :
    ReadsBack (tagged tag shape?) dump := by
  intro value given accepted
  obtain ⟨fields, kind, readShape, -, -, shape, readFields⟩ := tagged_eq_accepted_iff.mp accepted
  obtain ⟨again, dumped, named, readAgain⟩ := shapes shape readFields
  exact tagged_eq_accepted_iff.mpr ⟨again, kind, readShape, dumped, named, shape, readAgain⟩

theorem without_cons_without (fields : Fields) (name : String) (value : Value) :
    Fields.without ((name, value) :: fields.without name) name = fields.without name := by
  simp [Fields.without, List.filter_filter]

/-- A node that keeps its fields keeps them once more when its own field is written in front
of the others. -/
theorem nested_kept_again {steps : Nat} {tag name : String} {fields : Fields}
    {make : Fields → α} {given : α} (plain : Text.holdsHalf name = false)
    (accepted : nested steps tag (kept fields (.accepted (make (fields.without name)))) =
      .accepted given) :
    given = make (fields.without name) ∧ ∀ value : Value,
      nested steps tag (kept ((name, value) :: fields.without name)
        (.accepted (make (Fields.without ((name, value) :: fields.without name) name)))) =
          .accepted given := by
  obtain ⟨within, accepted⟩ := nested_eq_accepted_iff.mp accepted
  obtain ⟨whole, same⟩ := kept_eq_accepted_iff.mp accepted
  refine ⟨(Checked.accepted.inj same).symm, fun value => ?_⟩
  rw [without_cons_without]
  refine nested_eq_accepted_iff.mpr ⟨within, kept_eq_accepted_iff.mpr ⟨?_, same⟩⟩
  rw [List.any_cons, plain, Bool.false_or]
  rw [List.any_eq_false] at whole ⊢
  exact fun field member => whole field (List.mem_of_mem_filter member)

theorem nested_kept_ne_accepted {steps : Nat} {tag : String} {fields : Fields}
    {violations : List Violation} {given : α} :
    nested steps tag (kept fields (.rejected violations)) ≠ .accepted given := by
  intro accepted
  cases (kept_eq_accepted_iff.mp (nested_eq_accepted_iff.mp accepted).2).2

end Skirmish.Schema
