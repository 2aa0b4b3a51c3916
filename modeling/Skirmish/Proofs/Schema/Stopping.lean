import Skirmish.Proofs.Schema

/-!
# Readings that are stopped

A reading reports what is wrong with a value and goes on, unless an obstacle stops it.  The
combinators of fields stop only where one of the readings that they combine does, or where
the message about an inconsistency holds a half.
-/

namespace Skirmish

/-! ## Messages -/

namespace Text

theorem isHalf_of_small {point : Nat} (small : point < firstHalf) : isHalf point = false := by
  rw [isHalf, decide_eq_false (Nat.not_le.mpr small), Bool.false_and]

/-- A small character begins a part of its own: neither it nor a mark before it makes a
half. -/
theorem any_isHalf_decode_append {next : Char} (small : next.toNat < firstHalf)
    (first rest : List Char) :
    (decode (first ++ next :: rest)).any isHalf =
      ((decode first).any isHalf || (decode rest).any isHalf) := by
  have unmarked : next ≠ mark := by
    rintro rfl
    exact absurd small (by decide)
  have whole := isHalf_of_small small
  have kept : isHalf (markedPoint next) = false := by
    have moved : isHalf (next.toNat - halfCount) = false :=
      isHalf_of_small (Nat.lt_of_le_of_lt (Nat.sub_le _ _) small)
    simp [markedPoint, whole, moved]
  have here : (decode (next :: rest)).any isHalf = (decode rest).any isHalf := by
    cases rest with
    | nil => simp [decode, whole]
    | cons _ _ => simp [decode, unmarked, whole]
  have markWhole : isHalf mark.toNat = false := by
    decide
  induction first using decode.induct with
  | case1 => simp [decode, here]
  | case2 c =>
      rw [List.singleton_append, decode]
      by_cases marked : c = mark
      · simp [decode, marked, kept, markWhole]
      · simp [decode, marked, here]
  | case3 other later ih => simp [decode, ih, Bool.or_assoc]
  | case4 c other later unmarked ih =>
      simp only [List.cons_append] at ih ⊢
      simp [decode, unmarked, ih, Bool.or_assoc]

/-- The text is not empty, and all its characters are small. -/
def isPlain (text : String) : Bool :=
  !text.toList.isEmpty && text.toList.all fun c => decide (c.toNat < firstHalf)

theorem any_isHalf_decode_between {plain : List Char} (nonempty : plain ≠ [])
    (small : ∀ c ∈ plain, c.toNat < firstHalf) (first rest : List Char) :
    (decode (first ++ plain ++ rest)).any isHalf =
      ((decode first).any isHalf || (decode rest).any isHalf) := by
  induction plain generalizing first with
  | nil => exact absurd rfl nonempty
  | cons c later ih =>
      obtain ⟨here, there⟩ := List.forall_mem_cons.mp small
      rw [List.append_assoc, List.cons_append, any_isHalf_decode_append here]
      by_cases last : later = []
      · rw [last, List.nil_append]
      · have behind := ih last there []
        rw [List.nil_append] at behind
        rw [behind]
        rfl

theorem holdsHalf_between {plain : String} (isPlain : isPlain plain = true)
    (first rest : String) :
    holdsHalf (first ++ plain ++ rest) = (holdsHalf first || holdsHalf rest) := by
  unfold Text.isPlain at isPlain
  simp only [Bool.and_eq_true, Bool.not_eq_true', List.isEmpty_eq_false_iff, List.all_eq_true,
    decide_eq_true_eq] at isPlain
  simp only [holdsHalf, points, String.toList_append]
  exact any_isHalf_decode_between isPlain.1 isPlain.2 _ _

theorem holdsHalf_append_plain {plain : String} (isPlain : isPlain plain = true)
    (first : String) : holdsHalf (first ++ plain) = holdsHalf first := by
  have between := holdsHalf_between isPlain first ""
  have none : holdsHalf "" = false := rfl
  rwa [String.append_empty, none, Bool.or_false] at between

theorem holdsHalf_plain_append {plain : String} (isPlain : isPlain plain = true)
    (rest : String) : holdsHalf (plain ++ rest) = holdsHalf rest := by
  have between := holdsHalf_between isPlain "" rest
  have none : holdsHalf "" = false := rfl
  rwa [String.empty_append, none, Bool.false_or] at between

end Text

namespace Schema

variable {α β : Type}

/-! ## Combinators -/

namespace Checked

/-- An obstacle stopped the reading. -/
def isStopped : Checked α → Bool
  | .stopped _ => true
  | .accepted _ | .rejected _ => false

@[simp]
theorem isStopped_accepted (value : α) : (accepted value).isStopped = false :=
  rfl

@[simp]
theorem isStopped_rejected (violations : List Violation) :
    (rejected violations : Checked α).isStopped = false :=
  rfl

@[simp]
theorem isStopped_pure (value : α) : (pure value : Checked α).isStopped = false :=
  rfl

@[simp]
theorem isStopped_seq (first : Checked (α → β)) (second : Checked α) :
    (first <*> second).isStopped = (first.isStopped || second.isStopped) := by
  change (seq first second).isStopped = _
  cases first <;> cases second <;> rfl

@[simp]
theorem isStopped_map (change : α → β) (reading : Checked α) :
    (change <$> reading).isStopped = reading.isStopped := by
  change (seq (.accepted change) reading).isStopped = _
  cases reading <;> rfl

@[simp]
theorem isStopped_under (step : Step) (reading : Checked α) :
    (reading.under step).isStopped = reading.isStopped := by
  cases reading <;> rfl

/-- Only the message about an inconsistency may be impossible to write. -/
theorem isStopped_reject {problem : Problem}
    (writable : ∀ message, problem = .inconsistent message → Text.holdsHalf message = false) :
    (reject problem : Checked α).isStopped = false := by
  unfold reject
  split
  · rename_i message
    rw [writable message rfl]
    rfl
  · rfl

theorem isStopped_ensure {reading : Checked α} {check : α → Option Problem}
    (writable : ∀ value message, reading = .accepted value →
      check value = some (.inconsistent message) → Text.holdsHalf message = false) :
    (reading.ensure check).isStopped = reading.isStopped := by
  cases reading with
  | accepted value =>
      unfold ensure
      dsimp only
      cases checked : check value with
      | none => rfl
      | some problem =>
          refine isStopped_reject fun message inconsistent => ?_
          rw [inconsistent] at checked
          exact writable value message rfl checked
  | rejected violations => rfl
  | stopped obstacle => rfl

theorem isStopped_itemsFrom {start : Nat} {readings : List (Checked α)}
    (unstopped : ∀ reading ∈ readings, reading.isStopped = false) :
    (itemsFrom start readings).isStopped = false := by
  induction readings generalizing start with
  | nil => rfl
  | cons reading rest ih =>
      obtain ⟨first, others⟩ := List.forall_mem_cons.mp unstopped
      simp [itemsFrom, first, ih others]

theorem isStopped_either {firstName secondName : String} {first second : Checked α}
    (firstUnstopped : first.isStopped = false) (secondUnstopped : second.isStopped = false) :
    (either firstName secondName first second).isStopped = false := by
  cases first <;> cases second <;> simp_all [either]

end Checked

open Checked

/-- The reader is not stopped by any value that fits. -/
def UnstoppableOn (fits : Value → Prop) (read : Value → Checked α) : Prop :=
  ∀ value, fits value → (read value).isStopped = false

/-- The parts of a value that fits do so as well. -/
structure Hereditary (fits : Value → Prop) : Prop where
  item : ∀ items, fits (.list items) → ∀ item ∈ items, fits item
  field : ∀ fields : Fields, fits (.object fields) → ∀ field ∈ fields, fits field.2

theorem hereditary_true : Hereditary fun _ => True where
  item _ _ _ _ := trivial
  field _ _ _ _ := trivial

variable {fits : Value → Prop}

/-! ## Scalars -/

@[simp]
theorem unstoppableOn_text : UnstoppableOn fits text := by
  intro value _
  cases value <;> rfl

@[simp]
theorem unstoppableOn_int : UnstoppableOn fits int := by
  intro value _
  unfold int
  split
  · rfl
  · rfl
  · split
    · split <;> rfl
    · rfl
    · rfl
  · unfold intOfText
    split
    · rfl
    · split <;> rfl
  · rfl

@[simp]
theorem unstoppableOn_bool : UnstoppableOn fits bool := by
  have ofInt (n : Int) : (boolOfInt n).isStopped = false := by
    unfold boolOfInt
    split
    · rfl
    · split <;> rfl
  intro value _
  unfold bool
  split
  · rfl
  · split
    · exact ofInt _
    · rfl
  · split
    · split
      · exact ofInt _
      · rfl
    · rfl
  · unfold boolOfText
    split
    · rfl
    · split <;> rfl
  · rfl

@[simp]
theorem unstoppableOn_word [Vocabulary α] :
    UnstoppableOn fits (word : Value → Checked α) := by
  intro value _
  unfold word
  split
  · split
    · rfl
    · split <;> rfl
  · rfl

@[simp]
theorem unstoppableOn_intFrom (low : Int) : UnstoppableOn fits (intFrom low) := by
  intro value fit
  refine (isStopped_ensure fun n message _ problem => ?_).trans (unstoppableOn_int value fit)
  split at problem <;> cases problem

@[simp]
theorem unstoppableOn_intBetween (low high : Int) :
    UnstoppableOn fits (intBetween low high) := by
  intro value fit
  refine (isStopped_ensure fun n message _ problem => ?_).trans (unstoppableOn_int value fit)
  split at problem
  · cases problem
  · split at problem <;> cases problem

/-! ## Records and nodes -/

@[simp]
theorem isStopped_kept (fields : Fields) (reading : Checked α) :
    (kept fields reading).isStopped =
      (!(fields.any fun field => Text.holdsHalf field.1) && reading.isStopped) := by
  unfold kept
  cases fields.any fun field => Text.holdsHalf field.1 <;> rfl

@[simp]
theorem isStopped_nested (steps : Nat) (tag : String) (reading : Checked α) :
    (nested steps tag reading).isStopped =
      (decide (steps ≤ nestingLimit) && reading.isStopped) := by
  unfold nested
  split
  · rename_i within
    rw [isStopped_under, decide_eq_true within, Bool.true_and]
  · rename_i beyond
    rw [decide_eq_false beyond, Bool.false_and]
    rfl

theorem UnstoppableOn.record {read : Fields → Checked α}
    (unstopped : ∀ fields, fits (.object fields) → (read fields).isStopped = false) :
    UnstoppableOn fits (record read) := by
  intro value fit
  cases value with
  | object fields => exact unstopped fields fit
  | _ => rfl

theorem UnstoppableOn.tagged {tag : String} {shape? : String → Option (Fields → Checked α)}
    (unstopped : ∀ fields name read, fits (.object fields) → shape? name = some read →
      (read fields).isStopped = false) : UnstoppableOn fits (tagged tag shape?) := by
  intro value fit
  unfold Schema.tagged
  split
  · rename_i fields
    split
    · rfl
    · split
      · rename_i name _ _ read shape
        rw [isStopped_under]
        exact unstopped fields name read fit shape
      · rfl
    · rfl
  · rfl

/-! ## Fields -/

section

variable {read : Value → Checked α} {fields : Fields} {name : String}

@[simp]
theorem UnstoppableOn.optional (unstoppable : UnstoppableOn fits read) :
    UnstoppableOn fits (optional read) := by
  intro value fit
  unfold Schema.optional
  split
  · rfl
  · rw [isStopped_map]
    exact unstoppable value fit

variable (hereditary : Hereditary fits)

include hereditary

theorem UnstoppableOn.list (unstoppable : UnstoppableOn fits read) :
    UnstoppableOn fits (list read) := by
  intro value fit
  cases value with
  | list items =>
      refine isStopped_itemsFrom fun reading member => ?_
      obtain ⟨item, listed, rfl⟩ := List.mem_map.mp member
      exact unstoppable item (hereditary.item items fit item listed)
  | _ => rfl

theorem UnstoppableOn.listOfSome (unstoppable : UnstoppableOn fits read) :
    UnstoppableOn fits (listOfSome read) := by
  intro value fit
  unfold Schema.listOfSome
  split
  · rfl
  · exact unstoppable.list hereditary value fit

theorem UnstoppableOn.mapping (unstoppable : UnstoppableOn fits read) :
    UnstoppableOn fits (mapping read) := by
  have entries : ∀ fields : Fields, (∀ field ∈ fields, fits field.2) →
      (entries read fields).isStopped = false := by
    intro fields fit
    induction fields with
    | nil => rfl
    | cons field rest ih =>
        obtain ⟨here, there⟩ := List.forall_mem_cons.mp fit
        simp [Schema.entries, unstoppable field.2 here, ih there]
  intro value fit
  cases value with
  | object fields => exact entries fields (hereditary.field fields fit)
  | _ => rfl

variable (fit : fits (.object fields))

include fit

theorem Hereditary.of_get? {value : Value} (found : fields.get? name = some value) :
    fits value := by
  obtain ⟨before, after, rfl, -⟩ := List.lookup_eq_some_iff.mp found
  exact hereditary.field _ fit (name, value) (by simp)

theorem UnstoppableOn.required (unstoppable : UnstoppableOn fits read) :
    (required fields name read).isStopped = false := by
  unfold Schema.required
  split
  · rename_i value found
    rw [isStopped_under]
    exact unstoppable value (hereditary.of_get? fit found)
  · rfl

theorem UnstoppableOn.defaulted {fallback : α} (unstoppable : UnstoppableOn fits read) :
    (defaulted fields name fallback read).isStopped = false := by
  unfold Schema.defaulted
  split
  · rename_i value found
    rw [isStopped_under]
    exact unstoppable value (hereditary.of_get? fit found)
  · rfl

theorem UnstoppableOn.requiredIs (unstoppable : UnstoppableOn fits read) :
    (requiredIs fields read).isStopped = false := by
  unfold Schema.requiredIs
  split
  · rename_i value found
    rw [isStopped_under]
    exact unstoppable value (hereditary.of_get? fit found)
  · split
    · rename_i value found
      rw [isStopped_under]
      exact unstoppable value (hereditary.of_get? fit found)
    · rfl

end

end Schema

end Skirmish
