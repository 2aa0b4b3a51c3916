import Skirmish.Proofs.ReadBack.Fields
import Skirmish.Rulebook.Condition

/-!
# Reading back conditions

The dump of a condition names its kind and holds its fields, and a node of unknown kind holds
the fields that it came with.
-/

namespace Skirmish

open Schema Checked

/-! ## Abilities -/

theorem WeaponAbility.readsBack : ReadsBack WeaponAbility.read WeaponAbility.dump := by
  refine readsBack_tagged fun {kind readShape fields ability} shape accepted => ?_
  unfold shape? at shape
  split at shape <;> cases shape
  · obtain ⟨x, rfl, again⟩ := (readsBack_intFrom 1).map_required accepted
    exact ⟨_, rfl, rfl, again _ rfl⟩
  · obtain ⟨x, rfl, again⟩ := (readsBack_intFrom 1).map_required accepted
    exact ⟨_, rfl, rfl, again _ rfl⟩
  · obtain ⟨keyword, threshold, rfl, again⟩ :=
      readsBack_text.map_required_seq_required (readsBack_intBetween 2 6) accepted
    exact ⟨_, rfl, rfl, again _ rfl rfl⟩
  · obtain ⟨x, rfl, again⟩ := (readsBack_intFrom 1).map_required accepted
    exact ⟨_, rfl, rfl, again _ rfl⟩
  · obtain ⟨id, rfl, again⟩ := readsBack_word.map_required accepted
    exact ⟨_, rfl, rfl, again _ rfl⟩

theorem UnitAbility.readsBack : ReadsBack UnitAbility.read UnitAbility.dump := by
  refine readsBack_tagged fun {kind readShape fields ability} shape accepted => ?_
  unfold shape? at shape
  split at shape <;> cases shape
  · obtain ⟨x, rfl, again⟩ := (readsBack_intFrom 1).map_required accepted
    exact ⟨_, rfl, rfl, again _ rfl⟩
  · obtain ⟨threshold, rfl, again⟩ := (readsBack_intBetween 2 6).map_required accepted
    exact ⟨_, rfl, rfl, again _ rfl⟩
  · obtain ⟨distance, rfl, again⟩ := (readsBack_intBetween 1 12).map_required accepted
    exact ⟨_, rfl, rfl, again _ rfl⟩
  · obtain ⟨id, rfl, again⟩ := readsBack_word.map_required accepted
    exact ⟨_, rfl, rfl, again _ rfl⟩

/-! ## Kinds -/

namespace Condition

/-- What was read as the value of a field is read again from its dump. -/
structure PartReading.ReadsBack (spot : Spot) (part : PartReading) : Prop where
  single : ∀ ⦃given : Condition⦄, part.single = .accepted given →
    readAt spot given.dump = .accepted given
  several : ∀ ⦃given : List Condition⦄, part.several = .accepted given →
    readListAt spot (.list (dumpParts given)) = .accepted given

theorem requiredPart_eq_accepted_iff {α : Type} {parts : List (String × PartReading)}
    {name : String} {choose : PartReading → Checked α} {given : α} :
    requiredPart parts name choose = .accepted given ↔
      ∃ part, parts.lookup name = some part ∧ choose part = .accepted given := by
  unfold requiredPart
  cases parts.lookup name <;> simp [under_eq_accepted_iff]

theorem someParts_eq_accepted_iff {part : PartReading} {given : List Condition} :
    someParts part = .accepted given ↔ part.several = .accepted given ∧ given ≠ [] := by
  unfold someParts
  rw [ensure_eq_accepted_iff]
  cases given <;> simp

theorem parts_readBack {spot : Spot} {parts : List (String × PartReading)}
    {kind : String} {given : List Condition}
    (partsBack : ∀ {name part}, parts.lookup name = some part → part.ReadsBack spot)
    (accepted : requiredPart parts "xs" someParts = .accepted given) :
    requiredPart
        (readFields spot [("t", .text kind), ("xs", .list (dumpParts given))]) "xs" someParts =
      .accepted given := by
  obtain ⟨part, found, accepted⟩ := requiredPart_eq_accepted_iff.mp accepted
  obtain ⟨several, some⟩ := someParts_eq_accepted_iff.mp accepted
  simp only [readFields]
  refine requiredPart_eq_accepted_iff.mpr ⟨_, rfl, ?_⟩
  exact someParts_eq_accepted_iff.mpr ⟨(partsBack found).several several, some⟩

theorem part_readBack {spot : Spot} {parts : List (String × PartReading)} {kind : String}
    {given : Condition}
    (partsBack : ∀ {name part}, parts.lookup name = some part → part.ReadsBack spot)
    (accepted : requiredPart parts "x" (·.single) = .accepted given) :
    requiredPart (readFields spot [("t", .text kind), ("x", given.dump)]) "x" (·.single) =
      .accepted given := by
  obtain ⟨part, found, single⟩ := requiredPart_eq_accepted_iff.mp accepted
  simp only [readFields]
  exact requiredPart_eq_accepted_iff.mpr ⟨_, rfl, (partsBack found).single single⟩

/-- The dump of what a known kind was read as names that kind, and is read in the same way. -/
theorem shape?_readsBack {spot : Spot} {kind : String} {fields : Fields}
    {parts : List (String × PartReading)} {reading : Checked Condition} {given : Condition}
    (partsBack : ∀ {name part}, parts.lookup name = some part → part.ReadsBack spot)
    (shape : shape? kind fields parts = some reading) (accepted : reading = .accepted given) :
    ∃ again : Fields, given.dump = .object again ∧ again.get? "t" = some (.text kind) ∧
      shape? kind again (readFields spot again) = some (.accepted given) := by
  unfold shape? at shape
  split at shape <;> cases shape
  -- `all` and `any`
  case h_3 | h_4 =>
    obtain ⟨conditions, acceptedParts, rfl⟩ := map_eq_accepted_iff.mp accepted
    refine ⟨_, by rw [dump], rfl, congrArg some ?_⟩
    rw [parts_readBack partsBack acceptedParts, map_accepted]
  -- `not`
  case h_5 =>
    obtain ⟨condition, acceptedPart, rfl⟩ := map_eq_accepted_iff.mp accepted
    refine ⟨_, by rw [dump], rfl, congrArg some ?_⟩
    rw [part_readBack partsBack acceptedPart, map_accepted]
  -- `weaponType` and `unitStatus`
  case h_6 | h_9 =>
    obtain ⟨values, rfl, again⟩ := readsBack_someWords.map_required accepted
    exact ⟨_, rfl, rfl, congrArg some (again _ rfl)⟩
  -- `weaponName`, `targetCategory` and `attackHasKeyword`
  case h_7 | h_8 | h_16 =>
    obtain ⟨names, rfl, again⟩ := readsBack_text.listOfSome.map_required accepted
    exact ⟨_, rfl, rfl, congrArg some (again _ rfl)⟩
  -- `armyState`
  case h_10 =>
    obtain ⟨names, acceptedNames, rfl⟩ := map_eq_accepted_iff.mp accepted
    refine ⟨_, rfl, rfl, congrArg some (map_eq_accepted_iff.mpr ⟨names, ?_, rfl⟩)⟩
    exact requiredIs_of_get? rfl (readsBack_text.listOfSome.requiredIs acceptedNames)
  -- `combatRole`
  case h_14 =>
    obtain ⟨role, acceptedRole, rfl⟩ := map_eq_accepted_iff.mp accepted
    refine ⟨_, rfl, rfl, congrArg some (map_eq_accepted_iff.mpr ⟨role, ?_, rfl⟩)⟩
    exact requiredIs_of_get? rfl (readsBack_word.requiredIs acceptedRole)
  -- `weaponHasAbility`
  case h_17 =>
    obtain ⟨ability, rfl, again⟩ := WeaponAbility.readsBack.map_required accepted
    exact ⟨_, rfl, rfl, congrArg some (again _ rfl)⟩
  -- `unitHasAbility`
  case h_18 =>
    obtain ⟨ability, rfl, again⟩ := UnitAbility.readsBack.map_required accepted
    exact ⟨_, rfl, rfl, congrArg some (again _ rfl)⟩
  -- `userInput`
  case h_19 =>
    obtain ⟨_, answer, acceptedId, acceptedAnswer, rfl⟩ := seq_eq_accepted_iff.mp accepted
    obtain ⟨id, rfl, again⟩ := readsBack_text.map_required acceptedId
    refine ⟨_, rfl, rfl, congrArg some (seq_eq_accepted_iff.mpr ⟨_, answer, again _ rfl, ?_, rfl⟩)⟩
    exact requiredIs_of_get? rfl (readsBack_text.requiredIs acceptedAnswer)
  -- The kinds without fields.
  all_goals
    cases accepted
    exact ⟨_, rfl, rfl, rfl⟩

theorem shape?_eq_none {kind : String} {fields again : Fields}
    {parts partsAgain : List (String × PartReading)} (unknown : shape? kind fields parts = none) :
    shape? kind again partsAgain = none := by
  unfold shape? at unknown ⊢
  split at unknown
  case h_20 => rfl
  all_goals cases unknown

/-! ## Nodes -/

theorem ofFields_readsBack {spot : Spot} {fields : Fields}
    {parts : List (String × PartReading)} {given : Condition}
    (partsBack : ∀ {name part}, parts.lookup name = some part → part.ReadsBack spot)
    (accepted : ofFields spot.steps fields parts = .accepted given) :
    ∃ again : Fields, given.dump = .object again ∧ again.get? "t" = fields.get? "t" ∧
      ofFields spot.steps again (readFields spot again) = .accepted given := by
  unfold ofFields at accepted
  split at accepted
  · rename_i kind named
    split at accepted
    · rename_i reading shape
      obtain ⟨within, accepted⟩ := nested_eq_accepted_iff.mp accepted
      obtain ⟨again, dumped, namedAgain, shapeAgain⟩ :=
        shape?_readsBack partsBack shape accepted
      refine ⟨again, dumped, by rw [named, namedAgain], ?_⟩
      unfold ofFields
      simp only [namedAgain, shapeAgain]
      exact nested_eq_accepted_iff.mpr ⟨within, rfl⟩
    · rename_i unknown
      obtain ⟨rfl, again⟩ := nested_kept_again (by decide) accepted
      refine ⟨("t", .text kind) :: fields.without "t", by rw [dump], named.symm, ?_⟩
      have namedAgain :
          Fields.get? (("t", .text kind) :: fields.without "t") "t" = some (.text kind) := rfl
      unfold ofFields
      simp only [namedAgain, shape?_eq_none unknown]
      exact again (.text kind)
  · cases accepted
  · cases accepted
  · exact absurd accepted nested_kept_ne_accepted
  · exact absurd accepted nested_kept_ne_accepted

/-! ## Trees -/

mutual

theorem readAt_dump : ∀ (value : Value) {spot : Spot} {given : Condition},
    readAt spot value = .accepted given → readAt spot given.dump = .accepted given := by
  intro value spot given accepted
  cases value with
  | object fields =>
      unfold readAt at accepted
      obtain ⟨again, dumped, named, readAgain⟩ :=
        ofFields_readsBack (readFields_readsBack fields) accepted
      rw [dumped]
      unfold readAt
      -- The dump names the same kind, so its parts are found at the same spot.
      rw [named]
      exact readAgain
  | _ => simp [readAt, nested_eq_accepted_iff, reject_ne_accepted] at accepted

theorem readListAt_dump : ∀ (value : Value) {spot : Spot} {given : List Condition},
    readListAt spot value = .accepted given →
      readListAt spot (.list (dumpParts given)) = .accepted given := by
  intro value spot given accepted
  cases value with
  | list items =>
      unfold readListAt at accepted ⊢
      exact itemsFrom_eq_accepted_iff.mpr
        (readItems_dump items (itemsFrom_eq_accepted_iff.mp accepted))
  | _ => simp [readListAt, reject_ne_accepted] at accepted

theorem readItems_dump : ∀ (items : List Value) {spot : Spot} {given : List Condition},
    List.Forall₂ (fun reading each => reading = .accepted each) (readItems spot items) given →
      List.Forall₂ (fun reading each => reading = .accepted each)
        (readItems spot (dumpParts given)) given := by
  intro items spot given each
  cases items with
  | nil =>
      unfold readItems at each
      cases each
      unfold dumpParts readItems
      exact .nil
  | cons item rest =>
      unfold readItems at each
      cases each with
      | cons first others =>
          unfold dumpParts readItems
          exact .cons (readAt_dump item first) (readItems_dump rest others)

theorem readFields_readsBack : ∀ (fields : Fields) {spot : Spot} {name : String}
    {part : PartReading}, (readFields spot fields).lookup name = some part →
      part.ReadsBack spot := by
  intro fields spot name part found
  cases fields with
  | nil =>
      unfold readFields at found
      cases found
  | cons field rest =>
      obtain ⟨other, value⟩ := field
      unfold readFields at found
      rw [List.lookup_cons] at found
      split at found
      · cases found
        exact ⟨fun _ => readAt_dump value, fun _ => readListAt_dump value⟩
      · exact readFields_readsBack rest found

end

theorem readsBack_readListAt (spot : Spot) :
    ReadsBack (readListAt spot) fun given => .list (dumpParts given) :=
  fun value _ => readListAt_dump value

theorem readsBack_readBehind (steps : Nat) : ReadsBack (readBehind steps) dump :=
  fun value _ => readAt_dump value

end Condition

end Skirmish
