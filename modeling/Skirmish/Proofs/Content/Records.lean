import Mathlib.Data.List.Nodup
import Skirmish.Content.Catalogue
import Skirmish.Proofs.Runs
import Skirmish.Proofs.Schema

/-!
# The records of documents

Documents hold records when each of them can be read and every value in them fits.  This
module shows that a catalogue can be loaded exactly when its documents hold records and no
two records of one kind have the same id.

Collecting goes through documents, and in each of them through values.  Both loops add what
an item gives to the records that were there before, so one induction serves for both.
-/

namespace Skirmish

open Schema

/-! ## What items give -/

section

variable {α β : Type} {given? : β → Option (List α)}

/-- What several items give, one after the other, if each of them gives something. -/
def givenByAll (given? : β → Option (List α)) : List β → Option (List α)
  | [] => some []
  | item :: rest => do return (← given? item) ++ (← givenByAll given? rest)

theorem givenByAll_cons_eq_some_iff {item : β} {rest : List β} {records : List α} :
    givenByAll given? (item :: rest) = some records ↔
      ∃ first others, given? item = some first ∧ givenByAll given? rest = some others ∧
        first ++ others = records := by
  simp [givenByAll, Option.bind_eq_some_iff]

end

/-! ## Records -/

section

variable {α : Type} [Catalogued α]

/-- The record that a value holds, if it fits. -/
def recordIn? (value : Value) : Option (List α) :=
  (Catalogued.read value : Checked α).accepted?.map ([·])

/-- The records of a document, if it can be read and every value in it fits. -/
def Document.records? (document : Document) : Option (List α) :=
  document.content.toOption.bind fun content =>
    givenByAll recordIn? ((Catalogued.kind α).recordsOf content)

/-- The records of a kind in a content folder, if all its documents hold records. -/
def recordsIn (documents : List Document) (base : Path) : Option (List α) :=
  givenByAll Document.records? (documentsInside documents (Catalogue.folderOf α base))

theorem Document.records?_eq_some_iff {document : Document} {records : List α} :
    document.records? = some records ↔ ∃ content, document.content = .ok content ∧
      givenByAll recordIn? ((Catalogued.kind α).recordsOf content) = some records := by
  unfold records?
  cases document.content <;> simp [Except.toOption]

namespace Catalogue

/-! ## Looking up -/

theorem isSome_find?_iff {records : List α} {id : String} :
    (find? records id).isSome = true ↔ id ∈ records.map Catalogued.id := by
  simp [find?, List.find?_isSome]

theorem exists_require_iff {records : List α} {id : String} :
    (∃ record, require records id = .ok record) ↔ id ∈ records.map Catalogued.id := by
  rw [← isSome_find?_iff]
  unfold require
  cases find? records id <;> simp

/-! ## Collecting -/

section

variable {β : Type} {step : List α → β → Except Fault (List α)}
  {given? : β → Option (List α)}

/-- A step adds to the records what an item gives.  It does so just if the item gives
something and no two records have the same id afterwards. -/
def AddsDistinct (step : List α → β → Except Fault (List α)) (given? : β → Option (List α)) :
    Prop :=
  ∀ (records : List α) (item : β) (collected : List α),
    (records.map Catalogued.id).Nodup →
      (step records item = .ok collected ↔
        ∃ given, given? item = some given ∧ collected = records ++ given ∧
          (collected.map Catalogued.id).Nodup)

/-- A step that adds what one item gives, taken for every item, adds what all of them
give. -/
theorem AddsDistinct.foldlM (adds : AddsDistinct step given?) :
    AddsDistinct (fun records items => items.foldlM step records) (givenByAll given?) := by
  intro records items collected distinct
  change items.foldlM step records = _ ↔ _
  induction items generalizing records with
  | nil =>
      simp only [List.foldlM_nil, givenByAll, Option.some.injEq, exists_eq_left', List.append_nil]
      constructor
      · rintro ⟨⟩
        exact ⟨rfl, distinct⟩
      · rintro ⟨rfl, -⟩
        rfl
  | cons item rest ih =>
      rw [List.foldlM_cons, bind_eq_ok_iff]
      constructor
      · rintro ⟨middle, stepped, collecting⟩
        obtain ⟨first, gave, rfl, distinctMiddle⟩ := (adds _ _ _ distinct).mp stepped
        obtain ⟨others, gaveRest, rfl, distinctAll⟩ := (ih _ distinctMiddle).mp collecting
        exact ⟨first ++ others,
          givenByAll_cons_eq_some_iff.mpr ⟨first, others, gave, gaveRest, rfl⟩,
          List.append_assoc .., distinctAll⟩
      · rintro ⟨given, gave, added, distinctAll⟩
        obtain ⟨first, others, gaveFirst, gaveRest, rfl⟩ := givenByAll_cons_eq_some_iff.mp gave
        rw [← List.append_assoc] at added
        subst added
        -- The records in the middle are a part of the records in the end.
        have distinctMiddle : ((records ++ first).map Catalogued.id).Nodup := by
          rw [List.map_append] at distinctAll
          exact distinctAll.of_append_left
        exact ⟨records ++ first, (adds _ _ _ distinct).mpr ⟨first, gaveFirst, rfl, distinctMiddle⟩,
          (ih _ distinctMiddle).mpr ⟨others, gaveRest, rfl, distinctAll⟩⟩

end

theorem addsDistinct_collectValue (file : Path) :
    AddsDistinct (collectValue file) (recordIn? (α := α)) := by
  intro records value collected distinct
  unfold collectValue recordIn?
  simp only [bind_eq_ok_iff, Checked.orFault_eq_ok_iff, Option.map_eq_some_iff,
    Checked.accepted?_eq_some_iff]
  constructor
  · rintro ⟨record, accepted, added⟩
    split at added
    · cases added
    · rename_i absent
      cases added
      rw [isSome_find?_iff] at absent
      refine ⟨[record], ⟨record, accepted, rfl⟩, rfl, ?_⟩
      rw [List.map_append, List.nodup_append]
      simpa [distinct] using absent
  · rintro ⟨-, ⟨record, accepted, rfl⟩, rfl, distinctAll⟩
    refine ⟨record, accepted, ?_⟩
    have absent : ¬ (find? records (Catalogued.id record)).isSome = true := by
      rw [isSome_find?_iff]
      simp only [List.map_append, List.map_cons, List.map_nil] at distinctAll
      exact fun present => List.disjoint_of_nodup_append distinctAll present (by simp)
    rw [if_neg absent]
    rfl

theorem addsDistinct_collectDocument :
    AddsDistinct collectDocument (Document.records? (α := α)) := by
  intro records document collected distinct
  simp only [collectDocument, bind_eq_ok_iff, Document.records?_eq_some_iff,
    (addsDistinct_collectValue document.path).foldlM _ _ _ distinct]
  constructor
  · rintro ⟨content, read, given, gave, added, distinctAll⟩
    exact ⟨given, ⟨content, read, gave⟩, added, distinctAll⟩
  · rintro ⟨given, ⟨content, read, gave⟩, added, distinctAll⟩
    exact ⟨content, read, given, gave, added, distinctAll⟩

/-- Collecting comes to the records of all documents, just if no two of them have the same
id. -/
theorem collect_eq_ok_iff {documents : List Document} {base : Path} {records : List α} :
    collect documents base = .ok records ↔
      recordsIn documents base = some records ∧ (records.map Catalogued.id).Nodup := by
  have adds := addsDistinct_collectDocument.foldlM []
    (documentsInside documents (folderOf α base)) records List.nodup_nil
  simpa [collect, recordsIn] using adds

/-! ## Loading -/

theorem load_eq_ok_iff {documents : List Document} {base : Path} {catalogue : Catalogue} :
    load documents base = .ok catalogue ↔
      collect documents base = .ok catalogue.rules ∧
      collect documents base = .ok catalogue.stratagems ∧
      collect documents base = .ok catalogue.scenarios := by
  simp only [load, bind_eq_ok_iff]
  constructor
  · rintro ⟨rules, loadedRules, stratagems, loadedStratagems, scenarios, loadedScenarios, ⟨⟩⟩
    exact ⟨loadedRules, loadedStratagems, loadedScenarios⟩
  · rintro ⟨loadedRules, loadedStratagems, loadedScenarios⟩
    exact ⟨_, loadedRules, _, loadedStratagems, _, loadedScenarios, rfl⟩

end Catalogue

end

end Skirmish
