import Skirmish.Proofs.Content.Findings
import Skirmish.Proofs.Content.Records

/-!
# What an inspection tells about records

An inspection goes on after a record that does not fit, where reading all records of the
documents comes to nothing.  Both go through the same documents, though, and take the same
values from them.  So an inspection that is not stopped tells whether the records of a kind
can be collected, and which they are: they can unless a misfit or a repeated id was found.
-/

namespace Skirmish

open Inspection Schema

section

variable {α : Type} [Catalogued α]

/-! ## Inspections of records -/

/-- A value is taken as a record, or it is reported as a misfit and passed over. -/
theorem concludes_inspectValues_cons {file : Path} {place : Nat} {value : Value}
    {rest : List Value} {findings : List Finding} {records : List (Located α)}
    (concluded : (inspectValues α file place (value :: rest)).Concludes findings records) :
    (∃ record others, Catalogued.read value = Checked.accepted record ∧
      (inspectValues α file (place + 1) rest).Concludes findings others ∧
      records = ⟨file, record⟩ :: others) ∨
    ∃ violations late, (Catalogued.read value : Checked α) = .rejected violations ∧
      (inspectValues α file (place + 1) rest).Concludes late records ∧
      findings = .misfit file place violations :: late := by
  unfold inspectValues at concluded
  split at concluded
  · rename_i record accepted
    obtain ⟨early, others, late, concludedRest, last, rfl⟩ := concludes_bind_iff.mp concluded
    obtain ⟨rfl, rfl⟩ := concludes_pure_iff.mp last
    rw [List.append_nil]
    exact .inl ⟨record, others, accepted, concludedRest, rfl⟩
  · rename_i violations rejected
    obtain ⟨early, _, late, reported, concludedRest, rfl⟩ := concludes_bind_iff.mp concluded
    rw [concludes_report_iff.mp reported]
    exact .inr ⟨violations, late, rejected, concludedRest, rfl⟩
  · cases (concludes_attempt_iff.mp concluded).2

theorem concludes_inspectDocument {place : String} {document : Document}
    {findings : List Finding} {records : List (Located α)}
    (concluded : (inspectDocument α place document).Concludes findings records) :
    ∃ content early, document.content = .ok content ∧
      (inspectValues α document.path 0 ((Catalogued.kind α).recordsOf content)).Concludes
        early records ∧
      findings = early ++ diceFindings document.path place content := by
  obtain ⟨_, content, _, attempted, taking, rfl⟩ := concludes_bind_iff.mp concluded
  obtain ⟨rfl, read⟩ := concludes_attempt_iff.mp attempted
  obtain ⟨early, taken, _, inspected, showing, rfl⟩ := concludes_bind_iff.mp taking
  obtain ⟨_, _, _, shown, reporting, rfl⟩ := concludes_bind_iff.mp showing
  obtain ⟨rfl, -⟩ := concludes_attempt_iff.mp shown
  obtain ⟨dice, _, _, reported, last, rfl⟩ := concludes_bind_iff.mp reporting
  obtain ⟨rfl, rfl⟩ := concludes_pure_iff.mp last
  rw [concludes_report_iff.mp reported]
  exact ⟨content, early, read, inspected, by simp⟩

theorem concludes_inspectDocuments_cons {place : String} {document : Document}
    {rest : List Document} {findings : List Finding} {records : List (Located α)}
    (concluded : (inspectDocuments α place (document :: rest)).Concludes findings records) :
    ∃ early first late others,
      (inspectDocument α place document).Concludes early first ∧
      (inspectDocuments α place rest).Concludes late others ∧
      findings = early ++ late ∧ records = first ++ others := by
  obtain ⟨early, first, _, inspected, inspecting, rfl⟩ := concludes_bind_iff.mp concluded
  obtain ⟨late, others, _, inspectedRest, last, rfl⟩ := concludes_bind_iff.mp inspecting
  obtain ⟨rfl, rfl⟩ := concludes_pure_iff.mp last
  exact ⟨early, first, late, others, inspected, inspectedRest, by simp, rfl⟩

/-! ## What an inspection tells -/

/-- The inspection tells what some items give.  If it is not stopped, they give the records
that it comes to, unless it finds a misfit; then they give nothing. -/
def Tells (inspection : Inspection (List (Located α))) (given : Option (List α)) : Prop :=
  ∀ findings located, inspection.Concludes findings located →
    given = if findings.any (·.sort == .misfit) then none else some (located.map (·.record))

theorem tells_inspectValues (file : Path) (place : Nat) (values : List Value) :
    Tells (inspectValues α file place values) (givenByAll recordIn? values) := by
  induction values generalizing place with
  | nil =>
      intro findings located concluded
      obtain ⟨rfl, rfl⟩ := concludes_pure_iff.mp concluded
      rfl
  | cons value rest ih =>
      intro findings located concluded
      rcases concludes_inspectValues_cons concluded with
        ⟨record, others, accepted, concludedRest, rfl⟩ |
        ⟨violations, late, rejected, concludedRest, rfl⟩
      · have first : recordIn? value = some [record] := by
          rw [recordIn?, accepted]
          rfl
        rw [givenByAll, first, ih _ findings others concludedRest]
        cases findings.any (·.sort == .misfit) <;> rfl
      · have first : recordIn? (α := α) value = none := by
          rw [recordIn?, rejected]
          rfl
        rw [givenByAll, first]
        rfl

theorem any_misfit_diceFindings (file : Path) (place : String) (value : Value) :
    (diceFindings file place value).any (·.sort == .misfit) = false := by
  rw [List.any_eq_false]
  intro finding listed
  rw [sort_of_mem_diceFindings listed]
  exact Bool.false_ne_true

theorem tells_inspectDocument (place : String) (document : Document) :
    Tells (inspectDocument α place document) document.records? := by
  intro findings located concluded
  obtain ⟨content, early, read, inspected, rfl⟩ := concludes_inspectDocument concluded
  -- Faults with dice do not keep the document from holding records.
  rw [List.any_append, any_misfit_diceFindings, Bool.or_false,
    ← tells_inspectValues _ _ _ _ _ inspected, Document.records?, read]
  rfl

theorem tells_inspectDocuments (place : String) (documents : List Document) :
    Tells (inspectDocuments α place documents) (givenByAll Document.records? documents) := by
  induction documents with
  | nil =>
      intro findings located concluded
      obtain ⟨rfl, rfl⟩ := concludes_pure_iff.mp concluded
      rfl
  | cons document rest ih =>
      intro findings located concluded
      obtain ⟨early, first, late, others, inspected, inspectedRest, rfl, rfl⟩ :=
        concludes_inspectDocuments_cons concluded
      rw [givenByAll, tells_inspectDocument _ _ _ _ inspected, ih _ _ inspectedRest,
        List.any_append, List.map_append]
      cases early.any (·.sort == .misfit) <;> cases late.any (·.sort == .misfit) <;> rfl

/-! ## Where records come from -/

theorem exists_value_of_mem {file : Path} {place : Nat} {values : List Value}
    {findings : List Finding} {records : List (Located α)}
    (concluded : (inspectValues α file place values).Concludes findings records)
    {located : Located α} (listed : located ∈ records) :
    ∃ value ∈ values, Catalogued.read value = Checked.accepted located.record := by
  induction values generalizing place findings records with
  | nil =>
      obtain ⟨rfl, rfl⟩ := concludes_pure_iff.mp concluded
      exact absurd listed List.not_mem_nil
  | cons value rest ih =>
      rcases concludes_inspectValues_cons concluded with
        ⟨record, others, accepted, concludedRest, rfl⟩ |
        ⟨violations, late, rejected, concludedRest, rfl⟩
      · rcases List.mem_cons.mp listed with rfl | later
        · exact ⟨value, List.mem_cons_self, accepted⟩
        · obtain ⟨origin, held, read⟩ := ih concludedRest later
          exact ⟨origin, List.mem_cons_of_mem value held, read⟩
      · obtain ⟨origin, held, read⟩ := ih concludedRest listed
        exact ⟨origin, List.mem_cons_of_mem value held, read⟩

/-- A record that an inspection comes to was read in a document, and the findings about the
dice in this document are among those of the inspection. -/
theorem exists_document_of_mem {place : String} {documents : List Document}
    {findings : List Finding} {records : List (Located α)}
    (concluded : (inspectDocuments α place documents).Concludes findings records)
    {located : Located α} (listed : located ∈ records) :
    ∃ document ∈ documents, ∃ content, document.content = .ok content ∧
      (∃ value ∈ (Catalogued.kind α).recordsOf content,
        Catalogued.read value = Checked.accepted located.record) ∧
      diceFindings document.path place content ⊆ findings := by
  induction documents generalizing findings records with
  | nil =>
      obtain ⟨rfl, rfl⟩ := concludes_pure_iff.mp concluded
      exact absurd listed List.not_mem_nil
  | cons document rest ih =>
      obtain ⟨early, first, late, others, inspected, inspectedRest, rfl, rfl⟩ :=
        concludes_inspectDocuments_cons concluded
      rcases List.mem_append.mp listed with here | later
      · obtain ⟨content, misfits, read, inspectedValues, rfl⟩ :=
          concludes_inspectDocument inspected
        refine ⟨document, List.mem_cons_self, content, read,
          exists_value_of_mem inspectedValues here, ?_⟩
        rw [List.append_assoc]
        exact List.subset_append_of_subset_right _ (List.subset_append_left _ _)
      · obtain ⟨origin, among, content, read, value, found⟩ := ih inspectedRest later
        exact ⟨origin, List.mem_cons_of_mem _ among, content, read, value,
          List.subset_append_of_subset_right _ found⟩

theorem mem_of_accepted {file : Path} {place : Nat} {values : List Value}
    {findings : List Finding} {records : List (Located α)}
    (concluded : (inspectValues α file place values).Concludes findings records) {value : Value}
    (held : value ∈ values) {record : α}
    (accepted : Catalogued.read value = Checked.accepted record) : ⟨file, record⟩ ∈ records := by
  induction values generalizing place findings records with
  | nil => exact (List.not_mem_nil held).elim
  | cons first rest ih =>
      rcases concludes_inspectValues_cons concluded with
        ⟨other, others, acceptedFirst, concludedRest, rfl⟩ |
        ⟨violations, late, rejected, concludedRest, rfl⟩
      · rcases List.mem_cons.mp held with rfl | later
        · cases acceptedFirst.symm.trans accepted
          exact List.mem_cons_self
        · exact List.mem_cons_of_mem _ (ih concludedRest later)
      · rcases List.mem_cons.mp held with rfl | later
        · cases rejected.symm.trans accepted
        · exact ih concludedRest later

/-- Every record in the documents is among those that an inspection comes to, under the
path of its document. -/
theorem mem_of_document {place : String} {documents : List Document} {findings : List Finding}
    {records : List (Located α)}
    (concluded : (inspectDocuments α place documents).Concludes findings records)
    {document : Document} (listed : document ∈ documents) {content : Value}
    (read : document.content = .ok content) {value : Value}
    (held : value ∈ (Catalogued.kind α).recordsOf content) {record : α}
    (accepted : Catalogued.read value = Checked.accepted record) :
    ⟨document.path, record⟩ ∈ records := by
  induction documents generalizing findings records with
  | nil => exact (List.not_mem_nil listed).elim
  | cons first rest ih =>
      obtain ⟨early, here, late, others, inspected, inspectedRest, rfl, rfl⟩ :=
        concludes_inspectDocuments_cons concluded
      rcases List.mem_cons.mp listed with rfl | later
      · obtain ⟨own, _, readOwn, inspectedValues, -⟩ := concludes_inspectDocument inspected
        obtain rfl := ok_unique read readOwn
        exact List.mem_append_left _ (mem_of_accepted inspectedValues held accepted)
      · exact List.mem_append_right _ (ih inspectedRest later)

/-! ## Repeated ids -/

/-- No id is found to be repeated exactly when there is none that two records have. -/
theorem repeatedIds_eq_nil_iff {seen located : List (Located α)}
    (distinct : (seen.map fun earlier => Catalogued.id earlier.record).Nodup) :
    repeatedIds seen located = [] ↔
      ((seen ++ located).map fun earlier => Catalogued.id earlier.record).Nodup := by
  induction located generalizing seen with
  | nil => simpa [repeatedIds] using distinct
  | cons first rest ih =>
      unfold repeatedIds
      dsimp only
      split
      · rename_i earlier found
        have same := List.find?_some found
        have listed := List.mem_of_find?_eq_some found
        refine iff_of_false (List.cons_ne_nil _ _) fun distinctAll => ?_
        rw [List.map_append] at distinctAll
        refine List.disjoint_of_nodup_append distinctAll (List.mem_map_of_mem listed) ?_
        rw [beq_iff_eq.mp same]
        exact List.mem_map_of_mem List.mem_cons_self
      · rename_i absent
        have distinctSeen :
            ((seen ++ [first]).map fun earlier => Catalogued.id earlier.record).Nodup := by
          rw [List.map_append, List.nodup_append]
          simpa [distinct] using absent
        rw [ih distinctSeen, List.append_assoc, List.singleton_append]

/-- Collecting the records of a kind comes to those that an inspection comes to, just if it
finds neither a misfit nor a repeated id among them. -/
theorem collect_eq_ok_iff_of_concludes {documents : List Document} {base : Path}
    {findings : List Finding} {located : List (Located α)}
    (concluded : (inspectKind α documents base).Concludes findings located) {records : List α} :
    Catalogue.collect documents base = .ok records ↔
      findings.any (·.sort == .misfit) = false ∧ repeatedIds [] located = [] ∧
        located.map (·.record) = records := by
  have told : recordsIn documents base = _ := tells_inspectDocuments _ _ _ _ concluded
  have unseen := @repeatedIds_eq_nil_iff α _ [] located List.nodup_nil
  rw [Catalogue.collect_eq_ok_iff, told, unseen]
  cases findings.any (·.sort == .misfit) with
  | true => simp
  | false =>
      simp only [Bool.false_eq_true, if_false, Option.some.injEq, true_and, List.nil_append]
      constructor
      · rintro ⟨rfl, distinct⟩
        exact ⟨by simpa [Function.comp_def] using distinct, rfl⟩
      · rintro ⟨distinct, rfl⟩
        exact ⟨rfl, by simpa [Function.comp_def] using distinct⟩

end

end Skirmish
