import Skirmish.Content.Inspection

/-!
# Findings of inspections

An inspection that is not stopped makes findings and comes to a value.  This module takes
such an inspection apart along its steps, and tells for each stage of the inspection of a
folder what it can find: records are found to be misfits and to have malformed dice, ids to
be repeated, rules to be missing, and whatever comes after that is no error.
-/

namespace Skirmish

namespace Inspection

variable {α β : Type} {findings : List Finding}

/-! ## Inspections that are not stopped -/

/-- The inspection is not stopped: it makes the findings and comes to the value. -/
def Concludes (inspection : Inspection α) (findings : List Finding) (value : α) : Prop :=
  inspection = ⟨findings, .ok value⟩

theorem concludes_of_outcome {inspection : Inspection α} {value : α}
    (concluded : inspection.outcome = .ok value) :
    inspection.Concludes inspection.findings value := by
  cases inspection
  cases concluded
  rfl

theorem Concludes.findings_eq {inspection : Inspection α} {value : α}
    (concluded : inspection.Concludes findings value) : inspection.findings = findings := by
  rw [concluded]

theorem concludes_pure_iff {given value : α} :
    (pure given : Inspection α).Concludes findings value ↔ findings = [] ∧ given = value := by
  constructor
  · rintro ⟨⟩
    exact ⟨rfl, rfl⟩
  · rintro ⟨rfl, rfl⟩
    rfl

theorem concludes_bind_iff {first : Inspection α} {next : α → Inspection β} {value : β} :
    (first >>= next).Concludes findings value ↔ ∃ early middle late,
      first.Concludes early middle ∧ (next middle).Concludes late value ∧
        findings = early ++ late := by
  obtain ⟨found, outcome⟩ := first
  constructor
  · intro concluded
    cases outcome with
    | error fault => cases concluded
    | ok middle =>
        refine ⟨found, middle, (next middle).findings, rfl, ?_, ?_⟩
        · exact concludes_of_outcome (congrArg Inspection.outcome concluded)
        · exact (Concludes.findings_eq concluded).symm
  · rintro ⟨early, middle, late, ⟨⟩, after, rfl⟩
    change Inspection.mk (found ++ (next middle).findings) (next middle).outcome = _
    rw [after]

theorem concludes_report_iff {given : List Finding} {value : Unit} :
    (report given).Concludes findings value ↔ findings = given := by
  constructor
  · rintro ⟨⟩
    rfl
  · rintro rfl
    rfl

theorem concludes_attempt_iff {outcome : Except Fault α} {value : α} :
    (attempt outcome).Concludes findings value ↔ findings = [] ∧ outcome = .ok value := by
  constructor
  · rintro ⟨⟩
    exact ⟨rfl, rfl⟩
  · rintro ⟨rfl, rfl⟩
    rfl

/-! ## What an inspection can find -/

/-- All findings of the inspection, also of one that is stopped, are as expected. -/
def FindsOnly (expected : Finding → Prop) (inspection : Inspection α) : Prop :=
  ∀ finding ∈ inspection.findings, expected finding

variable {expected : Finding → Prop}

theorem findsOnly_pure (value : α) : FindsOnly expected (pure value : Inspection α) :=
  fun _ listed => absurd listed List.not_mem_nil

theorem findsOnly_attempt (outcome : Except Fault α) : FindsOnly expected (attempt outcome) :=
  fun _ listed => absurd listed List.not_mem_nil

theorem findsOnly_report {given : List Finding} (all : ∀ finding ∈ given, expected finding) :
    FindsOnly expected (report given) :=
  all

theorem findsOnly_bind {first : Inspection α} {next : α → Inspection β}
    (early : FindsOnly expected first) (late : ∀ value, FindsOnly expected (next value)) :
    FindsOnly expected (first >>= next) := by
  obtain ⟨found, outcome⟩ := first
  cases outcome with
  | error fault => exact early
  | ok value => exact fun finding listed =>
      (List.mem_append.mp listed).elim (early finding) (late value finding)

end Inspection

open Inspection

/-! ## Sorts of findings -/

/-- The sorts of findings, by what they are about. -/
inductive FindingSort where
  | misfit
  | dice
  | repetition
  | missing
  | idle
  deriving DecidableEq

namespace Finding

def sort : Finding → FindingSort
  | .misfit .. => .misfit
  | .malformedDice .. | .foreignDigit .. => .dice
  | .repeatedId .. => .repetition
  | .missingRule .. => .missing
  | .unknownCondition .. | .unrecordedState .. | .unknownEffect .. | .unusedRule _ => .idle

/-- Whatever is found is an error, but for parts that can have no effect. -/
theorem isError_eq_false_iff {finding : Finding} :
    finding.isError = false ↔ finding.sort = .idle := by
  cases finding <;> simp [isError, sort]

end Finding

/-! ## What the stages can find -/

theorem sort_of_diceFinding? {file : Path} {field : String} {value : Value}
    {finding : Finding} (found : diceFinding? file field value = some finding) :
    finding.sort = .dice := by
  unfold diceFinding? at found
  split at found
  · cases found
  · cases found
  · split at found
    · obtain ⟨column, -, rfl⟩ := Option.map_eq_some_iff.mp found
      rfl
    · cases found
      rfl
  · cases found
    rfl

theorem sort_of_mem_diceFindings {file : Path} {place : String} {value : Value}
    {finding : Finding} (listed : finding ∈ diceFindings file place value) :
    finding.sort = .dice := by
  obtain ⟨⟨field, dice⟩, -, found⟩ := List.mem_filterMap.mp listed
  exact sort_of_diceFinding? found

section

variable {α : Type} [Catalogued α]

theorem findsOnly_inspectValues (file : Path) (place : Nat) (values : List Value) :
    FindsOnly (·.sort = .misfit) (inspectValues α file place values) := by
  induction values generalizing place with
  | nil => exact findsOnly_pure _
  | cons value rest ih =>
      unfold inspectValues
      split
      · exact findsOnly_bind (ih _) fun _ => findsOnly_pure _
      · refine findsOnly_bind (findsOnly_report ?_) fun _ => ih _
        intro finding listed
        cases List.mem_singleton.mp listed
        rfl
      · exact findsOnly_attempt _

theorem findsOnly_inspectDocuments (place : String) (documents : List Document) :
    FindsOnly (fun finding => finding.sort = .misfit ∨ finding.sort = .dice)
      (inspectDocuments α place documents) := by
  induction documents with
  | nil => exact findsOnly_pure _
  | cons document rest ih =>
      refine findsOnly_bind ?_ fun _ => findsOnly_bind ih fun _ => findsOnly_pure _
      refine findsOnly_bind (findsOnly_attempt _) fun content => ?_
      refine findsOnly_bind ?_ fun _ => findsOnly_bind (findsOnly_attempt _) fun _ =>
        findsOnly_bind (findsOnly_report ?_) fun _ => findsOnly_pure _
      · exact fun finding listed => .inl (findsOnly_inspectValues _ _ _ finding listed)
      · exact fun finding listed => .inr (sort_of_mem_diceFindings listed)

theorem sort_of_mem_repeatedIds {seen located : List (Located α)} {finding : Finding}
    (listed : finding ∈ repeatedIds seen located) : finding.sort = .repetition := by
  induction located generalizing seen with
  | nil => exact absurd listed List.not_mem_nil
  | cons first rest ih =>
      unfold repeatedIds at listed
      dsimp only at listed
      split at listed
      · rcases List.mem_cons.mp listed with rfl | later
        · rfl
        · exact ih later
      · exact ih listed

end

theorem sort_of_mem_missingRules {rules : List (Located Rule)}
    {scenarios : List (Located Scenario)} {finding : Finding}
    (listed : finding ∈ missingRules rules scenarios) : finding.sort = .missing := by
  obtain ⟨id, -, rfl⟩ := List.mem_map.mp listed
  rfl

theorem findsOnly_inspectNodes (file : Path) (rule : String) (recorded : List String)
    (nodes : List (Option Condition)) :
    FindsOnly (·.sort = .idle) (inspectNodes file rule recorded nodes) := by
  induction nodes with
  | nil => exact findsOnly_pure _
  | cons node rest ih =>
      refine findsOnly_bind ?_ fun _ => ih
      unfold inspectNode
      split
      · refine findsOnly_report fun finding listed => ?_
        cases List.mem_singleton.mp listed
        rfl
      · refine findsOnly_report fun finding listed => ?_
        obtain ⟨state, -, rfl⟩ := List.mem_map.mp listed
        rfl
      · exact findsOnly_pure _
      · exact findsOnly_attempt _

theorem findsOnly_inspectRules (recorded : List String) (rules : List (Located Rule)) :
    FindsOnly (·.sort = .idle) (inspectRules recorded rules) := by
  induction rules with
  | nil => exact findsOnly_pure _
  | cons located rest ih =>
      refine findsOnly_bind ?_ fun _ => ih
      refine findsOnly_bind (findsOnly_attempt _) fun nodes => ?_
      refine findsOnly_bind (findsOnly_inspectNodes _ _ _ _) fun _ => findsOnly_report ?_
      intro finding listed
      obtain ⟨effect, -, found⟩ := List.mem_filterMap.mp listed
      split at found <;> cases found
      rfl

theorem sort_of_mem_unusedRules {rules : List (Located Rule)}
    {scenarios : List (Located Scenario)} {finding : Finding}
    (listed : finding ∈ unusedRules rules scenarios) : finding.sort = .idle := by
  obtain ⟨id, -, rfl⟩ := List.mem_map.mp listed
  rfl

end Skirmish
