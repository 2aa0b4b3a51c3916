import Skirmish.Engine.Basic
import Skirmish.Proofs.Content.Inspection
import Skirmish.Proofs.Content.WeaponDice

/-!
# Inspecting and loading agree

A content folder whose inspection is not stopped can be loaded exactly when the inspection
found no misfit and no repeated id.  When it found no error at all, the scenarios in the
catalogue that is loaded are ready to be run: they find all rules that they refer to, and
their weapons have dice expressions.
-/

namespace Skirmish

open Inspection

/-! ## Findings that allow for loading -/

/-- None of the findings is a misfit or about a repeated id. -/
def AllowsLoading (findings : List Finding) : Prop :=
  ∀ finding ∈ findings, finding.sort ≠ .misfit ∧ finding.sort ≠ .repetition

theorem allowsLoading_append_iff {first second : List Finding} :
    AllowsLoading (first ++ second) ↔ AllowsLoading first ∧ AllowsLoading second :=
  List.forall_mem_append

theorem allowsLoading_of_sort (sort : FindingSort)
    (harmless : sort ≠ .misfit ∧ sort ≠ .repetition) {findings : List Finding}
    (same : ∀ finding ∈ findings, finding.sort = sort) : AllowsLoading findings := by
  intro finding listed
  rw [same finding listed]
  exact harmless

section

variable {α : Type} [Catalogued α] {documents : List Document} {base : Path}
  {findings : List Finding} {located : List (Located α)}

theorem allowsLoading_repeatedIds_iff {seen : List (Located α)} :
    AllowsLoading (repeatedIds seen located) ↔ repeatedIds seen located = [] := by
  constructor
  · intro allows
    refine List.eq_nil_iff_forall_not_mem.mpr fun finding listed => ?_
    exact (allows finding listed).2 (sort_of_mem_repeatedIds listed)
  · intro none
    rw [none]
    exact fun finding listed => absurd listed List.not_mem_nil

/-- Besides misfits, the inspection of a kind only finds faults with dice. -/
theorem allowsLoading_iff_of_concludes
    (concluded : (inspectKind α documents base).Concludes findings located) :
    AllowsLoading findings ↔ findings.any (·.sort == .misfit) = false := by
  simp only [List.any_eq_false, beq_iff_eq]
  constructor
  · exact fun allows finding listed => (allows finding listed).1
  · intro fits finding listed
    refine ⟨fits finding listed, ?_⟩
    rw [← concluded.findings_eq] at listed
    rcases findsOnly_inspectDocuments _ _ finding listed with sort | sort <;>
      · rw [sort]
        exact nofun

end

/-! ## The stages of an inspection -/

/-- What the stages of an inspection that is not stopped come to and find. -/
structure Survey (documents : List Document) (base : Path) where
  rules : List (Located Rule)
  stratagems : List (Located Stratagem)
  scenarios : List (Located Scenario)
  amongRules : List Finding
  amongStratagems : List Finding
  amongScenarios : List Finding
  idle : List Finding
  inspectedRules : (inspectKind Rule documents base).Concludes amongRules rules
  inspectedStratagems : (inspectKind Stratagem documents base).Concludes amongStratagems stratagems
  inspectedScenarios : (inspectKind Scenario documents base).Concludes amongScenarios scenarios
  sort_idle : ∀ finding ∈ idle, finding.sort = .idle

/-- The findings of all stages. -/
def Survey.findings {documents : List Document} {base : Path} (survey : Survey documents base) :
    List Finding :=
  survey.amongRules ++ (survey.amongStratagems ++ (survey.amongScenarios ++
    (repeatedIds [] survey.rules ++ repeatedIds [] survey.stratagems ++
      repeatedIds [] survey.scenarios ++
        (missingRules survey.rules survey.scenarios ++ survey.idle))))

theorem exists_survey {documents : List Document} {base : Path} {warnUnused : Bool}
    {findings : List Finding}
    (concluded : (inspectFolder documents base warnUnused).Concludes findings ()) :
    ∃ survey : Survey documents base, survey.findings = findings := by
  obtain ⟨amongRules, rules, _, inspectedRules, afterRules, rfl⟩ :=
    concludes_bind_iff.mp concluded
  obtain ⟨amongStratagems, stratagems, _, inspectedStratagems, afterStratagems, rfl⟩ :=
    concludes_bind_iff.mp afterRules
  obtain ⟨amongScenarios, scenarios, _, inspectedScenarios, afterScenarios, rfl⟩ :=
    concludes_bind_iff.mp afterStratagems
  obtain ⟨_, _, _, repeated, afterRepeated, rfl⟩ := concludes_bind_iff.mp afterScenarios
  obtain ⟨_, _, _, missing, afterMissing, rfl⟩ := concludes_bind_iff.mp afterRepeated
  obtain ⟨idle, _, unused, lookedForIdle, atEnd, rfl⟩ := concludes_bind_iff.mp afterMissing
  rw [concludes_report_iff.mp repeated, concludes_report_iff.mp missing]
  refine ⟨⟨rules, stratagems, scenarios, amongRules, amongStratagems, amongScenarios,
    idle ++ unused, inspectedRules, inspectedStratagems, inspectedScenarios, ?_⟩, rfl⟩
  intro finding listed
  rcases List.mem_append.mp listed with early | late
  · rw [← lookedForIdle.findings_eq] at early
    exact findsOnly_inspectRules _ _ finding early
  · split at atEnd
    · rw [concludes_report_iff.mp atEnd] at late
      exact sort_of_mem_unusedRules late
    · rw [(concludes_pure_iff.mp atEnd).1] at late
      exact absurd late List.not_mem_nil

namespace Survey

variable {documents : List Document} {base : Path}

theorem allowsLoading_iff (survey : Survey documents base) :
    AllowsLoading survey.findings ↔
      (survey.amongRules.any (·.sort == .misfit) = false ∧ repeatedIds [] survey.rules = []) ∧
      (survey.amongStratagems.any (·.sort == .misfit) = false ∧
        repeatedIds [] survey.stratagems = []) ∧
      survey.amongScenarios.any (·.sort == .misfit) = false ∧
        repeatedIds [] survey.scenarios = [] := by
  have missing : AllowsLoading (missingRules survey.rules survey.scenarios) :=
    allowsLoading_of_sort .missing (by decide) fun _ => sort_of_mem_missingRules
  have idle : AllowsLoading survey.idle :=
    allowsLoading_of_sort .idle (by decide) survey.sort_idle
  simp only [findings, allowsLoading_append_iff, allowsLoading_repeatedIds_iff, missing, idle,
    and_true, allowsLoading_iff_of_concludes survey.inspectedRules,
    allowsLoading_iff_of_concludes survey.inspectedStratagems,
    allowsLoading_iff_of_concludes survey.inspectedScenarios]
  tauto

/-- Loading comes to the records that the survey has, unless it found a misfit or a repeated
id. -/
theorem load_eq_ok_iff (survey : Survey documents base) {catalogue : Catalogue} :
    Catalogue.load documents base = .ok catalogue ↔ AllowsLoading survey.findings ∧
      survey.rules.map (·.record) = catalogue.rules ∧
      survey.stratagems.map (·.record) = catalogue.stratagems ∧
      survey.scenarios.map (·.record) = catalogue.scenarios := by
  rw [Catalogue.load_eq_ok_iff, collect_eq_ok_iff_of_concludes survey.inspectedRules,
    collect_eq_ok_iff_of_concludes survey.inspectedStratagems,
    collect_eq_ok_iff_of_concludes survey.inspectedScenarios, survey.allowsLoading_iff]
  tauto

end Survey

/-! ## Scenarios that are ready -/

/-- The scenario finds every rule that it refers to in the catalogue, and the weapon in it
has dice expressions. -/
structure Scenario.IsReady (scenario : Scenario) (catalogue : Catalogue) : Prop where
  finds : ∀ id ∈ scenario.attackerRules ++ scenario.defenderRules,
    ∃ rule, catalogue.rule id = .ok rule
  attacks : isDiceText scenario.weapon.attacks = true
  damage : isDiceText scenario.weapon.damage = true

theorem mem_sortedOnce_iff {texts : List String} {text : String} :
    text ∈ sortedOnce texts ↔ text ∈ texts := by
  rw [sortedOnce, List.mem_mergeSort, List.mem_eraseDups]

theorem mem_ids_of_missingRules_eq_nil {rules : List (Located Rule)}
    {scenarios : List (Located Scenario)} (none : missingRules rules scenarios = [])
    {located : Located Scenario} (listed : located ∈ scenarios) {id : String}
    (used : id ∈ located.record.ruleIds) : id ∈ rules.map (·.record.id) := by
  rw [missingRules, List.map_eq_nil_iff, List.filter_eq_nil_iff] at none
  have known := none id (mem_sortedOnce_iff.mpr (List.mem_flatMap.mpr ⟨located, listed, used⟩))
  simpa using known

theorem eq_nil_of_sort (sort : FindingSort) (busy : sort ≠ .idle) {findings : List Finding}
    (same : ∀ finding ∈ findings, finding.sort = sort)
    (idle : ∀ finding ∈ findings, finding.sort = .idle) : findings = [] :=
  List.eq_nil_iff_forall_not_mem.mpr fun finding listed =>
    busy ((same finding listed).symm.trans (idle finding listed))

theorem Survey.isReady {documents : List Document} {base : Path}
    (survey : Survey documents base) (clean : isClean survey.findings = true)
    {catalogue : Catalogue} (loaded : Catalogue.load documents base = .ok catalogue)
    {scenario : Scenario} (listed : scenario ∈ catalogue.scenarios) :
    scenario.IsReady catalogue := by
  obtain ⟨-, sameRules, -, sameScenarios⟩ := survey.load_eq_ok_iff.mp loaded
  rw [← sameScenarios] at listed
  obtain ⟨located, surveyed, rfl⟩ := List.mem_map.mp listed
  -- Findings about missing rules and about dice are errors, so there are none of them.
  have idle : ∀ finding ∈ survey.findings, finding.sort = .idle := by
    simpa [isClean, Finding.isError_eq_false_iff] using clean
  have noneMissing : missingRules survey.rules survey.scenarios = [] :=
    eq_nil_of_sort .missing nofun (fun _ => sort_of_mem_missingRules)
      fun finding missing => idle finding (by simp [Survey.findings, missing])
  have dice : isDiceText located.record.weapon.attacks = true ∧
      isDiceText located.record.weapon.damage = true := by
    obtain ⟨document, -, content, -, ⟨value, held, accepted⟩, found⟩ :=
      exists_document_of_mem survey.inspectedScenarios surveyed
    cases List.mem_singleton.mp held
    have noneFaulty : diceFindings document.path RecordKind.scenario.folder content = [] :=
      eq_nil_of_sort .dice nofun (fun _ => sort_of_mem_diceFindings)
        fun finding faulty => idle finding (by simp [Survey.findings, found faulty])
    exact Scenario.dice_of_clean accepted noneFaulty
  refine ⟨fun id used => Catalogue.exists_require_iff.mpr ?_, dice.1, dice.2⟩
  rw [← sameRules, List.map_map]
  exact mem_ids_of_missingRules_eq_nil noneMissing surveyed used

/-! ## Looking up the rules of a scenario -/

theorem Engine.exists_rules {engine : Engine} {ids : List String}
    (found : ∀ id ∈ ids, ∃ rule, engine.catalogue.rule id = .ok rule) :
    ∃ rules, engine.rules (ids.map .id) = .ok rules := by
  induction ids with
  | nil => exact ⟨[], rfl⟩
  | cons id rest ih =>
      obtain ⟨rule, looked⟩ := found id List.mem_cons_self
      obtain ⟨rules, others⟩ := ih fun other listed => found other (List.mem_cons_of_mem id listed)
      refine ⟨rule :: rules, ?_⟩
      simp only [Engine.rules, List.map_cons, List.mapM_cons, bind_eq_ok_iff]
      exact ⟨rule, looked, rules, others, rfl⟩

theorem Engine.exists_sideRules {engine : Engine} {ids : List String}
    (found : ∀ id ∈ ids, ∃ rule, engine.catalogue.rule id = .ok rule) (weapon : Weapon) :
    ∃ rules, engine.sideRules (ids.map .id) weapon = .ok rules := by
  obtain ⟨rules, looked⟩ := exists_rules found
  exact ⟨_, bind_eq_ok_iff.mpr ⟨rules, looked, rfl⟩⟩

/-- Running a scenario that is ready comes to resolving its attack, with the rules found. -/
theorem Scenario.IsReady.runScenario_eq {scenario : Scenario} {catalogue : Catalogue}
    (ready : scenario.IsReady catalogue) (settings : Settings) {σ : Type} [DiceSource σ]
    (traced : Bool) :
    ∃ attackerRules defenderRules,
      Engine.runScenario { settings, catalogue } scenario traced =
        (do
          modify fun table =>
            { table with trace := Engine.newTrace { settings, catalogue } traced }
          resolveAttack scenario.encounter attackerRules defenderRules :
            Roll σ AttackResult) := by
  obtain ⟨attackerRules, attacking⟩ := @Engine.exists_sideRules { settings, catalogue } _
    (fun id used => ready.finds id (List.mem_append_left _ used)) scenario.encounter.weapon
  obtain ⟨defenderRules, defending⟩ := @Engine.exists_sideRules { settings, catalogue } _
    (fun id used => ready.finds id (List.mem_append_right _ used)) scenario.encounter.weapon
  refine ⟨attackerRules, defenderRules, ?_⟩
  rw [Engine.runScenario, Engine.resolveAttack, attacking, defending]
  rfl

/-! ## Agreement -/

/-- Inspecting a content folder and loading it agree. -/
theorem inspectFolder_agrees_with_load (documents : List Document) (base : Path)
    (warnUnused : Bool)
    (concluded : (inspectFolder documents base warnUnused).outcome = .ok ()) :
    ((∃ catalogue, Catalogue.load documents base = .ok catalogue) ↔
      ∀ finding ∈ (inspectFolder documents base warnUnused).findings,
        finding.sort ≠ .misfit ∧ finding.sort ≠ .repetition) ∧
    (isClean (inspectFolder documents base warnUnused).findings = true →
      ∃ catalogue, Catalogue.load documents base = .ok catalogue ∧
        ∀ scenario ∈ catalogue.scenarios, scenario.IsReady catalogue ∧
          ∀ (settings : Settings) (σ : Type) [DiceSource σ] (traced : Bool),
            ∃ attackerRules defenderRules,
              Engine.runScenario { settings, catalogue } scenario traced =
                (do
                  modify fun table =>
                    { table with trace := Engine.newTrace { settings, catalogue } traced }
                  resolveAttack scenario.encounter attackerRules defenderRules :
                    Roll σ AttackResult)) := by
  obtain ⟨survey, found⟩ := exists_survey (concludes_of_outcome concluded)
  rw [← found]
  have loads : (∃ catalogue, Catalogue.load documents base = .ok catalogue) ↔
      AllowsLoading survey.findings := by
    constructor
    · rintro ⟨catalogue, loaded⟩
      exact (survey.load_eq_ok_iff.mp loaded).1
    · intro allows
      exact ⟨⟨_, _, _⟩, survey.load_eq_ok_iff.mpr ⟨allows, rfl, rfl, rfl⟩⟩
  refine ⟨loads, fun clean => ?_⟩
  have idle : ∀ finding ∈ survey.findings, finding.sort = .idle := by
    simpa [isClean, Finding.isError_eq_false_iff] using clean
  obtain ⟨catalogue, loaded⟩ := loads.mpr (allowsLoading_of_sort .idle (by decide) idle)
  refine ⟨catalogue, loaded, fun scenario listed => ?_⟩
  have ready := survey.isReady clean loaded listed
  exact ⟨ready, fun settings σ _ traced => ready.runScenario_eq settings traced⟩

/-! ## A raid -/

/-- A rule with the id to which the raid refers. -/
def ambush : Value :=
  .object [("id", .text "ambush"), ("kind", .text "reminder"), ("name", .text "Ambush")]

/-- A content folder with a file of rules and with a scenario that refers to one rule. -/
def raidWith (rules : List Value) : List Document :=
  [⟨⟨["content", "rules", "ambush.json"]⟩, .ok (.list rules)⟩,
    ⟨⟨["content", "scenarios", "dawn-raid.json"]⟩, .ok <| .object
      [("id", .text "dawn-raid"),
        ("attacker", .object [("id", .text "raiders"), ("army_id", .text "north")]),
        ("defender", .object [("id", .text "sentries"), ("army_id", .text "south")]),
        ("weapon", .object [("name", .text "Bow"), ("A", .text "2d6"), ("D", .text "d3+1")]),
        ("attacker_rules", .list [.text "ambush"])]⟩]

/-- With its rule the raid is ready.  When the rule is written twice the inspection goes to
its end as well, but nothing is loaded. -/
theorem raidWith_ambush_is_ready :
    ((inspectFolder (raidWith [ambush]) ⟨["content"]⟩ true).outcome = .ok () ∧
      ∃ catalogue, Catalogue.load (raidWith [ambush]) ⟨["content"]⟩ = .ok catalogue ∧
        catalogue.scenarios.map (·.id) = ["dawn-raid"] ∧
        ∀ scenario ∈ catalogue.scenarios, scenario.IsReady catalogue) ∧
    (inspectFolder (raidWith [ambush, ambush]) ⟨["content"]⟩ true).outcome = .ok () ∧
      ¬ ∃ catalogue, Catalogue.load (raidWith [ambush, ambush]) ⟨["content"]⟩ = .ok catalogue := by
  have concluded : (inspectFolder (raidWith [ambush]) ⟨["content"]⟩ true).outcome = .ok () := by
    decide +kernel
  have concludedTwice :
      (inspectFolder (raidWith [ambush, ambush]) ⟨["content"]⟩ true).outcome = .ok () := by
    decide +kernel
  refine ⟨⟨concluded, ?_⟩, concludedTwice, fun loads => ?_⟩
  · obtain ⟨catalogue, loaded, ready⟩ :=
      (inspectFolder_agrees_with_load _ _ _ concluded).2 (by decide +kernel)
    have shown : (Catalogue.load (raidWith [ambush]) ⟨["content"]⟩).toOption.map
        (·.scenarios.map (·.id)) = some ["dawn-raid"] := by
      decide +kernel
    rw [loaded] at shown
    exact ⟨catalogue, loaded, Option.some.inj shown, fun scenario listed =>
      (ready scenario listed).1⟩
  · have allows := (inspectFolder_agrees_with_load _ _ _ concludedTwice).1.mp loads
    have repeated : (inspectFolder (raidWith [ambush, ambush]) ⟨["content"]⟩ true).findings.any
        (·.sort == .repetition) = true := by
      decide +kernel
    obtain ⟨finding, listed, repetition⟩ := List.any_eq_true.mp repeated
    exact (allows finding listed).2 (beq_iff_eq.mp repetition)

end Skirmish
