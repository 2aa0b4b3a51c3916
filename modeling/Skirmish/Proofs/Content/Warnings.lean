import Skirmish.Proofs.Combat.Reports
import Skirmish.Proofs.Content.Idle

/-!
# Warnings about idle parts

Whatever a rule reports as unknown when it is evaluated, in whatever view and on whatever
board, an inspection of the content that holds the rule has warned of.
-/

namespace Skirmish

open Inspection

variable {documents : List Document} {base : Path} {warnUnused : Bool}

/-- An inspection that is not stopped has looked for idle parts in all rules. -/
theorem concludes_inspectFolder {findings : List Finding}
    (concluded : (inspectFolder documents base warnUnused).Concludes findings ()) :
    ∃ rules scenarios among idle,
      (inspectKind Rule documents base).Concludes among rules ∧
      (inspectRules (recordedStates rules scenarios) rules).Concludes idle () ∧
      idle ⊆ findings := by
  obtain ⟨among, rules, _, inspectedRules, afterRules, rfl⟩ := concludes_bind_iff.mp concluded
  obtain ⟨_, _, _, -, afterStratagems, rfl⟩ := concludes_bind_iff.mp afterRules
  obtain ⟨_, scenarios, _, -, afterScenarios, rfl⟩ := concludes_bind_iff.mp afterStratagems
  obtain ⟨_, _, _, -, afterRepeated, rfl⟩ := concludes_bind_iff.mp afterScenarios
  obtain ⟨_, _, _, -, afterMissing, rfl⟩ := concludes_bind_iff.mp afterRepeated
  obtain ⟨idle, _, _, lookedForIdle, -, rfl⟩ := concludes_bind_iff.mp afterMissing
  refine ⟨rules, scenarios, among, idle, inspectedRules, lookedForIdle, fun finding member => ?_⟩
  simp [member]

theorem mem_documentsInside {document : Document} {folder : Path} :
    document ∈ documentsInside documents folder ↔
      document ∈ documents ∧ document.path.isInside folder = true := by
  rw [documentsInside, List.mem_mergeSort, List.mem_filter]

/-- The warning about a condition of unknown kind. -/
def unknownConditionWarning (file : Path) (rule kind : String) : String :=
  "[WARN] " ++ s!"{file.text}: rule '{rule}' has unknown condition kind '{kind}' (always false)"

/-- The warning about an effect of unknown kind. -/
def unknownEffectWarning (file : Path) (rule kind : String) : String :=
  "[WARN] " ++ s!"{file.text}: rule '{rule}' has unknown effect kind '{kind}' (ignored)"

theorem line_unknownCondition (file : Path) (rule kind : String) :
    (Finding.unknownCondition file rule kind).line = unknownConditionWarning file rule kind :=
  rfl

theorem line_unknownEffect (file : Path) (rule kind : String) :
    (Finding.unknownEffect file rule kind).line = unknownEffectWarning file rule kind :=
  rfl

/-- Let an inspection of a folder not be stopped.  What a rule in the folder reports as
unknown when it is evaluated, the inspection warns of under the name of the rule and of its
file. -/
theorem inspectFolder_warns_of_reports
    (concluded : (inspectFolder documents base warnUnused).outcome = .ok ())
    {document : Document} (listed : document ∈ documents)
    (inside : document.path.isInside (Catalogue.folderOf Rule base) = true)
    {content : Value} (read : document.content = .ok content) {value : Value}
    (held : value ∈ RecordKind.rule.recordsOf content) {rule : Rule}
    (accepted : Rule.read value = .accepted rule) (view : View) (board : Board) :
    ∃ lines,
      (outcomeOf (rule.evaluate view) board).2.trace = board.trace.map (· ++ lines) ∧
      ∀ kind,
        (unknownConditionLine kind ∈ lines →
          unknownConditionWarning document.path rule.id kind ∈
            (inspectFolder documents base warnUnused).findings.map Finding.line) ∧
        (unknownEffectLine rule.id kind ∈ lines →
          unknownEffectWarning document.path rule.id kind ∈
            (inspectFolder documents base warnUnused).findings.map Finding.line) := by
  obtain ⟨rules, scenarios, among, idle, inspected, lookedForIdle, subset⟩ :=
    concludes_inspectFolder (concludes_of_outcome concluded)
  have located : ⟨document.path, rule⟩ ∈ rules :=
    mem_of_document inspected (mem_documentsInside.mpr ⟨listed, inside⟩) read held accepted
  obtain ⟨plain, conditions, effects⟩ :=
    (reported_of_inspectRules lookedForIdle _ located).mono subset
  have notes : Moves (Board.Notes rule.Accounts) (rule.evaluate view) := Rule.notes_evaluate plain
  obtain ⟨lines, traced, accounts⟩ := notes board
  refine ⟨lines, traced, fun kind => ⟨fun reported => ?_, fun reported => ?_⟩⟩
  · have found := conditions kind ((accounts _ reported).condition kind rfl)
    rw [← line_unknownCondition]
    exact List.mem_map_of_mem found
  · have found := effects kind ((accounts _ reported).effect kind rfl)
    rw [← line_unknownEffect]
    exact List.mem_map_of_mem found

/-- A rule with a condition of unknown kind on an effect and with an effect of unknown kind,
both in a block behind another condition of unknown kind. -/
def Rule.ambushers : Rule where
  id := "ambushers"
  name := "Ambushers"
  body := .passive [.guarded (.not (.unknown "dawn" []))
    [.perform [.known (.modHit 1) .all [.unknown "fog" []], .unknown "vanish" []]]]

def hideoutFile : Path := ⟨["content", "rules", "ambush.json"]⟩

/-- A content folder with a file that holds only the rule of the ambushers. -/
def hideout : List Document :=
  [⟨hideoutFile, .ok Rule.ambushers.dump⟩]

def ambushView : View where
  attacker := { id := "raiders", armyId := "north" }
  defender := { id := "sentries", armyId := "south" }
  weapon := { name := "Bow" }
  game := {}
  circumstances := {}
  role := .attacker
  armyStates := []

/-- The evaluation reports all three kinds, and the inspection warns of them. -/
theorem hideout_is_warned_of :
    let inspection := inspectFolder hideout ⟨["content"]⟩ false
    inspection.outcome = .ok () ∧ Rule.read Rule.ambushers.dump = .accepted .ambushers ∧
    ∃ lines,
      (outcomeOf (Rule.ambushers.evaluate ambushView) { trace := some [] }).2.trace =
        some lines ∧
      (unknownConditionLine "dawn" ∈ lines ∧ unknownConditionLine "fog" ∈ lines ∧
        unknownEffectLine "ambushers" "vanish" ∈ lines) ∧
      unknownConditionWarning hideoutFile "ambushers" "dawn" ∈
        inspection.findings.map Finding.line ∧
      unknownConditionWarning hideoutFile "ambushers" "fog" ∈
        inspection.findings.map Finding.line ∧
      unknownEffectWarning hideoutFile "ambushers" "vanish" ∈
        inspection.findings.map Finding.line := by
  have concluded : (inspectFolder hideout ⟨["content"]⟩ false).outcome = .ok () := by
    decide +kernel
  have accepted : Rule.read Rule.ambushers.dump = .accepted .ambushers := rfl
  obtain ⟨lines, traced, warned⟩ := inspectFolder_warns_of_reports concluded
    (List.mem_singleton.mpr rfl) (by decide +kernel) rfl (List.mem_singleton.mpr rfl) accepted
    ambushView { trace := some [] }
  have shown :
      (outcomeOf (Rule.ambushers.evaluate ambushView) { trace := some [] }).2.trace.map
        (fun lines => (lines.contains (unknownConditionLine "dawn"),
          lines.contains (unknownConditionLine "fog"),
          lines.contains (unknownEffectLine "ambushers" "vanish"))) =
        some (true, true, true) := by
    decide +kernel
  have reported : unknownConditionLine "dawn" ∈ lines ∧ unknownConditionLine "fog" ∈ lines ∧
      unknownEffectLine "ambushers" "vanish" ∈ lines := by
    rw [traced] at shown
    simpa using shown
  exact ⟨concluded, accepted, lines, traced, reported, (warned "dawn").1 reported.1,
    (warned "fog").1 reported.2.1, (warned "vanish").2 reported.2.2⟩

end Skirmish
