import Skirmish.Content.Finding
import Skirmish.Dice.Expression

/-!
# Inspecting content

An inspection reads every record of a content folder and goes on after those that
do not fit.  It reports misfits and malformed dice document by document, then
repeated ids, references to missing rules, and what can have no effect.  A
document that cannot be read stops it, and so does one with malformed dice that
cannot be shown; what was found before is kept.
-/

namespace Skirmish

/-- The outcome of an inspection that may be stopped, with its findings. -/
structure Inspection (α : Type) where
  findings : List Finding
  outcome : Except Fault α

namespace Inspection

instance : Monad Inspection where
  pure value := ⟨[], .ok value⟩
  bind first next :=
    match first.outcome with
    | .ok value => ⟨first.findings ++ (next value).findings, (next value).outcome⟩
    | .error fault => ⟨first.findings, .error fault⟩

def report (findings : List Finding) : Inspection Unit :=
  ⟨findings, .ok ()⟩

/-- A calculation that finds nothing and may stop. -/
def attempt {α : Type} (outcome : Except Fault α) : Inspection α :=
  ⟨[], outcome⟩

end Inspection

/-! ## Dice in weapons -/

/-- The characteristics of a weapon that are dice expressions. -/
def diceFields : List String := ["A", "D"]

/-- A dice expression with a one in the place of every dice letter, without
spaces. -/
def diceProbe (text : String) : List Char :=
  (text.toList.filter (· != ' ')).map fun c => if isDiceLetter c then '1' else c

/-- What is wrong with the value of a dice field, if anything is. -/
def diceFinding? (file : Path) (field : String) : Value → Option Finding
  | .int _ | .bool _ => none
  | .text s =>
    if isDiceText s then
      (DiceExpression.foreignDigitAt? (diceProbe s)).map fun column =>
        .foreignDigit file field column (String.ofList (diceProbe s))
    else
      some (.malformedDice file field (.text s))
  | value => some (.malformedDice file field value)

def endsWith (ending text : String) : Bool :=
  ending.toList.reverse.isPrefixOf text.toList.reverse

/-- The place of a field within another place. -/
def fieldPlace (place field : String) : String :=
  if place.isEmpty then field else s!"{place}.{field}"

mutual

/-- The values in the dice fields of every weapon within a value, each with its
place.  Whatever lies at a place that ends with `weapon` counts as one. -/
def diceValues (place : String) : Value → List (String × Value)
  | .object fields => diceValuesOfFields place fields
  | .list items => diceValuesOfItems place 0 items
  | _ => []

def diceValuesOfFields (place : String) :
    List (String × Value) → List (String × Value)
  | [] => []
  | (name, value) :: rest =>
    let field := fieldPlace place name
    let own :=
      if diceFields.contains name && endsWith "weapon" place then [(field, value)] else []
    own ++ diceValues field value ++ diceValuesOfFields place rest

def diceValuesOfItems (place : String) (index : Nat) :
    List Value → List (String × Value)
  | [] => []
  | item :: rest =>
    diceValues s!"{place}[{index}]" item ++ diceValuesOfItems place (index + 1) rest

end

def diceFindings (file : Path) (place : String) (value : Value) : List Finding :=
  (diceValues place value).filterMap fun (field, dice) => diceFinding? file field dice

/-! ## Records -/

/-- A record together with the file that holds it. -/
structure Located (α : Type) where
  file : Path
  record : α

section Records

variable (α : Type) [Catalogued α]

/-- Read values as records of a file, from a place on; misfits are reported. -/
def inspectValues (file : Path) (place : Nat) : List Value → Inspection (List (Located α))
  | [] => return []
  | value :: rest => do
    match (Catalogued.read value : Schema.Checked α) with
    | .accepted record =>
      return ⟨file, record⟩ :: (← inspectValues file (place + 1) rest)
    | .rejected violations =>
      Inspection.report [.misfit file place violations]
      inspectValues file (place + 1) rest
    | .stopped obstacle => Inspection.attempt (.error obstacle.fault)

/-- Inspect a document whose content counts as lying at `place`. -/
def inspectDocument (place : String) (document : Document) :
    Inspection (List (Located α)) := do
  let content ← Inspection.attempt document.content
  let records ←
    inspectValues α document.path 0 ((Catalogued.kind α).recordsOf content)
  let findings := diceFindings document.path place content
  Inspection.attempt (writable (findings.flatMap Finding.numbers))
  Inspection.report findings
  return records

def inspectDocuments (place : String) : List Document → Inspection (List (Located α))
  | [] => return []
  | document :: rest => do
    let records ← inspectDocument α place document
    return records ++ (← inspectDocuments place rest)

def inspectKind (documents : List Document) (base : Path) :
    Inspection (List (Located α)) :=
  inspectDocuments α (Catalogued.kind α).folder
    (documentsInside documents (Catalogue.folderOf α base))

variable {α}

/-- The records with an id that an earlier one has; `seen` holds the first ones. -/
def repeatedIds (seen : List (Located α)) : List (Located α) → List Finding
  | [] => []
  | located :: rest =>
    let id := Catalogued.id located.record
    match seen.find? fun earlier => Catalogued.id earlier.record == id with
    | some first =>
      .repeatedId (Catalogued.kind α) id located.file first.file :: repeatedIds seen rest
    | none => repeatedIds (seen ++ [located]) rest

end Records

/-! ## References -/

def Scenario.ruleIds (scenario : Scenario) : List String :=
  scenario.attackerRules ++ scenario.defenderRules

def sortedOnce (texts : List String) : List String :=
  texts.eraseDups.mergeSort Text.atMost

/-- The paths of the scenarios that refer to a rule. -/
def filesUsing (scenarios : List (Located Scenario)) (id : String) : List String :=
  sortedOnce <| (scenarios.filter (·.record.ruleIds.contains id)).map (·.file.text)

def usedRules (scenarios : List (Located Scenario)) : List String :=
  sortedOnce (scenarios.flatMap (·.record.ruleIds))

def missingRules (rules : List (Located Rule)) (scenarios : List (Located Scenario)) :
    List Finding :=
  ((usedRules scenarios).filter fun id => !rules.any (·.record.id == id)).map fun id =>
    .missingRule id (filesUsing scenarios id)

def unusedRules (rules : List (Located Rule)) (scenarios : List (Located Scenario)) :
    List Finding :=
  ((sortedOnce (rules.map (·.record.id))).filter fun id =>
    !(usedRules scenarios).contains id).map .unusedRule

/-! ## Parts without effect -/

def recordedStates (rules : List (Located Rule)) (scenarios : List (Located Scenario)) :
    List String :=
  rules.filterMap (fun located => located.record.choice?.map (·.id)) ++
    scenarios.flatMap fun located => located.record.armyStates.map (·.state)

/-- The condition nodes of an effect.  Those of an unknown effect have no schema:
they are met as `none`, unless what stands there has no parts at all. -/
def Effect.conditionNodes : Effect → Except Fault (List (Option Condition))
  | .known _ _ conditions => .ok ((Condition.nodesOfParts conditions).map some)
  | .unknown _ extras =>
    match Effect.rawConditions extras with
    | .absent => .ok []
    | .present => .ok [none]
    | .notIterable => .error .notIterable

def Effect.conditionNodesOfAll : List Effect → Except Fault (List (Option Condition))
  | [] => .ok []
  | effect :: rest => do
    return (← effect.conditionNodes) ++ (← conditionNodesOfAll rest)

mutual

/-- The condition nodes of a block at any depth, in order. -/
def Block.conditionNodes : Block → Except Fault (List (Option Condition))
  | .perform effects => Effect.conditionNodesOfAll effects
  | .guarded condition blocks => do
    return condition.nodes.map some ++ (← conditionNodesOfAll blocks)

def Block.conditionNodesOfAll : List Block → Except Fault (List (Option Condition))
  | [] => .ok []
  | block :: rest => do
    return (← block.conditionNodes) ++ (← conditionNodesOfAll rest)

end

/-- Report what is idle in a condition node of a rule. -/
def inspectNode (file : Path) (rule : String) (recorded : List String) :
    Option Condition → Inspection Unit
  | some (.unknown kind _) => Inspection.report [.unknownCondition file rule kind]
  | some (.armyState names) =>
    Inspection.report <| (names.filter (!recorded.contains ·)).map (.unrecordedState file rule)
  | some _ => return
  | none => Inspection.attempt (.error .rawCondition)

def inspectNodes (file : Path) (rule : String) (recorded : List String) :
    List (Option Condition) → Inspection Unit
  | [] => return
  | node :: rest => do
    inspectNode file rule recorded node
    inspectNodes file rule recorded rest

def unknownEffects (file : Path) (rule : Rule) : List Finding :=
  (Block.effectsOfAll rule.blocks).filterMap fun effect =>
    match effect with
    | .unknown kind _ => some (.unknownEffect file rule.id kind)
    | .known .. => none

/-- Report what is idle in a rule: its conditions first, then its effects. -/
def inspectRule (recorded : List String) (located : Located Rule) : Inspection Unit := do
  let rule := located.record
  let nodes ← Inspection.attempt (Block.conditionNodesOfAll rule.blocks)
  inspectNodes located.file rule.id recorded (rule.condition.nodes.map some ++ nodes)
  Inspection.report (unknownEffects located.file rule)

def inspectRules (recorded : List String) : List (Located Rule) → Inspection Unit
  | [] => return
  | located :: rest => do
    inspectRule recorded located
    inspectRules recorded rest

/-! ## The whole folder -/

/-- Inspect the content folder `base`; with `warnUnused`, rules that no scenario
refers to are reported as well. -/
def inspectFolder (documents : List Document) (base : Path) (warnUnused : Bool) :
    Inspection Unit := do
  let rules ← inspectKind Rule documents base
  let stratagems ← inspectKind Stratagem documents base
  let scenarios ← inspectKind Scenario documents base
  Inspection.report <|
    repeatedIds [] rules ++ repeatedIds [] stratagems ++ repeatedIds [] scenarios
  Inspection.report (missingRules rules scenarios)
  inspectRules (recordedStates rules scenarios) rules
  if warnUnused then
    Inspection.report (unusedRules rules scenarios)

def isClean (findings : List Finding) : Bool :=
  findings.all (!·.isError)

/-! ## Single files -/

/-- The kind of record in a file, by the folders on the way to it. -/
def Path.kind? (path : Path) : Option RecordKind :=
  RecordKind.all.find? fun kind => path.parts.contains kind.folder

/-- Inspect one document as records of a kind.  Its content counts as lying at
the name of its folder. -/
def inspectFile (document : Document) : RecordKind → Inspection Unit
  | .rule => discard (inspectDocument Rule document.path.parent.name document)
  | .stratagem => discard (inspectDocument Stratagem document.path.parent.name document)
  | .scenario => discard (inspectDocument Scenario document.path.parent.name document)

/-- Inspect the files under the given paths, in order.  Files that are no
documents or lie outside the folders of content are passed over. -/
def inspectFiles (folder : Folder) : List Path → Inspection Unit
  | [] => return
  | path :: rest => do
    if path.isDocument then
      match path.kind? with
      | some kind => inspectFile ⟨path, folder.content path⟩ kind
      | none => pure ()
    inspectFiles folder rest

end Skirmish
