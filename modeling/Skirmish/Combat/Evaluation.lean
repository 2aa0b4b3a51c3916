import Skirmish.Combat.Judgement
import Skirmish.Rulebook.Rule

/-!
# Evaluating rules

The rules of one side are evaluated in order on the side's board.  An effect
writes only in the view of the side that it helps, only for the units it applies
to, and only while its own conditions hold; a gate that stays shut is told in
the trace.  Whatever was written before a fault stays written.
-/

namespace Skirmish

/-- A calculation on a board that may stop. -/
abbrev Evaluation := ExceptT Fault (StateM Board)

namespace Evaluation

def note (tag message : String) : Evaluation Unit :=
  modify (·.note tag message)

/-- Whether a condition holds now; unknown nodes are noted. -/
def holds (view : View) (condition : Condition) : Evaluation Bool := do
  let verdict := condition.judge view (← get)
  modify (·.noteUnknown verdict.unknownKinds)
  (verdict.outcome : Except Fault Bool)

end Evaluation

/-! ## Gates -/

/-- The role in whose view alone an effect may write. -/
def Intent.role? : Intent → Option Role
  | .offensive => some .attacker
  | .defensive => some .defender
  | .neutral => none

def Intent.name : Intent → String
  | .offensive => "offensive"
  | .defensive => "defensive"
  | .neutral => "neutral"

/-- Why an effect of a given intent is skipped in a view, if it is. -/
def Intent.obstacle? (intent : Intent) (role : Role) : Option String :=
  match intent.role? with
  | some required =>
    if role = required then none
    else some s!"{intent.name} effect skipped in {Vocabulary.word role} view"
  | none => none

/-- Why an effect does not apply to a unit, if it does not.  The limit is given by
its word, and a word outside the rulebook is no limit. -/
def limitObstacle? (limit : String) (unit : BattleUnit) : Option String :=
  if limit = Vocabulary.word AppliesTo.leader ∧ !unit.leader then
    some "appliesTo=leader but unit is not a leader"
  else if limit = Vocabulary.word AppliesTo.bodyguard ∧ unit.leader then
    some "appliesTo=bodyguard but unit is a leader"
  else
    none

/-- The obstacle of an effect one of whose conditions does not hold. -/
def conditionObstacle : String := "nested condition not met"

namespace Effect

def intent : Effect → Intent
  | .known action .. => action.intent
  | .unknown .. => .neutral

/-- The word for the units that the effect applies to.  An unknown effect may
carry one, too. -/
def limitWord : Effect → String
  | .known _ appliesTo _ => Vocabulary.word appliesTo
  | .unknown _ extras =>
    match extras.get? "appliesTo" with
    | some (.text word) => word
    | _ => Vocabulary.word AppliesTo.all

/-- The obstacle that the effect's own conditions make.  Those of an unknown
effect have no schema, so the first part of them counts as a condition of unknown
kind. -/
def conditionsObstacle? (view : View) : Effect → Evaluation (Option String)
  | .known _ _ conditions => do
    let verdict := Condition.judgeAll view (← get) conditions
    modify (·.noteUnknown verdict.unknownKinds)
    let met ← (verdict.outcome : Except Fault Bool)
    return if met then none else some conditionObstacle
  | .unknown _ extras =>
    match rawConditions extras with
    | .absent => return none
    | .present => do
      modify (·.noteUnknown ["None"])
      return some conditionObstacle
    | .notIterable => throw .notIterable

/-- Why the effect must not write, if it must not. -/
def obstacle? (view : View) (effect : Effect) : Evaluation (Option String) := do
  match effect.intent.obstacle? view.role with
  | some reason => return some reason
  | none =>
    match limitObstacle? effect.limitWord view.ownUnit with
    | some reason => return some reason
    | none => effect.conditionsObstacle? view

end Effect

/-! ## Effects -/

/-- An adjustment as an action writes it, without its source. -/
structure Entry where
  stat : String
  value : Int
  operation : Operation := .add
  deriving DecidableEq, Repr

namespace Action

def entry : Action → Entry
  | .modHit add | .modHitAgainst add => { stat := "hit", value := add }
  | .modWound add | .modWoundAgainst add => { stat := "wound", value := add }
  | .modWeaponStat stat add => { stat := Vocabulary.word stat, value := add }
  | .modDefensiveStat stat add => { stat := Vocabulary.word stat, value := add }
  | .setDefensiveStat stat n => ⟨Vocabulary.word stat, n, .set⟩
  | .modMove add => { stat := "M", value := add }
  | .addWeaponAbility ability => ⟨(Ability.weapon ability).stat, 1, .set⟩
  | .addUnitAbility ability => ⟨(Ability.unit ability).stat, 1, .set⟩
  | .addKeyword keyword value => ⟨"keyword:" ++ keyword, value, .set⟩
  | .setInvulnerable n => ⟨"INV", n, .set⟩
  | .setFeelNoPain n => ⟨"FNP", n, .set⟩
  | .setCriticalHit n => ⟨"critHit", n, .set⟩
  | .setCriticalWound n => ⟨"critWound", n, .set⟩
  | .reroll phase kind => ⟨Ledger.rerollStat (Vocabulary.word phase) kind, 1, .set⟩

def granted? : Action → Option Ability
  | .addWeaponAbility ability => some (.weapon ability)
  | .addUnitAbility ability => some (.unit ability)
  | _ => none

def modifier (action : Action) (source : String) : Modifier :=
  { source
    stat := action.entry.stat
    value := .int action.entry.value
    operation := action.entry.operation }

def addedOn (action : Action) (source : String) (board : Board) : Board :=
  { board with ledger := board.ledger.add (action.modifier source) }

/-- The board after the modifier that the action added is told. -/
def toldOn (action : Action) (view : View) (source : String) (board : Board) : Board :=
  let entry := action.entry
  let operation := Vocabulary.word entry.operation
  let granting := { board with granted := board.granted ++ action.granted?.toList }
  granting.note "Fx"
    s!"{source}: {entry.stat} {operation} {entry.value} ({Vocabulary.word view.role})"

def writtenOn (action : Action) (view : View) (source : String) (board : Board) : Board :=
  action.toldOn view source (action.addedOn source board)

/-- Write the action's modifier, which has to be a valid one.  A value that has too many
digits to be told stays in the ledger. -/
def write (action : Action) (view : View) (source : String) : Evaluation Unit :=
  match (Modifier.checked (.accepted (action.modifier source))).orFault with
  | .error fault => throw fault
  | .ok _ => do
    modify (action.addedOn source)
    (writable [action.entry.value] : Except Fault Unit)
    modify (action.toldOn view source)

end Action

/-- Apply an effect; the result tells whether it wrote. -/
def Effect.apply (effect : Effect) (view : View) (source : String) : Evaluation Bool := do
  match ← effect.obstacle? view with
  | some reason =>
    Evaluation.note "Fx" s!"{source}: {effect.kind} {reason}"
    return false
  | none =>
    match effect with
    | .known action _ _ =>
      action.write view source
      return true
    | .unknown kind _ =>
      Evaluation.note "Fx" s!"{source}: unknown effect kind '{kind}'; ignored"
      return false

/-! ## Blocks -/

def applyEffects (view : View) (source : String) : List Effect → Evaluation Unit
  | [] => return
  | effect :: rest => do
    let _ ← effect.apply view source
    applyEffects view source rest

mutual

def Block.evaluate (view : View) (source : String) : Block → Evaluation Unit
  | .perform effects => applyEffects view source effects
  | .guarded condition blocks => do
    if ← Evaluation.holds view condition then
      evaluateAll view source blocks
    else
      Evaluation.note "Fx" s!"{source}: if-block condition not met"

def Block.evaluateAll (view : View) (source : String) : List Block → Evaluation Unit
  | [] => return
  | block :: rest => do
    evaluate view source block
    evaluateAll view source rest

end

/-! ## Rules -/

inductive RuleStatus where
  | notApplicable
  | passiveApplied
  | choicePending
  | choiceApplied
  | reminderApplicable
  deriving DecidableEq, Repr

instance : Vocabulary RuleStatus where
  all := [.notApplicable, .passiveApplied, .choicePending, .choiceApplied,
    .reminderApplicable]
  word
    | .notApplicable => "not-applicable"
    | .passiveApplied => "passive-applied"
    | .choicePending => "choice-pending"
    | .choiceApplied => "choice-applied"
    | .reminderApplicable => "reminder-applicable"

/-- A rule with what became of it, and the value chosen when it offers a
choice. -/
structure Resolution where
  rule : Rule
  status : RuleStatus
  chosenValue : Option String := none

namespace Resolution

/-- The rule took effect, or reminds its player. -/
def isApplied (resolution : Resolution) : Bool :=
  match resolution.status with
  | .passiveApplied | .choiceApplied | .reminderApplicable => true
  | .notApplicable | .choicePending => false

def isPending (resolution : Resolution) : Bool :=
  resolution.status == .choicePending

def applied (resolutions : List Resolution) : List Rule :=
  (resolutions.filter isApplied).map (·.rule)

def pending (resolutions : List Resolution) : List Rule :=
  (resolutions.filter isPending).map (·.rule)

end Resolution

namespace Rule

/-- The value chosen for a rule's choice.  For a choice of the whole army a
recorded answer comes first; an empty input counts as none. -/
def chosenValue? (rule : Rule) (choice : Choice) (view : View) : Option String :=
  let input := (view.circumstances.input? choice.id).filter (!·.isEmpty)
  if rule.scope = .army then
    (ArmyState.findAnswer? view.armyStates choice.id).or input
  else
    input

def evaluateChoice (rule : Rule) (choice : Choice) (view : View) :
    Evaluation Resolution := do
  let value := rule.chosenValue? choice view
  match value.bind choice.optionFor? with
  | some option =>
    Block.evaluateAll view rule.id option.blocks
    Evaluation.note "Rule" (s!"{rule.id}: choice '{choice.id}' = {option.value} applied " ++
      s!"({Vocabulary.word view.role})")
    return ⟨rule, .choiceApplied, some option.value⟩
  | none =>
    match value with
    | some value =>
      Evaluation.note "Rule" s!"{rule.id}: value '{value}' matches no option of '{choice.id}'"
    | none => Evaluation.note "Rule" s!"{rule.id}: awaiting choice '{choice.id}'"
    return ⟨rule, .choicePending, value⟩

def evaluate (rule : Rule) (view : View) : Evaluation Resolution := do
  if ← Evaluation.holds view rule.condition then
    match rule.body with
    | .reminder =>
      Evaluation.note "Rule" s!"{rule.id}: reminder applicable"
      return { rule, status := .reminderApplicable }
    | .passive blocks =>
      Block.evaluateAll view rule.id blocks
      Evaluation.note "Rule" s!"{rule.id}: passive applied ({Vocabulary.word view.role})"
      return { rule, status := .passiveApplied }
    | .choice choice => rule.evaluateChoice choice view
  else
    Evaluation.note "Rule" s!"{rule.id}: condition not met ({Vocabulary.word view.role})"
    return { rule, status := .notApplicable }

def evaluateAll (view : View) : List Rule → Evaluation (List Resolution)
  | [] => return []
  | rule :: rest => do
    let resolution ← rule.evaluate view
    return resolution :: (← evaluateAll view rest)

end Rule

/-! ## Granted keywords -/

/-- The ability as a player reads it.  Its number has to be one that can be written. -/
def Ability.shown (ability : Ability) : Except Fault String :=
  (writable ability.number?.toList).map fun _ => ability.display

/-- A keyword as a player reads it, with its amount if it is above zero.  Such an amount
must not be too large for a floating number. -/
def Modifier.shownKeyword (name : String) (entry : Modifier) : Except Fault String :=
  if entry.value.isPositive then
    match entry.value.toFloat? with
    | some amount => .ok s!"{name} {amount.amountText}"
    | none => .error .tooLarge
  else
    .ok name

/-- What a player reads about one stat of the board: each keyword with its amount
if it has one, and each granted ability. -/
def Board.displayStat (board : Board) (stat : String) : Except Fault (List String) :=
  match PrintedKeyword.after? "keyword:" stat.toList with
  | some name => (board.ledger.entriesFor stat).mapM (Modifier.shownKeyword (String.ofList name))
  | none =>
    let key? :=
      (PrintedKeyword.after? "weaponAbility:" stat.toList).or
        (PrintedKeyword.after? "unitAbility:" stat.toList)
    match key? with
    | none => .ok []
    | some key =>
      if !board.ledger.has stat then
        .ok []
      else
        match board.grantedUnder stat with
        | [] => .ok [spacedWords (String.ofList key)]
        | abilities => abilities.mapM Ability.shown

/-- What a player reads about all that was granted, unless something of it cannot be
shown. -/
def Board.displayGranted (board : Board) : Except Fault (List String) :=
  (board.ledger.stats.mapM board.displayStat).map List.flatten

def Board.displayGranted? (board : Board) : Option (List String) :=
  board.displayGranted.toOption

end Skirmish
