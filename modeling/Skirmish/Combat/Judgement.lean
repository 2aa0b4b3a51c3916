import Skirmish.Combat.View

/-!
# Judging conditions

A condition is judged from one side's view and board.  Data that is missing
counts as "not satisfied", and a node of unknown kind is never satisfied.  The
parts of `all` and `any` are judged in order until the answer is known, and the
kinds of the unknown nodes met on the way are reported.  Only a leaf that asks for
an ability of the weapon may fail to have an answer: the keywords printed on the
weapon may not be legible.
-/

namespace Skirmish

/-- The answer to a condition, and the kinds of the unknown nodes met. -/
structure Verdict where
  outcome : Except Fault Bool
  unknownKinds : List String := []

/-- A verdict that is reached after another one. -/
def Verdict.after (later earlier : Verdict) : Verdict :=
  ⟨later.outcome, earlier.unknownKinds ++ later.unknownKinds⟩

def Circumstances.hasStatus (circumstances : Circumstances) : UnitStatus → Bool
  | .charged => circumstances.unitHasCharged
  | .moved => !circumstances.unitRemainedStationary
  | .stationary => circumstances.unitRemainedStationary
  | .withinHalfRange => circumstances.withinHalfRange

/-- The merged keywords include an ability, with at least its number.  Against a
category any threshold counts. -/
def Keywords.includes (keywords : Keywords) : WeaponAbility → Bool
  | .flag flag => keywords.hasAbility flag
  | .rapidFire x => x ≤ keywords.rapidFire
  | .sustainedHits x => x ≤ keywords.sustainedHits
  | .melta x => x ≤ keywords.melta
  | .anti keyword _ =>
    keywords.anti.any fun (own, _) => Text.lower own == Text.lower keyword

/-- The texts have one in common, in any case. -/
def shareText (first second : List String) : Bool :=
  first.any fun a => second.any fun b => Text.lower a == Text.lower b

def Ledger.grantedKeywords (ledger : Ledger) : List String :=
  ledger.stats.filterMap fun stat =>
    (PrintedKeyword.after? "keyword:" stat.toList).map String.ofList

/-- A printed keyword is `wanted`, or starts with it as with a whole word. -/
def startsWithKeyword (printed wanted : String) : Bool :=
  let printed := (Text.lower printed).toList
  let wanted := (Text.lower wanted).toList
  printed == wanted || (wanted ++ [' ']).isPrefixOf printed

/-- A leaf of a condition holds, whatever the weapon's keywords. -/
def Condition.leafHolds (view : View) (board : Board) : Condition → Bool
  | .always => true
  | .weaponType types => types.contains view.weapon.type
  | .weaponName names =>
    let own := Text.lower (String.ofList (Text.trim view.weapon.name.toList))
    names.any fun name => Text.lower name == own
  | .targetCategory categories => shareText categories view.defender.categories
  | .unitStatus statuses => statuses.any view.circumstances.hasStatus
  | .armyState names =>
    view.armyStates.any fun state =>
      state.armyId == view.ownUnit.armyId && names.contains state.state
  | .isLeading => view.ownUnit.leader || view.ownUnit.isLed
  | .beingLed => view.ownUnit.isLed
  | .isAttachedLeader => view.ownUnit.isAttachedLeader
  | .combatRole role => view.role == role
  | .isTargetedUnit =>
    view.armyStates.any fun state => state.targetUnitId == some view.opposingUnit.id
  | .attackHasKeyword keywords =>
    shareText keywords board.ledger.grantedKeywords ||
      view.weapon.keywords.any fun printed => keywords.any (startsWithKeyword printed)
  | .unitHasAbility ability =>
    board.ledger.has (Ability.unit ability).stat ||
      view.ownUnit.abilities.any fun own => own.key == ability.key
  | .userInput id answer => view.circumstances.input? id == some answer
  | _ => false

def Condition.judgeLeaf (view : View) (board : Board) : Condition → Except Fault Bool
  | .weaponHasAbility ability => (board.keywords view).map (·.includes ability)
  | leaf => .ok (leaf.leafHolds view board)

mutual

def Condition.judge (view : View) (board : Board) : Condition → Verdict
  | .all parts => judgeAll view board parts
  | .any parts => judgeAny view board parts
  | .not part =>
    let verdict := judge view board part
    { verdict with outcome := verdict.outcome.map (!·) }
  | .unknown kind _ => ⟨.ok false, [kind]⟩
  | leaf => { outcome := leaf.judgeLeaf view board }

/-- The verdict on conditions all of which must hold. -/
def Condition.judgeAll (view : View) (board : Board) : List Condition → Verdict
  | [] => { outcome := .ok true }
  | part :: rest =>
    let verdict := judge view board part
    match verdict.outcome with
    | .ok true => (judgeAll view board rest).after verdict
    | _ => verdict

/-- The verdict on conditions one of which must hold. -/
def Condition.judgeAny (view : View) (board : Board) : List Condition → Verdict
  | [] => { outcome := .ok false }
  | part :: rest =>
    let verdict := judge view board part
    match verdict.outcome with
    | .ok false => (judgeAny view board rest).after verdict
    | _ => verdict

end

/-- Report the kinds of unknown nodes in the trace. -/
def Board.noteUnknown (board : Board) (kinds : List String) : Board :=
  kinds.foldl (fun board kind =>
    board.note "When" s!"Unknown condition kind '{kind}'; treated as false") board

end Skirmish
