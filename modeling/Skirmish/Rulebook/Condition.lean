import Skirmish.Rulebook.Ability
import Skirmish.Rulebook.Phase

/-!
# Conditions

A condition is a tree whose leaves ask about one side's view of a combat.  The
rulebook may name kinds of condition that this engine does not know.  Such a
node keeps its fields as they are and is never satisfied.
-/

namespace Skirmish

/-- How a weapon is used. -/
inductive WeaponType where
  | melee
  | ranged
  deriving DecidableEq, Repr

instance : Vocabulary WeaponType where
  all := [.melee, .ranged]
  word
    | .melee => "melee"
    | .ranged => "ranged"

/-- What a unit did this turn, or where it stands. -/
inductive UnitStatus where
  | charged
  | moved
  | stationary
  | withinHalfRange
  deriving DecidableEq, Repr

instance : Vocabulary UnitStatus where
  all := [.charged, .moved, .stationary, .withinHalfRange]
  word
    | .charged => "charged"
    | .moved => "moved"
    | .stationary => "stationary"
    | .withinHalfRange => "withinHalfRange"

/-- A condition of a rule, of a block or of an effect. -/
inductive Condition where
  | always
  | never
  | all (parts : List Condition)
  | any (parts : List Condition)
  | not (part : Condition)
  | weaponType (types : List WeaponType)
  | weaponName (names : List String)
  | targetCategory (categories : List String)
  | unitStatus (statuses : List UnitStatus)
  | armyState (names : List String)
  | isLeading
  | beingLed
  | isAttachedLeader
  | combatRole (role : Role)
  | isTargetedUnit
  | attackHasKeyword (keywords : List String)
  | weaponHasAbility (ability : WeaponAbility)
  | unitHasAbility (ability : UnitAbility)
  | userInput (id answer : String)
  | unknown (kind : String) (extras : List (String × Value))
  deriving Repr

namespace Condition

def kind : Condition → String
  | .always => "true"
  | .never => "false"
  | .all _ => "all"
  | .any _ => "any"
  | .not _ => "not"
  | .weaponType _ => "weaponType"
  | .weaponName _ => "weaponName"
  | .targetCategory _ => "targetCategory"
  | .unitStatus _ => "unitStatus"
  | .armyState _ => "armyState"
  | .isLeading => "isLeading"
  | .beingLed => "beingLed"
  | .isAttachedLeader => "isAttachedLeader"
  | .combatRole _ => "combatRole"
  | .isTargetedUnit => "isTargetedUnit"
  | .attackHasKeyword _ => "attackHasKeyword"
  | .weaponHasAbility _ => "weaponHasAbility"
  | .unitHasAbility _ => "unitHasAbility"
  | .userInput .. => "userInput"
  | .unknown kind _ => kind

mutual

/-- The nodes of the tree, each before its parts. -/
def nodes : Condition → List Condition
  | .all parts => .all parts :: nodesOfParts parts
  | .any parts => .any parts :: nodesOfParts parts
  | .not part => .not part :: nodes part
  | leaf => [leaf]

def nodesOfParts : List Condition → List Condition
  | [] => []
  | part :: rest => nodes part ++ nodesOfParts rest

end

mutual

/-- The army states one of which must be live for the condition to hold, as far
as the tree shows it: those named by a leaf or by the parts of `all` and
`any`. -/
def requiredStates : Condition → List String
  | .armyState names => names
  | .all parts | .any parts => requiredStatesOfParts parts
  | _ => []

/-- The army states that several conditions name. -/
def requiredStatesOfParts : List Condition → List String
  | [] => []
  | part :: rest => requiredStates part ++ requiredStatesOfParts rest

end

/-! ## Reading and dumping -/

/-- What the value of one field is when it is read as a condition and when it is
read as a list of conditions. -/
structure PartReading where
  single : Schema.Checked Condition
  several : Schema.Checked (List Condition)

/-- The reading of a field that must be there. -/
def requiredPart {α : Type} (parts : List (String × PartReading)) (name : String)
    (choose : PartReading → Schema.Checked α) : Schema.Checked α :=
  match parts.lookup name with
  | some part => (choose part).under (.name name)
  | none => .rejected [⟨[.name name], .missing⟩]

def someParts (part : PartReading) : Schema.Checked (List Condition) :=
  part.several.ensure fun conditions => if conditions.isEmpty then some .tooShort else none

open Schema in
/-- The reader of one known kind.  Nested conditions are found among `parts`,
where every field has been read as a condition and as a list of them. -/
def shape? (kind : String) (fields : Fields) (parts : List (String × PartReading)) :
    Option (Checked Condition) :=
  match kind with
  | "true" => some (pure .always)
  | "false" => some (pure .never)
  | "all" => some (.all <$> requiredPart parts "xs" someParts)
  | "any" => some (.any <$> requiredPart parts "xs" someParts)
  | "not" => some (.not <$> requiredPart parts "x" (·.single))
  | "weaponType" => some (.weaponType <$> required fields "any" (listOfSome word))
  | "weaponName" => some (.weaponName <$> required fields "any" (listOfSome text))
  | "targetCategory" => some (.targetCategory <$> required fields "any" (listOfSome text))
  | "unitStatus" => some (.unitStatus <$> required fields "has" (listOfSome word))
  | "armyState" => some (.armyState <$> requiredIs fields (listOfSome text))
  | "isLeading" => some (pure .isLeading)
  | "beingLed" => some (pure .beingLed)
  | "isAttachedLeader" => some (pure .isAttachedLeader)
  | "combatRole" => some (.combatRole <$> requiredIs fields word)
  | "isTargetedUnit" => some (pure .isTargetedUnit)
  | "attackHasKeyword" =>
    some (.attackHasKeyword <$> required fields "any" (listOfSome text))
  | "weaponHasAbility" =>
    some (.weaponHasAbility <$> required fields "ability" WeaponAbility.read)
  | "unitHasAbility" => some (.unitHasAbility <$> required fields "ability" UnitAbility.read)
  | "userInput" => some (.userInput <$> required fields "id" text <*> requiredIs fields text)
  | _ => none

/-- The tag of a node that has no kind, or none that is known. -/
def unknownTag : String := "unknown"

/-- The rank of a kind among those made of parts. -/
def compoundRank? (kind : String) : Option Nat :=
  match kind with
  | "all" => some 0
  | "any" => some 1
  | "not" => some 2
  | _ => none

/-- Where a condition is read: after how many steps, and the least rank of the kinds
that enclose it. -/
structure Spot where
  steps : Nat
  leastRank : Nat
  deriving DecidableEq, Repr

/-- The spot of a tree of conditions that is reached in so many steps.  No kind
encloses it, so the rank is beyond all of theirs. -/
def Spot.start (steps : Nat) : Spot :=
  ⟨steps, 3⟩

/-- The spot one node further on.  A node takes a step; one made of parts takes
another when neither its kind nor an earlier one encloses it. -/
def Spot.enter (spot : Spot) (kind : Option Value) : Spot :=
  match kind with
  | some (.text kind) =>
    match compoundRank? kind with
    | some rank =>
      if rank < spot.leastRank then ⟨spot.steps + 2, rank⟩
      else ⟨spot.steps + 1, spot.leastRank⟩
    | none => ⟨spot.steps + 1, spot.leastRank⟩
  | _ => ⟨spot.steps + 1, spot.leastRank⟩

open Schema in
/-- Read a condition from the fields of an object that is reached in `steps` steps.
A kind that is a text but not known makes an unknown node; without a text for its
kind the node is rejected as one of unknown kind. -/
def ofFields (steps : Nat) (fields : Fields) (parts : List (String × PartReading)) :
    Checked Condition :=
  match fields.get? "t" with
  | some (.text kind) =>
    match shape? kind fields parts with
    | some reading => nested steps kind reading
    | none =>
      nested steps unknownTag (kept fields (pure (.unknown kind (fields.without "t"))))
  | some (.list _) | some (.object _) => .stopped .unusableKind
  | some _ => nested steps unknownTag (kept fields (.rejected [⟨[.name "t"], .notText⟩]))
  | none => nested steps unknownTag (kept fields (.rejected [⟨[.name "t"], .missing⟩]))

mutual

/-- Read a condition one node further on than `spot`. -/
def readAt (spot : Spot) : Value → Schema.Checked Condition
  | .object fields =>
    let inner := spot.enter (Fields.get? fields "t")
    ofFields inner.steps fields (readFields inner fields)
  | _ => Schema.nested (spot.steps + 1) unknownTag (.reject .notRecord)

/-- Read a list of conditions, each one node further on than `spot`. -/
def readListAt (spot : Spot) : Value → Schema.Checked (List Condition)
  | .list values => Schema.Checked.items (readItems spot values)
  | _ => .reject .notList

def readItems (spot : Spot) : List Value → List (Schema.Checked Condition)
  | [] => []
  | value :: rest => readAt spot value :: readItems spot rest

def readFields (spot : Spot) : List (String × Value) → List (String × PartReading)
  | [] => []
  | (name, value) :: rest =>
    (name, ⟨readAt spot value, readListAt spot value⟩) :: readFields spot rest

end

/-- Read the tree of conditions behind so many steps. -/
def readBehind (steps : Nat) : Value → Schema.Checked Condition :=
  readAt (.start steps)

def read : Value → Schema.Checked Condition :=
  readBehind 0

mutual

def dump : Condition → Value
  | .unknown kind extras => .object (("t", .text kind) :: extras)
  | .all parts => .object [("t", .text "all"), ("xs", .list (dumpParts parts))]
  | .any parts => .object [("t", .text "any"), ("xs", .list (dumpParts parts))]
  | .not part => .object [("t", .text "not"), ("x", dump part)]
  | .weaponType types =>
    .object [("t", .text "weaponType"), ("any", .texts (types.map Vocabulary.word))]
  | .weaponName names => .object [("t", .text "weaponName"), ("any", .texts names)]
  | .targetCategory categories =>
    .object [("t", .text "targetCategory"), ("any", .texts categories)]
  | .unitStatus statuses =>
    .object [("t", .text "unitStatus"), ("has", .texts (statuses.map Vocabulary.word))]
  | .armyState names => .object [("t", .text "armyState"), ("is", .texts names)]
  | .combatRole role =>
    .object [("t", .text "combatRole"), ("is", .text (Vocabulary.word role))]
  | .attackHasKeyword keywords =>
    .object [("t", .text "attackHasKeyword"), ("any", .texts keywords)]
  | .weaponHasAbility ability =>
    .object [("t", .text "weaponHasAbility"), ("ability", ability.dump)]
  | .unitHasAbility ability =>
    .object [("t", .text "unitHasAbility"), ("ability", ability.dump)]
  | .userInput id answer =>
    .object [("t", .text "userInput"), ("id", .text id), ("is", .text answer)]
  | leaf => .object [("t", .text leaf.kind)]

def dumpParts : List Condition → List Value
  | [] => []
  | part :: rest => dump part :: dumpParts rest

end

end Condition

end Skirmish
