import Skirmish.Rulebook.Condition

/-!
# Effects and blocks

An effect writes one adjustment into the ledger of a combat view.  It may be
limited to leaders or to units without one, and to conditions of its own.  A
block performs effects, or guards further blocks by a condition.
-/

namespace Skirmish

inductive AppliesTo where
  | all
  | leader
  | bodyguard
  deriving DecidableEq, Repr

instance : Vocabulary AppliesTo where
  all := [.all, .leader, .bodyguard]
  word
    | .all => "all"
    | .leader => "leader"
    | .bodyguard => "bodyguard"

/-- The characteristics of a weapon that effects may change. -/
inductive WeaponStat where
  | strength
  | armourPenetration
  | attacks
  | damage
  deriving DecidableEq, Repr

instance : Vocabulary WeaponStat where
  all := [.strength, .armourPenetration, .attacks, .damage]
  word
    | .strength => "S"
    | .armourPenetration => "AP"
    | .attacks => "A"
    | .damage => "D"

/-- The characteristics of a unit that effects may change. -/
inductive DefensiveStat where
  | toughness
  | save
  | wounds
  deriving DecidableEq, Repr

instance : Vocabulary DefensiveStat where
  all := [.toughness, .save, .wounds]
  word
    | .toughness => "T"
    | .save => "SV"
    | .wounds => "W"

/-- The rolls that a reroll may be granted for. -/
inductive RerollPhase where
  | hit
  | wound
  | damage
  deriving DecidableEq, Repr

instance : Vocabulary RerollPhase where
  all := [.hit, .wound, .damage]
  word
    | .hit => "hit"
    | .wound => "wound"
    | .damage => "damage"

/-- The rolls that a granted reroll covers. -/
inductive RerollKind where
  | ones
  | failed
  | all
  deriving DecidableEq, Repr

instance : Vocabulary RerollKind where
  all := [.ones, .failed, .all]
  word
    | .ones => "ones"
    | .failed => "failed"
    | .all => "all"

/-- The side an effect helps by nature; it writes in that side's view only.  A
neutral effect writes in either view. -/
inductive Intent where
  | offensive
  | defensive
  | neutral
  deriving DecidableEq, Repr

inductive Action where
  | modHit (add : Int)
  | modWound (add : Int)
  | modHitAgainst (add : Int)
  | modWoundAgainst (add : Int)
  | modWeaponStat (stat : WeaponStat) (add : Int)
  | modDefensiveStat (stat : DefensiveStat) (add : Int)
  | setDefensiveStat (stat : DefensiveStat) (n : Int)
  | modMove (add : Int)
  | addWeaponAbility (ability : WeaponAbility)
  | addUnitAbility (ability : UnitAbility)
  | addKeyword (keyword : String) (value : Int)
  | setInvulnerable (n : Int)
  | setFeelNoPain (n : Int)
  | setCriticalHit (n : Int)
  | setCriticalWound (n : Int)
  | reroll (phase : RerollPhase) (kind : RerollKind)
  deriving DecidableEq, Repr

/-- An effect of a rule.  One of a kind that this engine does not know keeps its
fields as they are and writes nothing. -/
inductive Effect where
  | known (action : Action) (appliesTo : AppliesTo) (conditions : List Condition)
  | unknown (kind : String) (extras : Fields)
  deriving Repr

/-- A block of a rule: effects to perform, or blocks under a condition. -/
inductive Block where
  | perform (effects : List Effect)
  | guarded (condition : Condition) (blocks : List Block)
  deriving Repr

namespace Action

def kind : Action → String
  | .modHit _ => "modHit"
  | .modWound _ => "modWound"
  | .modHitAgainst _ => "modHitAgainst"
  | .modWoundAgainst _ => "modWoundAgainst"
  | .modWeaponStat .. => "modWeaponStat"
  | .modDefensiveStat .. => "modDefensiveStat"
  | .setDefensiveStat .. => "setDefensiveStat"
  | .modMove _ => "modMove"
  | .addWeaponAbility _ => "addWeaponAbility"
  | .addUnitAbility _ => "addUnitAbility"
  | .addKeyword .. => "addKeyword"
  | .setInvulnerable _ => "setInvuln"
  | .setFeelNoPain _ => "setFNP"
  | .setCriticalHit _ => "setCriticalHit"
  | .setCriticalWound _ => "setCriticalWound"
  | .reroll .. => "reroll"

def intent : Action → Intent
  | .modHit _ | .modWound _ | .modWeaponStat .. | .addWeaponAbility _
  | .setCriticalHit _ | .setCriticalWound _ | .reroll .. => .offensive
  | .modHitAgainst _ | .modWoundAgainst _ | .modDefensiveStat .. | .setDefensiveStat ..
  | .setInvulnerable _ | .setFeelNoPain _ => .defensive
  | .modMove _ | .addUnitAbility _ | .addKeyword .. => .neutral

open Schema in
def shape? (kind : String) : Option (Fields → Checked Action) :=
  match kind with
  | "modHit" => some fun fields => .modHit <$> required fields "add" int
  | "modWound" => some fun fields => .modWound <$> required fields "add" int
  | "modHitAgainst" => some fun fields => .modHitAgainst <$> required fields "add" int
  | "modWoundAgainst" => some fun fields => .modWoundAgainst <$> required fields "add" int
  | "modWeaponStat" => some fun fields =>
    .modWeaponStat <$> required fields "stat" word <*> required fields "add" int
  | "modDefensiveStat" => some fun fields =>
    .modDefensiveStat <$> required fields "stat" word <*> required fields "add" int
  | "setDefensiveStat" => some fun fields =>
    .setDefensiveStat <$> required fields "stat" word <*> required fields "n" (intFrom 1)
  | "modMove" => some fun fields => .modMove <$> required fields "add" int
  | "addWeaponAbility" => some fun fields =>
    .addWeaponAbility <$> required fields "ability" WeaponAbility.read
  | "addUnitAbility" => some fun fields =>
    .addUnitAbility <$> required fields "ability" UnitAbility.read
  | "addKeyword" => some fun fields =>
    .addKeyword <$> required fields "keyword" text <*> defaulted fields "value" 0 int
  | "setInvuln" => some fun fields =>
    .setInvulnerable <$> required fields "n" (intBetween 2 7)
  | "setFNP" => some fun fields => .setFeelNoPain <$> required fields "n" (intBetween 2 7)
  | "setCriticalHit" => some fun fields =>
    .setCriticalHit <$> required fields "n" (intBetween 2 6)
  | "setCriticalWound" => some fun fields =>
    .setCriticalWound <$> required fields "n" (intBetween 2 6)
  | "reroll" => some fun fields =>
    .reroll <$> required fields "phase" word <*> required fields "kind" word
  | _ => none

def dumpFields : Action → Fields
  | .modHit add | .modWound add | .modHitAgainst add | .modWoundAgainst add
  | .modMove add => [("add", .int add)]
  | .modWeaponStat stat add => [("stat", .text (Vocabulary.word stat)), ("add", .int add)]
  | .modDefensiveStat stat add => [("stat", .text (Vocabulary.word stat)), ("add", .int add)]
  | .setDefensiveStat stat n => [("stat", .text (Vocabulary.word stat)), ("n", .int n)]
  | .addWeaponAbility ability => [("ability", ability.dump)]
  | .addUnitAbility ability => [("ability", ability.dump)]
  | .addKeyword keyword value => [("keyword", .text keyword), ("value", .int value)]
  | .setInvulnerable n | .setFeelNoPain n | .setCriticalHit n | .setCriticalWound n =>
    [("n", .int n)]
  | .reroll phase kind =>
    [("phase", .text (Vocabulary.word phase)), ("kind", .text (Vocabulary.word kind))]

end Action

namespace Effect

def kind : Effect → String
  | .known action .. => action.kind
  | .unknown kind _ => kind

open Schema in
/-- Read an effect from the fields of an object that is reached in `steps` steps. -/
def ofFields (steps : Nat) (fields : Fields) : Checked Effect :=
  match fields.get? "t" with
  | some (.text kind) =>
    match Action.shape? kind with
    | some action =>
      nested steps kind <|
        (fun appliesTo conditions action => .known action appliesTo conditions)
          <$> defaulted fields "appliesTo" .all word
          <*> defaulted fields "conditions" [] (Condition.readListAt (.start steps))
          <*> action fields
    | none =>
      nested steps Condition.unknownTag <|
        kept fields (pure (.unknown kind (fields.without "t")))
  | some (.list _) | some (.object _) => .stopped .unusableKind
  | some _ =>
    nested steps Condition.unknownTag (kept fields (.rejected [⟨[.name "t"], .notText⟩]))
  | none =>
    nested steps Condition.unknownTag (kept fields (.rejected [⟨[.name "t"], .missing⟩]))

open Schema in
/-- Read an effect that is reached in `steps` steps. -/
def readAt (steps : Nat) : Value → Checked Effect
  | .object fields => ofFields steps fields
  | _ => nested steps Condition.unknownTag (.reject .notRecord)

def read : Value → Schema.Checked Effect :=
  readAt 1

def dump : Effect → Value
  | .known action appliesTo conditions =>
    .object ([("appliesTo", .text (Vocabulary.word appliesTo)),
      ("conditions", .list (Condition.dumpParts conditions)),
      ("t", .text action.kind)] ++ action.dumpFields)
  | .unknown kind extras => .object (("t", .text kind) :: extras)

/-! ## What an unknown effect carries -/

/-- What stands in the conditions of an unknown effect. -/
inductive RawConditions where
  | absent
  | present
  | notIterable
  deriving DecidableEq, Repr

/-- Sort out the conditions that an unknown effect carries: nothing at all,
something made of parts, or something that is not. -/
def rawConditions (extras : Fields) : RawConditions :=
  match extras.get? "conditions" with
  | none => .absent
  | some value =>
    if !value.isTruthy then
      .absent
    else
      match value with
      | .list _ | .object _ | .text _ => .present
      | _ => .notIterable

end Effect

namespace Block

def kind : Block → String
  | .perform _ => "do"
  | .guarded .. => "if"

/-- The steps to the parts of a block that guards others.  The outermost one takes
two of them, each one within it a single one. -/
def guardSteps (steps : Nat) : Nat :=
  if steps = 0 then 2 else steps + 1

open Schema in
/-- Read a block from the fields of an object that lies `steps` steps behind the
outermost one.  Its nested blocks are found in `lists`, where every field has been
read as a list of blocks. -/
def ofFields (steps : Nat) (fields : Fields) (lists : List (String × Checked (List Block))) :
    Checked Block :=
  let blocks : Checked (List Block) :=
    match lists.lookup "then" with
    | some blocks =>
      (blocks.ensure fun blocks => if blocks.isEmpty then some .tooShort else none).under
        (.name "then")
    | none => .rejected [⟨[.name "then"], .missing⟩]
  match fields.get? "t" with
  | some (.text "do") =>
    Checked.under (.name "do") <|
      .perform <$> defaulted fields "fx" [] (list (Effect.readAt (steps + 1)))
  | some (.text "if") =>
    nested (guardSteps steps) "if" <|
      .guarded <$> required fields "when" (Condition.readBehind (guardSteps steps))
        <*> blocks
  | some _ => .reject .tagUnknown
  | none => .reject .tagMissing

mutual

/-- Read a block that lies `steps` steps behind the outermost one. -/
def readAt (steps : Nat) : Value → Schema.Checked Block
  | .object fields => ofFields steps fields (readFields (guardSteps steps) fields)
  | _ => .reject .notTagged

/-- Read a list of blocks, each of which lies `steps` steps behind the outermost
one. -/
def readListAt (steps : Nat) : Value → Schema.Checked (List Block)
  | .list values => Schema.Checked.items (readItems steps values)
  | _ => .reject .notList

def readItems (steps : Nat) : List Value → List (Schema.Checked Block)
  | [] => []
  | value :: rest => readAt steps value :: readItems steps rest

def readFields (steps : Nat) :
    List (String × Value) → List (String × Schema.Checked (List Block))
  | [] => []
  | (name, value) :: rest => (name, readListAt steps value) :: readFields steps rest

end

def read : Value → Schema.Checked Block :=
  readAt 0

def readList : Value → Schema.Checked (List Block) :=
  readListAt 0

/-- Read a list of blocks that must not be empty. -/
def readSome (value : Value) : Schema.Checked (List Block) :=
  (readList value).ensure fun blocks => if blocks.isEmpty then some .tooShort else none

mutual

def dump : Block → Value
  | .perform effects =>
    .object [("t", .text "do"), ("fx", .list (effects.map Effect.dump))]
  | .guarded condition blocks =>
    .object [("t", .text "if"), ("when", condition.dump), ("then", .list (dumpAll blocks))]

def dumpAll : List Block → List Value
  | [] => []
  | block :: rest => dump block :: dumpAll rest

end

mutual

/-- The effects of the block at any depth, in order. -/
def effects : Block → List Effect
  | .perform effects => effects
  | .guarded _ blocks => effectsOfAll blocks

def effectsOfAll : List Block → List Effect
  | [] => []
  | block :: rest => effects block ++ effectsOfAll rest

end

end Block

end Skirmish
