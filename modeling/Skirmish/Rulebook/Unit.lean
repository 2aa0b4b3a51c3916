import Skirmish.Rulebook.Ability
import Skirmish.Rulebook.Condition
import Skirmish.Text.Case

/-!
# Units and weapons

The snapshot of a unit and of a weapon that a combat is resolved with.
-/

namespace Skirmish

/-- The characteristics of one model.  A model may be without an invulnerable
save and without Feel No Pain. -/
structure ModelProfile where
  name : String := ""
  toughness : Int := 4
  save : Int := 3
  invulnerable : Option Int := none
  wounds : Int := 1
  feelNoPain : Option Int := none
  deriving DecidableEq, Repr

structure BattleUnit where
  id : String
  armyId : String
  name : String := ""
  categories : List String := []
  keywords : List String := []
  abilities : List UnitAbility := []
  models : List ModelProfile := [{}]
  isLeader : Option Bool := none
  leaderId : Option String := none
  bodyguardUnitIds : List String := []
  deriving DecidableEq, Repr

/-- A weapon.  Its attacks and its damage are dice expressions. -/
structure Weapon where
  name : String
  range : Int := 0
  attacks : String := "1"
  skill : Int := 3
  strength : Int := 4
  armourPenetration : Int := 0
  damage : String := "1"
  keywords : List String := []
  deriving DecidableEq, Repr

namespace ModelProfile

open Schema in
def read : Value → Checked ModelProfile :=
  record fun fields =>
    ModelProfile.mk <$> defaulted fields "name" "" text
      <*> defaulted fields "T" 4 int
      <*> defaulted fields "SV" 3 int
      <*> defaulted fields "INV" none (optional int)
      <*> defaulted fields "W" 1 int
      <*> defaulted fields "FNP" none (optional int)

def dump (model : ModelProfile) : Value :=
  .object [("name", .text model.name), ("T", .int model.toughness), ("SV", .int model.save),
    ("INV", .optional .int model.invulnerable), ("W", .int model.wounds),
    ("FNP", .optional .int model.feelNoPain)]

end ModelProfile

namespace BattleUnit

def hasCategory (unit : BattleUnit) (name : String) : Bool :=
  unit.categories.any fun category => Text.lower category == Text.lower name

/-- The unit is a leader: it says so, or it is a character and does not say. -/
def leader (unit : BattleUnit) : Bool :=
  unit.isLeader.getD (unit.hasCategory "character")

def isLed (unit : BattleUnit) : Bool :=
  (unit.leaderId.filter (!·.isEmpty)).isSome

/-- The unit is a leader attached to other units. -/
def isAttachedLeader (unit : BattleUnit) : Bool :=
  unit.leader && !unit.bodyguardUnitIds.isEmpty

def modelCount (unit : BattleUnit) : Nat :=
  unit.models.length

/-- The model that stands for the whole unit: the first one. -/
def leadProfile (unit : BattleUnit) : ModelProfile :=
  unit.models.headD {}

open Schema in
def read : Value → Checked BattleUnit :=
  record fun fields =>
    BattleUnit.mk <$> required fields "id" text <*> required fields "army_id" text
      <*> defaulted fields "name" "" text
      <*> defaulted fields "categories" [] (list text)
      <*> defaulted fields "keywords" [] (list text)
      <*> defaulted fields "abilities" [] (list UnitAbility.read)
      <*> defaulted fields "models" [{}] (list ModelProfile.read)
      <*> defaulted fields "is_leader" none (optional bool)
      <*> defaulted fields "leader_id" none (optional text)
      <*> defaulted fields "bodyguard_unit_ids" [] (list text)

def dump (unit : BattleUnit) : Value :=
  .object [("id", .text unit.id), ("army_id", .text unit.armyId), ("name", .text unit.name),
    ("categories", .texts unit.categories), ("keywords", .texts unit.keywords),
    ("abilities", .list (unit.abilities.map UnitAbility.dump)),
    ("models", .list (unit.models.map ModelProfile.dump)),
    ("is_leader", .optional .bool unit.isLeader),
    ("leader_id", .optional .text unit.leaderId),
    ("bodyguard_unit_ids", .texts unit.bodyguardUnitIds),
    ("leader", .bool unit.leader)]

end BattleUnit

namespace Weapon

/-- A weapon without a range is a melee weapon. -/
def type (weapon : Weapon) : WeaponType :=
  if weapon.range = 0 then .melee else .ranged

/-- One of the weapon's keywords starts with `name`, in any case. -/
def hasKeyword (weapon : Weapon) (name : String) : Bool :=
  weapon.keywords.any fun keyword =>
    (Text.lower name).toList.isPrefixOf (Text.lower keyword).toList

def combatPhase (weapon : Weapon) : Phase :=
  match weapon.type with
  | .melee => .fight
  | .ranged => .shooting

open Schema in
def read : Value → Checked Weapon :=
  record fun fields =>
    Weapon.mk <$> required fields "name" text
      <*> defaulted fields "range" 0 int
      <*> defaulted fields "A" "1" text
      <*> defaulted fields "WS" 3 int
      <*> defaulted fields "S" 4 int
      <*> defaulted fields "AP" 0 int
      <*> defaulted fields "D" "1" text
      <*> defaulted fields "keywords" [] (list text)

def dump (weapon : Weapon) : Value :=
  .object [("name", .text weapon.name), ("range", .int weapon.range),
    ("A", .text weapon.attacks), ("WS", .int weapon.skill), ("S", .int weapon.strength),
    ("AP", .int weapon.armourPenetration), ("D", .text weapon.damage),
    ("keywords", .texts weapon.keywords)]

end Weapon

end Skirmish
