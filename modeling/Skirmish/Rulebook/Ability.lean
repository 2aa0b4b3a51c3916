import Skirmish.Schema.Field

/-!
# Abilities

Weapons and units have abilities.  Some are plain flags, others carry a number
or a keyword.  An ability is known by its key: the flag's name, or the name of
its kind.
-/

namespace Skirmish

/-- The abilities of a weapon that carry no number. -/
inductive WeaponFlag where
  | assault
  | blast
  | devastatingWounds
  | hazardous
  | heavy
  | ignoresCover
  | indirectFire
  | lethalHits
  | pistol
  | torrent
  | twinLinked
  | lance
  | extraAttacks
  deriving DecidableEq, Repr

instance : Vocabulary WeaponFlag where
  all := [.assault, .blast, .devastatingWounds, .hazardous, .heavy, .ignoresCover,
    .indirectFire, .lethalHits, .pistol, .torrent, .twinLinked, .lance, .extraAttacks]
  word
    | .assault => "assault"
    | .blast => "blast"
    | .devastatingWounds => "devastatingWounds"
    | .hazardous => "hazardous"
    | .heavy => "heavy"
    | .ignoresCover => "ignoresCover"
    | .indirectFire => "indirectFire"
    | .lethalHits => "lethalHits"
    | .pistol => "pistol"
    | .torrent => "torrent"
    | .twinLinked => "twinLinked"
    | .lance => "lance"
    | .extraAttacks => "extraAttacks"

/-- The abilities of a unit that carry no number. -/
inductive UnitFlag where
  | deepStrike
  | fightsFirst
  | infiltrators
  | leader
  | loneOperative
  | stealth
  deriving DecidableEq, Repr

instance : Vocabulary UnitFlag where
  all := [.deepStrike, .fightsFirst, .infiltrators, .leader, .loneOperative, .stealth]
  word
    | .deepStrike => "deepStrike"
    | .fightsFirst => "fightsFirst"
    | .infiltrators => "infiltrators"
    | .leader => "leader"
    | .loneOperative => "loneOperative"
    | .stealth => "stealth"

inductive WeaponAbility where
  | rapidFire (x : Int)
  | sustainedHits (x : Int)
  | anti (keyword : String) (threshold : Int)
  | melta (x : Int)
  | flag (id : WeaponFlag)
  deriving DecidableEq, Repr

inductive UnitAbility where
  | deadlyDemise (x : Int)
  | feelNoPain (threshold : Int)
  | scouts (distance : Int)
  | flag (id : UnitFlag)
  deriving DecidableEq, Repr

namespace WeaponAbility

def kind : WeaponAbility → String
  | .rapidFire _ => "rapidFire"
  | .sustainedHits _ => "sustainedHits"
  | .anti .. => "anti"
  | .melta _ => "melta"
  | .flag _ => "flag"

def key : WeaponAbility → String
  | .flag id => Vocabulary.word id
  | ability => ability.kind

open Schema in
def shape? (kind : String) : Option (Fields → Checked WeaponAbility) :=
  match kind with
  | "rapidFire" => some fun fields => .rapidFire <$> required fields "x" (intFrom 1)
  | "sustainedHits" => some fun fields => .sustainedHits <$> required fields "x" (intFrom 1)
  | "anti" => some fun fields =>
    .anti <$> required fields "keyword" text
      <*> required fields "threshold" (intBetween 2 6)
  | "melta" => some fun fields => .melta <$> required fields "x" (intFrom 1)
  | "flag" => some fun fields => .flag <$> required fields "id" word
  | _ => none

def read : Value → Schema.Checked WeaponAbility :=
  Schema.tagged "t" shape?

def dump (ability : WeaponAbility) : Value :=
  .object (("t", .text ability.kind) ::
    match ability with
    | .rapidFire x | .sustainedHits x | .melta x => [("x", .int x)]
    | .anti keyword threshold => [("keyword", .text keyword), ("threshold", .int threshold)]
    | .flag id => [("id", .text (Vocabulary.word id))])

end WeaponAbility

namespace UnitAbility

def kind : UnitAbility → String
  | .deadlyDemise _ => "deadlyDemise"
  | .feelNoPain _ => "feelNoPain"
  | .scouts _ => "scouts"
  | .flag _ => "flag"

def key : UnitAbility → String
  | .flag id => Vocabulary.word id
  | ability => ability.kind

open Schema in
def shape? (kind : String) : Option (Fields → Checked UnitAbility) :=
  match kind with
  | "deadlyDemise" => some fun fields => .deadlyDemise <$> required fields "x" (intFrom 1)
  | "feelNoPain" => some fun fields =>
    .feelNoPain <$> required fields "threshold" (intBetween 2 6)
  | "scouts" => some fun fields => .scouts <$> required fields "distance" (intBetween 1 12)
  | "flag" => some fun fields => .flag <$> required fields "id" word
  | _ => none

def read : Value → Schema.Checked UnitAbility :=
  Schema.tagged "t" shape?

def dump (ability : UnitAbility) : Value :=
  .object (("t", .text ability.kind) ::
    match ability with
    | .deadlyDemise x => [("x", .int x)]
    | .feelNoPain threshold => [("threshold", .int threshold)]
    | .scouts distance => [("distance", .int distance)]
    | .flag id => [("id", .text (Vocabulary.word id))])

end UnitAbility

/-- An ability of either sort. -/
inductive Ability where
  | weapon (ability : WeaponAbility)
  | unit (ability : UnitAbility)
  deriving DecidableEq, Repr

namespace Ability

/-- The stat key under which a granted ability is recorded. -/
def stat : Ability → String
  | .weapon ability => "weaponAbility:" ++ ability.key
  | .unit ability => "unitAbility:" ++ ability.key

def dump : Ability → Value
  | .weapon ability => ability.dump
  | .unit ability => ability.dump

end Ability

/-! ## Printed names -/

/-- A name in words: a space before every capital, and a capital first. -/
def spacedWords (name : String) : String :=
  let spaced := name.toList.flatMap fun c => if c.isUpper then [' ', c] else [c]
  match Text.trim spaced with
  | [] => ""
  | first :: rest => String.ofList (first.toUpper :: rest)

namespace WeaponAbility

/-- The ability as a player reads it. -/
def display : WeaponAbility → String
  | .rapidFire x => s!"Rapid Fire {x}"
  | .sustainedHits x => s!"Sustained Hits {x}"
  | .anti keyword threshold => s!"Anti-{keyword} {threshold}+"
  | .melta x => s!"Melta {x}"
  | .flag .twinLinked => "Twin-linked"
  | .flag id => spacedWords (Vocabulary.word id)

end WeaponAbility

namespace UnitAbility

/-- The ability as a player reads it. -/
def display : UnitAbility → String
  | .deadlyDemise x => s!"Deadly Demise {x}"
  | .feelNoPain threshold => s!"Feel No Pain {threshold}+"
  | .scouts distance => s!"Scouts {distance}\""
  | .flag id => spacedWords (Vocabulary.word id)

end UnitAbility

/-- The number that the ability carries, if it carries one. -/
def Ability.number? : Ability → Option Int
  | .weapon (.rapidFire n) | .weapon (.sustainedHits n) | .weapon (.anti _ n)
  | .weapon (.melta n) | .unit (.deadlyDemise n) | .unit (.feelNoPain n)
  | .unit (.scouts n) => some n
  | .weapon (.flag _) | .unit (.flag _) => none

def Ability.display : Ability → String
  | .weapon ability => ability.display
  | .unit ability => ability.display

end Skirmish
