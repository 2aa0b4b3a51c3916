import Skirmish.Fault
import Skirmish.Ledger
import Skirmish.Rulebook.Unit

/-!
# Weapon keywords

A weapon has printed keywords, and rules may grant it abilities for one attack.
Both are merged: a flag stays once it is set, of several numbers the largest one
counts, and every keyword against a category is kept.
-/

namespace Skirmish

/-- A flag of a weapon: an ability without a number, or precision, which can only
be printed. -/
inductive KeywordFlag where
  | ability (flag : WeaponFlag)
  | precision
  deriving DecidableEq, Repr

namespace KeywordFlag

/-- All flags that an ability may set, in the order in which they are listed. -/
def abilities : List KeywordFlag :=
  [.lethalHits, .twinLinked, .lance, .torrent, .heavy, .blast, .devastatingWounds,
    .ignoresCover, .hazardous, .assault, .pistol, .indirectFire,
    .extraAttacks].map .ability

def name : KeywordFlag → String
  | .ability .lethalHits => "lethal_hits"
  | .ability .twinLinked => "twin_linked"
  | .ability .lance => "lance"
  | .ability .torrent => "torrent"
  | .ability .heavy => "heavy"
  | .ability .blast => "blast"
  | .ability .devastatingWounds => "devastating_wounds"
  | .ability .ignoresCover => "ignores_cover"
  | .ability .hazardous => "hazardous"
  | .ability .assault => "assault"
  | .ability .pistol => "pistol"
  | .ability .indirectFire => "indirect_fire"
  | .ability .extraAttacks => "extra_attacks"
  | .precision => "precision"

def printed : KeywordFlag → List String
  | .ability .lethalHits => ["lethal hits"]
  | .ability .twinLinked => ["twin-linked", "twin linked"]
  | .ability .lance => ["lance"]
  | .ability .torrent => ["torrent"]
  | .ability .heavy => ["heavy"]
  | .ability .blast => ["blast"]
  | .ability .devastatingWounds => ["devastating wounds"]
  | .ability .ignoresCover => ["ignores cover"]
  | .ability .hazardous => ["hazardous"]
  | .ability .assault => ["assault"]
  | .ability .pistol => ["pistol"]
  | .ability .indirectFire => ["indirect fire"]
  | .ability .extraAttacks => ["extra attacks"]
  | .precision => ["precision"]

def ofPrinted? (text : String) : Option KeywordFlag :=
  (abilities ++ [KeywordFlag.precision]).find? (·.printed.contains text)

end KeywordFlag

/-! ## Printed keywords -/

/-- What one printed keyword says. -/
inductive PrintedKeyword where
  | rapidFire (x : Int)
  | sustainedHits (x : Int)
  | melta (x : Int)
  | anti (keyword : String) (threshold : Int)
  | flag (flag : KeywordFlag)
  deriving DecidableEq, Repr

namespace PrintedKeyword

/-- What follows `start` at the front of `chars`. -/
def after? (start : String) (chars : List Char) : Option (List Char) :=
  if start.toList.isPrefixOf chars then some (chars.drop start.length) else none

/-- The digits that make up all of `chars`, blanks in front aside. -/
def digits? (chars : List Char) : Option (List Char) :=
  let digits := chars.dropWhile Text.isBlank
  if !digits.isEmpty && digits.all Text.isDigit then some digits else none

/-- The digits of a keyword of two words and a number; between the words there may
be blanks and hyphens, or nothing. -/
def twoWords? (first second : String) (chars : List Char) : Option (List Char) := do
  let rest ← after? first chars
  let rest ← after? second (rest.dropWhile fun c => Text.isBlank c || c == '-')
  digits? rest

/-- A category made of word characters and blanks, then a blank, and a threshold
of one digit, perhaps with a plus sign. -/
def anti? (chars : List Char) : Option (String × Int) := do
  let body ← after? "anti-" chars
  let backwards := body.reverse
  let backwards := if backwards.head? = some '+' then backwards.drop 1 else backwards
  match backwards with
  | digit :: gap :: category =>
    let threshold ← Text.digitValue? digit
    if Text.isBlank gap && !category.isEmpty &&
        category.all fun c => Text.isWord c || Text.isBlank c then
      some (String.ofList (Text.trim category.reverse), threshold)
    else
      none
  | _ => none

/-- A keyword in lower case, its words joined by single spaces. -/
def plain (text : String) : List Char :=
  [' '].intercalate (Text.words (Text.lower text).toList)

/-- A keyword with the number that digits spell. -/
def numbered (keyword : Int → PrintedKeyword) (digits : List Char) :
    Except Fault (Option PrintedKeyword) :=
  (readNumeral digits).map fun x => some (keyword x)

/-- What a printed keyword says, if this engine knows it. -/
def read (text : String) : Except Fault (Option PrintedKeyword) :=
  let chars := plain text
  match twoWords? "rapid" "fire" chars with
  | some digits => numbered .rapidFire digits
  | none =>
    match twoWords? "sustained" "hits" chars with
    | some digits => numbered .sustainedHits digits
    | none =>
      match (after? "melta" chars).bind digits? with
      | some digits => numbered .melta digits
      | none =>
        match anti? chars with
        | some (keyword, threshold) => .ok (some (.anti keyword threshold))
        | none => .ok ((KeywordFlag.ofPrinted? (String.ofList chars)).map .flag)

end PrintedKeyword

/-! ## Merged keywords -/

/-- The keywords of a weapon, merged. -/
structure Keywords where
  rapidFire : Int := 0
  sustainedHits : Int := 0
  melta : Int := 0
  anti : List (String × Int) := []
  flags : List KeywordFlag := []
  deriving DecidableEq, Repr

namespace Keywords

def has (keywords : Keywords) (flag : KeywordFlag) : Bool :=
  keywords.flags.contains flag

def hasAbility (keywords : Keywords) (flag : WeaponFlag) : Bool :=
  keywords.has (.ability flag)

def setFlag (keywords : Keywords) (flag : KeywordFlag) : Keywords :=
  if keywords.has flag then keywords else { keywords with flags := keywords.flags ++ [flag] }

def merge (keywords : Keywords) : PrintedKeyword → Keywords
  | .rapidFire x => { keywords with rapidFire := max keywords.rapidFire x }
  | .sustainedHits x => { keywords with sustainedHits := max keywords.sustainedHits x }
  | .melta x => { keywords with melta := max keywords.melta x }
  | .anti keyword threshold =>
    { keywords with anti := keywords.anti ++ [(keyword, threshold)] }
  | .flag flag => keywords.setFlag flag

/-- The printed keywords of a weapon; unknown ones are passed over. -/
def ofPrinted (texts : List String) : Except Fault Keywords := do
  return ((← texts.mapM PrintedKeyword.read).filterMap id).foldl merge {}

/-- What a granted ability with a number says, in the terms of printed
keywords. -/
def ofAbility? : Ability → Option PrintedKeyword
  | .weapon (.rapidFire x) => some (.rapidFire x)
  | .weapon (.sustainedHits x) => some (.sustainedHits x)
  | .weapon (.melta x) => some (.melta x)
  | .weapon (.anti keyword threshold) => some (.anti keyword threshold)
  | .weapon (.flag _) | .unit _ => none

/-- Merge what one stat of the ledger grants.  A flag is set by the stat itself;
numbers come from the abilities granted under it. -/
def mergeGrant (granted : List Ability) (keywords : Keywords) (stat : String) :
    Keywords :=
  match PrintedKeyword.after? "weaponAbility:" stat.toList with
  | none => keywords
  | some key =>
    match (Vocabulary.ofWord? (String.ofList key) : Option WeaponFlag) with
    | some flag => keywords.setFlag (.ability flag)
    | none =>
      ((granted.filter (·.stat == stat)).filterMap ofAbility?).foldl merge keywords

/-- The printed keywords of a weapon merged with what the ledger grants. -/
def effective (printed : List String) (ledger : Ledger) (granted : List Ability) :
    Except Fault Keywords := do
  return (ledger.stats.filter ledger.has).foldl (mergeGrant granted) (← ofPrinted printed)

/-- The best threshold against a target with the given categories. -/
def antiThreshold? (keywords : Keywords) (categories : List String) : Option Int :=
  let lowered := categories.map Text.lower
  ((keywords.anti.filter fun (keyword, _) => lowered.contains (Text.lower keyword)).map
    (·.2)).min?

/-- The names of all keywords that have an effect, in alphabetical order. -/
def activeNames (keywords : Keywords) : List String :=
  let flags := (KeywordFlag.abilities.filter keywords.has).map (·.name)
  let others := [(keywords.rapidFire != 0, "rapid_fire"),
    (keywords.sustainedHits != 0, "sustained_hits"), (keywords.melta != 0, "melta"),
    (!keywords.anti.isEmpty, "anti")]
  (flags ++ (others.filter (·.1)).map (·.2)).mergeSort (· ≤ ·)

end Keywords

end Skirmish
