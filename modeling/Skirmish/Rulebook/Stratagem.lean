import Skirmish.Schema.Field
import Skirmish.Text.Case

/-!
# Stratagems

A stratagem is a card that a player may use in certain phases, turns and rounds.
The core stratagems are open to everybody; the others belong to a faction and
perhaps to one of its detachments.
-/

namespace Skirmish

inductive StratagemPhase where
  | any
  | command
  | move
  | shoot
  | charge
  | fight
  | moveOrCharge
  deriving DecidableEq, Repr

instance : Vocabulary StratagemPhase where
  all := [.any, .command, .move, .shoot, .charge, .fight, .moveOrCharge]
  word
    | .any => "any"
    | .command => "command"
    | .move => "move"
    | .shoot => "shoot"
    | .charge => "charge"
    | .fight => "fight"
    | .moveOrCharge => "move-or-charge"

inductive StratagemTurn where
  | yourTurn
  | opponentTurn
  | either
  deriving DecidableEq, Repr

instance : Vocabulary StratagemTurn where
  all := [.yourTurn, .opponentTurn, .either]
  word
    | .yourTurn => "your-turn"
    | .opponentTurn => "opponent-turn"
    | .either => "either"

inductive RoundRestriction where
  | any
  | firstTurnOnly
  | secondTurnOnwards
  deriving DecidableEq, Repr

instance : Vocabulary RoundRestriction where
  all := [.any, .firstTurnOnly, .secondTurnOnwards]
  word
    | .any => "any"
    | .firstTurnOnly => "first-turn-only"
    | .secondTurnOnwards => "second-turn-onwards"

structure Stratagem where
  id : String
  name : String
  cost : Int := 1
  phase : StratagemPhase := .any
  condition : String := ""
  effect : String := ""
  faction : Option String := none
  detachment : Option String := none
  detachmentAliases : List String := []
  roundRestriction : RoundRestriction := .any
  turn : StratagemTurn := .either
  deriving DecidableEq, Repr

namespace Stratagem

/-- A text is given and not empty. -/
def isNamed (name : Option String) : Bool :=
  (name.filter (!·.isEmpty)).isSome

/-- The stratagem is open to every faction. -/
def isCore (stratagem : Stratagem) : Bool :=
  stratagem.faction.isNone

open Schema in
/-- Read a stratagem.  One that names a detachment has to name its faction. -/
def read : Value → Checked Stratagem :=
  record fun fields =>
    Checked.ensure
      (fun stratagem =>
        if isNamed stratagem.detachment && !isNamed stratagem.faction then
          some (.inconsistent
            s!"stratagem '{stratagem.id}' names a detachment but no faction")
        else
          none)
      (Stratagem.mk <$> required fields "id" text <*> required fields "name" text
        <*> defaulted fields "cost" 1 (intFrom 0)
        <*> defaulted fields "phase" .any word
        <*> defaulted fields "when" "" text
        <*> defaulted fields "effect" "" text
        <*> defaulted fields "faction" none (optional text)
        <*> defaulted fields "detachment" none (optional text)
        <*> defaulted fields "detachmentAliases" [] (list text)
        <*> defaulted fields "turnRestriction" .any word
        <*> defaulted fields "turn" .either word)

def dump (stratagem : Stratagem) : Value :=
  .object [("id", .text stratagem.id), ("name", .text stratagem.name),
    ("cost", .int stratagem.cost), ("phase", .text (Vocabulary.word stratagem.phase)),
    ("when", .text stratagem.condition), ("effect", .text stratagem.effect),
    ("faction", .optional .text stratagem.faction),
    ("detachment", .optional .text stratagem.detachment),
    ("detachmentAliases", .texts stratagem.detachmentAliases),
    ("turnRestriction", .text (Vocabulary.word stratagem.roundRestriction)),
    ("turn", .text (Vocabulary.word stratagem.turn))]

/-! ## Availability -/

/-- A name by its common letters and digits only, in lower case. -/
def plainName (name : Option String) : List Char :=
  (Text.lower (name.getD "")).toList.filter fun c =>
    ('a' ≤ c && c ≤ 'z') || Text.isCommonDigit c

/-- `part` occurs in `whole` without a gap. -/
def occursIn (part : List Char) : List Char → Bool
  | [] => part.isEmpty
  | c :: rest => part.isPrefixOf (c :: rest) || occursIn part rest

/-- The stratagem belongs to a faction: one of the two names contains the
other, and a faction was given. -/
def suitsFaction (stratagem : Stratagem) (faction : Option String) : Bool :=
  let asked := plainName faction
  let own := plainName stratagem.faction
  !asked.isEmpty && (occursIn own asked || occursIn asked own)

/-- The stratagem belongs to a detachment, under its name or an alias, or to no
particular one. -/
def suitsDetachment (stratagem : Stratagem) (detachment : Option String) : Bool :=
  !isNamed stratagem.detachment ||
    (stratagem.detachment :: stratagem.detachmentAliases.map some).any fun name =>
      plainName name == plainName detachment

def available (catalogue : List Stratagem) (faction detachment : Option String) :
    List Stratagem :=
  catalogue.filter fun stratagem =>
    stratagem.isCore ||
      (stratagem.suitsFaction faction && stratagem.suitsDetachment detachment)

/-- The stratagem phase that a phase of the battle is called. -/
def phaseName (phase : String) : String :=
  if phase = "movement" then "move" else if phase = "shooting" then "shoot" else phase

def suitsPhase (stratagem : Stratagem) (phase : String) : Bool :=
  let name := phaseName phase
  stratagem.phase == .any || Vocabulary.word stratagem.phase == name ||
    (stratagem.phase == .moveOrCharge && (name == "move" || name == "charge"))

def forPhase (stratagems : List Stratagem) (phase : String) : List Stratagem :=
  stratagems.filter (·.suitsPhase phase)

/-- The stratagem may be used in the player's own turn, or in the opponent's. -/
def allowsTurn (stratagem : Stratagem) (ownTurn : Bool) : Bool :=
  match stratagem.turn with
  | .either => true
  | .yourTurn => ownTurn
  | .opponentTurn => !ownTurn

/-- The stratagem may be used in a battle round, if the round is known. -/
def allowsRound (stratagem : Stratagem) (round : Option Int) : Bool :=
  match round, stratagem.roundRestriction with
  | none, _ | _, .any => true
  | some round, .firstTurnOnly => round == 1
  | some round, .secondTurnOnwards => 2 ≤ round

/-! ## The drawer -/

/-- The order of the drawer: stratagems of a detachment first, then by name in
lower case. -/
def before (first second : Stratagem) : Bool :=
  let rank (stratagem : Stratagem) : Nat := if isNamed stratagem.detachment then 0 else 1
  if rank first = rank second then Text.atMost (Text.lower first.name) (Text.lower second.name)
  else rank first < rank second

/-- Stratagems in the order of the drawer; those that it does not tell apart keep
their places. -/
def inOrder (stratagems : List Stratagem) : List Stratagem :=
  stratagems.mergeSort before

/-- The stratagems that may be used at a given moment, in order. -/
def usable (catalogue : List Stratagem) (faction detachment : Option String)
    (phase : String) (ownTurn : Bool) (round : Option Int) : List Stratagem :=
  inOrder <| (forPhase (available catalogue faction detachment) phase).filter
    fun stratagem => stratagem.allowsTurn ownTurn && stratagem.allowsRound round

/-- All stratagems with whether they may be used this turn, those that may be
first. -/
def drawer (stratagems : List Stratagem) (ownTurn : Bool) : List (Stratagem × Bool) :=
  (inOrder (stratagems.filter (·.allowsTurn ownTurn))).map (·, true) ++
    (inOrder (stratagems.filter (!·.allowsTurn ownTurn))).map (·, false)

end Stratagem

end Skirmish
