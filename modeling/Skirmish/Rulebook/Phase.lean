import Skirmish.Schema.Vocabulary

/-!
# Phases, turns and roles

The battle clock runs through the phases of a turn in a fixed order.  A rule
names the phases it belongs to, where `any` stands for all of them; whoever asks
for the rules of a phase may name one that the rulebook does not list.
-/

namespace Skirmish

/-- A phase of the battle, or `any` of them. -/
inductive Phase where
  | startOfBattle
  | command
  | movement
  | shooting
  | charge
  | fight
  | any
  deriving DecidableEq, Repr

instance : Vocabulary Phase where
  all := [.startOfBattle, .command, .movement, .shooting, .charge, .fight, .any]
  word
    | .startOfBattle => "start-of-battle"
    | .command => "command"
    | .movement => "movement"
    | .shooting => "shooting"
    | .charge => "charge"
    | .fight => "fight"
    | .any => "any"

/-- The place of a phase within a turn; `any` comes last. -/
def Phase.index : Phase → Nat
  | .startOfBattle => 0
  | .command => 1
  | .movement => 2
  | .shooting => 3
  | .charge => 4
  | .fight => 5
  | .any => 6

/-- The place within a turn of a phase named by a word; a word outside the
rulebook comes last. -/
def phaseIndex (word : String) : Nat :=
  match (Vocabulary.ofWord? word : Option Phase) with
  | some phase => phase.index
  | none => Phase.any.index

/-- The side of a combat from which it is seen. -/
inductive Role where
  | attacker
  | defender
  deriving DecidableEq, Repr

instance : Vocabulary Role where
  all := [.attacker, .defender]
  word
    | .attacker => "attacker"
    | .defender => "defender"

/-- Whose turn a rule is for, or the caller is asking about. -/
inductive Turn where
  | own
  | opponent
  | both
  deriving DecidableEq, Repr

instance : Vocabulary Turn where
  all := [.own, .opponent, .both]
  word
    | .own => "own"
    | .opponent => "opponent"
    | .both => "both"

end Skirmish
