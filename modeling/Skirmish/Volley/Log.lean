import Skirmish.Dice.Rolling

/-!
# Volley logs

A volley goes through six phases.  Each phase leaves a log: its threshold, the
rolls that were made, what they amounted to, and remarks for the player.
-/

namespace Skirmish

inductive VolleyPhase where
  | attacks
  | hit
  | wound
  | save
  | damage
  | feelNoPain
  deriving DecidableEq, Repr

instance : Vocabulary VolleyPhase where
  all := [.attacks, .hit, .wound, .save, .damage, .feelNoPain]
  word
    | .attacks => "attacks"
    | .hit => "hit"
    | .wound => "wound"
    | .save => "save"
    | .damage => "damage"
    | .feelNoPain => "fnp"

structure PhaseLog where
  phase : VolleyPhase
  threshold : Option Int := none
  rolls : List RollRecord := []
  successes : Int := 0
  criticals : Int := 0
  reroll : Reroll := .none
  notes : List String := []
  deriving DecidableEq, Repr

def sumOf (amounts : List Int) : Int :=
  amounts.foldr (· + ·) 0

@[simp]
theorem sumOf_nil : sumOf [] = 0 :=
  rfl

@[simp]
theorem sumOf_cons (amount : Int) (amounts : List Int) :
    sumOf (amount :: amounts) = amount + sumOf amounts :=
  rfl

def signedText (n : Int) : String :=
  if n < 0 then toString n else s!"+{n}"

/-- Remarks, each of which is made under a condition. -/
def remarks (candidates : List (Bool × String)) : List String :=
  (candidates.filter (·.1)).map (·.2)

namespace Roll

variable {σ : Type}

/-- Carry out an action several times, in order. -/
def times {α : Type} : Nat → Roll σ α → Roll σ (List α)
  | 0, _ => return []
  | count + 1, action => do
    let first ← action
    return first :: (← times count action)

end Roll

end Skirmish
