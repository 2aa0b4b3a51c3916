/-!
# Thresholds

The face that a die must show at least.  Seven is out of a die's reach.
-/

namespace Skirmish

/-- The threshold that no die reaches. -/
def impossible : Int := 7

/-- The threshold of a roll with a modifier: two at best and six at worst, but a
characteristic above six stays out of reach. -/
def clampThreshold (base modifier : Int) : Int :=
  if 6 < base then impossible else max 2 (min 6 (base - modifier))

def woundThreshold (strength toughness : Int) : Int :=
  if 2 * toughness ≤ strength then 2
  else if toughness < strength then 3
  else if strength = toughness then 4
  else if strength * 2 ≤ toughness then 6
  else 5

/-- A saving throw: its threshold, and whether it is the invulnerable one. -/
structure SaveThreshold where
  threshold : Int
  invulnerable : Bool
  deriving DecidableEq, Repr

/-- The better of the armour save, which armour penetration worsens, and the
invulnerable save, which it does not touch.  On a tie the invulnerable save is
used; it is also used whenever armour is of no use. -/
def saveThreshold (save armourPenetration : Int) (invulnerable : Option Int) :
    SaveThreshold :=
  let armour := save - armourPenetration
  let (chosen, isInvulnerable) :=
    match invulnerable with
    | some n => if n ≤ armour ∨ 6 < armour then (n, true) else (armour, false)
    | none => (armour, false)
  ⟨if 6 < chosen then impossible else chosen, isInvulnerable⟩

end Skirmish
