import Skirmish.Fault

/-!
# Dice sources

A source of dice answers, for a number of sides, with a face and with the source
for the next die.  Every die with at least one side shows one of its faces.
-/

namespace Skirmish

/-- A source of dice.  It may run out. -/
class DiceSource (σ : Type) where
  /-- The face shown by the next die, and the source that follows. -/
  draw : (sides : Nat) → σ → Option (Nat × σ)
  /-- A die with sides shows one of them. -/
  draw_range : ∀ {sides face : Nat} {source next : σ}, 1 ≤ sides →
    draw sides source = some (face, next) → 1 ≤ face ∧ face ≤ sides

/-- A prepared sequence of faces, read round and round. -/
structure Script where
  faces : Array Int
  position : Nat := 0

namespace Script

/-- The face that a die with `sides` sides shows for a prepared number: the
number itself when it is a face, and otherwise the face reached by counting
through the die. -/
def faceFor (sides : Nat) (prepared : Int) : Nat :=
  1 + ((prepared - 1) % (sides : Int)).toNat

theorem faceFor_range {sides : Nat} (prepared : Int) (some_side : 1 ≤ sides) :
    1 ≤ faceFor sides prepared ∧ faceFor sides prepared ≤ sides := by
  have positive : (0 : Int) < sides := by omega
  have nonneg := Int.emod_nonneg (prepared - 1) (by omega : (sides : Int) ≠ 0)
  have below := Int.emod_lt_of_pos (prepared - 1) positive
  unfold faceFor
  omega

def draw (sides : Nat) (script : Script) : Option (Nat × Script) :=
  script.faces[script.position % script.faces.size]?.map fun prepared =>
    (faceFor sides prepared, { script with position := script.position + 1 })

instance : DiceSource Script where
  draw := draw
  draw_range some_side drawn := by
    simp only [draw, Option.map_eq_some_iff, Prod.mk.injEq] at drawn
    obtain ⟨prepared, _, rfl, _⟩ := drawn
    exact faceFor_range prepared some_side

end Script

/-- A source of one of two sorts. -/
instance {σ τ : Type} [DiceSource σ] [DiceSource τ] : DiceSource (σ ⊕ τ) where
  draw sides
    | .inl source => (DiceSource.draw sides source).map fun (face, next) => (face, .inl next)
    | .inr source => (DiceSource.draw sides source).map fun (face, next) => (face, .inr next)
  draw_range {sides face source next} some_side drawn := by
    cases source <;>
      simp only [Option.map_eq_some_iff, Prod.exists, Prod.mk.injEq] at drawn <;>
      obtain ⟨_, _, found, rfl, _⟩ := drawn <;>
      exact DiceSource.draw_range some_side found

end Skirmish
