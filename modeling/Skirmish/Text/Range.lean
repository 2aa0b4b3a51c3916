/-!
# Ranges of characters

A character property that no short rule describes is held as a list of closed
ranges of code points, in increasing order.
-/

namespace Skirmish.Text

/-- The code point of `c` lies in one of the closed `ranges`. -/
def inRanges (ranges : List (Nat × Nat)) (c : Char) : Bool :=
  ranges.any fun (first, last) => first ≤ c.toNat && c.toNat ≤ last

end Skirmish.Text
