import Skirmish.Dice.Source

/-!
# The twister

A pseudorandom source of dice: a linear recurrence over 624 words of 32 bits,
whose words are tempered before use.  It is seeded from the words of an integer.
A die takes as many bits as its number of sides has, and takes them again while
they make too large a number.
-/

namespace Skirmish

/-- The words of the recurrence and the place of the next one to use. -/
structure Twister where
  words : Array UInt32
  next : Nat

namespace Twister

def size : Nat := 624

/-- The distance between the words that one step combines. -/
def offset : Nat := 397

/-- The words that follow one starting word. -/
def spread (first : UInt32) : Array UInt32 :=
  (List.range (size - 1)).foldl
    (fun (words : Array UInt32) (k : Nat) =>
      let last := words.getD k 0
      words.push ((1812433253 : UInt32) * (last ^^^ (last >>> 30)) + (k + 1).toUInt32))
    #[first]

/-- The 32-bit words of a natural number, least significant first; zero has one
word. -/
def seedWords (seed : Nat) : List UInt32 :=
  if seed < 0x100000000 then [seed.toUInt32]
  else seed.toUInt32 :: seedWords (seed / 0x100000000)
termination_by seed
decreasing_by omega

/-- One place of the mixing passes: the place is combined with the one before
it.  Past the last place the passes start again at the second. -/
def mixAt (mix : UInt32 → UInt32 → UInt32) (state : Array UInt32 × Nat) :
    Array UInt32 × Nat :=
  let (words, place) := state
  let before := words.getD (place - 1) 0
  let mixed :=
    words.setIfInBounds place (mix (words.getD place 0) (before ^^^ (before >>> 30)))
  if size ≤ place + 1 then (mixed.setIfInBounds 0 (mixed.getD (size - 1) 0), 1)
  else (mixed, place + 1)

/-- The state seeded by an integer, whose sign does not matter. -/
def ofSeed (seed : Int) : Twister :=
  let key := (seedWords seed.natAbs).toArray
  let seeded :=
    (List.range (max size key.size)).foldl
      (fun state k =>
        let j := k % key.size
        mixAt (fun word before =>
          (word ^^^ (before * 1664525)) + key.getD j 0 + j.toUInt32) state)
      (spread 19650218, 1)
  let mixed :=
    (List.range (size - 1)).foldl
      (fun state _ =>
        let place := state.2
        mixAt (fun word before =>
          (word ^^^ (before * 1566083941)) - place.toUInt32) state)
      seeded
  ⟨mixed.1.setIfInBounds 0 0x80000000, size⟩

def twistAt (words : Array UInt32) (place : Nat) : Array UInt32 :=
  let joined :=
    (words.getD place 0 &&& 0x80000000) |||
      (words.getD ((place + 1) % size) 0 &&& 0x7fffffff)
  let twisted : UInt32 := if joined &&& 1 = 0 then 0 else 0x9908b0df
  words.setIfInBounds place
    (words.getD ((place + offset) % size) 0 ^^^ (joined >>> 1) ^^^ twisted)

def refill (twister : Twister) : Twister :=
  ⟨(List.range size).foldl twistAt twister.words, 0⟩

/-- A word made ready for use. -/
def temper (word : UInt32) : UInt32 :=
  let word := word ^^^ (word >>> 11)
  let word := word ^^^ ((word <<< 7) &&& 0x9d2c5680)
  let word := word ^^^ ((word <<< 15) &&& 0xefc60000)
  word ^^^ (word >>> 18)

def word (twister : Twister) : UInt32 × Twister :=
  let ready := if twister.next < size then twister else twister.refill
  (temper (ready.words.getD ready.next 0), { ready with next := ready.next + 1 })

/-- The next `count` bits as a number, the least significant word first; of the
last word only its highest bits are taken. -/
def bits (count : Nat) (twister : Twister) : Nat × Twister :=
  let (word, rest) := twister.word
  if count ≤ 32 then
    ((word >>> (32 - count).toUInt32).toNat, rest)
  else
    let (high, rest) := bits (count - 32) rest
    (word.toNat + 0x100000000 * high, rest)
termination_by count

def bitCount (n : Nat) : Nat :=
  if n = 0 then 0 else n.log2 + 1

/-- A number below `bound`, taken from the next bits that make one.  Each attempt
succeeds more often than not, so the attempts never run out in practice; if they
did, the remainder of the last one would stand in. -/
def below (bound : Nat) : (attempts : Nat) → Twister → Nat × Twister
  | 0, twister =>
    let (value, rest) := twister.bits (bitCount bound)
    (value % bound, rest)
  | attempts + 1, twister =>
    let (value, rest) := twister.bits (bitCount bound)
    if value < bound then (value, rest) else below bound attempts rest

theorem below_lt {bound : Nat} (positive : 1 ≤ bound) (attempts : Nat)
    (twister : Twister) : (below bound attempts twister).1 < bound := by
  induction attempts generalizing twister with
  | zero => exact Nat.mod_lt _ positive
  | succ attempts ih =>
    simp only [below]
    split
    · assumption
    · exact ih _

def draw (sides : Nat) (twister : Twister) : Option (Nat × Twister) :=
  let (value, rest) := below sides 1000 twister
  some (1 + value, rest)

instance : DiceSource Twister where
  draw := draw
  draw_range {sides _ source _} some_side drawn := by
    have bounded := below_lt some_side 1000 source
    simp only [draw, Option.some.injEq, Prod.mk.injEq] at drawn
    obtain ⟨rfl, _⟩ := drawn
    omega

end Twister

end Skirmish
