import Skirmish.Text.Blank
import Skirmish.Text.Point
import Skirmish.Value.Basic

/-!
# Tokens of documents

The characters of a document make up tokens, and the tokens make up its value.
Where the characters stop making sense the tokens end with a broken one, so that
of several defects of a document the first one counts.
-/

namespace Skirmish.Value

inductive Defect where
  /-- Its tokens do not make up one value. -/
  | malformed
  /-- Some of its characters do not make up a token. -/
  | brokenToken
  /-- It holds a character that no document of its dialect may hold. -/
  | foreignCharacter
  /-- It names a code point beyond the last one. -/
  | foreignPoint
  /-- Its lists and objects lie too deep within one another. -/
  | tooDeep
  /-- It holds an integer with so many digits, more than a numeral may have. -/
  | oversizedNumeral (digits : Nat)
  deriving DecidableEq, Repr

/-- A token of a document.  A text is kept by its code points, a bare word by its
characters. -/
inductive Token where
  | openList
  | closeList
  | openObject
  | closeObject
  | comma
  | colon
  | text (points : List Nat)
  | word (chars : List Char)
  | broken (defect : Defect)
  deriving DecidableEq, Repr

/-- A place in a document: the number of line breaks and of characters in front
of it. -/
structure Place where
  line : Nat := 0
  offset : Nat := 0
  deriving DecidableEq, Repr

/-- A token with the place where it starts. -/
structure PlacedToken where
  token : Token
  place : Place
  deriving DecidableEq, Repr

def punctuation? (c : Char) : Option Token :=
  match c with
  | '[' => some .openList
  | ']' => some .closeList
  | '\x7b' => some .openObject
  | '\x7d' => some .closeObject
  | ',' => some .comma
  | ':' => some .colon
  | _ => none

/-- The value of a hexadecimal digit. -/
def hexValue? (c : Char) : Option Nat :=
  if '0' ≤ c ∧ c ≤ '9' then some (c.toNat - '0'.toNat)
  else if 'a' ≤ c ∧ c ≤ 'f' then some (c.toNat - 'a'.toNat + 10)
  else if 'A' ≤ c ∧ c ≤ 'F' then some (c.toNat - 'A'.toNat + 10)
  else none

/-! ## Scanning -/

/-- What the next character does to a scanner in a state of type `σ`: it goes on
after some tokens, or breaks off. -/
inductive ScanStep (σ : Type) where
  | go (tokens : List PlacedToken) (state : σ)
  | stop (defect : Defect)

/-- A scanner reads one character at a time; it may look at what follows.  At the
end of the document it finishes with the tokens that are still open. -/
structure Scanner (σ : Type) where
  step : Place → σ → Char → List Char → ScanStep σ
  finish : Place → σ → List PlacedToken
  /-- The character ends a line. -/
  endsLine : Char → Bool

namespace Scanner

variable {σ : Type}

/-- The tokens of characters from a place on, behind those read so far, the latest
of which comes first. -/
def tokensBehind (scanner : Scanner σ) (read : List PlacedToken) (place : Place)
    (state : σ) : List Char → List PlacedToken
  | [] => read.reverse ++ scanner.finish place state
  | c :: rest =>
    match scanner.step place state c rest with
    | .stop defect => read.reverse ++ [⟨.broken defect, place⟩]
    | .go found next =>
      let after : Place :=
        ⟨if scanner.endsLine c then place.line + 1 else place.line, place.offset + 1⟩
      scanner.tokensBehind (found.reverse ++ read) after next rest

def tokens (scanner : Scanner σ) (start : σ) (chars : List Char) : List PlacedToken :=
  scanner.tokensBehind [] {} start chars

end Scanner

end Skirmish.Value
