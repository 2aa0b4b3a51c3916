import Skirmish.Number
import Skirmish.Text.Blank
import Skirmish.Text.Digit

/-!
# Dice expressions

A dice expression is a sum of signed terms: whole numbers, and dice such as
`2d6`.  Its digits may belong to any script, and blanks may stand around the
signs and at both ends, but not inside a term.

The text is first split into pieces.  The text is a dice expression when its
pieces, blanks aside, are terms joined by single signs, with an optional sign in
front.
-/

namespace Skirmish

/-- A term of a dice expression: a whole number by its digits, or dice by the
digits of their count, the letter, and the digits of their sides. -/
inductive Term where
  | constant (digits : List Char)
  | dice (count : List Char) (letter : Char) (sides : List Char)
  deriving DecidableEq, Repr

namespace Term

def chars : Term → List Char
  | .constant digits => digits
  | .dice count letter sides => count ++ letter :: sides

end Term

inductive Piece where
  | blank (c : Char)
  | sign (negative : Bool)
  | term (term : Term)
  deriving DecidableEq, Repr

namespace Piece

def chars : Piece → List Char
  | .blank c => [c]
  | .sign negative => [if negative then '-' else '+']
  | .term summand => summand.chars

end Piece

/-- The part of a term that was read so far, with its last digits first. -/
inductive PartialTerm where
  | nothing
  | number (digits : List Char)
  | dice (count : List Char) (letter : Char) (sides : List Char)

/-- The letter that stands between the count and the sides of dice. -/
def isDiceLetter (c : Char) : Bool :=
  c == 'd' || c == 'D'

/-- The pieces that a partial term amounts to when it ends; dice need digits
after their letter. -/
def PartialTerm.finish? : PartialTerm → Option (List Piece)
  | .nothing => some []
  | .number digits => some [.term (.constant digits.reverse)]
  | .dice _ _ [] => none
  | .dice count letter sides => some [.term (.dice count.reverse letter sides.reverse)]

def piecesFrom? (current : PartialTerm) : List Char → Option (List Piece)
  | [] => current.finish?
  | c :: rest =>
    if Text.isDigit c then
      match current with
      | .nothing => piecesFrom? (.number [c]) rest
      | .number digits => piecesFrom? (.number (c :: digits)) rest
      | .dice count letter sides => piecesFrom? (.dice count letter (c :: sides)) rest
    else if isDiceLetter c then
      match current with
      | .number digits => piecesFrom? (.dice digits c []) rest
      | _ => do return (← current.finish?) ++ (← piecesFrom? (.dice [] c []) rest)
    else if c = '+' ∨ c = '-' then
      do return (← current.finish?) ++ .sign (c = '-') :: (← piecesFrom? .nothing rest)
    else if Text.isBlank c then
      do return (← current.finish?) ++ .blank c :: (← piecesFrom? .nothing rest)
    else
      none

structure SignedTerm where
  negative : Bool
  term : Term
  deriving DecidableEq, Repr

/-- The terms that follow the first one: each has a sign in front. -/
def moreTerms? : List Piece → Option (List SignedTerm)
  | [] => some []
  | .sign negative :: .term term :: rest => (moreTerms? rest).map (⟨negative, term⟩ :: ·)
  | _ => none

/-- The signed terms that pieces without blanks make up. -/
def signedTerms? : List Piece → Option (List SignedTerm)
  | .term term :: rest => (moreTerms? rest).map (⟨false, term⟩ :: ·)
  | pieces@(.sign _ :: _) => moreTerms? pieces
  | _ => none

/-- A dice expression: its pieces, and the signed terms that they make up. -/
structure DiceExpression where
  pieces : List Piece
  terms : List SignedTerm
  deriving DecidableEq, Repr

namespace DiceExpression

def isSolid : Piece → Bool
  | .blank _ => false
  | _ => true

def read? (text : String) : Option DiceExpression := do
  let pieces ← piecesFrom? .nothing text.toList
  let terms ← signedTerms? (pieces.filter isSolid)
  return ⟨pieces, terms⟩

/-- The terms' settled values as text put in the places of the dice.  Spaces are
left out, other blanks are kept, and whole numbers stay as they are written. -/
def settle : List Piece → List (List Char) → List Char
  | [], _ => []
  | .term (.constant digits) :: rest, values => digits ++ settle rest (values.drop 1)
  | .term (.dice ..) :: rest, values => values.headD [] ++ settle rest (values.drop 1)
  | .blank c :: rest, values =>
    if c = ' ' then settle rest values else c :: settle rest values
  | piece :: rest, values => piece.chars ++ settle rest values

/-- The digit belongs to a script of its own. -/
def isForeignDigit (c : Char) : Bool :=
  Text.isDigit c && !Text.isCommonDigit c

/-- The place of the first foreign digit. -/
def foreignDigitAt? (chars : List Char) : Option Nat :=
  chars.findIdx? isForeignDigit

/-- The signed sum of settled values, from left to right. -/
def total? (values : List (Bool × Number)) : Option Number :=
  match values with
  | [] => some (.int 0)
  | (negative, first) :: rest =>
    let signed (negative : Bool) (value : Number) := if negative then value.neg else value
    rest.foldlM (fun sum (negative, value) => sum.add? (signed negative value))
      (signed negative first)

end DiceExpression

def isDiceText (text : String) : Bool :=
  (DiceExpression.read? text).isSome

/-- A dice letter followed by a digit. -/
def hasDice : List Char → Bool
  | c :: next :: rest => (isDiceLetter c && Text.isDigit next) || hasDice (next :: rest)
  | _ => false

/-- The text has dice in it, whether or not it is a dice expression. -/
def mentionsDice (text : String) : Bool :=
  hasDice text.toList

end Skirmish
