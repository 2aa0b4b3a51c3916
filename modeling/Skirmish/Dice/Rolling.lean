import Skirmish.Decimal
import Skirmish.Dice.Expression
import Skirmish.Dice.Table
import Skirmish.Rulebook.Effect
import Skirmish.Value.Printer

/-!
# Rolling expressions and tests

A dice expression is rolled term by term from left to right and has a mean.  A
test is one die with six sides, which may be rolled again once; the second face
is final.
-/

namespace Skirmish

variable {σ : Type} [DiceSource σ]

/-! ## Expressions -/

/-- The number of dice that the digits in front of a dice letter ask for; one die
needs no digits. -/
def diceCount (digits : List Char) : Except Fault Nat :=
  if digits.isEmpty then .ok 1 else readNumeral digits

/-- The number that a constant stands for.  With more digits than a numeral may
have it is only the nearest floating number. -/
def constantNumber (digits : List Char) : Number :=
  if Text.isOversized digits then
    .float (DecimalText.toBinary64 ⟨none, digits, none, none⟩)
  else
    .int (Text.numeral digits)

def Term.roll (text : String) : Term → Roll σ Number
  | .constant digits => return constantNumber digits
  | .dice count _ sides => do
    let count ← (diceCount count : Except Fault Nat)
    let size ← (readNumeral sides : Except Fault Nat)
    if size < 1 then
      throw (.dieSize text)
    let total ← Roll.dieSum size count
    Roll.writable [total]
    return .int total

def Term.mean : Term → Except Fault Number
  | .constant digits => .ok (constantNumber digits)
  | .dice count _ sides => do
    let count ← diceCount count
    let size ← readNumeral sides
    match Binary64.ofHalves? (count * (size + 1)) with
    | some mean => return .float mean
    | none => throw .tooLarge

/-- The signed sum of settled terms.  The settled text must not hold a digit of
another script. -/
def DiceExpression.settled (expression : DiceExpression) (values : List Number) :
    Except Fault Number :=
  let text := settle expression.pieces (values.map fun value => value.text.toList)
  match foreignDigitAt? text with
  | some column => .error (.foreignDigit column (String.ofList text))
  | none =>
    match total? ((expression.terms.map (·.negative)).zip values) with
    | some total => .ok total
    | none => .error .tooLarge

/-- The integer part of a sum, which has to have one. -/
def wholeTotal (total : Number) : Except Fault Int :=
  if total = .float .nan then .error .notANumber
  else
    match total.truncate? with
    | some n => .ok n
    | none => .error .tooLarge

def rollText (text : String) : Roll σ Int := do
  match DiceExpression.read? text with
  | none => throw (.malformedDice (Text.quoted text))
  | some expression =>
    let totals ← expression.terms.mapM fun signed => signed.term.roll text
    let total ← (expression.settled totals : Except Fault Number)
    (wholeTotal total : Except Fault Int)

/-- The mean of a dice expression.  Dice without sides count as well here, with a
mean of one half. -/
def meanOfText (text : String) : Except Fault Binary64 :=
  match DiceExpression.read? text with
  | none => .error (.malformedDice (Text.quoted text))
  | some expression =>
    match expression.terms.mapM fun signed => signed.term.mean with
    | .error fault => .error fault
    | .ok means =>
      match expression.settled means with
      | .error fault => .error fault
      | .ok total =>
        match total.toFloat? with
        | some mean => .ok mean
        | none => .error .tooLarge

/-- Use a fallback in the place of a dice expression that is malformed or asks for
numbers out of reach, and say so.  The fallback has to be one that can be shown. -/
def orFallback {α : Type} (roll : Roll σ α) (fallback : α) (shown : Except Fault String)
    (what : String) : Roll σ α :=
  tryCatch roll fun fault =>
    if fault.allowsFallback then do
      let shown ← (shown : Except Fault String)
      let reason := fault.message?.getD ""
      Roll.note "Dice" s!"{reason}; {what} falls back to {shown}"
      return fallback
    else
      throw fault

/-- An integer as a line of a trace shows it, unless it has more digits than a numeral
may have. -/
def shownInt (n : Int) : Except Fault String :=
  (writable [n]).map fun _ => toString n

/-- Roll a dice expression, with a fallback for a malformed one. -/
def rollTextOr (text : String) (fallback : Int) (what : String) : Roll σ Int :=
  orFallback (rollText text) fallback (shownInt fallback) what

/-! ## Amounts

An amount is a dice expression or a fixed value, an integer or a truth value, which
stands for itself.  Any other value is a malformed amount. -/

def isDiceAmount : Value → Bool
  | .text s => isDiceText s
  | .int _ | .bool _ => true
  | _ => false

/-- The amount has dice in it, as far as its written form shows. -/
def amountMentionsDice : Value → Bool
  | .text s => mentionsDice s
  | .int _ | .bool _ => false
  | value => mentionsDice value.message

def floatOfInt (n : Int) : Except Fault Binary64 :=
  match Binary64.ofInt? n with
  | some x => .ok x
  | none => .error .tooLarge

def meanOfAmount : Value → Except Fault Binary64
  | .text s => meanOfText s
  | .bool b => floatOfInt (if b then 1 else 0)
  | .int n => floatOfInt n
  | value => .error (.malformedDice value.message)

def rollAmount : Value → Roll σ Value
  | .text s => return .int (← rollText s)
  | .int n => return .int n
  | .bool b => return .bool b
  | value => throw (.malformedDice value.message)

/-- A value as a line of a trace shows it: texts without quotes. -/
def shownValue : Value → String
  | .text s => s
  | value => value.message

/-- An amount as a line of a trace shows it, unless it is an integer that cannot be
written. -/
def shownAmount : Value → Except Fault String
  | .int n => shownInt n
  | amount => .ok (shownValue amount)

def rollAmountOr (amount fallback : Value) (what : String) : Roll σ Value :=
  orFallback (rollAmount amount) fallback (shownAmount fallback) what

/-! ## Tests -/

/-- The rerolls that a test or a damage roll may use.  A word outside the
rulebook may be given as well: it never lets a test be rolled again. -/
inductive Reroll where
  | none
  | granted (kind : RerollKind)
  | other (word : String)
  deriving DecidableEq, Repr

namespace Reroll

def ofKind? : Option RerollKind → Reroll
  | some kind => .granted kind
  | .none => .none

def ofWord? : Option String → Reroll
  | some word =>
    match Vocabulary.ofWord? word with
    | some kind => .granted kind
    | .none => .other word
  | .none => .none

def word? : Reroll → Option String
  | .none => .none
  | .granted kind => some (Vocabulary.word kind)
  | .other word => some word

/-- A face qualifies to be rolled again. -/
def covers (reroll : Reroll) (face : Int) (success : Bool) : Bool :=
  match reroll with
  | .granted .all => true
  | .granted .failed => !success
  | .granted .ones => face == 1
  | .none | .other _ => false

end Reroll

/-- The record of a roll: its final value, the value that a reroll replaced, and
whether it was a critical success. -/
structure RollRecord where
  value : Int
  replaced : Option Int := none
  critical : Bool := false
  deriving DecidableEq, Repr

/-- Roll a test.  A face that qualifies is rolled again once, and the final face
decides whether the test is critical. -/
def rollTest (success : Int → Bool) (reroll : Reroll) (critical : Int) :
    Roll σ RollRecord := do
  let face : Int ← Roll.d6
  if reroll.covers face (success face) then
    let final : Int ← Roll.d6
    return { value := final, replaced := some face, critical := critical ≤ final }
  else
    return { value := face, critical := critical ≤ face }

end Skirmish
