import Skirmish.Text.Blank

/-!
# What a screen shows

A message may hold control sequences for a terminal, which are left out where it is
shown: the escape character and an opening bracket, then digits, semicolons and
question marks, and a letter at the end.  A message ends with a line feed and takes
as many lines as its line ends ask for; a carriage return in front of a line feed is
dropped before that.
-/

namespace Skirmish.CommandLine

/-- The character that opens a control sequence. -/
def escapeChar : Char := '\x1b'

def isParameter (c : Char) : Bool :=
  c == ';' || c == '?' || c.isDigit

/-- A character goes on with the part of a control sequence that was met so far, the
last character first. -/
def continuesSequence (met : List Char) (c : Char) : Bool :=
  match met with
  | [] => c == escapeChar
  | [_] => c == '['
  | _ => isParameter c

/-- A character ends the control sequence whose other part was met. -/
def endsSequence (met : List Char) (c : Char) : Bool :=
  1 < met.length && c.isAlpha

/-- The characters without their control sequences, behind the part of a sequence
that was met so far. -/
def withoutSequencesBehind (met : List Char) : List Char → List Char
  | [] => met.reverse
  | c :: rest =>
    if continuesSequence met c then withoutSequencesBehind (c :: met) rest
    else if endsSequence met c then withoutSequencesBehind [] rest
    else if c = escapeChar then met.reverse ++ withoutSequencesBehind [c] rest
    else met.reverse ++ c :: withoutSequencesBehind [] rest

def withoutSequences (chars : List Char) : List Char :=
  withoutSequencesBehind [] chars

def isLineEnd (c : Char) : Bool :=
  let code := c.toNat
  (0x0a ≤ code && code ≤ 0x0d) || (0x1c ≤ code && code ≤ 0x1e) || code == 0x85 ||
    code == 0x2028 || code == 0x2029

/-- The characters without a carriage return in front of a line feed. -/
def withoutReturns : List Char → List Char
  | '\r' :: '\n' :: rest => '\n' :: withoutReturns rest
  | c :: rest => c :: withoutReturns rest
  | [] => []

/-- The lines that characters make up, behind the part of a line that was met so
far, its last character first.  A carriage return and a line feed end one line. -/
def linesBehind (met : List Char) : List Char → List String
  | [] => if met.isEmpty then [] else [String.ofList met.reverse]
  | '\r' :: '\n' :: rest => String.ofList met.reverse :: linesBehind [] rest
  | c :: rest =>
    if isLineEnd c then String.ofList met.reverse :: linesBehind [] rest
    else linesBehind (c :: met) rest

def shownLines (message : String) : List String :=
  linesBehind [] (withoutReturns (withoutSequences message.toList ++ ['\n']))

end Skirmish.CommandLine
