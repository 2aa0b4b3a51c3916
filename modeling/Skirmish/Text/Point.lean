/-!
# Code points

A text is made of code points.  Most of them are characters, but escapes in a
document may name half of a pair of code units, which is none.  Texts are
therefore kept in a code, in which a character stands for itself, except for one
mark that no language uses.  The mark announces that the next character keeps a
code point: the mark keeps itself, and a half is kept some places further on,
among the characters for private use.
-/

namespace Skirmish.Text

/-- The least number that is no code point. -/
def pointBound : Nat := 0x110000

/-- The first half of a pair of code units. -/
def firstHalf : Nat := 0xd800

/-- The number of halves.  As many places further on a half is kept. -/
def halfCount : Nat := 0x800

/-- A code point is half of a pair of code units. -/
def isHalf (point : Nat) : Bool :=
  firstHalf ≤ point && point < firstHalf + halfCount

/-- The character that announces a kept code point. -/
def mark : Char := '\ufdd0'

/-! ## The code -/

/-- The characters that keep a code point. -/
def codeOf (point : Nat) : List Char :=
  if isHalf point then [mark, Char.ofNat (point + halfCount)]
  else if point = mark.toNat then [mark, mark]
  else [Char.ofNat point]

/-- The code point that a character behind the mark keeps. -/
def markedPoint (c : Char) : Nat :=
  if isHalf (c.toNat - halfCount) then c.toNat - halfCount else c.toNat

/-- The code points that characters keep. -/
def decode : List Char → List Nat
  | [] => []
  | [c] => [c.toNat]
  | c :: next :: rest =>
    if c = mark then markedPoint next :: decode rest else c.toNat :: decode (next :: rest)

def ofPoints (points : List Nat) : String :=
  String.ofList (points.flatMap codeOf)

def points (text : String) : List Nat :=
  decode text.toList

def ofPlain (characters : String) : String :=
  ofPoints (characters.toList.map Char.toNat)

/-- Some of a text's code points are halves. -/
def holdsHalf (text : String) : Bool :=
  (points text).any isHalf

/-! ## Order and size -/

/-- The order of texts: code point by code point. -/
def atMost (first second : String) : Bool :=
  !(points second).lex (points first)

/-- The number of bytes that a code point takes in a file. -/
def pointSize (point : Nat) : Nat :=
  if point < 0x80 then 1 else if point < 0x800 then 2 else if point < 0x10000 then 3 else 4

def size (text : String) : Nat :=
  (points text).foldl (fun bytes point => bytes + pointSize point) 0

/-! ## Halves made readable -/

/-- `code` in lower-case hexadecimal with at least `width` digits. -/
def hexadecimal (width code : Nat) : List Char :=
  let digits := Nat.toDigits 16 code
  List.replicate (width - digits.length) '0' ++ digits

def escapeHalf (half : Nat) : List Char :=
  '\\' :: 'u' :: hexadecimal 4 half

/-- The spelling of a text whose halves and characters are spelled as given. -/
def spell (half : Nat → List Char) (character : Char → List Char) (text : String) :
    List Char :=
  (points text).flatMap fun point =>
    if isHalf point then half point else character (Char.ofNat point)

/-- The characters of a text, with halves as escapes. -/
def plain (text : String) : String :=
  String.ofList (spell escapeHalf ([·]) text)

def escaped (text : String) : String :=
  ofPlain (plain text)

/-- What stands for a half where bytes are taken for characters: each of its three
bytes is none. -/
def lostHalf : List Char := ['\ufffd', '\ufffd', '\ufffd']

/-- The text with its halves lost. -/
def lossy (text : String) : String :=
  ofPlain (String.ofList (spell (fun _ => lostHalf) ([·]) text))

end Skirmish.Text
