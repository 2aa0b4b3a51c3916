/-!
# Blanks

Blanks separate words.  The blank characters are the spaces of every script,
the line and paragraph separators, and the controls from tab to carriage return
and from file separator to unit separator.  Numbers written as text are trimmed
by the smaller set that leaves out those last four separators.
-/

namespace Skirmish.Text

/-- A white-space character of any script. -/
def isWhiteSpace (c : Char) : Bool :=
  let code := c.toNat
  (9 ≤ code && code ≤ 13) || code == 0x20 || code == 0x85 || code == 0xa0 ||
    code == 0x1680 || (0x2000 ≤ code && code ≤ 0x200a) || code == 0x2028 ||
    code == 0x2029 || code == 0x202f || code == 0x205f || code == 0x3000

/-- A character that separates words: white space, or one of the four
information separators. -/
def isBlank (c : Char) : Bool :=
  isWhiteSpace c || (0x1c ≤ c.toNat && c.toNat ≤ 0x1f)

/-- What is left of `chars` without the leading and trailing characters that
satisfy `drop`. -/
def trimBy (drop : Char → Bool) (chars : List Char) : List Char :=
  ((chars.dropWhile drop).reverse.dropWhile drop).reverse

def trim (chars : List Char) : List Char :=
  trimBy isBlank chars

/-- The words of `chars`, where `current` holds the part of a word already
read, its last character first. -/
def wordsFrom (current : List Char) : List Char → List (List Char)
  | [] => if current.isEmpty then [] else [current.reverse]
  | c :: rest =>
    if isBlank c then
      if current.isEmpty then wordsFrom [] rest
      else current.reverse :: wordsFrom [] rest
    else
      wordsFrom (c :: current) rest

/-- The maximal runs of characters that are not blank. -/
def words (chars : List Char) : List (List Char) :=
  wordsFrom [] chars

end Skirmish.Text
