import Skirmish.Text.Point
import Skirmish.Text.Printable

/-!
# Quoted text

A message shows a text between quotes: single ones, unless the text holds a
single quote and no double one.  The backslash, the quote in use and the three
common controls take a backslash; any other character without a printed form, and
half of a pair of code units, is written by its code point in two, four or eight
hexadecimal digits.
-/

namespace Skirmish.Text

def escapeChar (c : Char) : List Char :=
  let code := c.toNat
  if code < 0x100 then '\\' :: 'x' :: hexadecimal 2 code
  else if code < 0x10000 then '\\' :: 'u' :: hexadecimal 4 code
  else '\\' :: 'U' :: hexadecimal 8 code

/-- The written form of one character between quotes of the kind `quote`. -/
def quoteChar (quote c : Char) : List Char :=
  if c = quote || c = '\\' then ['\\', c]
  else if c = '\n' then ['\\', 'n']
  else if c = '\r' then ['\\', 'r']
  else if c = '\t' then ['\\', 't']
  else if isPrintable c then [c]
  else escapeChar c

/-- The quote that surrounds a text. -/
def quoteFor (chars : List Char) : Char :=
  if chars.contains '\'' && !chars.contains '"' then '"' else '\''

/-- A text between quotes, as messages show it. -/
def quoted (text : String) : String :=
  let quote := quoteFor text.toList
  String.ofList ([quote] ++ spell escapeHalf (quoteChar quote) text ++ [quote])

end Skirmish.Text
