/-!
# Vocabularies

Many fields of the rulebook admit a handful of words only.  Each such field has
a type of its own with one constructor per word.
-/

namespace Skirmish

/-- A type whose values are written as words from a fixed list. -/
class Vocabulary (α : Type) where
  /-- All values, in the order in which they are listed. -/
  all : List α
  /-- The written word of a value. -/
  word : α → String

namespace Vocabulary

/-- The value that a word stands for. -/
def ofWord? {α : Type} [Vocabulary α] (text : String) : Option α :=
  (all : List α).find? (word · == text)

def words (α : Type) [Vocabulary α] : List String :=
  (all : List α).map word

end Vocabulary

end Skirmish
