import Renaming.Text.WordTable

/-!
# Words

A word boundary is a place with a word character on exactly one side. `findWord` looks for the first
place where a text occurs between two boundaries.
-/

namespace Renaming.Text

def isWordChar (c : Char) : Bool :=
  c.isAlphanum || c == '_' ||
    (c.toNat ≥ 0x80 && wordRanges.any fun (low, high) => low ≤ c.toNat && c.toNat ≤ high)

/-- A word character stands on exactly one side. Beyond the ends of a text there is none. -/
def isBoundary (left right : Option Char) : Bool := left.any isWordChar != right.any isWordChar

/-- The text `word` stands at the start of `rest` between two boundaries. -/
def wordAt (word : List Char) (left : Option Char) (rest : List Char) : Bool :=
  word.isPrefixOf rest && isBoundary left rest.head? &&
    isBoundary ((word.getLast?).or left) (rest.drop word.length).head?

/-- Splits a text, of which `before` has already been read in reverse, at the first place where
`word` stands between two boundaries. -/
def findWordAfter (word before : List Char) : List Char → Option (List Char × List Char)
  | [] => if wordAt word before.head? [] then some (before.reverse, []) else none
  | c :: rest =>
    if wordAt word before.head? (c :: rest) then some (before.reverse, c :: rest)
    else findWordAfter word (c :: before) rest

def findWord (word text : List Char) : Option (List Char × List Char) := findWordAfter word [] text

end Renaming.Text
