import Renaming.Text.CaseTable

/-!
# Lower case

A text is put into lower case one character after another. The other small form of the sigma, which
Unicode has for the end of a word, is left out: what is put into lower case is compared with words
of ASCII letters only, and those a text with a sigma does not give in either form.
-/

namespace Renaming.Text

/-- What becomes of a capital beyond ASCII, none if it is no capital or has no small form of one
character. -/
def smallForm? (n : Nat) : Option Nat :=
  if capitalPairs.any fun (first, last) => first ≤ n && n ≤ last && (n - first) % 2 == 0 then
    some (n + 1)
  else (capitalRuns.find? fun (first, last, _) => first ≤ n && n ≤ last).map
    fun (first, _, image) => image + (n - first)

/-- The small form of a character. A capital I with a dot keeps the dot as a mark. -/
def lowerChar (c : Char) : List Char :=
  if c.toNat < 0x80 then [c.toLower]
  else if c == '\u0130' then ['i', '\u0307']
  else match smallForm? c.toNat with
    | some n => [Char.ofNat n]
    | none => [c]

/-- The text in lower case, but for the sigma at the end of a word, which becomes a common one. -/
def lower (cs : List Char) : List Char := cs.flatMap lowerChar

end Renaming.Text
