import Renaming.Text.Blank
import Renaming.Text.Lines

/-!
# The name in an answer

A language model asked for one name may wrap it in backticks and blanks and add more lines.
-/

namespace Renaming.Answer

/-- The first line that is left once backticks and the blanks around the whole are gone. -/
def nameChars (answer : List Char) : List Char :=
  Text.trimBoth (Text.firstLine (Text.trimBoth (answer.filter (· != '\x60'))))

def name (answer : String) : String := String.ofList (nameChars answer.toList)

end Renaming.Answer
