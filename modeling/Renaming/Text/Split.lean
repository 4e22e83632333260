/-!
# Splitting
-/

namespace Renaming.Text

/-- The parts between the characters of a kind. Without such a character the text is one part. -/
def splitAt (isMark : Char → Bool) : List Char → List (List Char)
  | [] => [[]]
  | c :: cs =>
    if isMark c then [] :: splitAt isMark cs
    else match splitAt isMark cs with
      | part :: parts => (c :: part) :: parts
      | [] => [[c]]

end Renaming.Text
