/-!
# Lines

A line ends with a line feed, or with a carriage return and a line feed. The text after the last
line feed is a line of its own unless it is empty, and there a carriage return is kept.
-/

namespace Renaming.Text

/-- The line whose characters come in reverse, without the carriage return before its line feed. -/
def endLine : List Char → List Char
  | '\r' :: line => line.reverse
  | line => line.reverse

/-- The lines of a text of which `line` has already been read, in reverse. -/
def linesAfter (line : List Char) : List Char → List (List Char)
  | [] => if line.isEmpty then [] else [line.reverse]
  | '\n' :: rest => endLine line :: linesAfter [] rest
  | c :: rest => linesAfter (c :: line) rest

def linesOf (cs : List Char) : List (List Char) := linesAfter [] cs

def lines (text : String) : List String := (linesOf text.toList).map String.ofList

/-- What comes before the first line feed. -/
def firstLine (cs : List Char) : List Char := cs.takeWhile (· != '\n')

end Renaming.Text
