import Renaming.Url.Percent

/-!
# Paths

A path is a list of segments. While it is read, segments of dots are carried out: one dot stays
where it is, two dots drop the segment before. The drive letter of a file path is never dropped.
-/

namespace Renaming.Url

/-- The segment stays where it is. -/
def isDot (segment : List Char) : Bool :=
  [".", "%2e"].contains (String.ofList (segment.map Char.toLower))

/-- The segment drops the one before it. -/
def isDoubleDot (segment : List Char) : Bool :=
  ["..", ".%2e", "%2e.", "%2e%2e"].contains (String.ofList (segment.map Char.toLower))

/-- A letter with a colon or a bar. -/
def isDriveLetter : List Char → Bool
  | [letter, mark] => letter.isAlpha && (mark == ':' || mark == '|')
  | _ => false

/-- The segments without the last one. -/
def dropSegment (isFile : Bool) (path : List String) : List String :=
  match path with
  | [drive] => if isFile && isDriveLetter drive.toList then path else []
  | _ => path.dropLast

/-- The text of an ordinary segment. At the start of a file path a drive letter gets its colon. -/
def segmentText (isFile : Bool) (path : List String) (segment : List Char) : String :=
  match segment with
  | [letter, _] =>
    if isFile && path.isEmpty && isDriveLetter segment then String.ofList [letter, ':']
    else String.ofList (percentEncode encodedInPath segment)
  | _ => String.ofList (percentEncode encodedInPath segment)

def addSegment (isFile isLast : Bool) (path : List String) (segment : List Char) : List String :=
  let ending := if isLast then [""] else []
  if isDoubleDot segment then dropSegment isFile path ++ ending
  else if isDot segment then path ++ ending
  else path ++ [segmentText isFile path segment]

/-- Adds the segments one after another. -/
def addSegments (isFile : Bool) (path : List String) : List (List Char) → List String
  | [] => path
  | [segment] => addSegment isFile true path segment
  | segment :: segments => addSegments isFile (addSegment isFile false path segment) segments

/-- A file path has no empty segments in front of others. -/
def dropEmpty : List String → List String
  | "" :: segment :: segments => dropEmpty (segment :: segments)
  | segments => segments

end Renaming.Url
