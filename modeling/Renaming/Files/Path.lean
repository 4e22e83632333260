import Renaming.Text.Split

/-!
# Paths of files

A path is a text with slashes between its parts. Parts without text do not count, and neither does a
dot, except in front of a relative path.
-/

namespace Renaming.Files

/-- All that stands between slashes, dots as well. -/
def steps (path : String) : List String :=
  ((Text.splitAt (· == '/') path.toList).filter fun piece => !piece.isEmpty).map String.ofList

def isAbsolute (path : String) : Bool := path.toList.head? == some '/'

def endsInSlash (path : String) : Bool := path.toList.getLast? == some '/'

def parts (path : String) : List String :=
  match isAbsolute path, steps path with
  | false, "." :: steps => "." :: steps.filter (· != ".")
  | _, steps => steps.filter (· != ".")

/-- The last part, if it is a name. -/
def name? (path : String) : Option String :=
  match (parts path).getLast? with
  | some "." | some ".." | none => none
  | some name => some name

/-- The directory that the last part is in. -/
def parent (path : String) : String :=
  let before := String.intercalate "/" (parts path).dropLast
  if isAbsolute path && !(parts path).isEmpty then "/" ++ before
  else if before.isEmpty then "."
  else before

def join (directory name : String) : String :=
  if endsInSlash directory then directory ++ name else directory ++ "/" ++ name

/-- Where the first version of a file is kept. -/
def backupPath (path : String) : String := path ++ ".bak"

/-- Where a file is written before it takes the place of the one at `path`. -/
def temporaryPath (path : String) (run : Nat) : String :=
  join (parent path) ("." ++ (name? path).getD "file" ++ ".tmp." ++ toString run)

end Renaming.Files
