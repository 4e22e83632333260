import Renaming.Files.Error
import Renaming.Files.Path

/-!
# Disks

A disk holds files and directories. They are found by the names of the directories above them, from
the root on. Paths are followed part by part from the root or from the current directory.
-/

namespace Renaming

/-- What stands under a name. -/
inductive Node where
  | file (content : ByteArray)
  | directory
deriving Inhabited

instance : DecidableEq Node
  | .file content, .file content' =>
    match ByteArray.instDecidableEq content content' with
    | isTrue h => isTrue (congrArg Node.file h)
    | isFalse h => isFalse fun hfile => h (Node.file.inj hfile)
  | .directory, .directory => isTrue rfl
  | .file _, .directory | .directory, .file _ => isFalse nofun

namespace Files

/-- The steps of writing and copying files at which something may go wrong. -/
inductive Step where
  | createParent
  | openTemporary
  | write
  | sync
  | rename
  | removeTemporary
  | syncParent
  | copy
deriving DecidableEq, Repr, Inhabited

/-- What happens at a step instead of its success, after some directories or bytes were done. -/
structure Incident where
  error : FileError
  amount : Nat
deriving DecidableEq, Repr, Inhabited

end Files

open Files

structure Disk where
  entries : List (List String × Node)
  /-- The current directory. -/
  here : List String
  /-- The number of this run, which the names of temporary files hold. -/
  run : Nat
  incident? : Step → Option Incident

namespace Disk

/-! ## Entries -/

/-- What stands at a place. The root is always a directory. -/
def get? (d : Disk) (place : List String) : Option Node :=
  if place.isEmpty then some .directory else (d.entries.find? (·.1 == place)).map (·.2)

def put (d : Disk) (place : List String) (node : Node) : Disk :=
  { d with entries := (place, node) :: d.entries.filter (·.1 != place) }

def erase (d : Disk) (place : List String) : Disk :=
  { d with entries := d.entries.filter (·.1 != place) }

/-- The disk with directories at all these places. -/
def putDirectories (d : Disk) (places : List (List String)) : Disk :=
  places.foldl (fun d place => d.put place .directory) d

/-- An empty disk with the given current directory, on which nothing goes wrong. -/
def empty (here : List String) (run : Nat) : Disk :=
  let d : Disk := ⟨[], here, run, fun _ => none⟩
  d.putDirectories ((List.range here.length).map fun n => here.take (n + 1))

/-! ## Following paths -/

def nameLimit : Nat := 255

def pathLimit : Nat := 4096

/-- The directory at the end of some steps. -/
def enter (d : Disk) (place : List String) : List String → Except FileError (List String)
  | [] => .ok place
  | "." :: steps => enter d place steps
  | ".." :: steps => enter d place.dropLast steps
  | name :: steps =>
    if nameLimit < name.utf8ByteSize then .error .nameTooLong
    else match d.get? (place ++ [name]) with
      | some .directory => enter d (place ++ [name]) steps
      | some (.file _) => .error .notADirectory
      | none => .error .notFound

/-- Where a path leads. -/
structure Target where
  directory : List String
  /-- None if the path leads to the directory itself. -/
  name : Option String
  /-- A slash follows the name. -/
  slash : Bool

/-- Characters and lengths that a path may not have. -/
def refusal? (path : String) : Option FileError :=
  if path.toList.contains '\x00' then some .holdsNul
  else if path.isEmpty then some .notFound
  else if pathLimit ≤ path.utf8ByteSize then some .nameTooLong
  else none

def target (d : Disk) (path : String) : Except FileError Target :=
  match refusal? path with
  | some e => .error e
  | none => do
    let start := if isAbsolute path then [] else d.here
    let steps := steps path
    let directory ← d.enter start steps.dropLast
    match steps.getLast? with
    | none | some "." => return ⟨directory, none, false⟩
    | some ".." => return ⟨directory.dropLast, none, false⟩
    | some name =>
      if nameLimit < name.utf8ByteSize then throw .nameTooLong
      else return ⟨directory, some name, endsInSlash path⟩

/-- What a path leads to. -/
def node (d : Disk) (path : String) : Except FileError Node := do
  let t ← d.target path
  match t.name with
  | none => return .directory
  | some name =>
    match d.get? (t.directory ++ [name]) with
    | none => throw .notFound
    | some (.file content) => if t.slash then throw .notADirectory else return .file content
    | some .directory => return .directory

def exists? (d : Disk) (path : String) : Bool := (d.node path).toBool

/-! ## Reading -/

def read (d : Disk) (path : String) : Except FileError ByteArray := do
  match ← d.node path with
  | .file content => return content
  | .directory => throw .isADirectory

def readText (d : Disk) (path : String) : Except FileError String := do
  match String.fromUTF8? (← d.read path) with
  | some text => return text
  | none => throw .notText

/-! ## Places to write to -/

/-- The place of a file that is opened for writing. -/
def placeToOpen (d : Disk) (path : String) : Except FileError (List String) := do
  let t ← d.target path
  match t.name with
  | none => throw .isADirectory
  | some name =>
    if t.slash || d.get? (t.directory ++ [name]) == some .directory then throw .isADirectory
    else return t.directory ++ [name]

/-- The place that a file can be moved to. -/
def placeToReplace (d : Disk) (path : String) : Except FileError (List String) := do
  let t ← d.target path
  match t.name with
  | none => throw .busy
  | some name =>
    if t.slash then throw .notADirectory
    else if d.get? (t.directory ++ [name]) == some .directory then throw .isADirectory
    else return t.directory ++ [name]

/-- The directories that are missing along some steps, and what ends the steps early. -/
def missing (d : Disk) (place : List String) : List String → List (List String) × Option FileError
  | [] => ([], none)
  | "." :: steps => missing d place steps
  | ".." :: steps => missing d place.dropLast steps
  | name :: steps =>
    if nameLimit < name.utf8ByteSize then ([], some .nameTooLong)
    else match d.get? (place ++ [name]) with
      | some .directory => missing d (place ++ [name]) steps
      | some (.file _) => ([], some .notADirectory)
      | none =>
        let (places, e) := missing d (place ++ [name]) steps
        ((place ++ [name]) :: places, e)

/-- The directories that are missing for a path to be one. -/
def missingFor (d : Disk) (path : String) : List (List String) × Option FileError :=
  match refusal? path with
  | some e => ([], some e)
  | none => d.missing (if isAbsolute path then [] else d.here) (steps path)

end Disk

end Renaming
