import Renaming.Command.Run

/-!
# Replays

A run that depends on a machine is repeated until nothing is open: each time it is given the replies
known so far, and what went wrong with its files. The last repetition is the run.
-/

namespace Renaming.Command

/-- What one repetition came to. -/
structure Attempt where
  printout : Printout
  disk : Disk
  /-- The request whose reply is not known yet. -/
  open? : Option Http.Post

/-- The run with the replies known so far. -/
def attempt (e : Environment) (c : Command) (d : Disk) (replies : List Http.Delivery) : Attempt :=
  let (printout, w) := (c.run .scripted e).run ⟨d, ⟨replies, none⟩⟩
  ⟨printout, w.disk, w.network.open?⟩

/-- The disk on which a step goes wrong. -/
def withIncident (d : Disk) (s : Files.Step) (error : FileError) : Disk :=
  { d with incident? := fun s' => if s' == s then some ⟨error, 0⟩ else d.incident? s' }

/-! ## Places -/

/-- The places that a path leads through, and its own. -/
def places (here : List String) (path : String) : List (List String) :=
  let steps := (if Files.isAbsolute path then [] else here) ++ Files.steps path
  let place := steps.foldl (fun place step =>
    if step == "." then place else if step == ".." then place.dropLast else place ++ [step]) []
  (List.range place.length).map fun n => place.take (n + 1)

/-- The model file of a command. -/
def modelFile? (c : Command) : Option String :=
  match c.action with
  | .suggest file _ _ _ | .analyze file _ | .render file => some file
  | _ => none

/-- The places that a command may read or write. -/
def allPlaces (e : Environment) (c : Command) (here : List String) : List (List String) :=
  let settings := (c.settingsPath.or (e.settingsDirectory.map Settings.defaultPath)).toList
  let models := c.modelFile?.toList
  (settings ++ models ++ models.map Files.backupPath).flatMap (places here)

/-- The place is that of a backup. -/
def isBackup (c : Command) (here place : List String) : Bool :=
  c.modelFile?.any fun file => (places here (Files.backupPath file)).getLast? == some place

/-- The files whose content is new, in the order in which they were written. -/
def changes (before after : Disk) : List (List String × ByteArray) :=
  after.entries.reverse.filterMap fun (place, node) =>
    match node with
    | .file content => if before.get? place == some node then none else some (place, content)
    | .directory => none

end Renaming.Command
