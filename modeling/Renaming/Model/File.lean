import Renaming.Files.Write
import Renaming.Model.Format

/-!
# Model files
-/

namespace Renaming

/-- Why a model could not be loaded. -/
inductive LoadError where
  | file (error : FileError)
  /-- The text is not the JSON of a model. -/
  | invalid
deriving DecidableEq, Repr, Inhabited

def accessMessage (e : FileError) : String := "Failed to access model file: " ++ e.message

def LoadError.message : LoadError → String
  | file e => accessMessage e
  | invalid => "Invalid model file"

namespace Assembly

def load (d : Disk) (path : String) : Except LoadError Assembly :=
  match d.readText path with
  | .error e => .error (.file e)
  | .ok text =>
    match ofText? text with
    | some a => .ok a
    | none => .error .invalid

/-- Writes the model, after a backup of the file that was there before if one is asked for. -/
def save (a : Assembly) (path : String) (backup : Bool) : DiskM Unit := do
  if backup then
    let _ ← Disk.backupOnce path
  Disk.atomicWrite path a.fileText.toUTF8

end Assembly

end Renaming
