import Renaming.Files.Write
import Renaming.Json.Decode
import Renaming.Json.Printer
import Renaming.Settings.Basic
import Renaming.Warned

/-!
# Settings files

Settings are stored as a JSON object in which every key may be missing. A missing file stands for
the standard settings.
-/

namespace Renaming

namespace Settings

open Json

/-! ## JSON -/

def json (s : Settings) : Json :=
  record [("ollamaServer", text s.server), ("model", text s.model),
    ("autoSaveChanges", .bool s.autoSave), ("createBackup", .bool s.backup),
    ("temperature", .float s.temperature), ("maxConcurrentRequests", natural s.maxConcurrent)]

def ofJson? (value : Json) : Option Settings :=
  match record? ["ollamaServer", "model", "autoSaveChanges", "createBackup", "temperature",
      "maxConcurrentRequests"] value with
  | some [server, model, autoSave, backup, temperature, maxConcurrent] => do
    return {
      server := ← server.withDefault standard.server text?
      model := ← model.withDefault standard.model text?
      autoSave := ← autoSave.withDefault standard.autoSave bool?
      backup := ← backup.withDefault standard.backup bool?
      temperature := ← temperature.withDefault standard.temperature float?
      maxConcurrent := ← maxConcurrent.withDefault standard.maxConcurrent natural? }
  | _ => none

def fileText (s : Settings) : String := s.json.pretty

/-! ## Files -/

/-- Where settings are kept if no other place is given. -/
def defaultPath (directory : String) : String :=
  Files.join (Files.join directory "decomp-rename") "config.json"

def load (d : Disk) (path : String) : Except SettingsError Settings :=
  if !d.exists? path then .ok standard
  else match d.readText path with
    | .error e => .error (.file path e)
    | .ok text =>
      match decode? ofJson? text with
      | some s => .ok s
      | none => .error .invalidFile

/-- The settings of a file, or the standard ones and a warning if they cannot be loaded. -/
def loadOrStandard (d : Disk) (path : String) : Warned Settings :=
  match load d path with
  | .ok s => .silent s
  | .error e => ⟨standard, [e.message ++ "; using default settings"]⟩

def save (s : Settings) (path : String) : ExceptT SettingsError (StateM Disk) Unit :=
  (Disk.atomicWrite path s.fileText.toUTF8).adapt (.file path)

/-- Settings in use, after an attempt to read them anew. -/
def reload (s : Settings) (d : Disk) (path : String) : Settings × Except SettingsError Unit :=
  match load d path with
  | .ok s => (s, .ok ())
  | .error e => (s, .error e)

end Settings

end Renaming
