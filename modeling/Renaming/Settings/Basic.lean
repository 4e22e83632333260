import Renaming.Decimal.Reader
import Renaming.Files.Error
import Renaming.Text.Blank
import Renaming.Url.Reader

/-!
# Settings

How the server is reached and what becomes of a changed model. Settings are changed one at a time,
by key and text, and a text that does not fit leaves them as they are.
-/

namespace Renaming

structure Settings where
  server : String
  model : String
  /-- Changed models are saved without being asked to. -/
  autoSave : Bool
  /-- A model file is copied before it is first overwritten. -/
  backup : Bool
  /-- The temperature of rename requests. -/
  temperature : Float
  /-- Requests that may be under way at one time. -/
  maxConcurrent : Nat
deriving Repr

/-- What goes wrong with settings. -/
inductive SettingsError where
  | file (path : String) (error : FileError)
  /-- The file does not hold settings. -/
  | invalidFile
  /-- There is no directory for settings. -/
  | noDirectory
  | unknownKey (key : String)
  | invalidValue (key value : String)
deriving DecidableEq, Repr, Inhabited

def SettingsError.message : SettingsError → String
  | file path error => "Failed to access config file " ++ path ++ ": " ++ error.message
  | invalidFile => "Invalid config file"
  | noDirectory => "Could not determine config directory"
  | unknownKey key => "Unknown setting '" ++ key ++ "'"
  | invalidValue key value => "Invalid value '" ++ value ++ "' for " ++ key

namespace Settings

def standard : Settings where
  server := "http://localhost:11434"
  model := "codellama:7b"
  autoSave := false
  backup := true
  temperature := 0.3
  maxConcurrent := 2

instance : Inhabited Settings := ⟨standard⟩

/-- Settings with another server or model for one run. -/
def override (s : Settings) (server model : Option String) : Settings :=
  { s with server := server.getD s.server, model := model.getD s.model }

/-! ## Changing -/

inductive Key where
  | server
  | model
  | autoSave
  | backup
  | temperature
  | maxConcurrent
deriving DecidableEq, Repr, Inhabited

def Key.name : Key → String
  | server => "ollamaServer"
  | model => "model"
  | autoSave => "autoSaveChanges"
  | backup => "createBackup"
  | temperature => "temperature"
  | maxConcurrent => "maxConcurrentRequests"

def Key.ofName? : String → Option Key
  | "ollamaServer" => some server
  | "model" => some model
  | "autoSaveChanges" => some autoSave
  | "createBackup" => some backup
  | "temperature" => some temperature
  | "maxConcurrentRequests" => some maxConcurrent
  | _ => none

def isTemperature (t : Float) : Bool := 0 ≤ t && t ≤ 2

variable {α : Type}

/-- Writes what was read of the text of a setting. -/
def store (key value : String) (read : Option α) (write : α → Settings → Settings) :
    EStateM SettingsError Settings Unit :=
  match read with
  | none => throw (.invalidValue key value)
  | some a => modify (write a)

/-- One setting, changed in place. -/
def assign [Url.DomainRules] (key value : String) : EStateM SettingsError Settings Unit :=
  match Key.ofName? key with
  | none => throw (.unknownKey key)
  | some .server =>
    store key value ((Url.ofText? value).map fun _ => value) fun server s => { s with server }
  | some .model =>
    store key value ((some (Text.trim value)).filter (!·.isEmpty)) fun model s => { s with model }
  | some .autoSave => store key value (Decimal.bool? value) fun autoSave s => { s with autoSave }
  | some .backup => store key value (Decimal.bool? value) fun backup s => { s with backup }
  | some .temperature =>
    store key value ((Decimal.float? value).filter isTemperature) fun temperature s =>
      { s with temperature }
  | some .maxConcurrent =>
    store key value ((Decimal.count? value).filter (· != 0)) fun maxConcurrent s =>
      { s with maxConcurrent }

/-- The settings after a change that succeeds. -/
def set [Url.DomainRules] (s : Settings) (key value : String) : Except SettingsError Settings :=
  match (assign key value).run s with
  | .ok _ s' => .ok s'
  | .error e _ => .error e

end Settings

end Renaming
