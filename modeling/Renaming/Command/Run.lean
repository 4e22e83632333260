import Renaming.Command.Basic
import Renaming.Command.Review
import Renaming.Model.File
import Renaming.Plan.Queue
import Renaming.Server.Client
import Renaming.Settings.File

/-!
# Running commands

A command reads its files, asks the server if it has to, and prints. It writes the model only after
a session with changes, and the settings only if one of them is changed.
-/

namespace Renaming

/-- What a command printed and logged. It failed if there are errors, the outermost first. -/
structure Printout where
  text : String
  warnings : List String
  errors : List String
deriving DecidableEq, Repr, Inhabited

namespace Printout

def ofText (text : String) : Printout := ⟨text, [], []⟩

def ofErrors (errors : List String) : Printout := ⟨"", [], errors⟩

def append (p p' : Printout) : Printout :=
  ⟨p.text ++ p'.text, p.warnings ++ p'.warnings, p.errors ++ p'.errors⟩

def exitCode (p : Printout) : Nat := if p.errors.isEmpty then 0 else 1

end Printout

/-- What a command works on: the disk and whatever the transport remembers. -/
structure World (σ : Type) where
  disk : Disk
  network : σ

namespace Command

/-- Work on the disk alone. -/
def onDisk (work : ExceptT ε (StateM Disk) α) : StateM (World σ) (Except ε α) := do
  let w ← get
  let (result, disk) := work.run w.disk
  set { w with disk }
  return result

/-- Work on the network alone. -/
def onNetwork (work : StateM σ α) : StateM (World σ) α := do
  let w ← get
  let (result, network) := work.run w.network
  set { w with network }
  return result

/-! ## Models -/

def loadErrors (file : String) (e : LoadError) : List String :=
  match e with
  | .file cause => ["Failed to load " ++ file, e.message, cause.message]
  | .invalid => ["Failed to load " ++ file, e.message]

def saveErrors (file : String) (e : FileError) : List String :=
  ["Failed to save " ++ file, accessMessage e, e.message]

/-- Why a skipped suggestion was skipped, in words. -/
def reasonText : SkipReason → String
  | .notActionable => "no change"
  | .unsupportedKind => "kind cannot be looked up by name"
  | .notFound => "not found"
  | .rejected details => details

def reportText (r : Report) : String :=
  String.join (r.messages.map line) ++
    String.join (r.outcome.skipped.map fun s =>
      line ("Skipped " ++ s.suggestion.describe ++ ": " ++ reasonText s.reason))

/-- Saves a model after a session with changes, if that is wanted. -/
def saveChanges (s : Settings) (file : String) (consent : Consent) (a : Assembly) (r : Report) :
    StateM (World σ) Printout := do
  if !r.hasChanges then return .ofText ""
  else if s.autoSave || consent.save then
    match ← onDisk (a.save file s.backup) with
    | .ok () => return .ofText (line ("Saved " ++ file))
    | .error e => return .ofErrors (saveErrors file e)
  else return .ofText (line "Changes not saved (pass --save or enable autoSaveChanges)")

/-- A session over all results of some requests. -/
def review (s : Settings) (file : String) (consent : Consent) (a : Assembly)
    (requests : StateM σ (Warned (List Event))) (terminal : Terminal String := .absent) :
    StateM (World σ) Printout := do
  let events ← onNetwork requests
  let (result, printed) :=
    (Session.run (.console consent.yes terminal) a events.value.length events.value).run ""
  let first : Printout := ⟨printed ++ reportText result.report,
    Server.warnings s.server ++ events.warnings ++ result.warnings, []⟩
  return first.append (← saveChanges s file consent result.model result.report)

/-- The live entities of a kind, all of them or those that have a name. -/
def targets (a : Assembly) (kind : Kind) (name : Option String) : List Entity :=
  (a.entities kind).filter fun e => name.all fun name => a.name? e == some name

def noTargets (file : String) (kind : Kind) : Option String → String
  | some name => "No " ++ kind.tag ++ " named '" ++ name ++ "' in " ++ file
  | none => "No " ++ kind.tag ++ " entities in " ++ file

/-- Loads a model and goes on with it. -/
def withModel (file : String) (work : Assembly → StateM (World σ) Printout) :
    StateM (World σ) Printout := do
  match Assembly.load (← get).disk file with
  | .ok a => work a
  | .error e => return .ofErrors (loadErrors file e)

def suggest (transport : Http.Transport σ) (s : Settings) (file : String) (kind : Kind)
    (name : Option String) (consent : Consent) (terminal : Terminal String := .absent) :
    StateM (World σ) Printout :=
  withModel file fun a =>
    let targets := targets a kind name
    if targets.isEmpty then return .ofErrors [noTargets file kind name]
    else match targets.mapM a.request with
      | .ok requests =>
        review s file consent a (planAll (Server.oracle transport s) requests) terminal
      | .error e => return .ofErrors [e.message]

def analyze (transport : Http.Transport σ) (s : Settings) (file : String) (consent : Consent)
    (terminal : Terminal String := .absent) : StateM (World σ) Printout :=
  withModel file fun a =>
    review s file consent a (reviewModule (Server.oracle transport s) a.code) terminal

def render (file : String) : StateM (World σ) Printout :=
  withModel file fun a => return .ofText a.code

/-! ## Settings -/

def showSettings (path : String) (s : Settings) : Printout :=
  .ofText (line ("# " ++ path) ++ line s.fileText)

/-- Changes one setting in the file. If the file cannot be written there is only a warning. -/
def changeSetting (path key value : String) : StateM (World σ) Printout := do
  let loaded := Settings.loadOrStandard (← get).disk path
  match loaded.value.set key value with
  | .error e => return ⟨"", loaded.warnings, [e.message]⟩
  | .ok s =>
    match ← onDisk (s.save path) with
    | .ok () => return ⟨line ("Set " ++ key ++ " = " ++ value), loaded.warnings, []⟩
    | .error e => return ⟨"", loaded.warnings ++ ["Settings not saved: " ++ e.message], []⟩

/-! ## Commands -/

/-- Goes on with the settings of a file and those for this run. -/
def withSettings (c : Command) (path : String) (work : Settings → StateM (World σ) Printout) :
    StateM (World σ) Printout := do
  let loaded := Settings.loadOrStandard (← get).disk path
  let p ← work (loaded.value.override c.server c.model)
  return { p with warnings := loaded.warnings ++ p.warnings }

def runWith (transport : Http.Transport σ) (c : Command) (path : String)
    (terminal : Terminal String := .absent) : StateM (World σ) Printout :=
  match c.action with
  | .suggest file kind name consent =>
    c.withSettings path fun s => suggest transport s file kind name consent terminal
  | .analyze file consent => c.withSettings path fun s => analyze transport s file consent terminal
  | .render file => render file
  | .showSettings => c.withSettings path fun s => return showSettings path s
  | .changeSetting key value => changeSetting path key value
  | .showSettingsPath => return .ofText (line path)

/-- Runs a command. Without a settings file there has to be a directory for one. -/
def run (transport : Http.Transport σ) (e : Environment) (c : Command)
    (terminal : Terminal String := .absent) : StateM (World σ) Printout :=
  match c.settingsPath.or (e.settingsDirectory.map Settings.defaultPath) with
  | some path => c.runWith transport path terminal
  | none => return .ofErrors [SettingsError.noDirectory.message]

end Command

end Renaming
