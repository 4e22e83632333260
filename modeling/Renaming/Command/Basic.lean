import Renaming.Command.Usage
import Renaming.Model.Kind

/-!
# Commands

What the program can be told to do. Options for the settings file, the server and the model may
stand at every level. The last two have fallbacks in the environment.
-/

namespace Renaming

namespace Command

/-- What becomes of proposals and of the changed model. -/
structure Consent where
  /-- Accept every suggestion without asking. -/
  yes : Bool
  /-- Save the model even if the settings do not say so. -/
  save : Bool
deriving DecidableEq, Repr, Inhabited

inductive Action where
  /-- Ask for names of the entities of a kind, all of them or those that have a name. -/
  | suggest (file : String) (kind : Kind) (name : Option String) (consent : Consent)
  /-- Review all names of a module. -/
  | analyze (file : String) (consent : Consent)
  | render (file : String)
  | showSettings
  | changeSetting (key value : String)
  | showSettingsPath
deriving DecidableEq, Repr

end Command

/-- A command and the settings for one run. -/
structure Command where
  /-- The settings file, unless it is the usual one. -/
  settingsPath : Option String
  server : Option String
  model : Option String
  action : Command.Action
deriving DecidableEq, Repr

/-- What surrounds a run besides its arguments. -/
structure Environment where
  server : Option String
  model : Option String
  /-- Where programs keep their settings. -/
  settingsDirectory : Option String
deriving DecidableEq, Repr, Inhabited

namespace Command

/-! ## The grammar -/

def anyText (_ : String) : Option Usage := none

def pathRefusal? (text : String) : Option Usage := if text.isEmpty then some .missingValue else none

def knownKinds : String := ", ".intercalate (Kind.all.map Kind.tag)

def kindRefusal? (tag : String) : Option Usage :=
  if (Kind.parse? tag).isSome then none
  else some (.invalidValue ("unknown kind '" ++ tag ++ "' (expected one of: " ++ knownKinds ++ ")"))

def helpRule : Rule := ⟨"help", some 'h', .help, none⟩

def pathOperand : Rule := ⟨"FILE", none, .value pathRefusal?, none⟩

/-- The options that every level has. -/
def commonRules (e : Environment) : List Rule := [
  ⟨"config", none, .value pathRefusal?, none⟩,
  ⟨"server", none, .value anyText, e.server⟩,
  ⟨"model", none, .value anyText, e.model⟩,
  helpRule]

def consentRules : List Rule := [⟨"yes", some 'y', .flag, none⟩, ⟨"save", none, .flag, none⟩]

def settingsGrammar (e : Environment) : Grammar :=
  .level (commonRules e) [] [
    ("show", .level (commonRules e) [] []),
    ("set", .level (commonRules e)
      [⟨"KEY", none, .value anyText, none⟩, ⟨"VALUE", none, .value anyText, none⟩] []),
    ("path", .level (commonRules e) [] [])]

def grammar (e : Environment) : Grammar :=
  .level (commonRules e ++ [⟨"version", some 'V', .version, none⟩]) [] [
    ("suggest", .level
      (commonRules e ++ consentRules ++
        [⟨"kind", some 'k', .value kindRefusal?, none⟩, ⟨"name", some 'n', .value anyText, none⟩])
      [pathOperand] []),
    ("analyze", .level (commonRules e ++ consentRules) [pathOperand] []),
    ("render", .level (commonRules e) [pathOperand] []),
    ("config", settingsGrammar e)]

/-! ## Reading -/

def consentOf (m : Matched) : Consent := ⟨(m.get? "yes").isSome, (m.get? "save").isSome⟩

/-- Without a kind suggestions are for methods. -/
def kindOf (m : Matched) : Kind := ((m.get? "kind").bind Kind.parse?).getD .method

def actionOf? (m : Matched) : Option Action :=
  match m.commands with
  | ["suggest"] => (m.get? "FILE").map fun file =>
    .suggest file (kindOf m) (m.get? "name") (consentOf m)
  | ["analyze"] => (m.get? "FILE").map fun file => .analyze file (consentOf m)
  | ["render"] => (m.get? "FILE").map .render
  | ["config", "show"] => some .showSettings
  | ["config", "set"] => do return .changeSetting (← m.get? "KEY") (← m.get? "VALUE")
  | ["config", "path"] => some .showSettingsPath
  | _ => none

/-- The command that arguments stand for. -/
def ofArguments (e : Environment) (arguments : List String) : Except Usage Command := do
  let m ← matchArguments (grammar e) arguments
  match actionOf? m with
  | some action =>
    return ⟨m.get? "config", (m.get? "server").or e.server, (m.get? "model").or e.model, action⟩
  | none => throw .missingCommand

end Command

end Renaming
