import Renaming.Decimal.Fixed
import Renaming.Session

/-!
# Reviewing on a console

What was proposed is printed before it is decided about. Who decides is asked on a terminal. Where a
question fails, as all do without a terminal, nothing is accepted.
-/

namespace Renaming

/-! ## What is printed -/

def line (text : String) : String := text ++ "\n"

def RenamePlan.announcement (p : RenamePlan) : String :=
  line ("\n" ++ p.kind.tag ++ " '" ++ p.currentName ++ "' → '" ++ p.newName ++ "'") ++
    String.join (p.parameterChanges.map fun c => line ("  parameter " ++ c.suggestion.describe))

def Analysis.announcement (a : Analysis) : String :=
  (if a.summary.isEmpty then "" else line ("\n" ++ a.summary)) ++
    line ("Naming score: " ++ Decimal.fixed a.score 1 ++ "/10") ++
    (if a.issues.isEmpty then "" else
      line "Key issues:" ++ String.join (a.issues.map fun issue => line ("  - " ++ issue))) ++
    line (toString a.suggestions.length ++ " suggestion(s)")

/-! ## Questions -/

/-- Asks questions. A question that has no answer fails with a reason. -/
structure Terminal (ρ : Type) where
  /-- The position of one of several choices. -/
  choose (prompt : String) (choices : List String) : ExceptT String (StateM ρ) Nat
  /-- A line of text, which may start from a given one. -/
  edit (prompt initial : String) : ExceptT String (StateM ρ) String
  /-- The positions of any number of items, with those that are proposed. -/
  pick (prompt : String) (items : List (String × Bool)) : ExceptT String (StateM ρ) (List Nat)

namespace Terminal

/-- Nobody can be asked. -/
def absent : Terminal ρ where
  choose _ _ := throw "IO error: not a terminal"
  edit _ _ := throw "IO error: not a terminal"
  pick _ _ := throw "IO error: not a terminal"

variable (terminal : Terminal ρ)

def decision (plan : RenamePlan) : ExceptT String (StateM ρ) Decision := do
  let prompt := "Rename " ++ plan.kind.tag ++ " '" ++ plan.currentName ++ "' to '" ++
    plan.newName ++ "'?"
  match ← terminal.choose prompt ["Accept", "Edit name", "Reject"] with
  | 0 => return .accept plan.newName
  | 1 => return .accept (Text.trim (← terminal.edit "New name" plan.newName))
  | _ => return .reject

/-- A suggestion among others: what it is, how certain, and why. -/
def item (s : Suggestion) : String :=
  s.describe ++ " (" ++ Decimal.fixed (s.confidence * 100) 0 ++ "%)" ++
    (if s.reason.isEmpty then "" else ": " ++ s.reason)

/-- Where there is nothing to choose from nothing is asked. -/
def selection (analysis : Analysis) : ExceptT String (StateM ρ) (List Nat) :=
  if analysis.suggestions.isEmpty then return []
  else terminal.pick "Select renames to apply"
    (analysis.suggestions.map fun s => (item s, s.isActionable))

end Terminal

namespace Reviewer

/-- Prints what there is to decide about. The state is the text printed so far. -/
def announcing (reviewer : Reviewer String) : Reviewer String where
  review plan := do
    modify (· ++ plan.announcement)
    reviewer.review plan
  select analysis := do
    modify (· ++ analysis.announcement)
    reviewer.select analysis

/-- Asks about everything. -/
def prompting (terminal : Terminal ρ) : Reviewer ρ where
  review plan := do
    match ← (terminal.decision plan).run with
    | .ok decision => return .silent decision
    | .error e => return ⟨.reject, ["Prompt failed, keeping " ++ plan.currentName ++ ": " ++ e]⟩
  select analysis := do
    match ← (terminal.selection analysis).run with
    | .ok positions => return .silent positions
    | .error e => return ⟨[], ["Prompt failed, applying nothing: " ++ e]⟩

/-- The reviewer of a command. -/
def console (yes : Bool) (terminal : Terminal String := .absent) : Reviewer String :=
  announcing (if yes then acceptAll else prompting terminal)

end Reviewer

end Renaming
