import Renaming.Plan

/-!
# Sessions

A session takes events from a queue, asks a reviewer about each and applies what was accepted. Each
event gives one message. Events beyond those that are awaited stay queued for the next session.
-/

namespace Renaming

/-- The result of one request. -/
inductive Event where
  | planned (result : Except OracleError RenamePlan)
  | analyzed (result : Except OracleError Analysis)

/-! ## Reviewers -/

inductive Decision where
  /-- Apply the plan with this name for the entity. -/
  | accept (name : String)
  | reject
deriving DecidableEq, Repr

/-- Decides about plans and about which suggestions of an analysis to apply, by their positions. It
never touches the model but may have a state of its own. -/
structure Reviewer (ρ : Type) where
  review : RenamePlan → StateM ρ (Warned Decision)
  select : Analysis → StateM ρ (Warned (List Nat))

namespace Reviewer

/-- The positions of the actionable suggestions. -/
def actionable (analysis : Analysis) : List Nat :=
  analysis.suggestions.zipIdx.filterMap fun (s, i) => if s.isActionable then some i else none

/-- Accepts every plan as it is and every actionable suggestion. -/
def acceptAll : Reviewer ρ where
  review plan := pure (.silent (.accept plan.newName))
  select analysis := pure (.silent (actionable analysis))

def rejectAll : Reviewer ρ where
  review _ := pure (.silent .reject)
  select _ := pure (.silent [])

end Reviewer

/-! ## Reports -/

structure Report where
  outcome : Outcome
  /-- One for each event, in order. -/
  messages : List String
  rejected : Nat
deriving Repr, Inhabited

namespace Report

def empty : Report := ⟨.empty, [], 0⟩

def hasChanges (r : Report) : Bool := !r.outcome.applied.isEmpty

/-- One report after another. -/
def append (r r' : Report) : Report :=
  ⟨r.outcome.append r'.outcome, r.messages ++ r'.messages, r.rejected + r'.rejected⟩

end Report

/-! ## Steps -/

namespace Session

/-- What an event does: the model after it and its part of the report, with its warnings. -/
abbrev Step := Assembly × Warned Report

def failed (a : Assembly) (e : OracleError) : Step :=
  if e.isNoChange then (a, .silent ⟨.empty, ["No change suggested"], 0⟩)
  else (a, ⟨⟨.empty, ["Error getting suggestion: " ++ e.message], 0⟩,
    ["Suggestion request failed: " ++ e.message]⟩)

/-- Whether the entity of a plan was renamed, in words. -/
def planMessage (plan : RenamePlan) (outcome : Outcome) : String :=
  if outcome.applied.any (·.entity == plan.entity) then
    "Successfully renamed " ++ plan.kind.tag ++ " '" ++ plan.currentName ++ "' to '" ++
      plan.newName ++ "'"
  else "Rename of " ++ plan.kind.tag ++ " '" ++ plan.currentName ++ "' was not applied"

def decided (a : Assembly) (plan : RenamePlan) (decision : Warned Decision) : Step :=
  match decision.value with
  | .accept name =>
    let plan := plan.withNewName name
    let (a, outcome) := a.applyPlan plan
    (a, ⟨⟨outcome, [planMessage plan outcome], 0⟩, decision.warnings⟩)
  | .reject =>
    (a, ⟨⟨.empty, ["Kept " ++ plan.kind.tag ++ " '" ++ plan.currentName ++ "'"], 1⟩,
      decision.warnings⟩)

def selected (a : Assembly) (analysis : Analysis) (positions : Warned (List Nat)) : Step :=
  let (a, outcome) := a.applySuggestions (positions.value.filterMap (analysis.suggestions[·]?))
  let rejected := analysis.suggestions.length - positions.value.length
  (a, ⟨⟨outcome, [outcome.summary], rejected⟩, positions.warnings⟩)

def handle (reviewer : Reviewer ρ) (a : Assembly) : Event → StateM ρ Step
  | .planned (.ok plan) => return decided a plan (← reviewer.review plan)
  | .analyzed (.ok analysis) => return selected a analysis (← reviewer.select analysis)
  | .planned (.error e) => return failed a e
  | .analyzed (.error e) => return failed a e

/-! ## Runs -/

/-- Handles events in order. -/
def handleAll (reviewer : Reviewer ρ) (a : Assembly) : List Event → StateM ρ Step
  | [] => pure (a, .silent .empty)
  | event :: events => do
    let (a, first) ← handle reviewer a event
    let (a, rest) ← handleAll reviewer a events
    return (a, ⟨first.value.append rest.value, first.warnings ++ rest.warnings⟩)

/-- What a session leaves behind. -/
structure Result where
  model : Assembly
  report : Report
  warnings : List String
  /-- The events that were not awaited. -/
  queue : List Event

/-- Handles the first `awaited` events of a queue. -/
def run (reviewer : Reviewer ρ) (a : Assembly) (awaited : Nat) (queue : List Event) :
    StateM ρ Result := do
  let (a, report) ← handleAll reviewer a (queue.take awaited)
  return ⟨a, report.value, report.warnings, queue.drop awaited⟩

end Session

end Renaming
