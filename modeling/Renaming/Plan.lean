import Renaming.Apply
import Renaming.Oracle

/-!
# Rename plans

A plan is what an oracle proposes for one request: a new name for the entity and, for a method, new
names for those parameters for which there was a usable answer. A reviewer may give it another name
or leave the parameters out before it is applied.
-/

namespace Renaming

/-- How a planned change relates to the entity of its plan. -/
inductive Role where
  | primary
  | parameter
deriving DecidableEq, Repr, Inhabited

structure PlannedChange where
  entity : Entity
  role : Role
  suggestion : Suggestion
deriving Repr, Inhabited

structure RenamePlan where
  entity : Entity
  kind : Kind
  currentName : String
  newName : String
  changes : List PlannedChange
deriving Repr, Inhabited

namespace RenamePlan

/-! ## Editing -/

/-- Gives the first primary change another name. -/
def renamePrimary (name : String) : List PlannedChange → List PlannedChange
  | [] => []
  | c :: cs =>
    if c.role == .primary then
      { c with suggestion := { c.suggestion with newName := name } } :: cs
    else c :: renamePrimary name cs

def withNewName (p : RenamePlan) (name : String) : RenamePlan :=
  { p with newName := name, changes := renamePrimary name p.changes }

def withoutParameters (p : RenamePlan) : RenamePlan :=
  { p with changes := p.changes.filter (·.role == .primary) }

def parameterChanges (p : RenamePlan) : List PlannedChange :=
  p.changes.filter (·.role == .parameter)

def targets (p : RenamePlan) : List (Entity × Suggestion) :=
  p.changes.map fun c => (c.entity, c.suggestion)

end RenamePlan

/-- Applies an accepted plan, the primary change first. -/
def Assembly.applyPlan (a : Assembly) (p : RenamePlan) : Assembly × Outcome :=
  a.applyTargets p.targets

/-! ## Planning -/

namespace RenameRequest

/-- The change for a parameter that was answered. -/
def parameterChange? (slot : ParameterSlot) : Except OracleError String → Option PlannedChange
  | .ok name => some ⟨slot.entity, .parameter, .certain slot.name name .parameter⟩
  | .error _ => none

/-- The warning for a parameter whose question failed. -/
def parameterWarning? (slot : ParameterSlot) : Except OracleError String → Option String
  | .error e =>
    if e.isNoChange then none
    else some ("No suggestion for parameter " ++ slot.name ++ ": " ++ e.message)
  | .ok _ => none

/-- The plan for an answered request. The answers for the parameters come in their order. -/
def planOf (r : RenameRequest) (newName : String) (answers : List (Except OracleError String)) :
    Warned RenamePlan where
  value := {
    entity := r.entity
    kind := r.kind
    currentName := r.currentName
    newName
    changes := ⟨r.entity, .primary, .certain r.currentName newName r.kind⟩ ::
      (r.parameters.zip answers).filterMap fun (slot, answer) => parameterChange? slot answer }
  warnings :=
    (r.parameters.zip answers).filterMap fun (slot, answer) => parameterWarning? slot answer

/-- Asks for the parameters once the entity has its new name. -/
def finish (oracle : Oracle σ) (r : RenameRequest) :
    Except OracleError String → StateM σ (Warned (Except OracleError RenamePlan))
  | .error e => pure (.silent (.error e))
  | .ok newName => do
    let answers ← r.parameterQuestions.mapM oracle.suggest
    return (r.planOf newName answers).map .ok

/-- Asks for the entity, and then for the parameters if that was answered. -/
def plan (oracle : Oracle σ) (r : RenameRequest) :
    StateM σ (Warned (Except OracleError RenamePlan)) := do
  r.finish oracle (← oracle.suggest r.question)

end RenameRequest

end Renaming
