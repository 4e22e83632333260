import Renaming.Analysis
import Renaming.Outcome

/-!
# Applying suggestions

A suggestion is applied by overwriting one name with the new name, the blanks around it removed.
Names are not checked for form or collisions. Suggestions of an analysis find their entity by name:
the first one declared with that name, in kinds with one scope for the whole module. Suggestions of
a plan come with their entity. A suggestion that cannot be applied is skipped and the rest go on.
-/

namespace Renaming

/-- What becomes of one suggestion. -/
inductive Verdict where
  | applied (change : Change)
  | skipped (reason : SkipReason)
deriving DecidableEq, Repr

def Outcome.add (o : Outcome) (s : Suggestion) : Verdict → Outcome
  | .applied change => { o with applied := o.applied ++ [change] }
  | .skipped reason => { o with skipped := o.skipped ++ [⟨s, reason⟩] }

/-- Entities of this kind can be found by name. -/
def Kind.isModuleWide : Kind → Bool
  | .parameter | .var => false
  | _ => true

namespace Assembly

/-- The first entity of a kind, in the order of declaration, with exactly this name. -/
def firstNamed? (a : Assembly) (kind : Kind) (name : String) : Option Entity :=
  (a.entities kind).find? fun e => a.name? e == some name

/-- Overwrites the name of an entity. -/
def apply (a : Assembly) (entity : Entity) (s : Suggestion) :
    Except ModelError (Assembly × Change) :=
  if s.isActionable then
    match a.name? entity with
    | none => .error (.entityNotFound entity)
    | some oldName =>
      let newName := Text.trim s.newName
      (a.setName entity newName).map fun a => (a, ⟨entity, entity.kind, oldName, newName⟩)
  else .error (.notActionable s.oldName s.newName)

/-! ## One suggestion of many -/

/-- Applies a suggestion to the entity that its old name belongs to. -/
def applyByName (a : Assembly) (s : Suggestion) : Assembly × Verdict :=
  if !s.isActionable then (a, .skipped .notActionable)
  else if !s.kind.isModuleWide then (a, .skipped .unsupportedKind)
  else match a.firstNamed? s.kind s.oldName with
    | none => (a, .skipped .notFound)
    | some entity =>
      match a.apply entity s with
      | .ok (a, change) => (a, .applied change)
      | .error e => (a, .skipped (.rejected e.message))

/-- Applies a suggestion to a given entity. -/
def applyAt (a : Assembly) (entity : Entity) (s : Suggestion) : Assembly × Verdict :=
  match a.apply entity s with
  | .ok (a, change) => (a, .applied change)
  | .error (.notActionable _ _) => (a, .skipped .notActionable)
  | .error (.entityNotFound _) => (a, .skipped .notFound)

/-! ## Many suggestions -/

def applySuggestions (a : Assembly) (suggestions : List Suggestion) : Assembly × Outcome :=
  suggestions.foldl
    (fun (a, o) s =>
      let (a, verdict) := a.applyByName s
      (a, o.add s verdict))
    (a, .empty)

def applyAnalysis (a : Assembly) (analysis : Analysis) : Assembly × Outcome :=
  a.applySuggestions analysis.suggestions

def applyTargets (a : Assembly) (targets : List (Entity × Suggestion)) : Assembly × Outcome :=
  targets.foldl
    (fun (a, o) (entity, s) =>
      let (a, verdict) := a.applyAt entity s
      (a, o.add s verdict))
    (a, .empty)

end Assembly

end Renaming
