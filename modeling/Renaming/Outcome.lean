import Renaming.Suggestion

/-!
# Outcomes

What became of a list of suggestions: the changes made to the model and the suggestions skipped,
each in the order of the list.
-/

namespace Renaming

/-- A name that was overwritten. -/
structure Change where
  entity : Entity
  kind : Kind
  oldName : String
  newName : String
deriving DecidableEq, Repr, Inhabited

def Change.describe (c : Change) : String := c.kind.tag ++ " " ++ c.oldName ++ " → " ++ c.newName

/-- Why a suggestion was not applied. -/
inductive SkipReason where
  /-- The new name is blank or the same as the old one. -/
  | notActionable
  /-- Parameters and local variables are not looked up by name. -/
  | unsupportedKind
  /-- Nothing of the kind has the old name. -/
  | notFound
  /-- The model refused the change. -/
  | rejected (details : String)
deriving DecidableEq, Repr, Inhabited

structure Skip where
  suggestion : Suggestion
  reason : SkipReason
deriving Repr, Inhabited

structure Outcome where
  applied : List Change
  skipped : List Skip
deriving Repr, Inhabited

namespace Outcome

def empty : Outcome := ⟨[], []⟩

/-- One outcome after another. -/
def append (o o' : Outcome) : Outcome := ⟨o.applied ++ o'.applied, o.skipped ++ o'.skipped⟩

/-- The number of changes and then a line for each. -/
def summary (o : Outcome) : String :=
  s!"Applied {o.applied.length} changes:" ++
    String.join (o.applied.map fun c => "\n" ++ c.describe)

end Outcome

end Renaming
