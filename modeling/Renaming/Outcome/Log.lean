import Renaming.Outcome
import Renaming.Time.Text

/-!
# Logged outcomes

The stored form of an outcome, in which every change carries the moment at which it was made.
-/

namespace Renaming

open Json

structure LoggedChange extends Change where
  appliedAt : Moment
deriving DecidableEq, Repr, Inhabited

structure OutcomeLog where
  applied : List LoggedChange
  skipped : List Skip
deriving Repr, Inhabited

/-- The log of an outcome whose changes were all made at one moment. -/
def Outcome.log (o : Outcome) (appliedAt : Moment) : OutcomeLog :=
  ⟨o.applied.map fun c => { c with appliedAt }, o.skipped⟩

/-! ## JSON -/

def SkipReason.json : SkipReason → Json
  | notActionable => record [("reason", text "not_actionable")]
  | unsupportedKind => record [("reason", text "unsupported_kind")]
  | notFound => record [("reason", text "not_found")]
  | rejected details => record [("reason", text "rejected"), ("details", text details)]

/-- A reason without details: there are none, or they are null. -/
def SkipReason.plain? (reason : SkipReason) : Option Json → Option SkipReason
  | none | some null => some reason
  | some _ => none

def SkipReason.ofParts? (tag : String) (details : Option Json) : Option SkipReason :=
  match tag with
  | "not_actionable" => plain? notActionable details
  | "unsupported_kind" => plain? unsupportedKind details
  | "not_found" => plain? notFound details
  | "rejected" => (details.bind text?).map rejected
  | _ => none

/-- A reason is an object with a tag and details, in any order, or an array of the two. -/
def SkipReason.ofJson? : Json → Option SkipReason
  | object members => do
    match (← slot? (← members? members) "reason"), (← slot? (← members? members) "details") with
    | .given tag, .given details => ofParts? (← choice? tag) (some details)
    | .given tag, _ => ofParts? (← choice? tag) none
    | _, _ => none
  | array [tag, details] => do ofParts? (← choice? tag) (some details)
  | _ => none

def Skip.json (s : Skip) : Json :=
  record [("suggestion", s.suggestion.json), ("reason", s.reason.json)]

def Skip.ofJson? (value : Json) : Option Skip :=
  match record? ["suggestion", "reason"] value with
  | some [suggestion, reason] => do
    return ⟨← suggestion.required Suggestion.ofJson?, ← reason.required SkipReason.ofJson?⟩
  | _ => none

def Moment.ofJson? (value : Json) : Option Moment := (text? value).bind ofText?

def LoggedChange.json (c : LoggedChange) : Json :=
  record [("entity", c.entity.json), ("kind", c.kind.json), ("oldName", text c.oldName),
    ("newName", text c.newName), ("appliedAt", text c.appliedAt.text)]

def LoggedChange.ofJson? (value : Json) : Option LoggedChange :=
  match record? ["entity", "kind", "oldName", "newName", "appliedAt"] value with
  | some [entity, kind, oldName, newName, appliedAt] => do
    return {
      entity := ← entity.required (Entity.ofJson? 3)
      kind := ← kind.required Kind.ofJson?
      oldName := ← oldName.required text?
      newName := ← newName.required text?
      appliedAt := ← appliedAt.required Moment.ofJson? }
  | _ => none

def OutcomeLog.json (o : OutcomeLog) : Json :=
  record [("applied", array (o.applied.map (·.json))), ("skipped", array (o.skipped.map (·.json)))]

def OutcomeLog.ofJson? (value : Json) : Option OutcomeLog :=
  match record? ["applied", "skipped"] value with
  | some [applied, skipped] => do
    return ⟨← applied.required (list? LoggedChange.ofJson?),
      ← skipped.required (list? Skip.ofJson?)⟩
  | _ => none

end Renaming
