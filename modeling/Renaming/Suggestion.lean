import Renaming.Json.Decode
import Renaming.Model.Format
import Renaming.Text.Blank

/-!
# Suggestions

A suggestion proposes a new name for what has an old name. It is actionable if the new name, without
the blanks around it, is neither empty nor the old name.
-/

namespace Renaming

structure Suggestion where
  oldName : String
  newName : String
  kind : Kind
  reason : String
  /-- Between zero and one. -/
  confidence : Float
deriving Repr, Inhabited

namespace Suggestion

/-- A suggestion without a reason that is certain. -/
def certain (oldName newName : String) (kind : Kind) : Suggestion := ⟨oldName, newName, kind, "", 1⟩

def isActionable (s : Suggestion) : Bool :=
  let newName := Text.trim s.newName
  !newName.isEmpty && newName != s.oldName

/-- What is renamed to what, in one line. -/
def describe (s : Suggestion) : String := s.kind.tag ++ " " ++ s.oldName ++ " → " ++ s.newName

/-! ## JSON -/

open Json

def json (s : Suggestion) : Json :=
  record [("oldName", text s.oldName), ("newName", text s.newName), ("entityKind", s.kind.json),
    ("reason", text s.reason), ("confidence", float s.confidence)]

def ofJson? (value : Json) : Option Suggestion :=
  match record? ["oldName", "newName", "entityKind", "reason", "confidence"] value with
  | some [oldName, newName, kind, reason, confidence] => do
    return {
      oldName := ← oldName.required text?
      newName := ← newName.required text?
      kind := ← kind.required Kind.ofJson?
      reason := ← reason.required text?
      confidence := ← confidence.required float? }
  | _ => none

end Suggestion

end Renaming
