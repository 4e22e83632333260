import Renaming.Plan

/-!
# Stored requests and plans

The JSON forms of rename requests and rename plans.
-/

namespace Renaming

open Json

def ParameterSlot.json (p : ParameterSlot) : Json :=
  record [("entity", p.entity.json), ("name", text p.name), ("paramType", text p.parameterType)]

def ParameterSlot.ofJson? (value : Json) : Option ParameterSlot :=
  match record? ["entity", "name", "paramType"] value with
  | some [entity, name, parameterType] => do
    return ⟨← entity.required (Entity.ofJson? 3), ← name.required text?,
      ← parameterType.required text?⟩
  | _ => none

def RenameRequest.json (r : RenameRequest) : Json :=
  record [("entity", r.entity.json), ("kind", r.kind.json), ("currentName", text r.currentName),
    ("excerpt", text r.excerpt), ("context", text r.context),
    ("methodName", (r.methodName.map text).getD null),
    ("parameters", array (r.parameters.map (·.json)))]

def RenameRequest.ofJson? (value : Json) : Option RenameRequest :=
  match record? ["entity", "kind", "currentName", "excerpt", "context", "methodName", "parameters"]
      value with
  | some [entity, kind, currentName, excerpt, context, methodName, parameters] => do
    return {
      entity := ← entity.required (Entity.ofJson? 1)
      kind := ← kind.required Kind.ofJson?
      currentName := ← currentName.required text?
      excerpt := ← excerpt.required text?
      context := ← context.required text?
      methodName := ← methodName.optional text?
      parameters := ← parameters.required (list? ParameterSlot.ofJson?) }
  | _ => none

def Role.tag : Role → String
  | primary => "rename"
  | parameter => "parameter_rename"

def Role.ofJson? (value : Json) : Option Role :=
  match choice? value with
  | some "rename" => some primary
  | some "parameter_rename" => some parameter
  | _ => none

def PlannedChange.json (c : PlannedChange) : Json :=
  record [("entity", c.entity.json), ("changeType", text c.role.tag),
    ("suggestion", c.suggestion.json)]

def PlannedChange.ofJson? (value : Json) : Option PlannedChange :=
  match record? ["entity", "changeType", "suggestion"] value with
  | some [entity, role, suggestion] => do
    return ⟨← entity.required (Entity.ofJson? 3), ← role.required Role.ofJson?,
      ← suggestion.required Suggestion.ofJson?⟩
  | _ => none

def RenamePlan.json (p : RenamePlan) : Json :=
  record [("entity", p.entity.json), ("kind", p.kind.json), ("originalName", text p.currentName),
    ("newName", text p.newName), ("changes", array (p.changes.map (·.json)))]

def RenamePlan.ofJson? (value : Json) : Option RenamePlan :=
  match record? ["entity", "kind", "originalName", "newName", "changes"] value with
  | some [entity, kind, currentName, newName, changes] => do
    return {
      entity := ← entity.required (Entity.ofJson? 1)
      kind := ← kind.required Kind.ofJson?
      currentName := ← currentName.required text?
      newName := ← newName.required text?
      changes := ← changes.required (list? PlannedChange.ofJson?) }
  | _ => none

end Renaming
