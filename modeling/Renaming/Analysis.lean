import Renaming.Answer.Extract
import Renaming.Suggestion
import Renaming.Warned

/-!
# Analyses

The review of all names in a module. A language model writes it loosely: every part may be missing,
kinds are written in any case, names are padded and confidences are out of range. Reading such a
draft mends what it can, drops suggestions for unknown kinds with a warning, and takes an answer
that is no draft at all for an empty analysis, also with a warning.
-/

namespace Renaming

structure Analysis where
  /-- A short text about the module. -/
  summary : String
  suggestions : List Suggestion
  score : Float
  issues : List String
deriving Repr, Inhabited

/-- A suggestion as the language model writes it. -/
structure DraftSuggestion where
  oldName : String
  newName : String
  kind : String
  reason : String
  confidence : Float
deriving Repr, Inhabited

/-- An analysis as the language model writes it. -/
structure Draft where
  summary : String
  suggestions : List DraftSuggestion
  score : Float
  issues : List String
deriving Repr, Inhabited

namespace Analysis

def empty : Analysis := ⟨"", [], 0, []⟩

/-- Nothing was said. The score does not count. -/
def isEmpty (a : Analysis) : Bool := a.summary.isEmpty && a.suggestions.isEmpty && a.issues.isEmpty

/-- The suggestions that are at least this certain. -/
def confident (a : Analysis) (least : Float) : List Suggestion :=
  a.suggestions.filter fun s => s.confidence ≥ least

/-! ## JSON -/

open Json

def json (a : Analysis) : Json :=
  record [("analysis", text a.summary), ("suggestions", array (a.suggestions.map (·.json))),
    ("overallScore", float a.score), ("keyIssues", array (a.issues.map text))]

def ofJson? (value : Json) : Option Analysis :=
  match record? ["analysis", "suggestions", "overallScore", "keyIssues"] value with
  | some [summary, suggestions, score, issues] => do
    return {
      summary := ← summary.required text?
      suggestions := ← suggestions.required (list? Suggestion.ofJson?)
      score := ← score.required float?
      issues := ← issues.required (list? text?) }
  | _ => none

end Analysis

/-! ## Drafts -/

open Json in
def DraftSuggestion.ofJson? (value : Json) : Option DraftSuggestion :=
  match record? ["oldName", "newName", "entityType", "reason", "confidence"] value with
  | some [oldName, newName, kind, reason, confidence] => do
    return {
      oldName := ← oldName.withDefault "" text?
      newName := ← newName.withDefault "" text?
      kind := ← kind.withDefault "" text?
      reason := ← reason.withDefault "" text?
      confidence := ← confidence.withDefault 0 float? }
  | _ => none

open Json in
def Draft.ofJson? (value : Json) : Option Draft :=
  match record? ["analysis", "suggestions", "overallScore", "keyIssues"] value with
  | some [summary, suggestions, score, issues] => do
    return {
      summary := ← summary.withDefault "" text?
      suggestions := ← suggestions.withDefault [] (list? DraftSuggestion.ofJson?)
      score := ← score.withDefault 0 float?
      issues := ← issues.withDefault [] (list? text?) }
  | _ => none

/-- The nearest number between zero and one, zero for what is not a number. -/
def clampUnit (x : Float) : Float :=
  if x.isNaN then 0 else if x < 0 then 0 else if x > 1 then 1 else x

/-- The suggestion that a draft means, none if its kind is unknown. -/
def DraftSuggestion.settle? (d : DraftSuggestion) : Option Suggestion :=
  (Kind.parse? d.kind).map fun kind =>
    ⟨d.oldName, Text.trim d.newName, kind, d.reason, clampUnit d.confidence⟩

def DraftSuggestion.warning (d : DraftSuggestion) : String :=
  "Dropping suggestion " ++ d.oldName ++ " -> " ++ d.newName ++ ": unknown entity type '" ++
    d.kind ++ "'"

def Draft.settle (d : Draft) : Warned Analysis where
  value := ⟨d.summary, d.suggestions.filterMap (·.settle?), d.score, d.issues⟩
  warnings := (d.suggestions.filter (·.settle?.isNone)).map (·.warning)

/-- The analysis in an answer. -/
def Analysis.ofAnswer (answer : String) : Warned Analysis :=
  match Answer.extract Draft.ofJson? answer with
  | .ok draft => draft.settle
  | .error e => ⟨.empty, ["Analysis response was not valid JSON: " ++ e.message]⟩

end Renaming
