import Renaming.Analysis
import Renaming.Outcome.Log
import Renaming.Plan.Format
import Renaming.Proofs.Stored.Entity
import Renaming.Proofs.Time.Text

/-!
# Stored requests, plans and outcomes

Every record of the rename data is read from its document as what it was, provided that the numbers
of its handles fit into words, that the text of its doubles stands for them and that its moments are
of the clock. The main result puts them together (`stored_forms_read_back`).
-/

namespace Renaming

open Json

/-! ## Suggestions and analyses -/

/-- The text of the confidence stands for it. -/
def Suggestion.Storable (s : Suggestion) : Prop := float? (float s.confidence) = some s.confidence

theorem Suggestion.lawfulOn : LawfulOn Storable json ofJson? where
  printable s := printable_record (by
    simp [Lawful.text.printable, Kind.lawful.printable, printable_float])
  read s h := by
    have hslots : record? ["oldName", "newName", "entityKind", "reason", "confidence"] s.json =
        some [.given (text s.oldName), .given (text s.newName), .given s.kind.json,
          .given (text s.reason), .given (float s.confidence)] := record?_record rfl (by decide)
    unfold Storable at h
    rw [ofJson?, hslots]
    simp [Slot.required, Lawful.text.read, Kind.lawful.read, h]

structure Analysis.Storable (a : Analysis) : Prop where
  suggestions : ∀ s ∈ a.suggestions, s.Storable
  score : float? (float a.score) = some a.score

theorem Analysis.lawfulOn : LawfulOn Storable json ofJson? where
  printable a := printable_record (by
    simp [Lawful.text.printable, Suggestion.lawfulOn.list.printable, printable_float,
      Lawful.text.list.printable])
  read a h := by
    have hslots : record? ["analysis", "suggestions", "overallScore", "keyIssues"] a.json =
        some [.given (text a.summary), .given (array (a.suggestions.map (·.json))),
          .given (float a.score), .given (array (a.issues.map text))] :=
      record?_record rfl (by decide)
    rw [ofJson?, hslots]
    simp [Slot.required, Lawful.text.read, Suggestion.lawfulOn.list.read _ h.suggestions, h.score,
      Lawful.text.list.read]

/-! ## Requests -/

theorem Entity.lawfulOn_field : LawfulOn Storable json (ofJson? 1) := lawfulOn (by decide)

/-- In the records of a list within a record. -/
theorem Entity.lawfulOn_item : LawfulOn Storable json (ofJson? 3) := lawfulOn (by decide)

theorem ParameterSlot.lawfulOn : LawfulOn (fun p => p.entity.Storable) json ofJson? where
  printable p := printable_record (by
    simp [Entity.lawfulOn_item.printable, Lawful.text.printable])
  read p h := by
    have hentity := Entity.lawfulOn_item.read _ h
    have hslots : record? ["entity", "name", "paramType"] p.json =
        some [.given p.entity.json, .given (text p.name), .given (text p.parameterType)] :=
      record?_record rfl (by decide)
    rw [ofJson?, hslots]
    simp [Slot.required, hentity, Lawful.text.read]

structure RenameRequest.Storable (r : RenameRequest) : Prop where
  entity : r.entity.Storable
  parameters : ∀ p ∈ r.parameters, p.entity.Storable

theorem RenameRequest.lawfulOn : LawfulOn Storable json ofJson? where
  printable r := by
    have hmethod : Printable ((r.methodName.map text).getD null) := by
      cases r.methodName with
      | none => exact .null
      | some name => exact Lawful.text.printable name
    apply printable_record
    simp [Entity.lawfulOn_field.printable, Kind.lawful.printable,
      Lawful.text.printable, hmethod, ParameterSlot.lawfulOn.list.printable]
  read r h := by
    have hentity := Entity.lawfulOn_field.read _ h.entity
    -- No method name is null.
    have hmethod : Slot.optional text? (.given ((r.methodName.map text).getD null)) =
        some r.methodName := by
      cases r.methodName <;> rfl
    have hslots : record? ["entity", "kind", "currentName", "excerpt", "context", "methodName",
        "parameters"] r.json = some [.given r.entity.json, .given r.kind.json,
          .given (text r.currentName), .given (text r.excerpt), .given (text r.context),
          .given ((r.methodName.map text).getD null), .given (array (r.parameters.map (·.json)))] :=
      record?_record rfl (by decide)
    rw [ofJson?, hslots]
    simp [Slot.required, hentity, Kind.lawful.read, Lawful.text.read, hmethod,
      ParameterSlot.lawfulOn.list.read _ h.parameters]

/-! ## Plans -/

theorem Role.lawful : Lawful (fun r => text r.tag) ofJson? where
  printable r := Lawful.text.printable r.tag
  read r := by cases r <;> rfl

structure PlannedChange.Storable (c : PlannedChange) : Prop where
  entity : c.entity.Storable
  suggestion : c.suggestion.Storable

theorem PlannedChange.lawfulOn : LawfulOn Storable json ofJson? where
  printable c := printable_record (by
    simp [Entity.lawfulOn_item.printable, Role.lawful.printable,
      Suggestion.lawfulOn.printable])
  read c h := by
    have hentity := Entity.lawfulOn_item.read _ h.entity
    have hslots : record? ["entity", "changeType", "suggestion"] c.json =
        some [.given c.entity.json, .given (text c.role.tag), .given c.suggestion.json] :=
      record?_record rfl (by decide)
    rw [ofJson?, hslots]
    simp [Slot.required, hentity, Role.lawful.read, Suggestion.lawfulOn.read _ h.suggestion]

structure RenamePlan.Storable (p : RenamePlan) : Prop where
  entity : p.entity.Storable
  changes : ∀ c ∈ p.changes, c.Storable

theorem RenamePlan.lawfulOn : LawfulOn Storable json ofJson? where
  printable p := printable_record (by
    simp [Entity.lawfulOn_field.printable, Kind.lawful.printable,
      Lawful.text.printable, PlannedChange.lawfulOn.list.printable])
  read p h := by
    have hentity := Entity.lawfulOn_field.read _ h.entity
    have hslots : record? ["entity", "kind", "originalName", "newName", "changes"] p.json =
        some [.given p.entity.json, .given p.kind.json, .given (text p.currentName),
          .given (text p.newName), .given (array (p.changes.map (·.json)))] :=
      record?_record rfl (by decide)
    rw [ofJson?, hslots]
    simp [Slot.required, hentity, Kind.lawful.read, Lawful.text.read,
      PlannedChange.lawfulOn.list.read _ h.changes]

/-! ## Outcomes -/

theorem SkipReason.lawful : Lawful json ofJson? where
  printable r := by
    cases r <;> exact printable_record (by simp [Lawful.text.printable])
  read r := by
    cases r <;> rfl

theorem Skip.lawfulOn : LawfulOn (fun s => s.suggestion.Storable) json ofJson? where
  printable s := printable_record (by
    simp [Suggestion.lawfulOn.printable, SkipReason.lawful.printable])
  read s h := by
    have hslots : record? ["suggestion", "reason"] s.json =
        some [.given s.suggestion.json, .given s.reason.json] := record?_record rfl (by decide)
    rw [ofJson?, hslots]
    simp [Slot.required, Suggestion.lawfulOn.read _ h, SkipReason.lawful.read]

structure LoggedChange.Storable (c : LoggedChange) : Prop where
  entity : c.entity.Storable
  appliedAt : c.appliedAt.Proper

theorem LoggedChange.lawfulOn : LawfulOn Storable json ofJson? where
  printable c := printable_record (by
    simp [Entity.lawfulOn_item.printable, Kind.lawful.printable,
      Lawful.text.printable])
  read c h := by
    have hentity := Entity.lawfulOn_item.read _ h.entity
    have hmoment : Moment.ofJson? (text c.appliedAt.text) = some c.appliedAt := by
      rw [Moment.ofJson?, Lawful.text.read, Option.bind_some, Moment.ofText?_text h.appliedAt]
    have hslots : record? ["entity", "kind", "oldName", "newName", "appliedAt"] c.json =
        some [.given c.entity.json, .given c.kind.json, .given (text c.oldName),
          .given (text c.newName), .given (text c.appliedAt.text)] := record?_record rfl (by decide)
    rw [ofJson?, hslots]
    simp [Slot.required, hentity, Kind.lawful.read, Lawful.text.read, hmoment]

structure OutcomeLog.Storable (o : OutcomeLog) : Prop where
  applied : ∀ c ∈ o.applied, c.Storable
  skipped : ∀ s ∈ o.skipped, s.suggestion.Storable

theorem OutcomeLog.lawfulOn : LawfulOn Storable json ofJson? where
  printable o := printable_record (by
    simp [LoggedChange.lawfulOn.list.printable, Skip.lawfulOn.list.printable])
  read o h := by
    have hslots : record? ["applied", "skipped"] o.json =
        some [.given (array (o.applied.map (·.json))), .given (array (o.skipped.map (·.json)))] :=
      record?_record rfl (by decide)
    rw [ofJson?, hslots]
    simp [Slot.required, LoggedChange.lawfulOn.list.read _ h.applied,
      Skip.lawfulOn.list.read _ h.skipped]

/-! ## All forms -/

/-- The rename data is read back from documents on one line, whatever its texts and lists are. -/
theorem stored_forms_read_back (k : Kind) {e : Entity} (he : e.Storable)
    {s : Suggestion} (hs : s.Storable) {a : Analysis} (ha : a.Storable)
    {r : RenameRequest} (hr : r.Storable) {p : RenamePlan} (hp : p.Storable)
    {o : OutcomeLog} (ho : o.Storable) :
    decode? Kind.ofJson? k.json.compact = some k ∧
    decode? (Entity.ofJson? 0) e.json.compact = some e ∧
    decode? Suggestion.ofJson? s.json.compact = some s ∧
    decode? Analysis.ofJson? a.json.compact = some a ∧
    decode? RenameRequest.ofJson? r.json.compact = some r ∧
    decode? RenamePlan.ofJson? p.json.compact = some p ∧
    decode? OutcomeLog.ofJson? o.json.compact = some o :=
  ⟨Kind.lawful.decode?_compact k,
    (Entity.lawfulOn (by decide)).decode?_compact he,
    Suggestion.lawfulOn.decode?_compact hs,
    Analysis.lawfulOn.decode?_compact ha,
    RenameRequest.lawfulOn.decode?_compact hr,
    RenamePlan.lawfulOn.decode?_compact hp,
    OutcomeLog.lawfulOn.decode?_compact ho⟩

namespace Stored

def suggestion : Suggestion := ⟨"a", "Sum", .method, "adds \"x\"", 0.5⟩

def request : RenameRequest where
  entity := .method 0 1
  kind := .method
  currentName := "a"
  excerpt := "return x"
  context := ""
  methodName := none
  parameters := [⟨.parameter 0 1 0, "x", "int"⟩]

def plan : RenamePlan where
  entity := .method 0 1
  kind := .method
  currentName := "a"
  newName := "Sum"
  changes := [⟨.method 0 1, .primary, suggestion⟩,
    ⟨.parameter 0 1 0, .parameter, .certain "x" "left" .parameter⟩]

/-- At the leap second that ended 2016, a quarter past its start. -/
def log : OutcomeLog where
  applied := [⟨⟨.method 0 1, .method, "a", "Sum"⟩, ⟨1483228799, 1250000000⟩⟩]
  skipped := [⟨suggestion, .rejected "Entity not found: type#7"⟩, ⟨suggestion, .notFound⟩]

def analysis : Analysis := ⟨"short", [suggestion], 0.25, ["no names", ""]⟩

theorem suggestion_storable : suggestion.Storable := by
  unfold Suggestion.Storable
  decide +kernel

theorem analysis_storable : analysis.Storable where
  suggestions := List.forall_mem_singleton.mpr suggestion_storable
  score := by decide +kernel

theorem request_storable : request.Storable where
  entity := by decide
  parameters := by decide

theorem plan_storable : plan.Storable where
  entity := by decide
  changes := by
    have hcertain : (Suggestion.certain "x" "left" .parameter).Storable := by
      unfold Suggestion.Storable
      decide +kernel
    exact List.forall_mem_cons.mpr ⟨⟨by decide, suggestion_storable⟩,
      List.forall_mem_singleton.mpr ⟨by decide, hcertain⟩⟩

theorem log_storable : log.Storable where
  applied := List.forall_mem_singleton.mpr ⟨by decide, by decide, .inr (by decide)⟩
  skipped := List.forall_mem_cons.mpr
    ⟨suggestion_storable, List.forall_mem_singleton.mpr suggestion_storable⟩

end Stored

open Stored in
theorem stored_forms_of_one_method :
    decode? Kind.ofJson? Kind.var.json.compact = some .var ∧
    decode? (Entity.ofJson? 0) (Entity.var 2 0 3).json.compact = some (.var 2 0 3) ∧
    decode? Suggestion.ofJson? suggestion.json.compact = some suggestion ∧
    decode? Analysis.ofJson? analysis.json.compact = some analysis ∧
    decode? RenameRequest.ofJson? request.json.compact = some request ∧
    decode? RenamePlan.ofJson? plan.json.compact = some plan ∧
    decode? OutcomeLog.ofJson? log.json.compact = some log :=
  stored_forms_read_back .var (by decide) suggestion_storable analysis_storable request_storable
    plan_storable log_storable

end Renaming
