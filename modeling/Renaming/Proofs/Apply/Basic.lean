import Renaming.Apply
import Renaming.Proofs.Model.Names

/-!
# What applying a suggestion does

One equation for each way to apply a suggestion (`apply_eq`, `applyByName_eq`, `applyAt_eq`). Both
ways to apply many are one recursion over the list, with a verdict for each suggestion
(`applySuggestions_eq`, `applyTargets_eq`).
-/

namespace Renaming

/-! ## Outcomes -/

namespace Outcome

@[simp] theorem empty_append (o : Outcome) : empty.append o = o := rfl

@[simp] theorem append_empty (o : Outcome) : o.append empty = o := by
  simp [append, empty]

theorem append_assoc (o o' o'' : Outcome) :
    (o.append o').append o'' = o.append (o'.append o'') := by
  simp [append, List.append_assoc]

@[simp] theorem applied_append (o o' : Outcome) :
    (o.append o').applied = o.applied ++ o'.applied := rfl

@[simp] theorem skipped_append (o o' : Outcome) :
    (o.append o').skipped = o.skipped ++ o'.skipped := rfl

end Outcome

/-- The outcome of one suggestion. -/
def Verdict.outcome (s : Suggestion) : Verdict → Outcome
  | .applied change => ⟨[change], []⟩
  | .skipped reason => ⟨[], [⟨s, reason⟩]⟩

theorem Outcome.add_eq (o : Outcome) (s : Suggestion) (v : Verdict) :
    o.add s v = o.append (v.outcome s) := by
  cases v <;> simp [add, append, Verdict.outcome]

/-! ## One suggestion -/

namespace Assembly

/-- The record of a suggestion that is applied to an entity with this name. -/
def changeOf (e : Entity) (s : Suggestion) (oldName : String) : Change :=
  ⟨e, e.kind, oldName, Text.trim s.newName⟩

theorem apply_eq (a : Assembly) (e : Entity) (s : Suggestion) :
    a.apply e s =
      if s.isActionable then
        match a.name? e with
        | none => .error (.entityNotFound e)
        | some oldName => .ok (a.rename e (Text.trim s.newName), changeOf e s oldName)
      else .error (.notActionable s.oldName s.newName) := by
  unfold apply
  split
  · cases h : a.name? e with
    | none => rfl
    | some oldName =>
      simp only [setName_of_name? (Text.trim s.newName) h]
      rfl
  · rfl

/-- A suggestion is applied exactly if it is actionable and the entity is live. -/
theorem apply_eq_ok (a a' : Assembly) (e : Entity) (s : Suggestion) (c : Change) :
    a.apply e s = .ok (a', c) ↔
      s.isActionable = true ∧ ∃ oldName, a.name? e = some oldName ∧
        a' = a.rename e (Text.trim s.newName) ∧ c = changeOf e s oldName := by
  rw [apply_eq]
  split
  · rename_i h
    cases hn : a.name? e with
    | none => simp
    | some oldName => simp [h, eq_comm]
  · rename_i h
    simp [h]

theorem name?_of_firstNamed? {a : Assembly} {kind : Kind} {name : String} {e : Entity}
    (h : a.firstNamed? kind name = some e) : a.name? e = some name := by
  unfold firstNamed? at h
  simpa using List.find?_some h

theorem applyByName_eq (a : Assembly) (s : Suggestion) :
    a.applyByName s =
      if !s.isActionable then (a, .skipped .notActionable)
      else if !s.kind.isModuleWide then (a, .skipped .unsupportedKind)
      else match a.firstNamed? s.kind s.oldName with
        | none => (a, .skipped .notFound)
        | some e => (a.rename e (Text.trim s.newName), .applied (changeOf e s s.oldName)) := by
  unfold applyByName
  split
  · rfl
  · split
    · rfl
    · rename_i hact _
      cases h : a.firstNamed? s.kind s.oldName with
      | none => rfl
      | some e =>
        -- The entity that is found is live, so the model never refuses it.
        have hok : a.apply e s =
            .ok (a.rename e (Text.trim s.newName), changeOf e s s.oldName) := by
          rw [apply_eq_ok]
          exact ⟨by simpa using hact, s.oldName, name?_of_firstNamed? h, rfl, rfl⟩
        simp only [hok]

theorem applyAt_eq (a : Assembly) (e : Entity) (s : Suggestion) :
    a.applyAt e s =
      if s.isActionable then
        match a.name? e with
        | none => (a, .skipped .notFound)
        | some oldName => (a.rename e (Text.trim s.newName), .applied (changeOf e s oldName))
      else (a, .skipped .notActionable) := by
  unfold applyAt
  rw [apply_eq]
  by_cases h : s.isActionable = true
  · simp only [h, if_true]
    cases a.name? e <;> rfl
  · simp [h]

/-! ## Many suggestions -/

/-- Takes a list item by item, each on the model that the items before it left. -/
def applyEach {τ : Type} (step : Assembly → τ → Assembly × Verdict) (suggestion : τ → Suggestion)
    (a : Assembly) : List τ → Assembly × Outcome
  | [] => (a, .empty)
  | x :: xs =>
    let rest := applyEach step suggestion (step a x).1 xs
    (rest.1, ((step a x).2.outcome (suggestion x)).append rest.2)

theorem foldl_eq_applyEach {τ : Type} (step : Assembly → τ → Assembly × Verdict)
    (suggestion : τ → Suggestion) (add : Assembly × Outcome → τ → Assembly × Outcome)
    (hadd : ∀ a o x, add (a, o) x = ((step a x).1, o.add (suggestion x) (step a x).2))
    (a : Assembly) (o : Outcome) (xs : List τ) :
    xs.foldl add (a, o) =
      ((applyEach step suggestion a xs).1, o.append (applyEach step suggestion a xs).2) := by
  induction xs generalizing a o with
  | nil => simp [applyEach]
  | cons x xs ih =>
    rw [List.foldl_cons, hadd, ih]
    simp only [applyEach, Outcome.add_eq, Outcome.append_assoc]

theorem applySuggestions_eq (a : Assembly) (ss : List Suggestion) :
    a.applySuggestions ss = applyEach applyByName id a ss := by
  unfold applySuggestions
  rw [foldl_eq_applyEach applyByName id, Outcome.empty_append]
  intro a o s
  simp only [id]

theorem applyTargets_eq (a : Assembly) (ts : List (Entity × Suggestion)) :
    a.applyTargets ts = applyEach (fun a t => a.applyAt t.1 t.2) (·.2) a ts := by
  unfold applyTargets
  rw [foldl_eq_applyEach (fun a t => a.applyAt t.1 t.2) (·.2), Outcome.empty_append]
  intro a o t
  simp only

end Assembly

end Renaming
