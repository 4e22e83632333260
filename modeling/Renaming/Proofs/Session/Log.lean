import Renaming.Proofs.Apply.Log
import Renaming.Proofs.Session.Basic

/-!
# Logs of whole runs

A run is any sequence of the operations that change a model. The changes that they report, one
operation after another, are an exact log of the run, however often an entity is renamed.
-/

namespace Renaming

open Change

/-! ## Sessions -/

namespace Session

theorem decided_logged (a : Assembly) (plan : RenamePlan) (decision : Warned Decision) :
    Logged a (decided a plan decision).2.value.outcome.applied (decided a plan decision).1 := by
  unfold decided
  split
  · exact a.applyTargets_logged _
  · exact .nil a

theorem selected_logged (a : Assembly) (analysis : Analysis) (positions : Warned (List Nat)) :
    Logged a (selected a analysis positions).2.value.outcome.applied
      (selected a analysis positions).1 := by
  unfold selected
  exact a.applySuggestions_logged _

theorem failed_logged (a : Assembly) (e : OracleError) :
    Logged a (failed a e).2.value.outcome.applied (failed a e).1 := by
  rw [failed_model, failed_outcome]
  exact .nil a

variable {ρ : Type} (reviewer : Reviewer ρ)

theorem handle_logged (a : Assembly) (event : Event) (state : ρ) :
    let step := ((handle reviewer a event).run state).1
    Logged a step.2.value.outcome.applied step.1 := by
  rcases event with (e | plan) | (e | analysis)
  · rw [handle_plan_error]
    exact failed_logged a e
  · rw [handle_plan]
    exact decided_logged a plan _
  · rw [handle_analysis_error]
    exact failed_logged a e
  · rw [handle_analysis]
    exact selected_logged a analysis _

theorem handleAll_logged (a : Assembly) (events : List Event) (state : ρ) :
    let step := ((handleAll reviewer a events).run state).1
    Logged a step.2.value.outcome.applied step.1 := by
  induction events generalizing a state with
  | nil =>
    rw [handleAll_nil]
    exact .nil a
  | cons event events ih =>
    rw [handleAll_cons]
    exact (handle_logged reviewer a event state).append (ih _ _)

theorem run_logged (a : Assembly) (awaited : Nat) (queue : List Event) (state : ρ) :
    let result := ((run reviewer a awaited queue).run state).1
    Logged a result.report.outcome.applied result.model := by
  rw [run_eq]
  exact handleAll_logged reviewer a (queue.take awaited) state

end Session

/-! ## Operations -/

/-- What can be done to a model. A session comes with its reviewer and its events. -/
inductive Operation : Type 1 where
  | single (entity : Entity) (s : Suggestion)
  | suggestions (ss : List Suggestion)
  | analysis (x : Analysis)
  | targets (ts : List (Entity × Suggestion))
  | plan (p : RenamePlan)
  | session {ρ : Type} (reviewer : Reviewer ρ) (state : ρ) (awaited : Nat) (queue : List Event)

namespace Operation

/-- The model after a suggestion was applied to it or refused. -/
def settled (a : Assembly) : Except ModelError (Assembly × Change) → Assembly × List Change
  | .ok (b, c) => (b, [c])
  | .error _ => (a, [])

/-- The model after an operation, and the changes that it reports. -/
def run (a : Assembly) : Operation → Assembly × List Change
  | single e s => settled a (a.apply e s)
  | suggestions ss => ((a.applySuggestions ss).1, (a.applySuggestions ss).2.applied)
  | analysis x => ((a.applyAnalysis x).1, (a.applyAnalysis x).2.applied)
  | targets ts => ((a.applyTargets ts).1, (a.applyTargets ts).2.applied)
  | plan p => ((a.applyPlan p).1, (a.applyPlan p).2.applied)
  | session reviewer state awaited queue =>
    let result := ((Session.run reviewer a awaited queue).run state).1
    (result.model, result.report.outcome.applied)

/-- The model after some operations, and all the changes that they report. -/
def runAll (a : Assembly) : List Operation → Assembly × List Change
  | [] => (a, [])
  | op :: ops => ((runAll (op.run a).1 ops).1, (op.run a).2 ++ (runAll (op.run a).1 ops).2)

theorem settled_logged (a : Assembly) (e : Entity) (s : Suggestion) :
    Logged a (settled a (a.apply e s)).2 (settled a (a.apply e s)).1 := by
  cases h : a.apply e s with
  | error _ => exact .nil a
  | ok p =>
    obtain ⟨b, c⟩ := p
    obtain ⟨-, oldName, -, -, hc⟩ := (Assembly.apply_eq_ok ..).mp h
    have he : c.entity = e := congrArg Change.entity hc
    rw [← he] at h
    exact .single h

theorem run_logged (a : Assembly) (op : Operation) : Logged a (op.run a).2 (op.run a).1 := by
  cases op with
  | single e s => exact settled_logged a e s
  | suggestions ss => exact a.applySuggestions_logged ss
  | analysis x => exact a.applySuggestions_logged x.suggestions
  | targets ts => exact a.applyTargets_logged ts
  | plan p => exact a.applyTargets_logged p.targets
  | session reviewer state awaited queue => exact Session.run_logged reviewer a awaited queue state

theorem runAll_logged (a : Assembly) (ops : List Operation) :
    Logged a (runAll a ops).2 (runAll a ops).1 := by
  induction ops generalizing a with
  | nil => exact .nil a
  | cons op ops ih => exact (run_logged a op).append (ih _)

/-- The log of a run is exact. Every change was made by applying a suggestion to the model that the
changes before it gave, and records the name that its entity had there. The log made again gives the
model after the run, and taken back the model before it. Nothing but the names of the entities in
the log is ever changed. -/
theorem log_is_exact (a : Assembly) (ops : List Operation) :
    let z := (runAll a ops).1
    let log := (runAll a ops).2
    (∀ before c after, log = before ++ c :: after → ∃ b s b', redoAll before a = .ok b ∧
      b.apply c.entity s = .ok (b', c) ∧ b.name? c.entity = some c.oldName) ∧
    redoAll log a = .ok z ∧
    undoAll log z = .ok a ∧
    z.nameless = a.nameless ∧
    (∀ e, (∀ c ∈ log, c.entity ≠ e) → z.name? e = a.name? e) ∧
    (log = [] → z = a) := by
  intro z log
  have h : Logged a log z := runAll_logged a ops
  refine ⟨?_, h.redoAll, h.undoAll, h.nameless, fun e he => h.name?_of_ne he, ?_⟩
  · intro before c after hlog
    rw [hlog] at h
    obtain ⟨b, s, b', hb, hc, -⟩ := h.split
    exact ⟨b, s, b', hb.redoAll, hc, (change_of_apply hc).1⟩
  · intro hlog
    rw [hlog] at h
    exact h.eq_of_nil

end Operation

end Renaming
