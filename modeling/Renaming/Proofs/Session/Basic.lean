import Renaming.Proofs.Apply.Basic
import Renaming.Session

/-!
# Runs of a session

How a session unfolds event by event, with the state of the reviewer handed on.
-/

namespace Renaming

/-! ## Reports -/

namespace Report

@[simp] theorem outcome_append (r r' : Report) :
    (r.append r').outcome = r.outcome.append r'.outcome := rfl

@[simp] theorem messages_append (r r' : Report) :
    (r.append r').messages = r.messages ++ r'.messages := rfl

@[simp] theorem rejected_append (r r' : Report) :
    (r.append r').rejected = r.rejected + r'.rejected := rfl

end Report

/-! ## Selected positions -/

namespace Reviewer

variable (x : Analysis)

/-- The actionable suggestions with their positions. -/
def numbered : List (Suggestion × Nat) := x.suggestions.zipIdx.filter fun p => p.1.isActionable

theorem actionable_eq : actionable x = (numbered x).map (·.2) := by
  unfold numbered
  rw [← List.filterMap_eq_map, ← List.filterMap_eq_filter, List.filterMap_filterMap]
  apply List.filterMap_congr
  rintro ⟨s, i⟩ -
  cases hs : s.isActionable <;> simp [Option.guard, hs]

theorem map_numbered :
    (numbered x).map Prod.fst = x.suggestions.filter Suggestion.isActionable := by
  have hmap :=
    List.filter_map (f := Prod.fst) (p := Suggestion.isActionable) (l := x.suggestions.zipIdx)
  rw [List.zipIdx_map_fst, Function.comp_def] at hmap
  rw [numbered, hmap]

theorem sublist_actionable : (actionable x).Sublist (x.suggestions.zipIdx.map (·.2)) := by
  rw [actionable_eq]
  exact List.filter_sublist.map _

/-- The positions lead back to what they were taken from. -/
theorem filterMap_actionable :
    (actionable x).filterMap (x.suggestions[·]?) =
      x.suggestions.filter Suggestion.isActionable := by
  have hback : ∀ p ∈ numbered x, x.suggestions[p.2]? = some p.1 := by
    rintro ⟨s, i⟩ hp
    exact List.mem_zipIdx_iff_getElem?.mp (List.mem_filter.mp hp).1
  calc (actionable x).filterMap (x.suggestions[·]?)
      = (numbered x).filterMap fun p => x.suggestions[p.2]? := by
          rw [actionable_eq, List.filterMap_map]
          rfl
    _ = (numbered x).map Prod.fst := by
          rw [List.filterMap_congr hback, ← List.filterMap_eq_map]
          rfl
    _ = x.suggestions.filter Suggestion.isActionable := map_numbered x

theorem length_actionable :
    (actionable x).length = x.suggestions.countP Suggestion.isActionable := by
  rw [actionable_eq, List.length_map, ← List.length_map (f := Prod.fst), map_numbered,
    List.countP_eq_length_filter]

end Reviewer

namespace Session

variable {ρ : Type} (reviewer : Reviewer ρ) (a : Assembly) (state : ρ)

/-! ## One event -/

theorem handle_plan (plan : RenamePlan) :
    (handle reviewer a (.planned (.ok plan))).run state =
      let decision := (reviewer.review plan).run state
      (decided a plan decision.1, decision.2) := rfl

theorem handle_analysis (analysis : Analysis) :
    (handle reviewer a (.analyzed (.ok analysis))).run state =
      let positions := (reviewer.select analysis).run state
      (selected a analysis positions.1, positions.2) := rfl

theorem handle_plan_error (e : OracleError) :
    (handle reviewer a (.planned (.error e))).run state = (failed a e, state) := rfl

theorem handle_analysis_error (e : OracleError) :
    (handle reviewer a (.analyzed (.error e))).run state = (failed a e, state) := rfl

@[simp] theorem failed_model (e : OracleError) : (failed a e).1 = a := by
  unfold failed
  split <;> rfl

@[simp] theorem failed_outcome (e : OracleError) : (failed a e).2.value.outcome = .empty := by
  unfold failed
  split <;> rfl

/-! ## Many events -/

theorem handleAll_nil : (handleAll reviewer a []).run state = ((a, .silent .empty), state) := rfl

theorem handleAll_cons (event : Event) (events : List Event) :
    (handleAll reviewer a (event :: events)).run state =
      let first := (handle reviewer a event).run state
      let rest := (handleAll reviewer first.1.1 events).run first.2
      ((rest.1.1, ⟨first.1.2.value.append rest.1.2.value,
        first.1.2.warnings ++ rest.1.2.warnings⟩), rest.2) := rfl

theorem run_eq (awaited : Nat) (queue : List Event) :
    (run reviewer a awaited queue).run state =
      let handled := (handleAll reviewer a (queue.take awaited)).run state
      (⟨handled.1.1, handled.1.2.value, handled.1.2.warnings, queue.drop awaited⟩, handled.2) := rfl

end Session

end Renaming
