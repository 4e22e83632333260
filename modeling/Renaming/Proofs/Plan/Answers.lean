import Mathlib.Data.List.Forall2
import Mathlib.Data.List.Perm.Basic
import Renaming.Plan.Queue
import Renaming.Proofs.Plan.Basic

/-!
# What an oracle makes of a request

For each request an oracle fails or gives a plan, and it can give any plan there is: one with any
name and any answer for each parameter (`planned_iff`). Queued requests are answered like single
ones, only in another order (`planAll_planned`).
-/

namespace Renaming

/-! ## Questions one after another -/

section

variable {σ α β : Type} (f : α → StateM σ β)

theorem run_mapM_nil (s : σ) : (([] : List α).mapM f).run s = ([], s) := by
  rw [List.mapM_nil]
  rfl

theorem run_mapM_cons (x : α) (xs : List α) (s : σ) :
    ((x :: xs).mapM f).run s =
      let first := (f x).run s
      let rest := (xs.mapM f).run first.2
      (first.1 :: rest.1, rest.2) := by
  rw [List.mapM_cons]
  rfl

theorem length_run_mapM (xs : List α) (s : σ) : ((xs.mapM f).run s).1.length = xs.length := by
  induction xs generalizing s with
  | nil => rfl
  | cons x xs ih =>
    rw [run_mapM_cons]
    simp [ih]

/-- What holds of every single answer holds of every answer in a row. -/
theorem forall₂_run_mapM {R : α → β → Prop} (xs : List α) (h : ∀ x s, R x ((f x).run s).1) (s : σ) :
    List.Forall₂ R xs ((xs.mapM f).run s).1 := by
  induction xs generalizing s with
  | nil => exact .nil
  | cons x xs ih =>
    rw [run_mapM_cons]
    exact .cons (h x s) (ih _)

end

/-! ## One request -/

namespace RenameRequest

variable {σ : Type} (oracle : Oracle σ) (r : RenameRequest)

theorem run_plan (s : σ) :
    (r.plan oracle).run s =
      let answer := (oracle.suggest r.question).run s
      (r.finish oracle answer.1).run answer.2 := rfl

/-- Without an answer for the entity there is no plan. With one there is, whatever becomes of the
other questions. -/
theorem value_finish (answer : Except OracleError String) (s : σ) :
    ((r.finish oracle answer).run s).1.value = answer.map fun name =>
      (r.planOf name ((r.parameterQuestions.mapM oracle.suggest).run s).1).value := by
  cases answer <;> rfl

/-- One answer is all that a plan needs. -/
theorem finish_cases (answer : Except OracleError String) (s : σ) :
    (∃ e, ((r.finish oracle answer).run s).1.value = .error e) ∨
      ∃ name answers, answers.length = r.parameterQuestions.length ∧
        ((r.finish oracle answer).run s).1.value = .ok (r.planOf name answers).value := by
  rw [value_finish]
  cases answer with
  | error e => exact .inl ⟨e, rfl⟩
  | ok name => exact .inr ⟨name, _, length_run_mapM _ _ _, rfl⟩

/-- Some oracle makes this of the request. -/
def Planned (result : Except OracleError RenamePlan) : Prop :=
  ∃ (σ : Type) (oracle : Oracle σ) (s : σ), ((r.plan oracle).run s).1.value = result

end RenameRequest

/-- Answers with what it is given beforehand. -/
def Oracle.ofAnswers : Oracle (List (Except OracleError String)) where
  suggest _ := fun answers => (answers.headD (.error .noSuggestion), answers.tail)
  analyze _ := pure (.silent (.error .noSuggestion))

theorem Oracle.run_ofAnswers (qs : List Question) (answers : List (Except OracleError String))
    (h : answers.length = qs.length) : ((qs.mapM ofAnswers.suggest).run answers).1 = answers := by
  induction qs generalizing answers with
  | nil =>
    rw [run_mapM_nil]
    exact (List.eq_nil_of_length_eq_zero h).symm
  | cons q qs ih =>
    obtain ⟨answer, answers, rfl⟩ := List.exists_cons_of_length_eq_add_one h
    rw [run_mapM_cons]
    exact congrArg (answer :: ·) (ih answers (by simpa using h))

namespace RenameRequest

theorem planned_iff (r : RenameRequest) (result : Except OracleError RenamePlan) :
    r.Planned result ↔
      (∃ e, result = .error e) ∨
      ∃ name answers, answers.length = r.parameterQuestions.length ∧
        result = .ok (r.planOf name answers).value := by
  constructor
  · rintro ⟨σ, oracle, s, rfl⟩
    rw [run_plan]
    exact finish_cases oracle r _ _
  · -- An oracle that knows the answers beforehand gives them to the questions in order.
    rintro (⟨e, rfl⟩ | ⟨name, answers, hlength, rfl⟩)
    · exact ⟨_, .ofAnswers, [.error e], rfl⟩
    · refine ⟨_, .ofAnswers, .ok name :: answers, ?_⟩
      have hfirst : (Oracle.ofAnswers.suggest r.question).run (.ok name :: answers) =
          (.ok name, answers) := rfl
      rw [run_plan, hfirst, value_finish, Oracle.run_ofAnswers _ _ hlength]
      rfl

theorem planned_finish {σ : Type} (oracle : Oracle σ) (r : RenameRequest)
    (answer : Except OracleError String) (s : σ) :
    r.Planned ((r.finish oracle answer).run s).1.value :=
  (planned_iff ..).mpr (finish_cases oracle r answer s)

/-- A plan changes some of the entities that its request is about, each once and in their order. -/
theorem Planned.sublist {r : RenameRequest} {plan : RenamePlan} (h : r.Planned (.ok plan)) :
    plan.entities.Sublist r.entities := by
  rcases (planned_iff ..).mp h with ⟨_, h⟩ | ⟨name, answers, -, h⟩
  · cases h
  · cases h
    exact r.planOf_entities name answers

end RenameRequest

/-! ## Queued requests -/

theorem forall₂_of_zip {α β γ : Type} {R : α → γ → Prop} {xs : List α} {ys : List β} {zs : List γ}
    (hlength : ys.length = xs.length) (h : List.Forall₂ (fun x z => R x.1 z) (xs.zip ys) zs) :
    List.Forall₂ R xs zs := by
  rw [← List.forall₂_map_left_iff, List.map_fst_zip (Nat.le_of_eq hlength.symm)] at h
  exact h

/-- The events of queued requests are, in some order, what an oracle makes of each of them. -/
theorem planAll_planned {σ : Type} (oracle : Oracle σ) (requests : List RenameRequest) (s : σ) :
    ∃ results, List.Forall₂ RenameRequest.Planned requests results ∧
      ((planAll oracle requests).run s).1.value.Perm (results.map .planned) := by
  let answers := (requests.mapM fun r => oracle.suggest r.question).run s
  let pairs := requests.zip answers.1
  let parts := pairs.partition fun p => p.1.asksMore p.2
  let finish (p : RenameRequest × Except OracleError String) := p.1.finish oracle p.2
  let plans := ((parts.2 ++ parts.1).mapM finish).run answers.2
  have hvalue : ((planAll oracle requests).run s).1.value =
      (plans.1.map (·.value)).map .planned := by
    simp only [List.map_map]
    rfl
  have hplans : List.Forall₂ (fun p result => p.1.Planned result) (parts.2 ++ parts.1)
      (plans.1.map (·.value)) := by
    rw [List.forall₂_map_right_iff]
    apply forall₂_run_mapM
    intro p s
    exact RenameRequest.planned_finish oracle p.1 p.2 s
  -- The requests that ask for more finish last.
  have hparts : pairs.Perm (parts.2 ++ parts.1) := by
    simp only [parts, List.partition_eq_filter_filter]
    exact (List.filter_append_perm _ _).symm.trans List.perm_append_comm
  obtain ⟨results, hresults, hperm⟩ := List.perm_comp_forall₂ hparts hplans
  refine ⟨results, forall₂_of_zip (length_run_mapM _ _ _) hresults, ?_⟩
  rw [hvalue]
  exact (hperm.map _).symm

end Renaming
