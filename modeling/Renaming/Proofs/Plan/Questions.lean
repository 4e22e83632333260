import Renaming.Proofs.Plan.Answers

/-!
# What a plan asks for

A plan asks for its entity first. Without an answer that is all. With one it asks for the parameters
that the entity declares, once each and in order, and keeps those that were answered. What becomes
of a parameter depends on its own answer alone.
-/

namespace Renaming

/-! ## Notes -/

/-- A question about a name, with its answer. -/
abbrev Note := Question × Except OracleError String

/-- The same oracle, which notes what it is asked and what it answers. -/
def Oracle.noting {σ : Type} (oracle : Oracle σ) : Oracle (σ × List Note) where
  suggest q := fun (s, notes) =>
    let answer := (oracle.suggest q).run s
    (answer.1, answer.2, notes ++ [(q, answer.1)])
  analyze code := fun (s, notes) =>
    let review := (oracle.analyze code).run s
    (review.1, review.2, notes)

section

variable {σ : Type} {oracle : Oracle σ}

theorem Oracle.run_noting (oracle : Oracle σ) (q : Question) (s : σ) (notes : List Note) :
    (oracle.noting.suggest q).run (s, notes) =
      let answer := (oracle.suggest q).run s
      (answer.1, answer.2, notes ++ [(q, answer.1)]) := rfl

theorem Oracle.run_mapM_noting (oracle : Oracle σ) (qs : List Question) (s : σ)
    (notes : List Note) :
    (qs.mapM oracle.noting.suggest).run (s, notes) =
      let answers := (qs.mapM oracle.suggest).run s
      (answers.1, answers.2, notes ++ qs.zip answers.1) := by
  induction qs generalizing s notes with
  | nil =>
    rw [run_mapM_nil, run_mapM_nil]
    simp
  | cons q qs ih =>
    rw [run_mapM_cons, run_mapM_cons]
    simp only [Oracle.run_noting, ih]
    simp

namespace RenameRequest

variable (r : RenameRequest) {s : σ}

theorem run_finish_ok (name : String) (s : σ) :
    (r.finish oracle (.ok name)).run s =
      let answers := (r.parameterQuestions.mapM oracle.suggest).run s
      ((r.planOf name answers.1).map .ok, answers.2) := rfl

theorem run_finish_error (e : OracleError) (s : σ) :
    (r.finish oracle (.error e)).run s = (.silent (.error e), s) := rfl

theorem run_plan_of_error {e : OracleError}
    (h : ((oracle.suggest r.question).run s).1 = .error e) :
    (r.plan oracle).run s = (.silent (.error e), ((oracle.suggest r.question).run s).2) := by
  rw [run_plan]
  simp only [h, run_finish_error]

theorem run_plan_of_ok {name : String} (h : ((oracle.suggest r.question).run s).1 = .ok name) :
    (r.plan oracle).run s =
      let answers := (r.parameterQuestions.mapM oracle.suggest).run
        ((oracle.suggest r.question).run s).2
      ((r.planOf name answers.1).map .ok, answers.2) := by
  rw [run_plan]
  simp only [h, run_finish_ok]

theorem run_plan_noting_of_error {e : OracleError}
    (h : ((oracle.suggest r.question).run s).1 = .error e) :
    (r.plan oracle.noting).run (s, []) =
      (.silent (.error e), ((oracle.suggest r.question).run s).2, [(r.question, .error e)]) := by
  rw [run_plan]
  simp only [Oracle.run_noting, h, run_finish_error, List.nil_append]

theorem run_plan_noting_of_ok {name : String}
    (h : ((oracle.suggest r.question).run s).1 = .ok name) :
    (r.plan oracle.noting).run (s, []) =
      let answers := (r.parameterQuestions.mapM oracle.suggest).run
        ((oracle.suggest r.question).run s).2
      ((r.planOf name answers.1).map .ok, answers.2,
        (r.question, .ok name) :: r.parameterQuestions.zip answers.1) := by
  rw [run_plan]
  simp only [Oracle.run_noting, h, run_finish_ok, Oracle.run_mapM_noting, List.nil_append,
    List.singleton_append]

end RenameRequest

end

/-! ## The parameters of a request -/

namespace Assembly

/-- The parameters that an entity declares, with their handles. Only methods declare any. -/
def declared (a : Assembly) : Entity → List (Entity × ParameterDecl)
  | .method t m => ((a.method? t m).map fun d =>
      d.parameters.zipIdx.map fun (p, i) => (.parameter t m i, p)).getD []
  | _ => []

theorem parameters_of_request {a : Assembly} {e : Entity} {r : RenameRequest}
    (h : a.request e = .ok r) :
    r.parameters = (a.declared e).map fun x => ⟨x.1, x.2.name, x.2.parameterType⟩ := by
  obtain ⟨-, -, hname, hparameters⟩ := request_eq_ok h
  rw [hparameters]
  cases e with
  | method t m =>
    obtain ⟨d, hd, -⟩ := Option.map_eq_some_iff.mp hname
    rw [slots, parameterSlots_of_method hd, declared, hd]
    simp
  | _ => rfl

/-- The question for a parameter comes without code. -/
def questionFor (method : String) (p : ParameterDecl) : Question :=
  ⟨"", p.name, .parameter, "Parameter in method " ++ method ++ ", Type: " ++ p.parameterType⟩

theorem parameterQuestions_of_request {a : Assembly} {e : Entity} {r : RenameRequest}
    (h : a.request e = .ok r) :
    r.parameterQuestions = (a.declared e).map fun x => questionFor r.currentName x.2 := by
  have hparameters := parameters_of_request h
  have hkind := (request_eq_ok h).2.1
  unfold RenameRequest.parameterQuestions
  rw [hkind, hparameters]
  cases e with
  | method t m =>
    rw [List.map_map]
    rfl
  | _ => rfl

end Assembly

/-! ## What is kept -/

/-- The change for a parameter that was answered. -/
def ParameterDecl.change (p : ParameterDecl) (f : Entity) (name : String) : PlannedChange :=
  ⟨f, .parameter, ⟨p.name, name, .parameter, "", 1⟩⟩

/-- Parameters with their answers, the changes that come of them and the warnings. -/
inductive Kept :
    List ((Entity × ParameterDecl) × Except OracleError String) → List PlannedChange →
      List String → Prop where
  | nil : Kept [] [] []
  | named {f p name rest changes warnings} (h : Kept rest changes warnings) :
      Kept (((f, p), .ok name) :: rest) (p.change f name :: changes) warnings
  | unchanged {f p rest changes warnings} (h : Kept rest changes warnings) :
      Kept (((f, p), .error .noSuggestion) :: rest) changes warnings
  | failed {f p e rest changes warnings} (he : e ≠ .noSuggestion)
      (h : Kept rest changes warnings) :
      Kept (((f, p), .error e) :: rest) changes
        (("No suggestion for parameter " ++ p.name ++ ": " ++ e.message) :: warnings)

theorem kept_planOf {r : RenameRequest} {name : String} {ps : List (Entity × ParameterDecl)}
    {answers : List (Except OracleError String)}
    (hparameters : r.parameters = ps.map fun x => ⟨x.1, x.2.name, x.2.parameterType⟩) :
    Kept (ps.zip answers) (r.planOf name answers).value.changes.tail
      (r.planOf name answers).warnings := by
  unfold RenameRequest.planOf
  rw [hparameters, List.tail_cons]
  clear hparameters
  induction ps generalizing answers with
  | nil => exact .nil
  | cons x ps ih =>
    obtain ⟨f, p⟩ := x
    cases answers with
    | nil => exact .nil
    | cons answer answers =>
      rw [List.map_cons, List.zip_cons_cons, List.zip_cons_cons]
      cases answer with
      | ok name => exact .named ih
      | error e =>
        by_cases he : e = .noSuggestion
        · subst he
          exact .unchanged ih
        · simpa [RenameRequest.parameterChange?, RenameRequest.parameterWarning?,
            OracleError.isNoChange, he] using Kept.failed he ih

/-- Each parameter that was answered gives its own change, whatever becomes of the others. -/
theorem Kept.mem_iff {xs : List ((Entity × ParameterDecl) × Except OracleError String)}
    {changes : List PlannedChange} {warnings : List String} (h : Kept xs changes warnings)
    (c : PlannedChange) :
    c ∈ changes ↔ ∃ f p name, ((f, p), .ok name) ∈ xs ∧ c = p.change f name := by
  induction h with
  | nil => simp
  | named _ ih | unchanged _ ih | failed _ _ ih => simp [ih, or_and_right, exists_or]

/-- A plan asks for its entity first. If that fails the failure is all there is. Otherwise it asks
for the parameters that the entity declares, in order, and cannot fail any more: it changes the
entity and the parameters that were answered, and warns of those that failed. -/
theorem plan_asks_in_order {σ : Type} {a : Assembly} {e : Entity} {r : RenameRequest}
    (h : a.request e = .ok r) (oracle : Oracle σ) (s : σ) :
    let question : Question := ⟨r.excerpt, r.currentName, r.kind, r.context⟩
    let first := (oracle.suggest question).run s
    let x := (r.plan oracle.noting).run (s, [])
    (r.plan oracle).run s = (x.1, x.2.1) ∧
    (∀ error, first.1 = .error error →
      x = (.silent (.error error), first.2, [(question, .error error)])) ∧
    ∀ name, first.1 = .ok name → ∃ answers changes,
      answers.length = (a.declared e).length ∧
      x.2.2 = (question, .ok name) ::
        ((a.declared e).map fun y => Assembly.questionFor r.currentName y.2).zip answers ∧
      x.1.value = .ok ⟨e, e.kind, r.currentName, name,
        ⟨e, .primary, ⟨r.currentName, name, e.kind, "", 1⟩⟩ :: changes⟩ ∧
      Kept ((a.declared e).zip answers) changes x.1.warnings ∧
      ∀ c, c ∈ changes ↔ ∃ f p new, ((f, p), .ok new) ∈ (a.declared e).zip answers ∧
        c = p.change f new := by
  intro question first x
  obtain ⟨rfl, hkind, -, -⟩ := Assembly.request_eq_ok h
  cases hfirst : first.1 with
  | error error =>
    have hx : x = _ := r.run_plan_noting_of_error hfirst
    rw [r.run_plan_of_error hfirst, hx]
    refine ⟨rfl, ?_, ?_⟩
    · rintro _ ⟨⟩
      rfl
    · rintro _ ⟨⟩
  | ok name =>
    have hx : x = _ := r.run_plan_noting_of_ok hfirst
    rw [r.run_plan_of_ok hfirst, hx]
    refine ⟨rfl, ?_, ?_⟩
    · rintro _ ⟨⟩
    rintro _ ⟨⟩
    have hquestions := Assembly.parameterQuestions_of_request h
    let answers := ((r.parameterQuestions.mapM oracle.suggest).run first.2).1
    have hkept : Kept ((a.declared r.entity).zip answers) (r.planOf name answers).value.changes.tail
        (r.planOf name answers).warnings := kept_planOf (Assembly.parameters_of_request h)
    refine ⟨answers, _, ?_, ?_, ?_, hkept, hkept.mem_iff⟩
    · rw [length_run_mapM, hquestions, List.length_map]
    · rw [← hquestions]
      rfl
    · rw [← hkind]
      rfl

/-! ### Two parameters of one name -/

def sameNames : Assembly :=
  ⟨"", [⟨"", "", none, [], [], [⟨"a", "", [⟨"x", "int"⟩, ⟨"x", "string"⟩], [], ""⟩]⟩]⟩

/-- The first parameter fails and the second one is named. -/
theorem plan_asks_for_both_parameters :
    ∃ r answers changes, sameNames.request (.method 0 0) = .ok r ∧
      let x := (r.plan Oracle.ofAnswers.noting).run
        ([.ok "Load", .error (.http 500 ""), .ok "count"], [])
      x.2.2 = (r.question, .ok "Load") ::
        [Assembly.questionFor r.currentName ⟨"x", "int"⟩,
          Assembly.questionFor r.currentName ⟨"x", "string"⟩].zip answers ∧
      x.1.value = .ok ⟨.method 0 0, .method, r.currentName, "Load",
        ⟨.method 0 0, .primary, ⟨r.currentName, "Load", .method, "", 1⟩⟩ :: changes⟩ ∧
      Kept ([(.parameter 0 0 0, ⟨"x", "int"⟩), (.parameter 0 0 1, ⟨"x", "string"⟩)].zip answers)
        changes x.1.warnings := by
  obtain ⟨r, hr⟩ : ∃ r, sameNames.request (.method 0 0) = .ok r := ⟨_, rfl⟩
  obtain ⟨-, -, hplan⟩ := plan_asks_in_order hr .ofAnswers
    [.ok "Load", .error (.http 500 ""), .ok "count"]
  obtain ⟨answers, changes, -, hnotes, hvalue, hkept, -⟩ := hplan "Load" rfl
  exact ⟨r, answers, changes, hr, hnotes, hvalue, hkept⟩

end Renaming
