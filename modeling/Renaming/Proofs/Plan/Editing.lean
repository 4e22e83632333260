import Renaming.Proofs.Plan.Answers

/-!
# Editing plans

A reviewer may give a plan another name and leave its parameters out, many times and in any order.
The plan keeps the form in which it was made (`formed`): the change for its own entity comes first,
and only changes for parameters follow. So all that counts in the end is the last name and whether
the parameters were left out.
-/

namespace Renaming

namespace RenamePlan

/-! ## The form of a plan -/

/-- The plan under a name, with these changes after the one for its own entity. -/
def formed (p : RenamePlan) (name : String) (rest : List PlannedChange) : RenamePlan :=
  { p with
    newName := name
    changes := ⟨p.entity, .primary, .certain p.currentName name p.kind⟩ :: rest }

def ForParameters (rest : List PlannedChange) : Prop := ∀ c ∈ rest, c.role = .parameter

/-- The first change is the only primary one. It is for the entity of the plan and has both names of
the plan. -/
structure WellFormed (p : RenamePlan) : Prop where
  first : ∃ s, p.changes.head? = some ⟨p.entity, .primary, s⟩ ∧
    s.oldName = p.currentName ∧ s.newName = p.newName
  others : ForParameters p.changes.tail

variable {p : RenamePlan} {name name' : String} {rest : List PlannedChange}

theorem wellFormed_formed (h : ForParameters rest) : (p.formed name rest).WellFormed where
  first := ⟨_, rfl, rfl, rfl⟩
  others := h

/-- Plans are made in this form, whatever the oracle answers. -/
theorem formed_of_plan {σ : Type} {oracle : Oracle σ} {s : σ} {r : RenameRequest}
    (h : ((r.plan oracle).run s).1.value = .ok p) :
    p = p.formed p.newName p.changes.tail ∧ ForParameters p.changes.tail := by
  rcases (r.planned_iff _).mp ⟨σ, oracle, s, h⟩ with ⟨e, he⟩ | ⟨name, answers, -, hp⟩
  · cases he
  · cases hp
    refine ⟨rfl, fun c hc => ?_⟩
    obtain ⟨⟨slot, answer⟩, -, hchange⟩ := List.mem_filterMap.mp hc
    cases answer with
    | ok name =>
      cases hchange
      rfl
    | error e => cases hchange

/-! ## Edits -/

inductive Edit where
  | rename (name : String)
  | dropParameters
deriving DecidableEq, Repr

/-- The name that an edit gives. -/
def Edit.name? : Edit → Option String
  | rename name => some name
  | dropParameters => none

def edit (p : RenamePlan) : Edit → RenamePlan
  | .rename name => p.withNewName name
  | .dropParameters => p.withoutParameters

def editAll (p : RenamePlan) (edits : List Edit) : RenamePlan := edits.foldl edit p

/-- The name that is given last. -/
def lastName? (edits : List Edit) : Option String := (edits.filterMap Edit.name?).getLast?

theorem rename_formed : (p.formed name rest).edit (.rename name') = p.formed name' rest := rfl

theorem dropParameters_formed (h : ForParameters rest) :
    (p.formed name rest).edit .dropParameters = p.formed name [] := by
  have hrest : rest.filter (·.role == .primary) = [] := by
    rw [List.filter_eq_nil_iff]
    intro c hc
    simp [h c hc]
  simp [edit, withoutParameters, formed, hrest]

theorem editAll_formed (h : ForParameters rest) (edits : List Edit) :
    (p.formed name rest).editAll edits =
      p.formed ((lastName? edits).getD name) (if .dropParameters ∈ edits then [] else rest) := by
  induction edits generalizing name rest with
  | nil => rfl
  | cons e edits ih =>
    unfold editAll at ih ⊢
    rw [List.foldl_cons]
    cases e with
    | rename name' =>
      rw [rename_formed, ih h]
      simp [lastName?, Edit.name?, List.getLast?_cons]
    | dropParameters =>
      rw [dropParameters_formed h, ih (List.forall_mem_nil _)]
      simp [lastName?, Edit.name?]

/-- Whatever the edits, a plan stays well formed, for the same entity and its name so far. It has
the name that was given last, and either all changes for parameters that it was made with or none of
them. So edits with the same last name that agree in leaving the parameters out give one plan. -/
theorem edited_plan_is_well_formed {σ : Type} {oracle : Oracle σ} {s : σ} {r : RenameRequest}
    {p : RenamePlan} (h : ((r.plan oracle).run s).1.value = .ok p) (edits : List Edit) :
    let q := p.editAll edits
    q.WellFormed ∧
    (q.entity = p.entity ∧ q.kind = p.kind ∧ q.currentName = p.currentName) ∧
    q.newName = (lastName? edits).getD p.newName ∧
    q.changes.tail = (if .dropParameters ∈ edits then [] else p.changes.tail) ∧
    ∀ edits', lastName? edits' = lastName? edits →
      (.dropParameters ∈ edits' ↔ .dropParameters ∈ edits) → p.editAll edits' = q := by
  intro q
  obtain ⟨hp, hrest⟩ := formed_of_plan h
  have hedited (edits : List Edit) : p.editAll edits =
      p.formed ((lastName? edits).getD p.newName)
        (if .dropParameters ∈ edits then [] else p.changes.tail) := by
    conv_lhs => rw [hp]
    exact editAll_formed hrest edits
  have hq : q = _ := hedited edits
  have hkept : ForParameters (if .dropParameters ∈ edits then [] else p.changes.tail) := by
    split
    · exact List.forall_mem_nil _
    · exact hrest
  rw [hq]
  refine ⟨wellFormed_formed hkept, ⟨rfl, rfl, rfl⟩, rfl, rfl, fun edits' hname hdrop => ?_⟩
  rw [hedited edits', hname]
  simp only [hdrop]

/-! ### A method with two parameters -/

def twoParameters : RenameRequest :=
  ⟨.method 0 0, .method, "a", "void a(int x, int y)", "Return type: void, Parameters: 2", none,
    [⟨.parameter 0 0 0, "x", "int"⟩, ⟨.parameter 0 0 1, "y", "int"⟩]⟩

theorem edited_plan_of_two_parameters :
    ∃ p, ((twoParameters.plan .ofAnswers).run
        [.ok "Load", .error (.http 500 ""), .ok "count"]).1.value = .ok p ∧
      p.changes.tail = [⟨.parameter 0 0 1, .parameter, .certain "y" "count" .parameter⟩] ∧
      let q := p.editAll [.rename "Read", .dropParameters, .rename "Fetch"]
      q.WellFormed ∧ q.newName = "Fetch" ∧ q.changes.tail = [] ∧
      q = p.editAll [.dropParameters, .rename "Fetch"] := by
  refine ⟨_, rfl, rfl, ?_⟩
  obtain ⟨hform, -, hname, hrest, hsame⟩ :=
    edited_plan_is_well_formed
      (show ((twoParameters.plan .ofAnswers).run
        [.ok "Load", .error (.http 500 ""), .ok "count"]).1.value = .ok _ from rfl)
      [.rename "Read", .dropParameters, .rename "Fetch"]
  exact ⟨hform, hname, hrest, (hsame [.dropParameters, .rename "Fetch"] rfl (by decide)).symm⟩

end RenamePlan

end Renaming
