import Renaming.Proofs.Apply.Log

/-!
# What targeted suggestions depend on

A suggestion that comes with its entity reads and writes the name of that entity only. So what
becomes of some targets is the same on all models with the same names there (`applyTargets_congr`),
and other names stay (`name?_applyTargets_of_not_mem`).
-/

namespace Renaming

namespace Assembly

/-! ## One target -/

theorem name?_applyAt_of_ne (a : Assembly) {e f : Entity} (s : Suggestion) (h : e ≠ f) :
    (a.applyAt e s).1.name? f = a.name? f := by
  rw [applyAt_eq]
  split
  · cases a.name? e with
    | none => rfl
    | some oldName => exact a.name?_rename_of_ne _ h
  · rfl

theorem applyAt_congr {a b : Assembly} {e : Entity} (s : Suggestion) (h : a.name? e = b.name? e) :
    (a.applyAt e s).2 = (b.applyAt e s).2 ∧
      ∀ f, a.name? f = b.name? f → (a.applyAt e s).1.name? f = (b.applyAt e s).1.name? f := by
  rw [applyAt_eq, applyAt_eq, ← h]
  by_cases hact : s.isActionable = true
  · simp only [hact, if_true]
    cases a.name? e with
    | none => exact ⟨rfl, fun f hf => hf⟩
    | some oldName =>
      refine ⟨rfl, fun f hf => ?_⟩
      rw [name?_rename, name?_rename, hf]
  · simp [hact]

/-! ## Many targets -/

theorem applyTargets_nil (a : Assembly) : a.applyTargets [] = (a, .empty) := rfl

theorem applyTargets_cons (a : Assembly) (t : Entity × Suggestion)
    (ts : List (Entity × Suggestion)) :
    a.applyTargets (t :: ts) =
      let first := a.applyAt t.1 t.2
      let rest := first.1.applyTargets ts
      (rest.1, (first.2.outcome t.2).append rest.2) := by
  simp only [applyTargets_eq, applyEach]

/-- Entities that are no target keep their names. -/
theorem name?_applyTargets_of_not_mem (a : Assembly) (ts : List (Entity × Suggestion)) {f : Entity}
    (h : f ∉ ts.map (·.1)) : (a.applyTargets ts).1.name? f = a.name? f := by
  induction ts generalizing a with
  | nil => rfl
  | cons t ts ih =>
    rw [List.map_cons, List.mem_cons, not_or] at h
    rw [applyTargets_cons]
    simp only
    rw [ih _ h.2, a.name?_applyAt_of_ne t.2 (Ne.symm h.1)]

theorem nameless_applyTargets (a : Assembly) (ts : List (Entity × Suggestion)) :
    (a.applyTargets ts).1.nameless = a.nameless :=
  (a.applyTargets_logged ts).nameless

/-- Models with the same names at all targets give the same outcome, and where they have the same
name they have the same name afterwards. -/
theorem applyTargets_congr {a b : Assembly} (ts : List (Entity × Suggestion))
    (h : ∀ e ∈ ts.map (·.1), a.name? e = b.name? e) :
    (a.applyTargets ts).2 = (b.applyTargets ts).2 ∧
      ∀ f, a.name? f = b.name? f →
        (a.applyTargets ts).1.name? f = (b.applyTargets ts).1.name? f := by
  induction ts generalizing a b with
  | nil =>
    rw [applyTargets_nil, applyTargets_nil]
    exact ⟨rfl, fun f hf => hf⟩
  | cons t ts ih =>
    obtain ⟨ht, hts⟩ := List.forall_mem_cons.mp h
    obtain ⟨hverdict, hnames⟩ := applyAt_congr t.2 ht
    obtain ⟨houtcome, hrest⟩ := ih fun e he => hnames e (hts e he)
    rw [applyTargets_cons, applyTargets_cons]
    refine ⟨?_, fun f hf => hrest f (hnames f hf)⟩
    simp only [hverdict, houtcome]

end Assembly

end Renaming
