import Renaming.Proofs.Apply.Basic

/-!
# The log of changes

The changes that are reported when suggestions are applied lead from the model before to the model
after (`Logged`). So the changes made again on the model before give the model after, and taken back
on the model after, the last first, they give the model before.
-/

namespace Renaming

namespace Change

/-- Makes a change again. -/
def redo (a : Assembly) (c : Change) : Except ModelError Assembly := a.setName c.entity c.newName

/-- Takes a change back. -/
def undo (a : Assembly) (c : Change) : Except ModelError Assembly := a.setName c.entity c.oldName

/-- Makes all changes again, in order. -/
def redoAll (log : List Change) (a : Assembly) : Except ModelError Assembly := log.foldlM redo a

/-- Takes all changes back, the last one first. -/
def undoAll (log : List Change) (a : Assembly) : Except ModelError Assembly :=
  log.reverse.foldlM undo a

end Change

open Change

/-- One model leads to another by the changes of a log, each made by applying some suggestion. -/
inductive Logged : Assembly → List Change → Assembly → Prop
  | nil (a : Assembly) : Logged a [] a
  | cons {a b z : Assembly} {s : Suggestion} {c : Change} {log : List Change} :
      a.apply c.entity s = .ok (b, c) → Logged b log z → Logged a (c :: log) z

/-! ## One change -/

theorem change_of_apply {a b : Assembly} {s : Suggestion} {c : Change}
    (h : a.apply c.entity s = .ok (b, c)) :
    a.name? c.entity = some c.oldName ∧ b = a.rename c.entity c.newName := by
  obtain ⟨-, oldName, hname, hb, hc⟩ := (Assembly.apply_eq_ok a b c.entity s c).mp h
  have hold : c.oldName = oldName := congrArg Change.oldName hc
  have hnew : c.newName = Text.trim s.newName := congrArg Change.newName hc
  rw [hold, hnew]
  exact ⟨hname, hb⟩

theorem redo_of_apply {a b : Assembly} {s : Suggestion} {c : Change}
    (h : a.apply c.entity s = .ok (b, c)) : c.redo a = .ok b := by
  obtain ⟨hname, rfl⟩ := change_of_apply h
  exact Assembly.setName_of_name? c.newName hname

theorem undo_of_apply {a b : Assembly} {s : Suggestion} {c : Change}
    (h : a.apply c.entity s = .ok (b, c)) : c.undo b = .ok a := by
  obtain ⟨hname, rfl⟩ := change_of_apply h
  have hlive : (a.rename c.entity c.newName).name? c.entity = some c.newName := by simp [hname]
  unfold undo
  rw [Assembly.setName_of_name? c.oldName hlive, Assembly.rename_rename_of_name? c.newName hname]

/-! ## Many changes -/

namespace Logged

theorem single {a b : Assembly} {s : Suggestion} {c : Change}
    (h : a.apply c.entity s = .ok (b, c)) : Logged a [c] b := .cons h (.nil b)

theorem eq_of_nil {a z : Assembly} (h : Logged a [] z) : z = a := by
  cases h
  rfl

theorem append {a b z : Assembly} {log log' : List Change} (h : Logged a log b)
    (h' : Logged b log' z) : Logged a (log ++ log') z := by
  induction h with
  | nil a => exact h'
  | cons hstep _ ih => exact .cons hstep (ih h')

/-- The model in which a change was made, and the one that it gave. -/
theorem split {a z : Assembly} {before after : List Change} {c : Change}
    (h : Logged a (before ++ c :: after) z) :
    ∃ b s b', Logged a before b ∧ b.apply c.entity s = .ok (b', c) ∧ Logged b' after z := by
  induction before generalizing a with
  | nil =>
    cases h with
    | cons hstep hrest => exact ⟨a, _, _, .nil a, hstep, hrest⟩
  | cons d before ih =>
    cases h with
    | cons hstep hrest =>
      obtain ⟨b, s, b', hb, hc, hz⟩ := ih hrest
      exact ⟨b, s, b', .cons hstep hb, hc, hz⟩

theorem redoAll {a z : Assembly} {log : List Change} (h : Logged a log z) :
    Change.redoAll log a = .ok z := by
  induction h with
  | nil a => rfl
  | cons hstep _ ih =>
    unfold Change.redoAll at ih ⊢
    rw [List.foldlM_cons, redo_of_apply hstep]
    exact ih

theorem undoAll {a z : Assembly} {log : List Change} (h : Logged a log z) :
    Change.undoAll log z = .ok a := by
  induction h with
  | nil a => rfl
  | cons hstep _ ih =>
    -- The first change is the last to be taken back, when the others are gone.
    unfold Change.undoAll at ih ⊢
    rw [List.reverse_cons, List.foldlM_append, ih]
    simp only [List.foldlM_cons, List.foldlM_nil]
    exact congrArg (· >>= pure) (undo_of_apply hstep)

theorem nameless {a z : Assembly} {log : List Change} (h : Logged a log z) :
    z.nameless = a.nameless := by
  induction h with
  | nil a => rfl
  | cons hstep _ ih =>
    obtain ⟨-, rfl⟩ := change_of_apply hstep
    rw [ih, Assembly.nameless_rename]

/-- Entities that the log does not mention keep their names. -/
theorem name?_of_ne {a z : Assembly} {log : List Change} {e : Entity} (h : Logged a log z)
    (he : ∀ c ∈ log, c.entity ≠ e) : z.name? e = a.name? e := by
  induction h with
  | nil a => rfl
  | cons hstep _ ih =>
    obtain ⟨hc, hrest⟩ := List.forall_mem_cons.mp he
    obtain ⟨-, rfl⟩ := change_of_apply hstep
    rw [ih hrest, Assembly.name?_rename_of_ne _ _ hc]

end Logged

/-! ## The ways to apply suggestions -/

/-- What a verdict says about the model before and the model after. -/
inductive Verdict.Explains (a : Assembly) : Assembly → Verdict → Prop
  | applied {b : Assembly} {s : Suggestion} {c : Change} :
      a.apply c.entity s = .ok (b, c) → Explains a b (.applied c)
  | skipped (reason : SkipReason) : Explains a a (.skipped reason)

theorem explains_of_rename {a : Assembly} {e : Entity} {s : Suggestion} {oldName : String}
    (hact : s.isActionable = true) (hname : a.name? e = some oldName) :
    Verdict.Explains a (a.rename e (Text.trim s.newName))
      (.applied (Assembly.changeOf e s oldName)) :=
  .applied ((Assembly.apply_eq_ok ..).mpr ⟨hact, oldName, hname, rfl, rfl⟩)

namespace Assembly

theorem applyByName_explains (a : Assembly) (s : Suggestion) :
    Verdict.Explains a (a.applyByName s).1 (a.applyByName s).2 := by
  rw [applyByName_eq]
  by_cases hact : s.isActionable = true
  · rw [if_neg (by simp [hact])]
    by_cases hkind : s.kind.isModuleWide = true
    · rw [if_neg (by simp [hkind])]
      cases h : a.firstNamed? s.kind s.oldName with
      | none => exact .skipped _
      | some e => exact explains_of_rename hact (name?_of_firstNamed? h)
    · rw [if_pos (by simp [hkind])]
      exact .skipped _
  · rw [if_pos (by simp [hact])]
    exact .skipped _

theorem applyAt_explains (a : Assembly) (e : Entity) (s : Suggestion) :
    Verdict.Explains a (a.applyAt e s).1 (a.applyAt e s).2 := by
  rw [applyAt_eq]
  by_cases hact : s.isActionable = true
  · rw [if_pos hact]
    cases h : a.name? e with
    | none => exact .skipped _
    | some oldName => exact explains_of_rename hact h
  · rw [if_neg hact]
    exact .skipped _

theorem applyEach_logged {τ : Type} (step : Assembly → τ → Assembly × Verdict)
    (suggestion : τ → Suggestion)
    (hstep : ∀ a x, Verdict.Explains a (step a x).1 (step a x).2)
    (a : Assembly) (xs : List τ) :
    Logged a (applyEach step suggestion a xs).2.applied (applyEach step suggestion a xs).1 := by
  induction xs generalizing a with
  | nil => exact .nil a
  | cons x xs ih =>
    have hx := hstep a x
    have hrest := ih (step a x).1
    simp only [applyEach, Outcome.applied_append]
    generalize (step a x).1 = b, (step a x).2 = v at hx hrest ⊢
    cases hx with
    | applied hc => exact .cons hc hrest
    | skipped reason => exact hrest

theorem applySuggestions_logged (a : Assembly) (ss : List Suggestion) :
    Logged a (a.applySuggestions ss).2.applied (a.applySuggestions ss).1 := by
  rw [applySuggestions_eq]
  exact applyEach_logged _ id applyByName_explains a ss

theorem applyTargets_logged (a : Assembly) (ts : List (Entity × Suggestion)) :
    Logged a (a.applyTargets ts).2.applied (a.applyTargets ts).1 := by
  rw [applyTargets_eq]
  apply applyEach_logged
  intro a t
  exact a.applyAt_explains t.1 t.2

end Assembly

end Renaming
