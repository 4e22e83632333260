import Renaming.Plan
import Renaming.Proofs.Apply.Frame

/-!
# Plans that are applied in full

A plan whose names are all trimmed, not empty and different from the old ones is applied in full on
every model in which its entities are live: it gives them these names, one after another.
-/

namespace Renaming

/-! ## Names one after another -/

namespace Assembly

/-- Gives some entities other names, one after another. -/
def renameAll (a : Assembly) (names : List (Entity × String)) : Assembly :=
  names.foldl (fun a x => a.rename x.1 x.2) a

@[simp] theorem renameAll_nil (a : Assembly) : a.renameAll [] = a := rfl

@[simp] theorem renameAll_cons (a : Assembly) (x : Entity × String) (xs : List (Entity × String)) :
    a.renameAll (x :: xs) = (a.rename x.1 x.2).renameAll xs := rfl

theorem renameAll_append (a : Assembly) (xs ys : List (Entity × String)) :
    a.renameAll (xs ++ ys) = (a.renameAll xs).renameAll ys :=
  List.foldl_append

@[simp] theorem nameless_renameAll (a : Assembly) (xs : List (Entity × String)) :
    (a.renameAll xs).nameless = a.nameless := by
  induction xs generalizing a with
  | nil => rfl
  | cons x xs ih => rw [renameAll_cons, ih, nameless_rename]

theorem name?_renameAll_of_not_mem (a : Assembly) {xs : List (Entity × String)} {e : Entity}
    (h : e ∉ xs.map (·.1)) : (a.renameAll xs).name? e = a.name? e := by
  induction xs generalizing a with
  | nil => rfl
  | cons x xs ih =>
    rw [List.map_cons, List.mem_cons, not_or] at h
    rw [renameAll_cons, ih _ h.2, name?_rename_of_ne _ _ (Ne.symm h.1)]

/-- A live entity has the last name that it was given. -/
theorem name?_renameAll_last {a : Assembly} {e : Entity} (h : (a.name? e).isSome = true)
    (xs : List (Entity × String)) (name : String) {ys : List (Entity × String)}
    (hlast : e ∉ ys.map (·.1)) : (a.renameAll (xs ++ (e, name) :: ys)).name? e = some name := by
  have hlive : ((a.renameAll xs).name? e).isSome = true := by
    rw [isSome_name?_congr (a.nameless_renameAll xs)]
    exact h
  obtain ⟨old, hold⟩ := Option.isSome_iff_exists.mp hlive
  rw [renameAll_append, renameAll_cons, name?_renameAll_of_not_mem _ hlast, name?_rename_self, hold]
  rfl

/-! ## Targets -/

/-- Actionable suggestions for live entities are all applied. -/
theorem applyTargets_full {a : Assembly} {ts : List (Entity × Suggestion)}
    (hactionable : ∀ t ∈ ts, t.2.isActionable = true)
    (hlive : ∀ t ∈ ts, (a.name? t.1).isSome = true) :
    (a.applyTargets ts).1 = a.renameAll (ts.map fun t => (t.1, Text.trim t.2.newName)) ∧
      (a.applyTargets ts).2.skipped = [] ∧
      ((a.applyTargets ts).2.applied.map fun c => (c.entity, c.newName)) =
        ts.map fun t => (t.1, Text.trim t.2.newName) := by
  induction ts generalizing a with
  | nil => exact ⟨rfl, rfl, rfl⟩
  | cons t ts ih =>
    obtain ⟨hact, hacts⟩ := List.forall_mem_cons.mp hactionable
    obtain ⟨ht, hts⟩ := List.forall_mem_cons.mp hlive
    obtain ⟨old, hold⟩ := Option.isSome_iff_exists.mp ht
    have hfirst : a.applyAt t.1 t.2 =
        (a.rename t.1 (Text.trim t.2.newName), .applied (changeOf t.1 t.2 old)) := by
      rw [applyAt_eq, if_pos hact, hold]
    -- A new name does not take any other target away.
    have hrest : ∀ t' ∈ ts, ((a.rename t.1 (Text.trim t.2.newName)).name? t'.1).isSome = true := by
      intro t' ht'
      rw [isSome_name?_congr (a.nameless_rename ..)]
      exact hts t' ht'
    obtain ⟨hmodel, hskipped, happlied⟩ := ih hacts hrest
    rw [applyTargets_cons, hfirst]
    refine ⟨hmodel, hskipped, ?_⟩
    simp only [Verdict.outcome, Outcome.applied_append, List.map_append, happlied]
    rfl

end Assembly

/-! ## Plans -/

namespace PlannedChange

/-- The entity and the name that it is to have. -/
def named (c : PlannedChange) : Entity × String := (c.entity, c.suggestion.newName)

/-- The new name can be given as it stands, and is worth giving. -/
structure Clean (c : PlannedChange) : Prop where
  trimmed : Text.trim c.suggestion.newName = c.suggestion.newName
  actionable : c.suggestion.isActionable = true

end PlannedChange

theorem PlannedChange.map_fst_named (cs : List PlannedChange) :
    (cs.map (·.named)).map (·.1) = cs.map (·.entity) := by
  simp [named, Function.comp_def]

namespace Assembly

variable (a : Assembly)

theorem name?_renameAll_named_of_not_mem {cs : List PlannedChange} {e : Entity}
    (h : e ∉ cs.map (·.entity)) : (a.renameAll (cs.map (·.named))).name? e = a.name? e := by
  apply name?_renameAll_of_not_mem
  rw [PlannedChange.map_fst_named]
  exact h

/-- The last change of an entity is the one that counts. -/
theorem name?_renameAll_named_last {before after : List PlannedChange} {c : PlannedChange}
    (hlive : (a.name? c.entity).isSome = true) (hlast : c.entity ∉ after.map (·.entity)) :
    (a.renameAll ((before ++ c :: after).map (·.named))).name? c.entity =
      some c.suggestion.newName := by
  rw [List.map_append, List.map_cons]
  apply name?_renameAll_last hlive
  rw [PlannedChange.map_fst_named]
  exact hlast

end Assembly

theorem Suggestion.isActionable_certain {oldName newName : String} {kind : Kind}
    (htrimmed : Text.trim newName = newName) (hsome : newName.isEmpty = false)
    (hnew : newName ≠ oldName) : (certain oldName newName kind).isActionable = true := by
  simp [isActionable, certain, htrimmed, hsome, hnew]

theorem Assembly.applyPlan_full {a : Assembly} {plan : RenamePlan}
    (hclean : ∀ c ∈ plan.changes, c.Clean)
    (hlive : ∀ c ∈ plan.changes, (a.name? c.entity).isSome = true) :
    (a.applyPlan plan).1 = a.renameAll (plan.changes.map (·.named)) ∧
      (a.applyPlan plan).2.skipped = [] ∧
      ((a.applyPlan plan).2.applied.map fun c => (c.entity, c.newName)) =
        plan.changes.map (·.named) := by
  have hnames : (plan.targets.map fun t => (t.1, Text.trim t.2.newName)) =
      plan.changes.map (·.named) := by
    unfold RenamePlan.targets PlannedChange.named
    rw [List.map_map]
    apply List.map_congr_left
    intro c hc
    simp only [Function.comp, (hclean c hc).trimmed]
  rw [← hnames]
  apply applyTargets_full
  · intro t ht
    obtain ⟨c, hc, rfl⟩ := List.mem_map.mp ht
    exact (hclean c hc).actionable
  · intro t ht
    obtain ⟨c, hc, rfl⟩ := List.mem_map.mp ht
    exact hlive c hc

end Renaming
