import Renaming.Proofs.Apply.Full
import Renaming.Proofs.Session.Order

/-!
# Sessions that accept everything

Without a reviewer's edits a session over plans that can be applied in full applies them all in
full, one after another.
-/

namespace Renaming

/-- The plan as it stands can be applied in full to a model. -/
structure RenamePlan.Ready (a : Assembly) (plan : RenamePlan) : Prop where
  clean : ∀ c ∈ plan.changes, c.Clean
  live : ∀ c ∈ plan.changes, (a.name? c.entity).isSome = true
  /-- The name of the plan is the one that it gives its entity. -/
  unedited : plan.withNewName plan.newName = plan

theorem RenamePlan.Ready.congr {a b : Assembly} {plan : RenamePlan} (h : plan.Ready a)
    (hrest : a.nameless = b.nameless) : plan.Ready b where
  clean := h.clean
  live c hc := by
    rw [← Assembly.isSome_name?_congr hrest]
    exact h.live c hc
  unedited := h.unedited

namespace Session

/-- The decision of a reviewer who accepts everything. -/
def accepting (plan : RenamePlan) : Decision := .accept plan.newName

theorem settle_ready {a : Assembly} {plan : RenamePlan} (h : plan.Ready a) :
    (settle accepting a (.ok plan)).1 = a.renameAll (plan.changes.map (·.named)) ∧
      (settle accepting a (.ok plan)).2.outcome.skipped = [] ∧
      ((settle accepting a (.ok plan)).2.outcome.applied.map fun c => (c.entity, c.newName)) =
        plan.changes.map (·.named) ∧
      (settle accepting a (.ok plan)).2.rejected = 0 := by
  rw [settle_accept accepting a rfl, h.unedited]
  obtain ⟨hmodel, hskipped, happlied⟩ := Assembly.applyPlan_full h.clean h.live
  exact ⟨hmodel, hskipped, happlied, rfl⟩

theorem settleAll_ready {a : Assembly} {plans : List RenamePlan} (h : ∀ p ∈ plans, p.Ready a) :
    let names := plans.flatMap fun p => p.changes.map (·.named)
    let result := settleAll accepting a (plans.map .ok)
    result.1 = a.renameAll names ∧ result.2.outcome.skipped = [] ∧
      (result.2.outcome.applied.map fun c => (c.entity, c.newName)) = names ∧
      result.2.rejected = 0 := by
  induction plans generalizing a with
  | nil => exact ⟨rfl, rfl, rfl, rfl⟩
  | cons p plans ih =>
    obtain ⟨hp, hplans⟩ := List.forall_mem_cons.mp h
    obtain ⟨hmodel, hskipped, happlied, hrejected⟩ := settle_ready hp
    have hrest : ∀ q ∈ plans, q.Ready (settle accepting a (.ok p)).1 := by
      intro q hq
      exact (hplans q hq).congr (nameless_settle accepting a (.ok p)).symm
    obtain ⟨hmodel', hskipped', happlied', hrejected'⟩ := ih hrest
    simp only [List.map_cons, List.flatMap_cons, settleAll, Report.outcome_append,
      Outcome.skipped_append, Outcome.applied_append, Report.rejected_append, List.map_append]
    refine ⟨?_, ?_, ?_, ?_⟩
    · rw [hmodel', hmodel, Assembly.renameAll_append]
    · rw [hskipped, hskipped', List.append_nil]
    · rw [happlied, happlied']
    · rw [hrejected, hrejected']

theorem run_acceptAll {ρ : Type} {a : Assembly} {plans : List RenamePlan}
    (h : ∀ p ∈ plans, p.Ready a) {awaited : Nat} (hawaited : plans.length ≤ awaited) (state : ρ) :
    let names := plans.flatMap fun p => p.changes.map (·.named)
    let result := ((run .acceptAll a awaited (plans.map fun p => .planned (.ok p))).run state).1
    result.model = a.renameAll names ∧ result.report.outcome.skipped = [] ∧
      (result.report.outcome.applied.map fun c => (c.entity, c.newName)) = names ∧
      result.report.rejected = 0 := by
  intro names result
  have hqueue : (plans.map .ok).map Event.planned =
      plans.map fun p => Event.planned (.ok p) := List.map_map
  have hdecide : ∀ (plan : RenamePlan) (state : ρ),
      ((Reviewer.acceptAll.review plan).run state).1.value = accepting plan := fun _ _ => rfl
  have hlength : (plans.map .ok : List (Except OracleError RenamePlan)).length ≤ awaited := by
    rwa [List.length_map]
  have hrun := run_planned hdecide a (plans.map .ok) hlength state
  rw [hqueue] at hrun
  have hall := settleAll_ready h
  rw [← hrun] at hall
  exact hall

end Session

end Renaming
