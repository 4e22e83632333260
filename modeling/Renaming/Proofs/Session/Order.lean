import Renaming.Proofs.Apply.Frame
import Renaming.Proofs.Plan.Answers
import Renaming.Proofs.Session.Basic

/-!
# Sessions in another order

Plans that change different entities can be handled in any order. Two of them in a row give the same
model and the same reports either way, so any order does (`settleAll_perm`). Plans for different
entities of one kind are such plans.
-/

namespace Renaming

/-- Reports that say the same in another order. -/
structure Report.Reordered (r r' : Report) : Prop where
  applied : r.outcome.applied.Perm r'.outcome.applied
  skipped : r.outcome.skipped.Perm r'.outcome.skipped
  messages : r.messages.Perm r'.messages
  rejected : r.rejected = r'.rejected

namespace Report.Reordered

theorem refl (r : Report) : r.Reordered r := ⟨.refl _, .refl _, .refl _, rfl⟩

theorem trans {r r' r'' : Report} (h : r.Reordered r') (h' : r'.Reordered r'') :
    r.Reordered r'' :=
  ⟨h.applied.trans h'.applied, h.skipped.trans h'.skipped, h.messages.trans h'.messages,
    h.rejected.trans h'.rejected⟩

theorem append_left (x : Report) {r r' : Report} (h : r.Reordered r') :
    (x.append r).Reordered (x.append r') :=
  ⟨h.applied.append_left _, h.skipped.append_left _, h.messages.append_left _,
    congrArg (x.rejected + ·) h.rejected⟩

/-- The reports of two steps may be swapped. -/
theorem swap (x y r : Report) : (x.append (y.append r)).Reordered (y.append (x.append r)) := by
  have hperm : ∀ {α : Type} (k l m : List α), (k ++ (l ++ m)).Perm (l ++ (k ++ m)) := by
    intro α k l m
    rw [← List.append_assoc, ← List.append_assoc]
    exact List.perm_append_comm.append_right m
  exact ⟨hperm _ _ _, hperm _ _ _, hperm _ _ _, Nat.add_left_comm ..⟩

end Report.Reordered

namespace Session

/-! ## One result -/

/-- The entities that a result can give another name. -/
def entities : Except OracleError RenamePlan → List Entity
  | .ok plan => plan.entities
  | .error _ => []

variable (decide : RenamePlan → Decision)

/-- What a result does if each plan is decided about by itself. -/
def settle (a : Assembly) : Except OracleError RenamePlan → Assembly × Report
  | .ok plan =>
    let step := decided a plan (.silent (decide plan))
    (step.1, step.2.value)
  | .error e => ((failed a e).1, (failed a e).2.value)

theorem settle_accept (a : Assembly) {plan : RenamePlan} {name : String}
    (h : decide plan = .accept name) :
    settle decide a (.ok plan) =
      let renamed := a.applyTargets (plan.withNewName name).targets
      (renamed.1, ⟨renamed.2, [planMessage (plan.withNewName name) renamed.2], 0⟩) := by
  simp only [settle, decided, Warned.silent, h]
  rfl

theorem settle_reject (a : Assembly) {plan : RenamePlan} (h : decide plan = .reject) :
    settle decide a (.ok plan) =
      (a, ⟨.empty, ["Kept " ++ plan.kind.tag ++ " '" ++ plan.currentName ++ "'"], 1⟩) := by
  simp only [settle, decided, Warned.silent, h]

theorem settle_error (a : Assembly) (e : OracleError) :
    settle decide a (.error e) =
      (a, ⟨.empty, [if e.isNoChange then "No change suggested"
        else "Error getting suggestion: " ++ e.message], 0⟩) := by
  simp only [settle, failed]
  split <;> rfl

theorem map_targets_withNewName (plan : RenamePlan) (name : String) :
    (plan.withNewName name).targets.map (·.1) = plan.entities := by
  rw [RenamePlan.map_targets, RenamePlan.entities_withNewName]

theorem nameless_settle (a : Assembly) (x : Except OracleError RenamePlan) :
    (settle decide a x).1.nameless = a.nameless := by
  cases x with
  | error e => rw [settle_error]
  | ok plan =>
    cases h : decide plan with
    | accept name =>
      rw [settle_accept _ _ h]
      exact a.nameless_applyTargets _
    | reject => rw [settle_reject _ _ h]

theorem name?_settle_of_not_mem (a : Assembly) {x : Except OracleError RenamePlan} {f : Entity}
    (hf : f ∉ entities x) : (settle decide a x).1.name? f = a.name? f := by
  cases x with
  | error e => rw [settle_error]
  | ok plan =>
    cases h : decide plan with
    | accept name =>
      rw [settle_accept _ _ h]
      apply a.name?_applyTargets_of_not_mem
      rw [map_targets_withNewName]
      exact hf
    | reject => rw [settle_reject _ _ h]

/-- Models with the same names at the entities of a result give the same report, and where they have
the same name they have the same name afterwards. -/
theorem settle_congr {a b : Assembly} {x : Except OracleError RenamePlan}
    (hnames : ∀ e ∈ entities x, a.name? e = b.name? e) :
    (settle decide a x).2 = (settle decide b x).2 ∧ ∀ f, a.name? f = b.name? f →
      (settle decide a x).1.name? f = (settle decide b x).1.name? f := by
  cases x with
  | error e =>
    rw [settle_error, settle_error]
    exact ⟨rfl, fun f hf => hf⟩
  | ok plan =>
    cases h : decide plan with
    | accept name =>
      have htargets : ∀ e ∈ (plan.withNewName name).targets.map (·.1), a.name? e = b.name? e := by
        rw [map_targets_withNewName]
        exact hnames
      obtain ⟨houtcome, hrest⟩ := Assembly.applyTargets_congr _ htargets
      rw [settle_accept _ _ h, settle_accept _ _ h]
      refine ⟨?_, hrest⟩
      simp only [houtcome]
    | reject =>
      rw [settle_reject _ _ h, settle_reject _ _ h]
      exact ⟨rfl, fun f hf => hf⟩

/-- Two results without a common entity can be swapped. -/
theorem settle_comm (a : Assembly) {x y : Except OracleError RenamePlan}
    (h : (entities x).Disjoint (entities y)) :
    (settle decide (settle decide a x).1 y).1 = (settle decide (settle decide a y).1 x).1 ∧
      (settle decide (settle decide a x).1 y).2 = (settle decide a y).2 := by
  -- Neither changes a name that the other reads.
  have hy : ∀ e ∈ entities y, (settle decide a x).1.name? e = a.name? e := by
    intro e he
    exact name?_settle_of_not_mem decide a fun hx => h hx he
  have hx : ∀ e ∈ entities x, (settle decide a y).1.name? e = a.name? e := by
    intro e he
    exact name?_settle_of_not_mem decide a fun hy => h he hy
  refine ⟨?_, (settle_congr decide hy).1⟩
  apply Assembly.eq_of_names
  · simp only [nameless_settle]
  · intro f
    by_cases hf : f ∈ entities x
    · rw [name?_settle_of_not_mem decide _ fun hy => h hf hy]
      exact ((settle_congr decide hx).2 f (hx f hf)).symm
    · rw [name?_settle_of_not_mem decide (settle decide a y).1 hf]
      exact (settle_congr decide hy).2 f (name?_settle_of_not_mem decide a hf)

/-! ## Many results -/

def settleAll (a : Assembly) : List (Except OracleError RenamePlan) → Assembly × Report
  | [] => (a, .empty)
  | x :: xs =>
    let first := settle decide a x
    let rest := settleAll first.1 xs
    (rest.1, first.2.append rest.2)

/-- Results without common entities give the same model in any order. -/
theorem settleAll_perm {xs ys : List (Except OracleError RenamePlan)} (h : xs.Perm ys)
    (hapart : xs.Pairwise fun x y => (entities x).Disjoint (entities y)) (a : Assembly) :
    (settleAll decide a xs).1 = (settleAll decide a ys).1 ∧
      (settleAll decide a xs).2.Reordered (settleAll decide a ys).2 := by
  induction h generalizing a with
  | nil => exact ⟨rfl, .refl _⟩
  | cons x _ ih =>
    obtain ⟨hmodel, hreport⟩ := ih (List.pairwise_cons.mp hapart).2 (settle decide a x).1
    exact ⟨hmodel, hreport.append_left _⟩
  | swap x y zs =>
    -- Behind the two results the models are equal, so only their own reports change places.
    have hyx := (List.pairwise_cons.mp hapart).1 x (List.mem_cons_self ..)
    obtain ⟨hmodel, hfirst⟩ := settle_comm decide a hyx
    obtain ⟨-, hsecond⟩ := settle_comm decide a (List.disjoint_symm hyx)
    simp only [settleAll, hmodel, hfirst, hsecond]
    exact ⟨trivial, .swap ..⟩
  | trans h _ ih ih' =>
    have hapart' := h.pairwise hapart fun {x y} hxy => List.disjoint_symm hxy
    obtain ⟨hmodel, hreport⟩ := ih hapart a
    obtain ⟨hmodel', hreport'⟩ := ih' hapart' a
    exact ⟨hmodel.trans hmodel', hreport.trans hreport'⟩

/-! ## Sessions -/

section

variable {ρ : Type} {reviewer : Reviewer ρ} {decide : RenamePlan → Decision}
variable (hdecide : ∀ plan state, ((reviewer.review plan).run state).1.value = decide plan)

include hdecide

theorem handle_planned (a : Assembly) (x : Except OracleError RenamePlan) (state : ρ) :
    let step := ((handle reviewer a (.planned x)).run state).1
    (step.1, step.2.value) = settle decide a x := by
  cases x with
  | error e => rfl
  | ok plan =>
    rw [handle_plan]
    have hplan := hdecide plan state
    generalize (reviewer.review plan).run state = answer at hplan ⊢
    obtain ⟨⟨decision, warnings⟩, state'⟩ := answer
    cases decision with
    | accept name =>
      rw [settle_accept _ _ hplan.symm]
      rfl
    | reject =>
      rw [settle_reject _ _ hplan.symm]
      rfl

theorem handleAll_planned (a : Assembly) (xs : List (Except OracleError RenamePlan)) (state : ρ) :
    let step := ((handleAll reviewer a (xs.map .planned)).run state).1
    (step.1, step.2.value) = settleAll decide a xs := by
  induction xs generalizing a state with
  | nil => rfl
  | cons x xs ih =>
    have hfirst := handle_planned hdecide a x state
    rw [List.map_cons, handleAll_cons]
    generalize (handle reviewer a (.planned x)).run state = first at hfirst ⊢
    have hrest := ih first.1.1 first.2
    simp only [settleAll, ← hfirst, ← hrest]

end

/-- What became of the requests for different entities of one kind, each planned with an oracle of
its own. -/
structure Planned (a : Assembly) (kind : Kind) (es : List Entity)
    (results : List (Except OracleError RenamePlan)) : Prop where
  kind_eq : ∀ e ∈ es, e.kind = kind
  nodup : es.Nodup
  planned : List.Forall₂ (fun e x => ∃ r, a.request e = .ok r ∧ r.Planned x) es results

theorem exists_mem_of_forall₂ {α β : Type} {R : α → β → Prop} {xs : List α} {ys : List β} {y : β}
    (h : List.Forall₂ R xs ys) (hy : y ∈ ys) : ∃ x ∈ xs, R x y := by
  induction h with
  | nil => simp at hy
  | @cons x z xs ys hxz _ ih =>
    rcases List.mem_cons.mp hy with rfl | hy
    · exact ⟨x, List.mem_cons_self .., hxz⟩
    · obtain ⟨x', hx', hxy⟩ := ih hy
      exact ⟨x', List.mem_cons_of_mem x hx', hxy⟩

/-- Plans for different entities of one kind have no entity in common. -/
theorem Planned.pairwise {a : Assembly} {kind : Kind} {es : List Entity}
    {results : List (Except OracleError RenamePlan)} (h : Planned a kind es results) :
    results.Pairwise fun x y => (entities x).Disjoint (entities y) := by
  have hcovers : ∀ {e x f}, (∃ r, a.request e = .ok r ∧ r.Planned x) → f ∈ entities x →
      e.covers f := by
    rintro e (err | plan) f ⟨r, hr, hx⟩ hf
    · simp [entities] at hf
    · exact a.covers_of_mem_request hr (hx.sublist.subset hf)
  obtain ⟨hkind, hnodup, hplanned⟩ := h
  induction hplanned with
  | nil => exact .nil
  | @cons e x es xs hx hxs ih =>
    obtain ⟨he, hes⟩ := List.forall_mem_cons.mp hkind
    obtain ⟨hnot, hnodup⟩ := List.nodup_cons.mp hnodup
    refine .cons (fun y hy f hfx hfy => hnot ?_) (ih hes hnodup)
    -- An entity in both plans would be covered by two entities of the list.
    obtain ⟨e', he', hy'⟩ := exists_mem_of_forall₂ hxs hy
    have hkind' : e.kind = e'.kind := he.trans (hes e' he').symm
    rw [Entity.eq_of_covers hkind' (hcovers hx hfx) (hcovers hy' hfy)]
    exact he'

theorem run_planned {ρ : Type} {reviewer : Reviewer ρ} {decide : RenamePlan → Decision}
    (hdecide : ∀ plan state, ((reviewer.review plan).run state).1.value = decide plan)
    (a : Assembly) (xs : List (Except OracleError RenamePlan)) {awaited : Nat}
    (hawaited : xs.length ≤ awaited) (state : ρ) :
    let x := ((run reviewer a awaited (xs.map .planned)).run state).1
    (x.model, x.report) = settleAll decide a xs := by
  rw [run_eq, List.take_of_length_le (by simpa using hawaited)]
  exact handleAll_planned hdecide a xs state

/-- Reordered events are the events of reordered results. -/
theorem exists_results {results : List (Except OracleError RenamePlan)} {queue : List Event}
    (h : queue.Perm (results.map .planned)) :
    ∃ xs : List (Except OracleError RenamePlan), queue = xs.map .planned ∧ xs.Perm results := by
  have heach : List.Forall₂ (fun event x => event = Event.planned x) (results.map .planned)
      results := by
    rw [List.forall₂_map_left_iff]
    exact List.forall₂_same.mpr fun _ _ => rfl
  obtain ⟨xs, hxs, hperm⟩ := List.perm_comp_forall₂ h heach
  rw [← List.forall₂_map_right_iff, List.forall₂_eq_eq_eq] at hxs
  exact ⟨xs, hxs, hperm⟩

/-- The events of such requests give the same model and the same report in any order, if the
decision about a plan depends on nothing but the plan. -/
theorem run_reordered {a : Assembly} {kind : Kind} {es : List Entity}
    {results : List (Except OracleError RenamePlan)} (h : Planned a kind es results)
    {queue queue' : List Event} (hqueue : queue.Perm (results.map .planned))
    (hqueue' : queue'.Perm (results.map .planned))
    {ρ : Type} {reviewer : Reviewer ρ} {decide : RenamePlan → Decision}
    (hdecide : ∀ plan state, ((reviewer.review plan).run state).1.value = decide plan)
    {awaited : Nat} (hawaited : results.length ≤ awaited) (state state' : ρ) :
    let x := ((run reviewer a awaited queue).run state).1
    let x' := ((run reviewer a awaited queue').run state').1
    x.model = x'.model ∧ x.report.Reordered x'.report := by
  obtain ⟨xs, rfl, hxs⟩ := exists_results hqueue
  obtain ⟨ys, rfl, hys⟩ := exists_results hqueue'
  have hxlength : xs.length ≤ awaited := by rwa [hxs.length_eq]
  have hylength : ys.length ≤ awaited := by rwa [hys.length_eq]
  have hrun := run_planned hdecide a xs hxlength state
  have hrun' := run_planned hdecide a ys hylength state'
  have hapart := hxs.symm.pairwise h.pairwise fun {x y} hxy => List.disjoint_symm hxy
  have hperm := settleAll_perm decide (hxs.trans hys.symm) hapart a
  rw [← hrun, ← hrun'] at hperm
  exact hperm

end Session

end Renaming
