import Renaming.Proofs.Apply.Frame
import Renaming.Proofs.Session.Account

/-!
# What success messages say

The message for a plan that was accepted says that its entity was renamed exactly if it was
(`planMessage_eq_successText_iff`). The names that it mentions are those of the plan. So it is true
only where the entity still has the name that it was planned for, and where the accepted name has
no blanks around it.
-/

namespace Renaming

/-! ## The changes of one entity -/

theorem Verdict.mem_applied_outcome {s : Suggestion} {v : Verdict} {c : Change} :
    c ∈ (v.outcome s).applied ↔ v = .applied c := by
  cases v with
  | applied c' => simp [outcome, eq_comm]
  | skipped reason => simp [outcome]

namespace Assembly

theorem applyAt_applied_iff {a : Assembly} {e : Entity} {s : Suggestion} {c : Change} :
    (a.applyAt e s).2 = .applied c ↔
      s.isActionable = true ∧ ∃ old, a.name? e = some old ∧ c = changeOf e s old := by
  rw [applyAt_eq]
  split
  case isFalse hidle => simp [hidle]
  case isTrue hactionable =>
    cases a.name? e with
    | none => simp
    | some old => simp [hactionable, eq_comm]

variable {a : Assembly} {t : Entity × Suggestion} {ts : List (Entity × Suggestion)} {c : Change}

theorem mem_applied_cons :
    c ∈ (a.applyTargets (t :: ts)).2.applied ↔ (a.applyAt t.1 t.2).2 = .applied c ∨
      c ∈ ((a.applyAt t.1 t.2).1.applyTargets ts).2.applied := by
  rw [applyTargets_cons]
  simp only [Outcome.applied_append, List.mem_append, Verdict.mem_applied_outcome]

theorem mem_of_mem_applied (h : c ∈ (a.applyTargets ts).2.applied) : c.entity ∈ ts.map (·.1) := by
  induction ts generalizing a with
  | nil => exact nomatch h
  | cons t ts ih =>
    rw [List.map_cons, List.mem_cons]
    rcases mem_applied_cons.mp h with hfirst | hrest
    · obtain ⟨-, old, -, rfl⟩ := applyAt_applied_iff.mp hfirst
      exact .inl rfl
    · exact .inr (ih hrest)

/-- What comes of the only target for an entity is its only change. -/
theorem mem_applied_cons_of_not_mem (h : t.1 ∉ ts.map (·.1)) :
    c ∈ (a.applyTargets (t :: ts)).2.applied ∧ c.entity = t.1 ↔
      t.2.isActionable = true ∧ ∃ old, a.name? t.1 = some old ∧ c = changeOf t.1 t.2 old := by
  rw [mem_applied_cons, ← applyAt_applied_iff]
  constructor
  · rintro ⟨hfirst | hrest, hentity⟩
    · exact hfirst
    · exact absurd (mem_of_mem_applied hrest) (hentity ▸ h)
  · intro hfirst
    obtain ⟨-, old, -, rfl⟩ := applyAt_applied_iff.mp hfirst
    exact ⟨.inl hfirst, rfl⟩

end Assembly

namespace RenamePlan

/-- The first change is for the entity of the plan, under the name that it was planned for, and no
other change is for that entity. -/
def Proper (p : RenamePlan) : Prop :=
  ∃ s rest, p.changes = ⟨p.entity, .primary, s⟩ :: rest ∧ s.oldName = p.currentName ∧
    ∀ c ∈ rest, c.entity ≠ p.entity

/-- Plans are made so, whatever the oracle answers. -/
theorem proper_planOf {a : Assembly} {e : Entity} {r : RenameRequest} (h : a.request e = .ok r)
    (name : String) (answers : List (Except OracleError String)) :
    (r.planOf name answers).value.Proper := by
  have hnodup := (r.planOf_entities name answers).nodup (Assembly.nodup_request h)
  refine ⟨_, _, rfl, rfl, fun c hc heq => ?_⟩
  exact (List.nodup_cons.mp hnodup).1 (List.mem_map.mpr ⟨c, hc, heq⟩)

theorem Proper.targets_withNewName {p : RenamePlan} (h : p.Proper) (name : String) :
    ∃ (s : Suggestion) (rest : List (Entity × Suggestion)),
      (p.withNewName name).targets = (p.entity, s) :: rest ∧ s.newName = name ∧
        (s.isActionable = true ↔ Text.trim name ≠ "" ∧ Text.trim name ≠ p.currentName) ∧
        p.entity ∉ rest.map (·.1) := by
  obtain ⟨s, rest, hchanges, hold, hrest⟩ := h
  refine ⟨{ s with newName := name }, rest.map fun c => (c.entity, c.suggestion), ?_, rfl, ?_, ?_⟩
  · rw [targets, withNewName, hchanges]
    rfl
  · simp [Suggestion.isActionable, hold]
  · rw [List.map_map]
    intro hmem
    obtain ⟨c, hc, heq⟩ := List.mem_map.mp hmem
    exact hrest c hc heq

variable {p : RenamePlan} {name : String} {b : Assembly} {c : Change}

/-- The only change of a proper plan's own entity is from its name so far to the accepted name
without the blanks around it. -/
theorem Proper.mem_applied_iff (h : p.Proper) :
    c ∈ (b.applyPlan (p.withNewName name)).2.applied ∧ c.entity = p.entity ↔
      (Text.trim name ≠ "" ∧ Text.trim name ≠ p.currentName) ∧
        ∃ old, b.name? p.entity = some old ∧
          c = ⟨p.entity, p.entity.kind, old, Text.trim name⟩ := by
  obtain ⟨s, rest, htargets, rfl, hactionable, hrest⟩ := h.targets_withNewName name
  rw [Assembly.applyPlan, htargets, ← hactionable]
  exact Assembly.mem_applied_cons_of_not_mem (t := (p.entity, s)) hrest

theorem Proper.name?_applyPlan (h : p.Proper) (hsome : Text.trim name ≠ "")
    (hother : Text.trim name ≠ p.currentName) (hthere : (b.name? p.entity).isSome = true) :
    (b.applyPlan (p.withNewName name)).1.name? p.entity = some (Text.trim name) := by
  obtain ⟨s, rest, htargets, rfl, hactionable, hrest⟩ := h.targets_withNewName name
  obtain ⟨old, hname⟩ := Option.isSome_iff_exists.mp hthere
  rw [Assembly.applyPlan, htargets, Assembly.applyTargets_cons]
  simp only
  rw [Assembly.name?_applyTargets_of_not_mem _ _ hrest, Assembly.applyAt_eq,
    if_pos (hactionable.mpr ⟨hsome, hother⟩)]
  simp only [hname]
  rw [Assembly.name?_rename_self, hname]
  rfl

end RenamePlan

/-! ## Messages -/

namespace RenamePlan

def successText (p : RenamePlan) : String :=
  "Successfully renamed " ++ p.kind.tag ++ " '" ++ p.currentName ++ "' to '" ++ p.newName ++ "'"

def failureText (p : RenamePlan) : String :=
  "Rename of " ++ p.kind.tag ++ " '" ++ p.currentName ++ "' was not applied"

theorem failureText_ne_successText (p : RenamePlan) : p.failureText ≠ p.successText := by
  have hfirst : ∀ x y : String, "Rename of " ++ x ≠ "Successfully renamed " ++ y := by
    intro x y heq
    have hhead := congrArg (fun text : String => text.toList.head?) heq
    simp at hhead
  unfold failureText successText
  simp only [String.append_assoc]
  exact hfirst _ _

/-- What the success text says was done: the entity was renamed from the one name to the other,
which it now has. -/
structure Done (p : RenamePlan) (o : Outcome) (after : Assembly) : Prop where
  change : ∃ c ∈ o.applied, c.entity = p.entity ∧ c.oldName = p.currentName ∧ c.newName = p.newName
  name : after.name? p.entity = some p.newName

end RenamePlan

namespace Session

theorem planMessage_eq (p : RenamePlan) (o : Outcome) :
    planMessage p o =
      if o.applied.any (·.entity == p.entity) then p.successText else p.failureText := rfl

theorem planMessage_eq_successText_iff (p : RenamePlan) (o : Outcome) :
    planMessage p o = p.successText ↔ ∃ c ∈ o.applied, c.entity = p.entity := by
  rw [planMessage_eq]
  split
  · rename_i hany
    exact iff_of_true rfl (by simpa using hany)
  · rename_i hnone
    exact iff_of_false p.failureText_ne_successText (by simpa using hnone)

section

variable {ρ : Type} (reviewer : Reviewer ρ)

theorem handle_message (a : Assembly) (event : Event) (state : ρ) :
    ∃ message, ((handle reviewer a event).run state).1.2.value.messages = [message] := by
  rcases event with (e | plan) | (e | analysis)
  · obtain ⟨message, -, hreport, -⟩ := failed_booked a e
    exact ⟨message, by rw [handle_plan_error, hreport]⟩
  · rw [handle_plan]
    simp only [decided]
    split <;> exact ⟨_, rfl⟩
  · obtain ⟨message, -, hreport, -⟩ := failed_booked a e
    exact ⟨message, by rw [handle_analysis_error, hreport]⟩
  · exact ⟨_, rfl⟩

theorem length_messages_handleAll (a : Assembly) (events : List Event) (state : ρ) :
    ((handleAll reviewer a events).run state).1.2.value.messages.length = events.length := by
  induction events generalizing a state with
  | nil => rfl
  | cons event events ih =>
    obtain ⟨message, hmessage⟩ := handle_message reviewer a event state
    rw [handleAll_cons]
    simp only [Report.messages_append, List.length_append, hmessage, ih, List.length_cons,
      List.length_nil]
    exact Nat.add_comm 1 _

end

variable {ρ : Type} {reviewer : Reviewer ρ}

/-- In a run over some events the reviewer accepts a plan under a name, after the events before it
and on the model that these left. -/
structure Accepts (reviewer : Reviewer ρ) (a : Assembly) (state : ρ) (events before : List Event)
    (plan : RenamePlan) (name : String) (b : Assembly) : Prop where
  next : ∃ after, events = before ++ .planned (.ok plan) :: after
  model : ((handleAll reviewer a before).run state).1.1 = b
  decision : ((reviewer.review plan).run ((handleAll reviewer a before).run state).2).1.value =
    .accept name

theorem Accepts.message {a b : Assembly} {state : ρ} {events before : List Event}
    {plan : RenamePlan} {name : String}
    (h : Accepts reviewer a state events before plan name b) :
    let edited := plan.withNewName name
    ((handleAll reviewer a events).run state).1.2.value.messages[before.length]? =
      some (planMessage edited (b.applyPlan edited).2) := by
  obtain ⟨after, rfl⟩ := h.next
  have hlength := length_messages_handleAll reviewer a before state
  simp only [handleAll_append, handleAll_cons, Report.messages_append, handle_plan, h.model]
  rw [List.getElem?_append_right (Nat.le_of_eq hlength), hlength, Nat.sub_self]
  simp only [decided, h.decision, List.cons_append, List.getElem?_cons_zero]

theorem Accepts.model_after {a b : Assembly} {state : ρ} {events before : List Event}
    {plan : RenamePlan} {name : String}
    (h : Accepts reviewer a state events before plan name b) :
    ((handleAll reviewer a (before ++ [.planned (.ok plan)])).run state).1.1 =
      (b.applyPlan (plan.withNewName name)).1 := by
  simp only [handleAll_append, handleAll_cons, handleAll_nil, handle_plan, h.model, decided,
    h.decision]

/-- The message for an accepted plan says that its entity was renamed exactly if the accepted name
is worth giving and the entity is there. Then its name was overwritten, once, with the accepted name
less the blanks around it. So what the message says is true exactly if there are no such blanks and
the entity still had the name that it was planned for. -/
theorem success_message_is_true_iff {a b : Assembly} {state : ρ} {awaited : Nat}
    {queue before : List Event} {plan : RenamePlan} {name : String}
    (h : Accepts reviewer a state (queue.take awaited) before plan name b) (hplan : plan.Proper) :
    let edited := plan.withNewName name
    let o := (b.applyPlan edited).2
    let after := ((handleAll reviewer a (before ++ [.planned (.ok plan)])).run state).1.1
    ∃ message,
      ((run reviewer a awaited queue).run state).1.report.messages[before.length]? = some message ∧
      (message = edited.successText ↔ Text.trim name ≠ "" ∧ Text.trim name ≠ plan.currentName ∧
        (b.name? plan.entity).isSome = true) ∧
      (message = edited.successText →
        (∃ old, b.name? plan.entity = some old ∧ ∀ c, c ∈ o.applied ∧ c.entity = plan.entity ↔
          c = ⟨plan.entity, plan.entity.kind, old, Text.trim name⟩) ∧
        after.name? plan.entity = some (Text.trim name) ∧
        (edited.Done o after ↔
          b.name? plan.entity = some plan.currentName ∧ Text.trim name = name)) := by
  intro edited o after
  have hafter : after = (b.applyPlan edited).1 := h.model_after
  have hmessage : planMessage edited o = edited.successText ↔ Text.trim name ≠ "" ∧
      Text.trim name ≠ plan.currentName ∧ (b.name? plan.entity).isSome = true := by
    rw [planMessage_eq_successText_iff, Option.isSome_iff_exists, ← and_assoc]
    constructor
    · rintro ⟨c, hc⟩
      obtain ⟨hworth, old, hold, -⟩ := hplan.mem_applied_iff.mp hc
      exact ⟨hworth, old, hold⟩
    · rintro ⟨hworth, old, hold⟩
      exact ⟨_, hplan.mem_applied_iff.mpr ⟨hworth, old, hold, rfl⟩⟩
  refine ⟨planMessage edited o, h.message, hmessage, fun hsuccess => ?_⟩
  obtain ⟨hsome, hother, hthere⟩ := hmessage.mp hsuccess
  obtain ⟨old, hold⟩ := Option.isSome_iff_exists.mp hthere
  have hchange : ∀ c, c ∈ o.applied ∧ c.entity = plan.entity ↔
      c = ⟨plan.entity, plan.entity.kind, old, Text.trim name⟩ := by
    intro c
    rw [hplan.mem_applied_iff]
    simp [hsome, hother, hold]
  have hname : after.name? plan.entity = some (Text.trim name) := by
    rw [hafter]
    exact hplan.name?_applyPlan hsome hother hthere
  refine ⟨⟨old, hold, hchange⟩, hname, ?_, ?_⟩
  · rintro ⟨⟨c, hc, hentity, hfrom, hto⟩, -⟩
    obtain rfl := (hchange c).mp ⟨hc, hentity⟩
    exact ⟨hold.trans (congrArg some hfrom), hto⟩
  · rintro ⟨hsame, htrimmed⟩
    obtain rfl : old = plan.currentName := Option.some.inj (hold.symm.trans hsame)
    have hdone := (hchange _).mpr rfl
    exact ⟨⟨_, hdone.1, rfl, rfl, htrimmed⟩, hname.trans (congrArg some htrimmed)⟩

/-! ### Names dictated by a reviewer -/

/-- Accepts plans under given names, one after another. -/
def dictating : Reviewer (List String) where
  review _ := do
    match ← get with
    | [] => return .silent .reject
    | name :: names =>
      set names
      return .silent (.accept name)
  select _ := pure (.silent [])

def methodPlan : RenamePlan :=
  ⟨.method 0 0, .method, "a", "Load", [⟨.method 0 0, .primary, .certain "a" "Load" .method⟩]⟩

theorem success_message_is_true_for_first_name :
    let queue := [.planned (.ok methodPlan)]
    let edited := methodPlan.withNewName "Load"
    Accepts dictating oneMethod ["Load"] (queue.take 1) [] methodPlan "Load" oneMethod ∧
      methodPlan.Proper ∧
      ((run dictating oneMethod 1 queue).run ["Load"]).1.report.messages[0]? =
        some edited.successText ∧
      edited.Done (oneMethod.applyPlan edited).2
        ((handleAll dictating oneMethod queue).run ["Load"]).1.1 := by
  intro queue edited
  have haccepts : Accepts dictating oneMethod ["Load"] (queue.take 1) [] methodPlan "Load"
      oneMethod := ⟨⟨[], rfl⟩, rfl, rfl⟩
  have hproper : methodPlan.Proper := ⟨_, [], rfl, rfl, List.forall_mem_nil _⟩
  have htrim : Text.trim "Load" = "Load" := by decide +kernel
  obtain ⟨message, hmessage, hsuccess, htrue⟩ := success_message_is_true_iff haccepts hproper
  have hsaid := hsuccess.mpr (by rw [htrim]; decide +kernel)
  subst hsaid
  exact ⟨haccepts, hproper, hmessage, (htrue rfl).2.2.mpr ⟨by decide +kernel, htrim⟩⟩

/-- A name that was edited is told with its blanks, and a plan that comes second tells the name that
the first one replaced. -/
theorem success_message_of_edited_name :
    let x := (run dictating oneMethod 2
      [.planned (.ok methodPlan), .planned (.ok methodPlan)]).run [" Load ", "Store"]
    x.1.report.messages = ["Successfully renamed method 'a' to ' Load '",
      "Successfully renamed method 'a' to 'Store'"] ∧
    x.1.report.outcome.applied =
      [⟨.method 0 0, .method, "a", "Load"⟩, ⟨.method 0 0, .method, "Load", "Store"⟩] := by
  decide +kernel

end Session

end Renaming
