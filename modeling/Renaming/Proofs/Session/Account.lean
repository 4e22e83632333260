import Mathlib.Algebra.Ring.Nat
import Mathlib.Data.List.Perm.Subperm
import Mathlib.Data.List.Sigma
import Renaming.Proofs.Apply.Repeated
import Renaming.Proofs.Plan.Basic
import Renaming.Proofs.Session.Basic

/-!
# What a session accounts for

Every event that a session takes from its queue is booked once: with one message, and with one entry
for each change of an accepted plan, one for a rejected plan, one for each suggestion of an analysis
and none for a failed request (`Booked`). A whole session is a ledger of such bookings, and its
report is their sum.
-/

namespace Renaming

/-! ## One entry for each item -/

/-- The outcome has one entry for each item, in the order of the items: a change that fits it, or
its suggestion as a skipped one. -/
inductive Outcome.Settles {τ : Type} (suggestion : τ → Suggestion) (fits : τ → Change → Prop) :
    List τ → Outcome → Prop
  | nil : Settles suggestion fits [] .empty
  | applied {x : τ} {c : Change} {xs : List τ} {o : Outcome} :
      fits x c → Settles suggestion fits xs o →
        Settles suggestion fits (x :: xs) ((Verdict.applied c).outcome (suggestion x) |>.append o)
  | skipped {x : τ} (reason : SkipReason) {xs : List τ} {o : Outcome} :
      Settles suggestion fits xs o →
        Settles suggestion fits (x :: xs)
          ((Verdict.skipped reason).outcome (suggestion x) |>.append o)

def Outcome.entries (o : Outcome) : Nat := o.applied.length + o.skipped.length

@[simp] theorem Outcome.entries_empty : empty.entries = 0 := rfl

@[simp] theorem Outcome.entries_append (o o' : Outcome) :
    (o.append o').entries = o.entries + o'.entries := by
  simp only [entries, applied_append, skipped_append, List.length_append]
  omega

@[simp] theorem Verdict.entries_outcome (s : Suggestion) (v : Verdict) :
    (v.outcome s).entries = 1 := by
  cases v <;> rfl

theorem Outcome.Settles.entries {τ : Type} {suggestion : τ → Suggestion} {fits : τ → Change → Prop}
    {xs : List τ} {o : Outcome} (h : Settles suggestion fits xs o) : o.entries = xs.length := by
  induction h with
  | nil => rfl
  | applied _ _ ih =>
    rw [entries_append, Verdict.entries_outcome, ih, List.length_cons, Nat.add_comm]
  | skipped _ _ ih =>
    rw [entries_append, Verdict.entries_outcome, ih, List.length_cons, Nat.add_comm]

namespace Assembly

theorem applyEach_settles {τ : Type} {step : Assembly → τ → Assembly × Verdict}
    {suggestion : τ → Suggestion} {fits : τ → Change → Prop}
    (hstep : ∀ a x c, (step a x).2 = .applied c → fits x c) (a : Assembly) (xs : List τ) :
    (applyEach step suggestion a xs).2.Settles suggestion fits xs := by
  induction xs generalizing a with
  | nil => exact .nil
  | cons x xs ih =>
    have hx := hstep a x
    have hrest := ih (step a x).1
    simp only [applyEach]
    generalize (step a x).2 = v at hx ⊢
    cases v with
    | applied c => exact .applied (hx c rfl) hrest
    | skipped reason => exact .skipped reason hrest

/-- The change does what a suggestion says to something of its kind. -/
def named (s : Suggestion) (c : Change) : Prop :=
  c.kind = s.kind ∧ c.oldName = s.oldName ∧ c.newName = Text.trim s.newName

/-- The change gives the entity of a target the name of its suggestion. -/
def targeted (t : Entity × Suggestion) (c : Change) : Prop :=
  c.entity = t.1 ∧ c.kind = t.1.kind ∧ c.newName = Text.trim t.2.newName

theorem applySuggestions_settles (a : Assembly) (ss : List Suggestion) :
    (a.applySuggestions ss).2.Settles id named ss := by
  rw [applySuggestions_eq]
  refine applyEach_settles (fun a s c hc => ?_) a ss
  rcases a.applyByName_cases s with ⟨reason, hs⟩ | ⟨-, -, e, he, hs⟩
  · rw [hs] at hc
    cases hc
  · rw [hs] at hc
    cases hc
    exact ⟨(a.mem_carriers.mp he).1, rfl, rfl⟩

theorem applyTargets_settles (a : Assembly) (ts : List (Entity × Suggestion)) :
    (a.applyTargets ts).2.Settles (·.2) targeted ts := by
  rw [applyTargets_eq]
  refine applyEach_settles (fun a t c hc => ?_) a ts
  rw [applyAt_eq] at hc
  split at hc
  · split at hc
    · cases hc
    · cases hc
      exact ⟨rfl, rfl, rfl⟩
  · cases hc

end Assembly

/-! ## Reviewers -/

/-- What is selected of an analysis are positions in it, each at most once. -/
def Reviewer.Valid {ρ : Type} (reviewer : Reviewer ρ) : Prop :=
  ∀ analysis state, let positions := ((reviewer.select analysis).run state).1.value
    positions.Nodup ∧ ∀ i ∈ positions, i < analysis.suggestions.length

namespace Reviewer

theorem valid_acceptAll {ρ : Type} : (acceptAll : Reviewer ρ).Valid := by
  intro analysis state positions
  have hsublist := sublist_actionable analysis
  refine ⟨hsublist.nodup (List.nodup_zipIdx_map_snd _), fun i hi => ?_⟩
  obtain ⟨⟨s, j⟩, hmem, rfl⟩ := List.mem_map.mp (hsublist.subset hi)
  exact (List.mem_zipIdx' hmem).1

theorem valid_rejectAll {ρ : Type} : (rejectAll : Reviewer ρ).Valid := by
  intro analysis state positions
  exact ⟨.nil, fun i hi => absurd hi List.not_mem_nil⟩

end Reviewer

theorem length_le_of_positions {positions : List Nat} {n : Nat} (hnodup : positions.Nodup)
    (hlt : ∀ i ∈ positions, i < n) : positions.length ≤ n := by
  have hsubset : positions ⊆ List.range n := fun i hi => List.mem_range.mpr (hlt i hi)
  simpa using (List.subperm_of_subset hnodup hsubset).length_le

theorem map_filterMap_getElem? {α : Type} (xs : List α) {positions : List Nat}
    (hlt : ∀ i ∈ positions, i < xs.length) :
    (positions.filterMap (xs[·]?)).map some = positions.map (xs[·]?) := by
  induction positions with
  | nil => rfl
  | cons i positions ih =>
    obtain ⟨hi, hpositions⟩ := List.forall_mem_cons.mp hlt
    simp [List.getElem?_eq_getElem hi, ih hpositions]

@[simp] theorem Report.empty_append (r : Report) : empty.append r = r := by
  simp [append, empty]

namespace Session

/-! ## One event -/

/-- How an event is booked: what it adds to the report, and the model and the state of the reviewer
after it. -/
inductive Booked {ρ : Type} (reviewer : Reviewer ρ) (a : Assembly) (state : ρ) :
    Event → Report → Assembly → ρ → Prop
  | accepted {plan : RenamePlan} {name : String} {warnings : List String} {b : Assembly}
      {o : Outcome} {state' : ρ} :
      (reviewer.review plan).run state = (⟨.accept name, warnings⟩, state') →
      a.applyPlan (plan.withNewName name) = (b, o) →
      o.Settles (·.2) Assembly.targeted (plan.withNewName name).targets →
      o.entries = plan.changes.length →
      Booked reviewer a state (.planned (.ok plan))
        ⟨o, [planMessage (plan.withNewName name) o], 0⟩ b state'
  | rejected {plan : RenamePlan} {warnings : List String} {state' : ρ} :
      (reviewer.review plan).run state = (⟨.reject, warnings⟩, state') →
      Booked reviewer a state (.planned (.ok plan))
        ⟨.empty, ["Kept " ++ plan.kind.tag ++ " '" ++ plan.currentName ++ "'"], 1⟩ a state'
  | analyzed {analysis : Analysis} {positions : List Nat} {warnings : List String}
      {selected : List Suggestion} {b : Assembly} {o : Outcome} {rejected : Nat} {state' : ρ} :
      (reviewer.select analysis).run state = (⟨positions, warnings⟩, state') →
      selected.map some = positions.map (analysis.suggestions[·]?) →
      a.applySuggestions selected = (b, o) →
      o.Settles id Assembly.named selected →
      o.entries + rejected = analysis.suggestions.length →
      Booked reviewer a state (.analyzed (.ok analysis)) ⟨o, [o.summary], rejected⟩ b state'
  | failed {event : Event} {e : OracleError} {message : String} :
      event = .planned (.error e) ∨ event = .analyzed (.error e) →
      (message = "No change suggested" ↔ e = .noSuggestion) →
      Booked reviewer a state event ⟨.empty, [message], 0⟩ a state

theorem failed_booked (a : Assembly) (e : OracleError) :
    ∃ message, (failed a e).1 = a ∧ (failed a e).2.value = ⟨.empty, [message], 0⟩ ∧
      (message = "No change suggested" ↔ e = .noSuggestion) := by
  unfold failed
  by_cases h : e.isNoChange = true
  · rw [if_pos h]
    exact ⟨_, rfl, rfl, by simpa [OracleError.isNoChange] using h⟩
  · rw [if_neg h]
    refine ⟨_, rfl, rfl, ?_⟩
    have hne : e ≠ .noSuggestion := by simpa [OracleError.isNoChange] using h
    -- The two messages differ in their first letter.
    have hmessage : "Error getting suggestion: " ++ e.message ≠ "No change suggested" := by
      intro heq
      have := congrArg (fun text : String => text.toList.head?) heq
      simp at this
    simp [hne, hmessage]

variable {ρ : Type} {reviewer : Reviewer ρ}

theorem handle_booked (hvalid : reviewer.Valid) (a : Assembly) (event : Event) (state : ρ) :
    let step := (handle reviewer a event).run state
    Booked reviewer a state event step.1.2.value step.1.1 step.2 := by
  rcases event with (e | plan) | (e | analysis)
  · rw [handle_plan_error]
    obtain ⟨message, hmodel, hreport, hmessage⟩ := failed_booked a e
    simp only [hmodel, hreport]
    exact .failed (.inl rfl) hmessage
  · rw [handle_plan]
    rcases h : (reviewer.review plan).run state with ⟨⟨name | _, warnings⟩, state'⟩
    · have hsettles := a.applyTargets_settles (plan.withNewName name).targets
      refine .accepted h rfl hsettles (hsettles.entries.trans ?_)
      have hlength := congrArg List.length (plan.entities_withNewName name)
      simpa [RenamePlan.entities, RenamePlan.targets] using hlength
    · exact .rejected h
  · rw [handle_analysis_error]
    obtain ⟨message, hmodel, hreport, hmessage⟩ := failed_booked a e
    simp only [hmodel, hreport]
    exact .failed (.inr rfl) hmessage
  · rw [handle_analysis]
    obtain ⟨hnodup, hlt⟩ := hvalid analysis state
    rcases h : (reviewer.select analysis).run state with ⟨⟨positions, warnings⟩, state'⟩
    rw [h] at hnodup hlt
    simp only at hnodup hlt
    -- No position is missing or there twice, so what is not selected is what is rejected.
    let chosen := positions.filterMap (analysis.suggestions[·]?)
    have hchosen : chosen.map some = positions.map (analysis.suggestions[·]?) :=
      map_filterMap_getElem? analysis.suggestions hlt
    have hsettles := a.applySuggestions_settles chosen
    have hlength : chosen.length = positions.length := by
      simpa using congrArg List.length hchosen
    have hle := length_le_of_positions hnodup hlt
    have hall : (a.applySuggestions chosen).2.entries +
        (analysis.suggestions.length - positions.length) = analysis.suggestions.length := by
      rw [hsettles.entries, hlength, Nat.add_sub_cancel' hle]
    exact .analyzed h hchosen rfl hsettles hall

/-! ## Many events -/

/-- The bookings of events one after another. -/
inductive Ledger (reviewer : Reviewer ρ) :
    Assembly → ρ → List Event → List Report → Assembly → ρ → Prop
  | nil {a : Assembly} {state : ρ} : Ledger reviewer a state [] [] a state
  | cons {a b z : Assembly} {state state' final : ρ} {event : Event} {events : List Event}
      {r : Report} {rs : List Report} :
      Booked reviewer a state event r b state' → Ledger reviewer b state' events rs z final →
        Ledger reviewer a state (event :: events) (r :: rs) z final

def total (rs : List Report) : Report := rs.foldr Report.append .empty

@[simp] theorem total_cons (r : Report) (rs : List Report) :
    total (r :: rs) = r.append (total rs) := rfl

theorem Booked.message {a b : Assembly} {state state' : ρ} {event : Event} {r : Report}
    (h : Booked reviewer a state event r b state') : ∃ message, r.messages = [message] := by
  cases h <;> exact ⟨_, rfl⟩

theorem Ledger.length {a z : Assembly} {state final : ρ} {events : List Event} {rs : List Report}
    (h : Ledger reviewer a state events rs z final) : rs.length = events.length := by
  induction h with
  | nil => rfl
  | cons _ _ ih => simp [ih]

theorem Ledger.message {a z : Assembly} {state final : ρ} {events : List Event} {rs : List Report}
    (h : Ledger reviewer a state events rs z final) :
    ∀ r ∈ rs, ∃ message, r.messages = [message] := by
  induction h with
  | nil => simp
  | cons hr _ ih => exact List.forall_mem_cons.mpr ⟨hr.message, ih⟩

/-- The entries that an event is booked with. A plan is rejected or applied change by change. -/
def due : Event → Report → Nat
  | .planned (.ok plan), r => if r.rejected = 0 then plan.changes.length else 1
  | .analyzed (.ok analysis), _ => analysis.suggestions.length
  | .planned (.error _), _ | .analyzed (.error _), _ => 0

theorem Booked.entries {a b : Assembly} {state state' : ρ} {event : Event} {r : Report}
    (h : Booked reviewer a state event r b state') :
    r.outcome.entries + r.rejected = due event r := by
  cases h with
  | accepted _ _ _ hentries => simpa [due] using hentries
  | rejected _ => rfl
  | analyzed _ _ _ _ hentries => exact hentries
  | failed hevent _ => rcases hevent with rfl | rfl <;> rfl

theorem Ledger.entries {a z : Assembly} {state final : ρ} {events : List Event} {rs : List Report}
    (h : Ledger reviewer a state events rs z final) :
    (total rs).outcome.entries + (total rs).rejected = (List.zipWith due events rs).sum := by
  induction h with
  | nil => rfl
  | cons hr _ ih =>
    rw [total_cons, Report.outcome_append, Report.rejected_append, Outcome.entries_append,
      List.zipWith_cons_cons, List.sum_cons, ← hr.entries, ← ih]
    omega

theorem handleAll_ledger (hvalid : reviewer.Valid) (a : Assembly) (events : List Event)
    (state : ρ) :
    let step := (handleAll reviewer a events).run state
    ∃ rs, Ledger reviewer a state events rs step.1.1 step.2 ∧ step.1.2.value = total rs := by
  induction events generalizing a state with
  | nil => exact ⟨[], .nil, rfl⟩
  | cons event events ih =>
    have hfirst := handle_booked hvalid a event state
    obtain ⟨rs, hrs, htotal⟩ := ih ((handle reviewer a event).run state).1.1
      ((handle reviewer a event).run state).2
    rw [handleAll_cons]
    exact ⟨_, .cons hfirst hrs, by simp only [htotal]; rfl⟩

/-! ## Sessions -/

theorem length_messages_total {rs : List Report} (h : ∀ r ∈ rs, ∃ message, r.messages = [message]) :
    (total rs).messages.length = rs.length := by
  induction rs with
  | nil => rfl
  | cons r rs ih =>
    obtain ⟨⟨message, hmessage⟩, hrs⟩ := List.forall_mem_cons.mp h
    rw [total_cons, Report.messages_append, List.length_append, ih hrs, hmessage,
      List.length_singleton, List.length_cons, Nat.add_comm]

theorem handleAll_append (a : Assembly) (events events' : List Event) (state : ρ) :
    (handleAll reviewer a (events ++ events')).run state =
      let first := (handleAll reviewer a events).run state
      let rest := (handleAll reviewer first.1.1 events').run first.2
      ((rest.1.1, ⟨first.1.2.value.append rest.1.2.value,
        first.1.2.warnings ++ rest.1.2.warnings⟩), rest.2) := by
  induction events generalizing a state with
  | nil =>
    rw [List.nil_append, handleAll_nil]
    simp only [Warned.silent, Report.empty_append, List.nil_append]
    rfl
  | cons event events ih =>
    rw [List.cons_append, handleAll_cons, handleAll_cons]
    simp only [ih, List.append_assoc, Report.append, Outcome.append_assoc, Nat.add_assoc]

/-- A session that goes on where another one stopped. -/
theorem run_add (a : Assembly) (awaited next : Nat) (queue : List Event) (state : ρ) :
    (run reviewer a (awaited + next) queue).run state =
      let x := (run reviewer a awaited queue).run state
      let y := (run reviewer x.1.model next x.1.queue).run x.2
      (⟨y.1.model, x.1.report.append y.1.report, x.1.warnings ++ y.1.warnings, y.1.queue⟩,
        y.2) := by
  simp only [run_eq, List.take_add, handleAll_append, List.drop_drop]

/-- A session takes exactly the awaited events from its queue and leaves the others, in order, for
the next one, which goes on as if the two were one. Each event that it takes is booked once, in
order, with one message, and the report is the sum of the bookings. -/
theorem accounts_for_everything (hvalid : reviewer.Valid) (a : Assembly) (state : ρ)
    {queue : List Event} {awaited : Nat} (hawaited : awaited ≤ queue.length) :
    let x := (run reviewer a awaited queue).run state
    (∃ rs, Ledger reviewer a state (queue.take awaited) rs x.1.model x.2 ∧
      x.1.report = total rs ∧ rs.length = awaited ∧
      (∀ r ∈ rs, ∃ message, r.messages = [message]) ∧
      x.1.report.outcome.entries + x.1.report.rejected =
        (List.zipWith due (queue.take awaited) rs).sum) ∧
    x.1.report.messages.length = awaited ∧
    x.1.queue = queue.drop awaited ∧
    ∀ next,
      let y := (run reviewer x.1.model next x.1.queue).run x.2
      (run reviewer a (awaited + next) queue).run state =
        (⟨y.1.model, x.1.report.append y.1.report, x.1.warnings ++ y.1.warnings, y.1.queue⟩,
          y.2) := by
  intro x
  obtain ⟨rs, hledger, htotal⟩ := handleAll_ledger hvalid a (queue.take awaited) state
  have hlength : rs.length = awaited := by
    rw [hledger.length, List.length_take_of_le hawaited]
  have hreport : x.1.report = total rs := htotal
  refine ⟨⟨rs, hledger, hreport, hlength, hledger.message, ?_⟩, ?_, rfl, ?_⟩
  · rw [hreport]
    exact hledger.entries
  · rw [hreport, length_messages_total hledger.message, hlength]
  · exact fun next => run_add a awaited next queue state

/-! ### A plan, an analysis and an echoed name -/

def oneMethod : Assembly := ⟨"", [⟨"", "C", none, [], [], [⟨"a", "", [], [], ""⟩]⟩]⟩

def mixedQueue : List Event :=
  [.planned (.ok ⟨.method 0 0, .method, "a", "Load",
      [⟨.method 0 0, .primary, .certain "a" "Load" .method⟩]⟩),
    .analyzed (.ok ⟨"", [.certain "C" " " .type, .certain "C" "Store" .type], 0, []⟩),
    .planned (.error .noSuggestion), .analyzed (.error .noSuggestion)]

theorem accounts_for_mixed_queue :
    let x := (run (.acceptAll : Reviewer Unit) oneMethod 3 mixedQueue).run ()
    3 ≤ mixedQueue.length ∧ (Reviewer.acceptAll : Reviewer Unit).Valid ∧
      x.1.report.messages.length = 3 ∧ x.1.queue.length = 1 ∧
      x.1.report.outcome.entries + x.1.report.rejected = 3 := by
  have hawaited : 3 ≤ mixedQueue.length := by decide
  obtain ⟨⟨rs, hledger, -, -, -, hentries⟩, hmessages, hqueue, -⟩ :=
    accounts_for_everything Reviewer.valid_acceptAll oneMethod () hawaited
  refine ⟨hawaited, Reviewer.valid_acceptAll, hmessages, congrArg List.length hqueue, ?_⟩
  decide +kernel

end Session

end Renaming
