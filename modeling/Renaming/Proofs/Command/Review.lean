import Renaming.Command.Review
import Renaming.Proofs.Session.Account

/-!
# The reviewer of a command

What becomes of an answer and of a question that fails. If all questions fail the reviewer refuses
everything, and then a session changes nothing (`Refuses.run`).
-/

namespace Renaming

/-! ## Terminals -/

namespace Terminal

variable {ρ : Type} (terminal : Terminal ρ)

/-- Only items that were shown are picked, each of them once. -/
def Valid : Prop :=
  ∀ prompt items state positions, ((terminal.pick prompt items).run.run state).1 = .ok positions →
    positions.Nodup ∧ ∀ i ∈ positions, i < items.length

/-- Every question fails. -/
structure Fails : Prop where
  choose (prompt : String) (choices : List String) (state : ρ) :
    ∃ e state', (terminal.choose prompt choices).run.run state = (.error e, state')
  edit (prompt initial : String) (state : ρ) :
    ∃ e state', (terminal.edit prompt initial).run.run state = (.error e, state')
  pick (prompt : String) (items : List (String × Bool)) (state : ρ) :
    ∃ e state', (terminal.pick prompt items).run.run state = (.error e, state')

theorem valid_absent : (absent : Terminal ρ).Valid := by
  intro prompt items state positions h
  cases h

theorem fails_absent : (absent : Terminal ρ).Fails where
  choose _ _ state := ⟨_, state, rfl⟩
  edit _ _ state := ⟨_, state, rfl⟩
  pick _ _ state := ⟨_, state, rfl⟩

end Terminal

namespace Reviewer

section

variable {ρ : Type} (terminal : Terminal ρ) (state : ρ)

theorem review_prompting (plan : RenamePlan) :
    (((prompting terminal).review plan).run state).1.value =
      ((terminal.decision plan).run.run state).1.toOption.getD .reject := by
  simp only [prompting, StateT.run_bind]
  obtain ⟨answer, state'⟩ := (terminal.decision plan).run.run state
  cases answer <;> rfl

theorem select_prompting (analysis : Analysis) :
    (((prompting terminal).select analysis).run state).1.value =
      ((terminal.selection analysis).run.run state).1.toOption.getD [] := by
  simp only [prompting, StateT.run_bind]
  obtain ⟨answer, state'⟩ := (terminal.selection analysis).run.run state
  cases answer <;> rfl

end

/-! ## Valid reviewers -/

theorem valid_prompting {ρ : Type} {terminal : Terminal ρ} (h : terminal.Valid) :
    (prompting terminal).Valid := by
  intro analysis state
  have hnone : ([] : List Nat).Nodup ∧ ∀ i ∈ ([] : List Nat), i < analysis.suggestions.length :=
    ⟨.nil, List.forall_mem_nil _⟩
  simp only [select_prompting]
  cases hanswer : ((terminal.selection analysis).run.run state).1 with
  | error => exact hnone
  | ok picked =>
    unfold Terminal.selection at hanswer
    split at hanswer
    · cases hanswer
      exact hnone
    · simpa [Except.toOption] using h _ _ _ _ hanswer

theorem valid_announcing {reviewer : Reviewer String} (h : reviewer.Valid) :
    (announcing reviewer).Valid :=
  fun analysis printed => h analysis (printed ++ analysis.announcement)

theorem valid_console (yes : Bool) {terminal : Terminal String} (h : terminal.Valid) :
    (console yes terminal).Valid := by
  apply valid_announcing
  cases yes
  case false => exact valid_prompting h
  case true => exact valid_acceptAll

/-! ## Reviewers that refuse -/

/-- Every plan is rejected, and nothing is selected of an analysis. -/
structure Refuses {ρ : Type} (reviewer : Reviewer ρ) : Prop where
  review (plan : RenamePlan) (state : ρ) : ((reviewer.review plan).run state).1.value = .reject
  select (analysis : Analysis) (state : ρ) : ((reviewer.select analysis).run state).1.value = []

theorem refuses_prompting {ρ : Type} {terminal : Terminal ρ} (h : terminal.Fails) :
    (prompting terminal).Refuses where
  review plan state := by
    obtain ⟨e, state', hchoose⟩ := h.choose ("Rename " ++ plan.kind.tag ++ " '" ++
      plan.currentName ++ "' to '" ++ plan.newName ++ "'?") ["Accept", "Edit name", "Reject"] state
    have hdecision : ((terminal.decision plan).run.run state).1 = .error e := by
      unfold Terminal.decision
      simp only [ExceptT.run_bind, StateT.run_bind, hchoose]
      rfl
    rw [review_prompting, hdecision]
    rfl
  select analysis state := by
    rw [select_prompting]
    unfold Terminal.selection
    split
    · rfl
    · obtain ⟨e, state', hpick⟩ := h.pick "Select renames to apply"
        (analysis.suggestions.map fun s => (Terminal.item s, s.isActionable)) state
      rw [hpick]
      rfl

theorem refuses_console {terminal : Terminal String} (h : terminal.Fails) :
    (console false terminal).Refuses where
  review plan printed := (refuses_prompting h).review plan (printed ++ plan.announcement)
  select analysis printed :=
    (refuses_prompting h).select analysis (printed ++ analysis.announcement)

namespace Refuses

variable {ρ : Type} {reviewer : Reviewer ρ} (h : reviewer.Refuses) (a : Assembly)

include h

theorem handle (event : Event) (state : ρ) :
    let x := ((Session.handle reviewer a event).run state).1
    x.1 = a ∧ x.2.value.outcome = .empty := by
  rcases event with (e | plan) | (e | analysis)
  · exact ⟨Session.failed_model a e, Session.failed_outcome a e⟩
  · rw [Session.handle_plan]
    simp [Session.decided, h.review]
  · exact ⟨Session.failed_model a e, Session.failed_outcome a e⟩
  · rw [Session.handle_analysis]
    simp only [Session.selected, h.select]
    exact ⟨rfl, rfl⟩

theorem handleAll (events : List Event) (state : ρ) :
    let x := ((Session.handleAll reviewer a events).run state).1
    x.1 = a ∧ x.2.value.outcome = .empty := by
  induction events generalizing state with
  | nil => exact ⟨rfl, rfl⟩
  | cons event events ih =>
    obtain ⟨hmodel, houtcome⟩ := h.handle a event state
    obtain ⟨hmodels, houtcomes⟩ := ih ((Session.handle reviewer a event).run state).2
    rw [Session.handleAll_cons]
    simp only [hmodel, Report.outcome_append, houtcome, Outcome.empty_append]
    exact ⟨hmodels, houtcomes⟩

/-- A session changes nothing. -/
theorem run (awaited : Nat) (queue : List Event) (state : ρ) :
    let x := ((Session.run reviewer a awaited queue).run state).1
    x.model = a ∧ x.report.outcome = .empty :=
  h.handleAll a (queue.take awaited) state

end Refuses

end Reviewer

end Renaming
