import Renaming.Proofs.Apply.Verdicts
import Renaming.Proofs.Session.Basic

/-!
# Accepting an analysis

A session that accepts everything leaves out the suggestions that would change nothing, and
`Assembly.applyAnalysis` skips them as it comes to them. The model that the others find is the same.
-/

namespace Renaming

/-! ## Suggestions that change nothing -/

/-- The suggestion was skipped for changing nothing. -/
def Skip.isIdle (skip : Skip) : Bool := skip.reason == .notActionable

/-- The outcome for all suggestions but those that change nothing. -/
def Outcome.withoutIdle (o : Outcome) : Outcome :=
  ⟨o.applied, o.skipped.filter fun skip => !skip.isIdle⟩

theorem Outcome.withoutIdle_append (o o' : Outcome) :
    (o.append o').withoutIdle = o.withoutIdle.append o'.withoutIdle := by
  simp [withoutIdle, append]

theorem Outcome.withoutIdle_eq {o : Outcome} (h : ∀ skip ∈ o.skipped, ¬ skip.isIdle = true) :
    o.withoutIdle = o := by
  have hkept : o.skipped.filter (fun skip => !skip.isIdle) = o.skipped := by
    rw [List.filter_eq_self]
    simpa using h
  rw [withoutIdle, hkept]

namespace Assembly

theorem applyByName_idle (a : Assembly) {s : Suggestion} (h : ¬ s.isActionable = true) :
    a.applyByName s = (a, .skipped .notActionable) := by
  simp [applyByName_eq, h]

theorem not_isIdle (a : Assembly) {s : Suggestion} (h : s.isActionable = true) :
    ∀ skip ∈ ((a.applyByName s).2.outcome s).skipped, ¬ skip.isIdle = true := by
  intro skip hskip hidle
  have hwanted := mt (a.judgedByName s).notActionable.mp (s.isActionable_iff.mp h)
  cases hverdict : (a.applyByName s).2 with
  | applied => simp [hverdict, Verdict.outcome] at hskip
  | skipped reason =>
    rw [hverdict] at hwanted hskip
    rw [List.mem_singleton.mp hskip, Skip.isIdle, beq_iff_eq] at hidle
    exact hwanted (congrArg Verdict.skipped hidle)

/-- Suggestions that change nothing can be left out: the others find the same model. -/
theorem applySuggestions_filter (a : Assembly) (ss : List Suggestion) :
    let all := a.applySuggestions ss
    a.applySuggestions (ss.filter Suggestion.isActionable) = (all.1, all.2.withoutIdle) := by
  induction ss generalizing a with
  | nil => rfl
  | cons s ss ih =>
    by_cases hs : s.isActionable = true
    · rw [List.filter_cons_of_pos hs, applySuggestions_cons, applySuggestions_cons]
      simp only [ih, Outcome.withoutIdle_append, Outcome.withoutIdle_eq (a.not_isIdle hs)]
    · rw [List.filter_cons_of_neg hs, applySuggestions_cons, a.applyByName_idle hs]
      simp only [ih, Outcome.withoutIdle_append]
      rfl

theorem countP_isIdle (a : Assembly) (ss : List Suggestion) :
    (a.applySuggestions ss).2.skipped.countP Skip.isIdle =
      ss.countP fun s => !s.isActionable := by
  induction ss generalizing a with
  | nil => rfl
  | cons s ss ih =>
    rw [applySuggestions_cons, Outcome.skipped_append, List.countP_append, ih]
    by_cases hs : s.isActionable = true
    · rw [List.countP_eq_zero.mpr (a.not_isIdle hs)]
      simp [hs]
    · rw [a.applyByName_idle hs]
      simp [Verdict.outcome, Skip.isIdle, hs, Nat.add_comm]

end Assembly

/-! ## The session -/

namespace Session

theorem run_acceptAll_analysis {ρ : Type} (a : Assembly) (x : Analysis) (awaited : Nat)
    (state : ρ) :
    let outcome := a.applySuggestions (x.suggestions.filter Suggestion.isActionable)
    ((run .acceptAll a (awaited + 1) [.analyzed (.ok x)]).run state).1 =
      ⟨outcome.1, ⟨outcome.2, [outcome.2.summary],
        x.suggestions.countP fun s => !s.isActionable⟩, [], []⟩ := by
  have hrejected : x.suggestions.length - (Reviewer.actionable x).length =
      x.suggestions.countP fun s => !s.isActionable := by
    have hlength := List.length_eq_countP_add_countP Suggestion.isActionable (l := x.suggestions)
    simp only [Reviewer.length_actionable, Bool.not_eq_true, Bool.decide_eq_false] at hlength ⊢
    omega
  have hselect : ((Reviewer.acceptAll : Reviewer ρ).select x).run state =
      (.silent (Reviewer.actionable x), state) := rfl
  rw [run_eq]
  simp [handleAll_cons, handleAll_nil, handle_analysis, hselect, selected, hrejected,
    Reviewer.filterMap_actionable, Warned.silent, Report.append, Report.empty]

/-- A session that accepts all of one analysis leaves the model that `Assembly.applyAnalysis`
leaves, with the same changes and the same message. The suggestions that would change nothing count
as rejected and not as skipped. -/
theorem acceptAll_agrees_with_applyAnalysis {ρ : Type} (a : Assembly) (x : Analysis)
    (awaited : Nat) (state : ρ) :
    let session := ((run .acceptAll a (awaited + 1) [.analyzed (.ok x)]).run state).1
    let batch := a.applyAnalysis x
    session.model = batch.1 ∧
      session.report.outcome.applied = batch.2.applied ∧
      session.report.messages = [batch.2.summary] ∧
      session.report.outcome.skipped =
        batch.2.skipped.filter (fun skip => skip.reason != .notActionable) ∧
      session.report.rejected =
        batch.2.skipped.countP fun skip => skip.reason == .notActionable := by
  intro session batch
  have hsession : session =
      ⟨batch.1, ⟨batch.2.withoutIdle, [batch.2.withoutIdle.summary],
        batch.2.skipped.countP Skip.isIdle⟩, [], []⟩ := by
    unfold session batch
    rw [run_acceptAll_analysis, a.applySuggestions_filter, Assembly.applyAnalysis, a.countP_isIdle]
  rw [hsession]
  exact ⟨rfl, rfl, rfl, rfl, rfl⟩

end Session

end Renaming
