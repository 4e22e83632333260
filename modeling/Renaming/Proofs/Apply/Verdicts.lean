import Renaming.Proofs.Apply.Repeated

/-!
# One verdict for each suggestion

Many suggestions are judged one after another, each on the model that those before it left
(`InTurn`). What a verdict says about the suggestion and that model is an equivalence for each
verdict (`JudgedByName`, `JudgedAt`), so there is no other way to judge. The model never refuses a
change.
-/

namespace Renaming

/-! ## Verdicts -/

namespace Verdict

def change? : Verdict → Option Change
  | applied change => some change
  | skipped _ => none

def skip? (s : Suggestion) : Verdict → Option Skip
  | applied _ => none
  | skipped reason => some ⟨s, reason⟩

/-- The model after a verdict. -/
def settle (a : Assembly) : Verdict → Assembly
  | applied change => a.rename change.entity change.newName
  | skipped _ => a

end Verdict

/-! ## Suggestions -/

/-- The suggestion would change nothing. -/
def Suggestion.Idle (s : Suggestion) : Prop :=
  Text.trim s.newName = "" ∨ Text.trim s.newName = s.oldName

theorem Suggestion.isActionable_iff (s : Suggestion) : s.isActionable = true ↔ ¬ s.Idle := by
  simp [isActionable, Idle]

/-- Names of this kind are repeated from method to method. -/
def Kind.Repeats (kind : Kind) : Prop := kind = .parameter ∨ kind = .var

theorem Kind.isModuleWide_iff (kind : Kind) : kind.isModuleWide = true ↔ ¬ kind.Repeats := by
  cases kind <;> simp [isModuleWide, Repeats]

namespace Assembly

/-! ## One suggestion -/

/-- The entity is the first of its kind with the name, in the order of declaration. -/
structure IsFirst (a : Assembly) (kind : Kind) (name : String) (e : Entity) : Prop where
  kind_eq : e.kind = kind
  named : a.name? e = some name
  first : ∀ f, f.kind = kind → a.name? f = some name → f = e ∨ e.place < f.place

theorem firstNamed?_eq_none_iff (a : Assembly) (kind : Kind) (name : String) :
    a.firstNamed? kind name = none ↔ ∀ e, e.kind = kind → a.name? e ≠ some name := by
  rw [firstNamed?_eq, List.head?_eq_none_iff, List.eq_nil_iff_forall_not_mem]
  simp only [mem_carriers, not_and, ne_eq]

theorem isFirst_of_firstNamed? {a : Assembly} {kind : Kind} {name : String} {e : Entity}
    (h : a.firstNamed? kind name = some e) : a.IsFirst kind name e := by
  rw [firstNamed?_eq] at h
  have hsorted : (a.carriers kind name).Pairwise fun e f => e.place < f.place :=
    (a.sorted_entities kind).filter _
  obtain ⟨rest, hrest⟩ := List.head?_eq_some_iff.mp h
  obtain ⟨hkind, hname⟩ := a.mem_carriers.mp (List.mem_of_mem_head? h)
  refine ⟨hkind, hname, fun f hfkind hfname => ?_⟩
  have hf : f ∈ a.carriers kind name := a.mem_carriers.mpr ⟨hfkind, hfname⟩
  rw [hrest] at hsorted hf
  rcases List.mem_cons.mp hf with rfl | hf
  · exact .inl rfl
  · exact .inr ((List.pairwise_cons.mp hsorted).1 f hf)

theorem IsFirst.unique {a : Assembly} {kind : Kind} {name : String} {e f : Entity}
    (he : a.IsFirst kind name e) (hf : a.IsFirst kind name f) : e = f := by
  rcases he.first f hf.kind_eq hf.named with heq | hlt
  · exact heq.symm
  · rcases hf.first e he.kind_eq he.named with heq | hlt'
    · exact heq
    · exact absurd (List.lt_trans hlt hlt') (List.lt_irrefl _)

/-- The verdict on a suggestion that finds its entity by name. -/
structure JudgedByName (a : Assembly) (s : Suggestion) (v : Verdict) : Prop where
  notActionable : v = .skipped .notActionable ↔ s.Idle
  unsupportedKind : v = .skipped .unsupportedKind ↔ ¬ s.Idle ∧ s.kind.Repeats
  notFound : v = .skipped .notFound ↔
    ¬ s.Idle ∧ ¬ s.kind.Repeats ∧ ∀ e, e.kind = s.kind → a.name? e ≠ some s.oldName
  applied (c : Change) : v = .applied c ↔
    ¬ s.Idle ∧ ¬ s.kind.Repeats ∧ a.IsFirst s.kind s.oldName c.entity ∧
      c = ⟨c.entity, s.kind, s.oldName, Text.trim s.newName⟩
  neverRejected (details : String) : v ≠ .skipped (.rejected details)

/-- The verdict on a suggestion that comes with its entity. -/
structure JudgedAt (a : Assembly) (e : Entity) (s : Suggestion) (v : Verdict) : Prop where
  notActionable : v = .skipped .notActionable ↔ s.Idle
  notFound : v = .skipped .notFound ↔ ¬ s.Idle ∧ a.name? e = none
  applied (c : Change) : v = .applied c ↔
    ¬ s.Idle ∧ a.name? e = some c.oldName ∧ c = ⟨e, e.kind, c.oldName, Text.trim s.newName⟩
  neverUnsupported : v ≠ .skipped .unsupportedKind
  neverRejected (details : String) : v ≠ .skipped (.rejected details)

theorem judgedByName (a : Assembly) (s : Suggestion) : a.JudgedByName s (a.applyByName s).2 := by
  rw [applyByName_eq]
  by_cases hidle : s.Idle
  · have hactionable : ¬ s.isActionable = true := fun h => s.isActionable_iff.mp h hidle
    constructor <;> simp [hactionable, hidle]
  · have hactionable : s.isActionable = true := s.isActionable_iff.mpr hidle
    by_cases hrepeats : s.kind.Repeats
    · have hwide : ¬ s.kind.isModuleWide = true := fun h => s.kind.isModuleWide_iff.mp h hrepeats
      constructor <;> simp [hactionable, hwide, hidle, hrepeats]
    · have hwide : s.kind.isModuleWide = true := s.kind.isModuleWide_iff.mpr hrepeats
      simp only [hactionable, hwide, Bool.not_true, Bool.false_eq_true, if_false]
      cases hfirst : a.firstNamed? s.kind s.oldName with
      | none =>
        have hnone := (a.firstNamed?_eq_none_iff s.kind s.oldName).mp hfirst
        have hnot : ∀ e, ¬ a.IsFirst s.kind s.oldName e :=
          fun e he => hnone e he.kind_eq he.named
        constructor <;> simp [hidle, hrepeats, hnot]
        exact hnone
      | some e =>
        have he := isFirst_of_firstNamed? hfirst
        constructor
        case notActionable => simp [hidle]
        case unsupportedKind => simp [hrepeats]
        case notFound =>
          simp only [reduceCtorEq, false_iff, not_and]
          exact fun _ _ h => h e he.kind_eq he.named
        case applied =>
          intro c
          simp only [Verdict.applied.injEq, changeOf, he.kind_eq]
          constructor
          · rintro rfl
            exact ⟨hidle, hrepeats, he, rfl⟩
          · rintro ⟨-, -, hc, hchange⟩
            rw [hchange, hc.unique he]
        case neverRejected => simp

theorem judgedAt (a : Assembly) (e : Entity) (s : Suggestion) :
    a.JudgedAt e s (a.applyAt e s).2 := by
  rw [applyAt_eq]
  by_cases hidle : s.Idle
  · have hactionable : ¬ s.isActionable = true := fun h => s.isActionable_iff.mp h hidle
    constructor <;> simp [hactionable, hidle]
  · have hactionable : s.isActionable = true := s.isActionable_iff.mpr hidle
    simp only [hactionable, if_true]
    cases hname : a.name? e with
    | none => constructor <;> simp [hname, hidle]
    | some oldName =>
      constructor
      case notActionable => simp [hidle]
      case notFound => simp [hname]
      case applied =>
        intro c
        simp only [Verdict.applied.injEq, changeOf, hname, Option.some.injEq]
        constructor
        · rintro rfl
          exact ⟨hidle, rfl, rfl⟩
        · rintro ⟨-, rfl, hchange⟩
          exact hchange.symm
      case neverUnsupported => simp
      case neverRejected => simp

theorem applyByName_settle (a : Assembly) (s : Suggestion) :
    (a.applyByName s).1 = (a.applyByName s).2.settle a := by
  rcases a.applyByName_cases s with ⟨reason, hs⟩ | ⟨-, -, e, -, hs⟩ <;> rw [hs] <;> rfl

theorem applyAt_settle (a : Assembly) (e : Entity) (s : Suggestion) :
    (a.applyAt e s).1 = (a.applyAt e s).2.settle a := by
  rw [applyAt_eq]
  split
  · cases a.name? e <;> rfl
  · rfl

/-! ## Many suggestions -/

/-- The items of a list are judged in order, each on the model that the verdicts before it left. -/
inductive InTurn {τ : Type} (judged : Assembly → τ → Verdict → Prop) :
    Assembly → List τ → List Verdict → Assembly → Prop
  | nil (a : Assembly) : InTurn judged a [] [] a
  | cons {a z : Assembly} {x : τ} {v : Verdict} {xs : List τ} {vs : List Verdict} :
      judged a x v → InTurn judged (v.settle a) xs vs z → InTurn judged a (x :: xs) (v :: vs) z

/-- The outcome has the changes of all verdicts in order, and the suggestions that were skipped. -/
structure Partitioned {τ : Type} (suggestion : τ → Suggestion) (xs : List τ) (vs : List Verdict)
    (o : Outcome) : Prop where
  length : vs.length = xs.length
  applied : o.applied = vs.filterMap (·.change?)
  skipped : o.skipped = (xs.zip vs).filterMap fun (x, v) => v.skip? (suggestion x)

theorem Partitioned.cons {τ : Type} {suggestion : τ → Suggestion} {xs : List τ}
    {vs : List Verdict} {o : Outcome} (h : Partitioned suggestion xs vs o) (x : τ) (v : Verdict) :
    Partitioned suggestion (x :: xs) (v :: vs) ((v.outcome (suggestion x)).append o) where
  length := by simp [h.length]
  applied := by
    rw [Outcome.applied_append, h.applied]
    cases v <;> rfl
  skipped := by
    rw [Outcome.skipped_append, h.skipped]
    cases v <;> rfl

theorem applyEach_partitioned {τ : Type} {step : Assembly → τ → Assembly × Verdict}
    {judged : Assembly → τ → Verdict → Prop} (suggestion : τ → Suggestion)
    (hjudged : ∀ a x, judged a x (step a x).2)
    (hsettle : ∀ a x, (step a x).1 = (step a x).2.settle a) (a : Assembly) (xs : List τ) :
    let result := applyEach step suggestion a xs
    ∃ vs, InTurn judged a xs vs result.1 ∧ Partitioned suggestion xs vs result.2 := by
  induction xs generalizing a with
  | nil => exact ⟨[], .nil a, rfl, rfl, rfl⟩
  | cons x xs ih =>
    obtain ⟨vs, hturn, hpartitioned⟩ := ih (step a x).1
    rw [hsettle] at hturn
    exact ⟨(step a x).2 :: vs, .cons (hjudged a x) (hsettle a x ▸ hturn),
      hpartitioned.cons x (step a x).2⟩

/-- A change that is made gives another name, and not an empty one. -/
theorem renames_of_inTurn {a z : Assembly} {ss : List Suggestion} {vs : List Verdict}
    (h : InTurn JudgedByName a ss vs z) :
    ∀ c ∈ vs.filterMap (·.change?), c.newName ≠ "" ∧ c.newName ≠ c.oldName := by
  induction h with
  | nil => simp
  | @cons a z s v ss vs hjudged _ ih =>
    cases v with
    | skipped => exact ih
    | applied c =>
      obtain ⟨hidle, -, -, hc⟩ := (hjudged.applied c).mp rfl
      rw [Suggestion.Idle, not_or] at hidle
      refine List.forall_mem_cons.mpr ⟨?_, ih⟩
      rw [hc]
      exact hidle

/-- Every suggestion is either applied or skipped, in order, by the verdict that it deserves on the
model at its turn. The verdict is never that the model refuses the change, and a change that a
suggestion finds by name changes that name. -/
theorem suggestions_are_judged_in_turn (a : Assembly) :
    (∀ ss : List Suggestion,
      let result := a.applySuggestions ss
      ∃ vs, InTurn JudgedByName a ss vs result.1 ∧ Partitioned id ss vs result.2 ∧
        ∀ c ∈ result.2.applied, c.newName ≠ "" ∧ c.newName ≠ c.oldName) ∧
    ∀ ts : List (Entity × Suggestion),
      let result := a.applyTargets ts
      ∃ vs, InTurn (fun a t => a.JudgedAt t.1 t.2) a ts vs result.1 ∧
        Partitioned (·.2) ts vs result.2 := by
  constructor
  · intro ss
    rw [applySuggestions_eq]
    obtain ⟨vs, hturn, hpartitioned⟩ :=
      applyEach_partitioned id judgedByName applyByName_settle a ss
    refine ⟨vs, hturn, hpartitioned, ?_⟩
    rw [hpartitioned.applied]
    exact renames_of_inTurn hturn
  · intro ts
    have hjudged : ∀ (a : Assembly) (t : Entity × Suggestion),
        a.JudgedAt t.1 t.2 (a.applyAt t.1 t.2).2 := fun a t => a.judgedAt t.1 t.2
    have hsettle : ∀ (a : Assembly) (t : Entity × Suggestion),
        (a.applyAt t.1 t.2).1 = (a.applyAt t.1 t.2).2.settle a :=
      fun a t => a.applyAt_settle t.1 t.2
    rw [applyTargets_eq]
    exact applyEach_partitioned Prod.snd hjudged hsettle a ts

/-- The second of two requests for one type does not find it any more. -/
theorem requests_for_one_type_are_judged_in_turn :
    let a : Assembly := ⟨"", [⟨"", "A", none, [], [], []⟩]⟩
    let ss : List Suggestion := [.certain "A" " B " .type, .certain "A" "C" .type]
    let result := a.applySuggestions ss
    result.2.applied = [⟨.type 0, .type, "A", "B"⟩] ∧
      result.2.skipped.map (·.reason) = [.notFound] ∧
      ∃ vs, InTurn JudgedByName a ss vs result.1 ∧ Partitioned id ss vs result.2 ∧
        ∀ c ∈ result.2.applied, c.newName ≠ "" ∧ c.newName ≠ c.oldName := by
  refine ⟨by decide +kernel, by decide +kernel, ?_⟩
  exact (suggestions_are_judged_in_turn _).1 _

end Assembly

end Renaming
