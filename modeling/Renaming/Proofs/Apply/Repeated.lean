import Renaming.Proofs.Apply.Log
import Renaming.Proofs.Model.Entities

/-!
# Names that several entities carry

A suggestion takes the first entity that carries its old name, and gives it another one. So the
suggestions for one name take its carriers one after another, in the order of declaration, as long
as no new name is the name of other suggestions (`Apart`). What is left for them after some
suggestions are all carriers of the model before but the first few (`carriers_applySuggestions`).
-/

namespace Renaming

/-- The suggestion renames something of this kind and name, if there is anything left. -/
def Suggestion.seeks (kind : Kind) (name : String) (s : Suggestion) : Bool :=
  s.isActionable && s.kind == kind && s.oldName == name

/-- No suggestion for a kind gives a name that another one of that kind is about. -/
def Suggestion.Apart (ss : List Suggestion) : Prop :=
  ∀ s ∈ ss, ∀ s' ∈ ss, s.isActionable = true → s'.isActionable = true → s.kind = s'.kind →
    Text.trim s.newName ≠ s'.oldName

theorem Suggestion.seeks_iff {kind : Kind} {name : String} {s : Suggestion} :
    s.seeks kind name = true ↔ s.isActionable = true ∧ s.kind = kind ∧ s.oldName = name := by
  simp [seeks, and_assoc]

theorem Suggestion.seeks_eq_false {kind : Kind} {name : String} {s : Suggestion}
    (hwide : kind.isModuleWide = true)
    (h : ¬ (s.isActionable = true ∧ s.kind.isModuleWide = true)) : s.seeks kind name = false := by
  rw [Bool.eq_false_iff]
  intro hseeks
  obtain ⟨hactionable, rfl, -⟩ := seeks_iff.mp hseeks
  exact h ⟨hactionable, hwide⟩

theorem Suggestion.Apart.tail {s : Suggestion} {ss : List Suggestion} (h : Apart (s :: ss)) :
    Apart ss :=
  fun s hs s' hs' => h s (List.mem_cons_of_mem _ hs) s' (List.mem_cons_of_mem _ hs')

namespace Assembly

/-! ## Carriers -/

/-- The entities of a kind with a name, in the order of declaration. -/
def carriers (a : Assembly) (kind : Kind) (name : String) : List Entity :=
  (a.entities kind).filter fun e => a.name? e == some name

variable (a : Assembly)

theorem firstNamed?_eq (kind : Kind) (name : String) :
    a.firstNamed? kind name = (a.carriers kind name).head? :=
  List.head?_filter.symm

theorem mem_carriers {kind : Kind} {name : String} {e : Entity} :
    e ∈ a.carriers kind name ↔ e.kind = kind ∧ a.name? e = some name := by
  simp only [carriers, List.mem_filter, mem_entities, beq_iff_eq]
  constructor
  · rintro ⟨⟨hkind, -⟩, hname⟩
    exact ⟨hkind, hname⟩
  · rintro ⟨hkind, hname⟩
    exact ⟨⟨hkind, by simp [hname]⟩, hname⟩

theorem nodup_carriers (kind : Kind) (name : String) : (a.carriers kind name).Nodup :=
  (a.nodup_entities kind).filter _

/-- An entity with a new name is gone from the carriers of all other names. -/
theorem carriers_rename {e : Entity} {kind : Kind} {name newName : String}
    (h : e.kind = kind → newName ≠ name) :
    (a.rename e newName).carriers kind name = (a.carriers kind name).filter (· ≠ e) := by
  unfold carriers
  rw [entities_rename, List.filter_filter]
  apply List.filter_congr
  intro f hf
  by_cases hfe : f = e
  · subst hfe
    have hnew : newName ≠ name := h ((a.mem_entities kind f).mp hf).1
    cases a.name? f <;> simp [hnew]
  · simp [a.name?_rename_of_ne newName (Ne.symm hfe), hfe]

/-! ## One suggestion -/

/-- What becomes of a suggestion that takes this entity, if any. -/
def take (s : Suggestion) : Option Entity → Assembly × Verdict
  | some e => (a.rename e (Text.trim s.newName), .applied (changeOf e s s.oldName))
  | none => (a, .skipped .notFound)

theorem applyByName_of_seeks {s : Suggestion} (hactionable : s.isActionable = true)
    (hwide : s.kind.isModuleWide = true) :
    a.applyByName s = a.take s (a.carriers s.kind s.oldName).head? := by
  rw [applyByName_eq, firstNamed?_eq]
  simp only [hactionable, hwide, Bool.not_true, Bool.false_eq_true, if_false]
  cases (a.carriers s.kind s.oldName).head? <;> rfl

theorem applyByName_of_not {s : Suggestion}
    (h : ¬ (s.isActionable = true ∧ s.kind.isModuleWide = true)) :
    ∃ reason, a.applyByName s = (a, .skipped reason) := by
  rw [applyByName_eq]
  by_cases hactionable : s.isActionable = true
  · have hwide : s.kind.isModuleWide = false := by simpa [hactionable] using h
    exact ⟨.unsupportedKind, by simp [hactionable, hwide]⟩
  · exact ⟨.notActionable, by simp [hactionable]⟩

/-- A suggestion takes one of the carriers that it seeks, and none of any others. -/
theorem carriers_applyByName {s : Suggestion} {kind : Kind} {name : String}
    (hwide : kind.isModuleWide = true)
    (hnew : s.isActionable = true → s.kind = kind → Text.trim s.newName ≠ name) :
    (a.applyByName s).1.carriers kind name =
      (a.carriers kind name).drop (if s.seeks kind name then 1 else 0) := by
  by_cases hs : s.isActionable = true ∧ s.kind.isModuleWide = true
  · obtain ⟨hactionable, hswide⟩ := hs
    rw [a.applyByName_of_seeks hactionable hswide]
    cases hhead : (a.carriers s.kind s.oldName).head? with
    | none =>
      simp only [take]
      split
      · rename_i hseeks
        obtain ⟨-, rfl, rfl⟩ := Suggestion.seeks_iff.mp hseeks
        rw [List.head?_eq_none_iff.mp hhead, List.drop_nil]
      · rfl
    | some e =>
      obtain ⟨hkind, hname⟩ := a.mem_carriers.mp (List.mem_of_mem_head? hhead)
      simp only [take]
      rw [a.carriers_rename fun he => hnew hactionable (hkind.symm.trans he)]
      split
      · -- The first of the carriers is taken, and it is there only once.
        rename_i hseeks
        obtain ⟨-, rfl, rfl⟩ := Suggestion.seeks_iff.mp hseeks
        obtain ⟨rest, hrest⟩ := List.head?_eq_some_iff.mp hhead
        have hnodup := a.nodup_carriers s.kind s.oldName
        rw [hrest, List.nodup_cons] at hnodup
        rw [hrest, List.filter_cons_of_neg (by simp), List.drop_one, List.tail_cons,
          List.filter_eq_self]
        intro f hf
        simpa using fun hfe : f = e => hnodup.1 (hfe ▸ hf)
      · rename_i hseeks
        rw [List.drop_zero, List.filter_eq_self]
        intro f hf
        obtain ⟨hfkind, hfname⟩ := a.mem_carriers.mp hf
        have hne : f ≠ e := by
          rintro rfl
          refine hseeks (Suggestion.seeks_iff.mpr ⟨hactionable, hkind.symm.trans hfkind, ?_⟩)
          exact Option.some.inj (hname.symm.trans hfname)
        simpa using hne
  · obtain ⟨reason, hskipped⟩ := a.applyByName_of_not hs
    simp [hskipped, Suggestion.seeks_eq_false hwide hs]

/-! ## Many suggestions -/

theorem applySuggestions_nil : a.applySuggestions [] = (a, .empty) := rfl

theorem applySuggestions_cons (s : Suggestion) (ss : List Suggestion) :
    a.applySuggestions (s :: ss) =
      let first := a.applyByName s
      let rest := first.1.applySuggestions ss
      (rest.1, (first.2.outcome s).append rest.2) := by
  simp only [applySuggestions_eq, applyEach, id]

theorem applySuggestions_append (ss ss' : List Suggestion) :
    a.applySuggestions (ss ++ ss') =
      let first := a.applySuggestions ss
      let rest := first.1.applySuggestions ss'
      (rest.1, first.2.append rest.2) := by
  induction ss generalizing a with
  | nil => simp [applySuggestions_nil]
  | cons s ss ih =>
    rw [List.cons_append, applySuggestions_cons, applySuggestions_cons]
    simp only [ih, Outcome.append_assoc]

/-- Each suggestion for a name takes away the first of the carriers that are left. -/
theorem carriers_applySuggestions {ss : List Suggestion} {kind : Kind} {name : String}
    (hwide : kind.isModuleWide = true)
    (hnew : ∀ s ∈ ss, s.isActionable = true → s.kind = kind → Text.trim s.newName ≠ name) :
    (a.applySuggestions ss).1.carriers kind name =
      (a.carriers kind name).drop (ss.countP (·.seeks kind name)) := by
  induction ss generalizing a with
  | nil => rfl
  | cons s ss ih =>
    obtain ⟨hs, hss⟩ := List.forall_mem_cons.mp hnew
    rw [applySuggestions_cons, ih _ hss, a.carriers_applyByName hwide hs, List.drop_drop,
      List.countP_cons, Nat.add_comm]

/-! ## The changes that are made -/

/-- A suggestion is skipped, or it takes the first carrier of its old name. -/
theorem applyByName_cases (s : Suggestion) :
    (∃ reason, a.applyByName s = (a, .skipped reason)) ∨
      s.isActionable = true ∧ s.kind.isModuleWide = true ∧
        ∃ e ∈ a.carriers s.kind s.oldName, a.applyByName s = a.take s (some e) := by
  by_cases hs : s.isActionable = true ∧ s.kind.isModuleWide = true
  · rw [a.applyByName_of_seeks hs.1 hs.2]
    cases hhead : (a.carriers s.kind s.oldName).head? with
    | none => exact .inl ⟨.notFound, rfl⟩
    | some e => exact .inr ⟨hs.1, hs.2, e, List.mem_of_mem_head? hhead, rfl⟩
  · exact .inl (a.applyByName_of_not hs)

theorem applied_cons (s : Suggestion) (ss : List Suggestion) :
    (a.applySuggestions (s :: ss)).2.applied = (a.applySuggestions ss).2.applied ∨
      s.isActionable = true ∧ s.kind.isModuleWide = true ∧
        ∃ e ∈ a.carriers s.kind s.oldName,
          (a.applySuggestions (s :: ss)).2.applied = changeOf e s s.oldName ::
            ((a.rename e (Text.trim s.newName)).applySuggestions ss).2.applied := by
  rw [applySuggestions_cons]
  rcases a.applyByName_cases s with ⟨reason, hs⟩ | ⟨hactionable, hwide, e, he, hs⟩
  · left
    simp [hs, Verdict.outcome]
  · right
    exact ⟨hactionable, hwide, e, he, by simp [hs, take, Verdict.outcome]⟩

/-- The change is what a suggestion asked for, made to an entity that had the old name before all
suggestions. -/
structure Asked (ss : List Suggestion) (c : Change) (s : Suggestion) : Prop where
  mem : s ∈ ss
  actionable : s.isActionable = true
  wide : s.kind.isModuleWide = true
  carrier : c.entity ∈ a.carriers s.kind s.oldName
  change : c = ⟨c.entity, s.kind, s.oldName, Text.trim s.newName⟩

variable {a} in
theorem Asked.cons {ss : List Suggestion} {c : Change} {s : Suggestion} (h : a.Asked ss c s)
    (s' : Suggestion) : a.Asked (s' :: ss) c s :=
  ⟨List.mem_cons_of_mem _ h.mem, h.actionable, h.wide, h.carrier, h.change⟩

variable {a} in
/-- An entity that has its new name carries no name that another suggestion is about. -/
theorem Asked.of_rename {e : Entity} {s s' : Suggestion} {ss : List Suggestion} {c : Change}
    (hapart : Suggestion.Apart (s :: ss)) (hactionable : s.isActionable = true)
    (he : e ∈ a.carriers s.kind s.oldName)
    (h : (a.rename e (Text.trim s.newName)).Asked ss c s') :
    a.Asked (s :: ss) c s' ∧ c.entity ≠ e := by
  have hnew : e.kind = s'.kind → Text.trim s.newName ≠ s'.oldName := by
    intro hkind
    exact hapart s (List.mem_cons_self ..) s' (List.mem_cons_of_mem _ h.mem) hactionable
      h.actionable ((a.mem_carriers.mp he).1.symm.trans hkind)
  have hcarrier := h.carrier
  rw [a.carriers_rename hnew, List.mem_filter] at hcarrier
  exact ⟨⟨List.mem_cons_of_mem _ h.mem, h.actionable, h.wide, hcarrier.1, h.change⟩,
    by simpa using hcarrier.2⟩

theorem Asked.take {s : Suggestion} {ss : List Suggestion} {e : Entity}
    (hactionable : s.isActionable = true) (hwide : s.kind.isModuleWide = true)
    (he : e ∈ a.carriers s.kind s.oldName) : a.Asked (s :: ss) (changeOf e s s.oldName) s where
  mem := List.mem_cons_self ..
  actionable := hactionable
  wide := hwide
  carrier := he
  change := by rw [← (a.mem_carriers.mp he).1]; rfl

theorem exists_asked {ss : List Suggestion} (hapart : Suggestion.Apart ss) {c : Change}
    (hc : c ∈ (a.applySuggestions ss).2.applied) : ∃ s, a.Asked ss c s := by
  induction ss generalizing a with
  | nil => simp [applySuggestions_nil, Outcome.empty] at hc
  | cons s ss ih =>
    rcases a.applied_cons s ss with hsame | ⟨hactionable, hwide, e, he, happlied⟩
    · rw [hsame] at hc
      obtain ⟨s', hs'⟩ := ih a hapart.tail hc
      exact ⟨s', hs'.cons s⟩
    · rw [happlied, List.mem_cons] at hc
      rcases hc with rfl | hc
      · exact ⟨s, .take a hactionable hwide he⟩
      · obtain ⟨s', hs'⟩ := ih _ hapart.tail hc
        exact ⟨s', (hs'.of_rename hapart hactionable he).1⟩

theorem nodup_applied {ss : List Suggestion} (hapart : Suggestion.Apart ss) :
    ((a.applySuggestions ss).2.applied.map (·.entity)).Nodup := by
  induction ss generalizing a with
  | nil => exact .nil
  | cons s ss ih =>
    rcases a.applied_cons s ss with hsame | ⟨hactionable, hwide, e, he, happlied⟩
    · rw [hsame]
      exact ih a hapart.tail
    · rw [happlied, List.map_cons, List.nodup_cons]
      refine ⟨fun hmem => ?_, ih _ hapart.tail⟩
      obtain ⟨c, hc, hce⟩ := List.mem_map.mp hmem
      obtain ⟨s', hs'⟩ := exists_asked _ hapart.tail hc
      exact (hs'.of_rename hapart hactionable he).2 hce

/-! ## How many changes are made -/

def replaces (kind : Kind) (name : String) (c : Change) : Bool :=
  c.kind == kind && c.oldName == name

theorem countP_applyByName {s : Suggestion} {kind : Kind} {name : String}
    (hwide : kind.isModuleWide = true) :
    ((a.applyByName s).2.outcome s).applied.countP (replaces kind name) =
      min (if s.seeks kind name then 1 else 0) (a.carriers kind name).length := by
  by_cases hs : s.isActionable = true ∧ s.kind.isModuleWide = true
  · obtain ⟨hactionable, hswide⟩ := hs
    rw [a.applyByName_of_seeks hactionable hswide]
    cases hhead : (a.carriers s.kind s.oldName).head? with
    | none =>
      by_cases hseeks : s.seeks kind name = true
      · obtain ⟨-, rfl, rfl⟩ := Suggestion.seeks_iff.mp hseeks
        simp [take, Verdict.outcome, List.head?_eq_none_iff.mp hhead]
      · simp [take, Verdict.outcome, hseeks]
    | some e =>
      have he := List.mem_of_mem_head? hhead
      have hchange : replaces kind name (changeOf e s s.oldName) = s.seeks kind name := by
        simp [replaces, changeOf, (a.mem_carriers.mp he).1, Suggestion.seeks, hactionable]
      simp only [take, Verdict.outcome, List.countP_cons, List.countP_nil, hchange]
      by_cases hseeks : s.seeks kind name = true
      · obtain ⟨-, rfl, rfl⟩ := Suggestion.seeks_iff.mp hseeks
        have := List.length_pos_of_mem he
        simp only [hseeks, if_true]
        omega
      · simp [hseeks]
  · obtain ⟨reason, hskipped⟩ := a.applyByName_of_not hs
    simp [hskipped, Suggestion.seeks_eq_false hwide hs, Verdict.outcome]

theorem countP_applySuggestions {ss : List Suggestion} {kind : Kind} {name : String}
    (hwide : kind.isModuleWide = true)
    (hnew : ∀ s ∈ ss, s.isActionable = true → s.kind = kind → Text.trim s.newName ≠ name) :
    (a.applySuggestions ss).2.applied.countP (replaces kind name) =
      min (ss.countP (·.seeks kind name)) (a.carriers kind name).length := by
  induction ss generalizing a with
  | nil => simp [applySuggestions_nil, Outcome.empty]
  | cons s ss ih =>
    obtain ⟨hs, hss⟩ := List.forall_mem_cons.mp hnew
    rw [applySuggestions_cons]
    simp only [Outcome.applied_append, List.countP_append, List.countP_cons]
    rw [a.countP_applyByName hwide, ih _ hss, a.carriers_applyByName hwide hs, List.length_drop]
    omega

/-- Of each name as many are replaced as there are entities and suggestions for it. -/
theorem countP_applied {ss : List Suggestion} (hapart : Suggestion.Apart ss) {kind : Kind}
    {name : String} (hwide : kind.isModuleWide = true) :
    (a.applySuggestions ss).2.applied.countP (replaces kind name) =
      min (ss.countP (·.seeks kind name)) (a.carriers kind name).length := by
  by_cases hsought : ∃ s ∈ ss, s.seeks kind name = true
  · obtain ⟨s, hs, hseeks⟩ := hsought
    obtain ⟨hactionable, rfl, rfl⟩ := Suggestion.seeks_iff.mp hseeks
    exact a.countP_applySuggestions hwide fun s' hs' hactionable' hkind =>
      hapart s' hs' s hs hactionable' hactionable hkind
  · -- Nobody asks for the name, so none of the changes is about it.
    have hnone : ss.countP (·.seeks kind name) = 0 := by
      rw [List.countP_eq_zero]
      exact fun s hs hseeks => hsought ⟨s, hs, hseeks⟩
    rw [hnone, Nat.zero_min, List.countP_eq_zero]
    intro c hc hreplaces
    obtain ⟨s, hs⟩ := a.exists_asked hapart hc
    refine hsought ⟨s, hs.mem, Suggestion.seeks_iff.mpr ⟨hs.actionable, ?_⟩⟩
    rw [hs.change] at hreplaces
    simpa [replaces] using hreplaces

/-! ## One suggestion among others -/

section

variable {before after : List Suggestion} {s : Suggestion}

theorem applySuggestions_at :
    a.applySuggestions (before ++ s :: after) =
      let b := a.applySuggestions before
      let step := b.1.applyByName s
      let rest := step.1.applySuggestions after
      (rest.1, b.2.append ((step.2.outcome s).append rest.2)) := by
  simp only [applySuggestions_append, applySuggestions_cons]

variable (hapart : Suggestion.Apart (before ++ s :: after))

include hapart

/-- What is left for a suggestion are the carriers that those before it did not take. -/
theorem carriers_at (hactionable : s.isActionable = true) (hwide : s.kind.isModuleWide = true) :
    (a.applySuggestions before).1.carriers s.kind s.oldName =
      (a.carriers s.kind s.oldName).drop (before.countP (·.seeks s.kind s.oldName)) :=
  a.carriers_applySuggestions hwide fun s' hs' hactionable' hkind =>
    hapart s' (List.mem_append_left _ hs') s List.mem_append_cons_self hactionable' hactionable
      hkind

theorem applyByName_at (hactionable : s.isActionable = true) (hwide : s.kind.isModuleWide = true) :
    let b := (a.applySuggestions before).1
    b.applyByName s = b.take s
      (a.carriers s.kind s.oldName)[before.countP (·.seeks s.kind s.oldName)]? := by
  intro b
  rw [b.applyByName_of_seeks hactionable hwide, a.carriers_at hapart hactionable hwide,
    List.head?_drop]

theorem name?_of_applied {c : Change}
    (hc : ((a.applySuggestions before).1.applyByName s).2 = .applied c) :
    (a.applySuggestions (before ++ s :: after)).1.name? c.entity =
      ((a.applySuggestions before).1.applyByName s).1.name? c.entity := by
  have hnodup := a.nodup_applied hapart
  rw [applySuggestions_at] at hnodup ⊢
  simp only [hc, Verdict.outcome, Outcome.applied_append, List.map_append, List.cons_append,
    List.nil_append, List.map_cons] at hnodup
  have hnot := (List.nodup_cons.mp (List.nodup_append.mp hnodup).2.1).1
  apply (applySuggestions_logged _ after).name?_of_ne
  intro c' hc' hsame
  exact hnot (List.mem_map.mpr ⟨c', hc', hsame⟩)

end

/-- Repeated names are taken in the order of declaration. A suggestion after `k` others for its kind
and old name renames the entity that comes after `k` others with that name in the model before all
suggestions, counted from zero, and that entity keeps its new name. It is skipped exactly if no more
than `k` entities had the name. So no entity is renamed twice, and of each name as many are replaced
as there are entities and suggestions for it. -/
theorem repeated_names_in_order (a : Assembly) {ss : List Suggestion}
    (hapart : Suggestion.Apart ss) :
    let result := a.applySuggestions ss
    (∀ before s after, ss = before ++ s :: after → s.isActionable = true →
      s.kind.isModuleWide = true →
      let b := a.applySuggestions before
      let carriers := a.carriers s.kind s.oldName
      let k := before.countP (·.seeks s.kind s.oldName)
      (∀ e, carriers[k]? = some e →
        b.1.name? e = some s.oldName ∧
        b.1.applyByName s = (b.1.rename e (Text.trim s.newName),
          .applied ⟨e, s.kind, s.oldName, Text.trim s.newName⟩) ∧
        result.1.name? e = some (Text.trim s.newName)) ∧
      (b.1.applyByName s = (b.1, .skipped .notFound) ↔ carriers.length ≤ k) ∧
      ∃ rest, result.2 = b.2.append (((b.1.applyByName s).2.outcome s).append rest)) ∧
    (result.2.applied.map (·.entity)).Nodup ∧
    (∀ kind name, kind.isModuleWide = true →
      result.2.applied.countP (fun c => c.kind == kind && c.oldName == name) =
        min (ss.countP (·.seeks kind name)) (a.carriers kind name).length) ∧
    ∀ x : Analysis, x.suggestions = ss → a.applyAnalysis x = result := by
  intro result
  refine ⟨?_, a.nodup_applied hapart, ?_, ?_⟩
  · rintro before s after rfl hactionable hwide b carriers k
    have hverdict : b.1.applyByName s = b.1.take s carriers[k]? :=
      a.applyByName_at hapart hactionable hwide
    refine ⟨fun e he => ?_, ?_, _, congrArg Prod.snd a.applySuggestions_at⟩
    · have hmem : e ∈ b.1.carriers s.kind s.oldName := by
        rw [a.carriers_at hapart hactionable hwide]
        exact List.mem_of_mem_head? (by rw [List.head?_drop]; exact he)
      obtain ⟨hkind, hname⟩ := b.1.mem_carriers.mp hmem
      have happly : b.1.applyByName s = (b.1.rename e (Text.trim s.newName),
          .applied ⟨e, s.kind, s.oldName, Text.trim s.newName⟩) := by
        rw [hverdict, he, ← hkind]
        rfl
      refine ⟨hname, happly, ?_⟩
      have hkept := a.name?_of_applied hapart (congrArg Prod.snd happly)
      rw [hkept]
      simp [b, happly, hname]
    · rw [← List.getElem?_eq_none_iff, hverdict]
      cases carriers[k]? <;> simp [take]
  · exact fun kind name hwide => a.countP_applied hapart hwide
  · rintro x rfl
    rfl

/-! ### Two methods of one name -/

def overloads : Assembly :=
  ⟨"", [⟨"", "C", none, [], [], [⟨"a", "", [], [], ""⟩, ⟨"b", "", [], [], ""⟩]⟩,
    ⟨"", "a", none, [], [], [⟨"a", "", [], [], ""⟩]⟩]⟩

def overloadNames : List Suggestion :=
  [.certain "a" " Load " .method, .certain "a" "Store" .type, .certain "a" "Save" .method,
    .certain "a" "Drop" .method]

theorem repeated_names_in_order_of_overloads :
    Suggestion.Apart overloadNames ∧
      let result := overloads.applySuggestions overloadNames
      result.1.name? (.method 1 0) = some "Save" ∧
      (result.2.applied.countP fun c => c.kind == .method && c.oldName == "a") = 2 := by
  have hapart : Suggestion.Apart overloadNames := by
    unfold Suggestion.Apart
    decide +kernel
  obtain ⟨hone, -, hcount, -⟩ := repeated_names_in_order overloads hapart
  refine ⟨hapart, ?_, ?_⟩
  · have hsave := hone (overloadNames.take 2) (.certain "a" "Save" .method)
      (overloadNames.drop 3) rfl (by decide +kernel) rfl
    exact (hsave.1 (.method 1 0) (by decide +kernel)).2.2
  · rw [hcount .method "a" rfl]
    decide +kernel

end Assembly

end Renaming
