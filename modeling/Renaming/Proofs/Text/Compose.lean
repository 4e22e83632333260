import Mathlib.Data.List.Basic
import Renaming.Text.Compose

/-!
# What composing leaves alone

A character that takes part in no composition is still there in the composed text. Spaces and
controls are such characters.
-/

namespace Renaming.Text

/-- The character has no parts and is no part of another one. -/
structure Inert (c : Char) : Prop where
  parts : parts? c = none
  first : ∀ d, composite? c d = none
  second : ∀ d, composite? d c = none

variable {c : Char}

theorem mem_decompose (h : Inert c) (depth : Nat) : c ∈ decompose depth c := by
  cases depth with
  | zero => exact List.mem_singleton_self c
  | succ depth =>
    rw [decompose, h.parts]
    exact List.mem_singleton_self c

theorem mem_insertMark (mark : Char) (cs : List Char) :
    c ∈ insertMark mark cs ↔ c ∈ mark :: cs := by
  fun_induction insertMark mark cs with
  | case1 => rfl
  | case2 m ms _ ih => simp only [List.mem_cons, ih, or_left_comm]
  | case3 => rfl

theorem mem_foldr_insertMark (cs : List Char) : c ∈ cs.foldr insertMark [] ↔ c ∈ cs := by
  induction cs with
  | nil => rfl
  | cons d cs ih => rw [List.foldr_cons, mem_insertMark, List.mem_cons, List.mem_cons, ih]

theorem mem_composeFrom (h : Inert c) {base : Char} {marks cs : List Char} {lastClass : Nat}
    (hc : c ∈ base :: marks ∨ c ∈ cs) : c ∈ composeFrom base marks lastClass cs := by
  fun_induction composeFrom base marks lastClass cs with
  | case1 base marks =>
    simpa using hc
  | case2 base marks lastClass d cs k composite hcomposite ih =>
    -- Neither of the two that are composed is the character.
    have hpair : composite? base d = some composite := by
      split at hcomposite
      · exact hcomposite
      · cases hcomposite
    have hbase : c ≠ base := fun heq => by
      rw [← heq, h.first] at hpair
      cases hpair
    have hd : c ≠ d := fun heq => by
      rw [← heq, h.second] at hpair
      cases hpair
    apply ih
    simpa [hbase, hd] using
      hc.imp_left (List.mem_cons_of_mem composite ∘ List.mem_of_ne_of_mem hbase)
  | case3 base marks lastClass d cs k _ _ ih =>
    rw [List.mem_append]
    rcases hc with hc | hc
    · exact .inl (by simpa using hc)
    · rw [List.mem_cons, ← List.mem_singleton] at hc
      exact .inr (ih hc)
  | case4 base marks lastClass d cs k _ _ ih =>
    apply ih
    simpa [or_assoc, or_left_comm] using hc

theorem mem_composed (h : Inert c) {cs : List Char} (hc : c ∈ cs) : c ∈ composed cs := by
  have hmem : c ∈ (cs.flatMap (decompose 4)).foldr insertMark [] :=
    (mem_foldr_insertMark _).mpr (List.mem_flatMap.mpr ⟨c, hc, mem_decompose h 4⟩)
  unfold composed
  generalize (cs.flatMap (decompose 4)).foldr insertMark [] = marked at hmem
  cases marked with
  | nil => cases hmem
  | cons d ds =>
    rw [compose]
    rw [List.mem_cons, ← List.mem_singleton] at hmem
    exact mem_composeFrom h hmem

/-! ## The table of pairs -/

/-- The pairs of a row start beyond the controls and compose to characters beyond ASCII. -/
def rowFits : List Char → Bool
  | a :: c :: row => 0x20 < a.toNat && 0x80 ≤ c.toNat && rowFits row
  | _ => true

theorem rowFits_ofList {cs : List Char} (h : rowFits cs = true) :
    rowFits (String.ofList cs).toList = true := by
  rwa [String.toList_ofList]

set_option maxRecDepth 2000 in
theorem compositeRuns_fit : ∀ run ∈ compositeRuns, 0x80 ≤ run.1 ∧ rowFits run.2.toList = true := by
  unfold compositeRuns
  repeat refine List.forall_mem_cons.mpr ⟨⟨by decide, rowFits_ofList (by decide +kernel)⟩, ?_⟩
  exact List.forall_mem_nil _

theorem toNat_of_firstIn? {composite first : Char} {row : List Char} (hfits : rowFits row = true)
    (h : firstIn? composite row = some first) : 0x80 ≤ composite.toNat := by
  fun_induction firstIn? composite row with
  | case1 a d row heq =>
    simp only [rowFits, Bool.and_eq_true, decide_eq_true_eq] at hfits
    rw [← beq_iff_eq.mp heq]
    exact hfits.1.2
  | case2 a d row _ ih =>
    simp only [rowFits, Bool.and_eq_true] at hfits
    exact ih hfits.2 h
  | case3 => cases h

theorem toNat_of_compositeIn? {composite first : Char} {row : List Char}
    (hfits : rowFits row = true) (h : compositeIn? first row = some composite) :
    0x20 < first.toNat := by
  fun_induction compositeIn? first row with
  | case1 a d row heq =>
    simp only [rowFits, Bool.and_eq_true, decide_eq_true_eq] at hfits
    rw [← beq_iff_eq.mp heq]
    exact hfits.1.1
  | case2 a d row _ ih =>
    simp only [rowFits, Bool.and_eq_true] at hfits
    exact ih hfits.2 h
  | case3 => cases h

/-! ## ASCII -/

theorem parts?_of_ascii (h : c.toNat < 0x80) : parts? c = none := by
  have hsyllable : ¬(decide (0xAC00 ≤ c.toNat) && decide (c.toNat ≤ 0xD7A3)) = true := by
    simp only [Bool.and_eq_true, decide_eq_true_eq]
    omega
  unfold parts?
  rw [if_neg hsyllable, List.findSome?_eq_none_iff]
  intro run hrun
  rw [Option.map_eq_none_iff, Option.eq_none_iff_forall_ne_some]
  intro first hfirst
  have := toNat_of_firstIn? (compositeRuns_fit run hrun).2 hfirst
  omega

theorem composite?_of_ascii (base : Char) (h : c.toNat < 0x80) : composite? base c = none := by
  have hsyllable : syllable? base c = none := by
    unfold syllable?
    simp only [Bool.and_eq_true, decide_eq_true_eq, beq_iff_eq]
    rw [if_neg (by omega), if_neg (by omega)]
  unfold composite?
  rw [hsyllable, Option.none_or, List.findSome?_eq_none_iff]
  intro run hrun
  have := (compositeRuns_fit run hrun).1
  apply if_neg
  rw [beq_iff_eq]
  omega

theorem inert_of_le_space (h : c.toNat ≤ 0x20) : Inert c where
  parts := parts?_of_ascii (by omega)
  first d := by
    have hsyllable : syllable? c d = none := by
      unfold syllable?
      simp only [Bool.and_eq_true, decide_eq_true_eq, beq_iff_eq]
      rw [if_neg (by omega), if_neg (by omega)]
    unfold composite?
    rw [hsyllable, Option.none_or, List.findSome?_eq_none_iff]
    intro run hrun
    rw [ite_eq_right_iff]
    intro _
    rw [Option.eq_none_iff_forall_ne_some]
    intro composite hcomposite
    have := toNat_of_compositeIn? (compositeRuns_fit run hrun).2 hcomposite
    omega
  second d := composite?_of_ascii d (by omega)

theorem combiningClass_of_ascii (h : c.toNat < 0x80) : combiningClass c = 0 := by
  have hruns : ∀ run ∈ classRuns, 0x80 ≤ run.1 := by decide +kernel
  have hnone : (classRuns.find? fun run => run.1 ≤ c.toNat && c.toNat ≤ run.2.1) = none := by
    rw [List.find?_eq_none]
    intro run hrun
    have := hruns run hrun
    simp only [Bool.and_eq_true, decide_eq_true_eq]
    omega
  unfold combiningClass
  rw [hnone]
  rfl

theorem foldr_insertMark_of_ascii {cs : List Char} (h : ∀ c ∈ cs, c.toNat < 0x80) :
    cs.foldr insertMark [] = cs := by
  induction cs with
  | nil => rfl
  | cons c cs ih =>
    rw [List.foldr_cons, ih fun d hd => h d (List.mem_cons_of_mem _ hd)]
    cases cs with
    | nil => rfl
    | cons d cs =>
      rw [insertMark, combiningClass_of_ascii (h d (by simp))]
      rfl

theorem composeFrom_of_ascii (base : Char) (lastClass : Nat) {cs : List Char}
    (h : ∀ c ∈ cs, c.toNat < 0x80) : composeFrom base [] lastClass cs = base :: cs := by
  induction cs generalizing base lastClass with
  | nil => rfl
  | cons c cs ih =>
    have hc := h c (List.mem_cons_self ..)
    rw [composeFrom, composite?_of_ascii base hc, ite_self, combiningClass_of_ascii hc]
    simp [ih c 0 fun d hd => h d (List.mem_cons_of_mem _ hd)]

theorem composed_of_ascii {cs : List Char} (h : ∀ c ∈ cs, c.toNat < 0x80) : composed cs = cs := by
  have hdecompose : cs.flatMap (decompose 4) = cs := by
    calc cs.flatMap (decompose 4) = cs.flatMap fun c => [c] :=
          List.flatMap_congr fun c hc => by rw [decompose, parts?_of_ascii (h c hc)]
      _ = cs := List.flatMap_singleton' cs
  unfold composed
  rw [hdecompose, foldr_insertMark_of_ascii h]
  cases cs with
  | nil => rfl
  | cons c cs => exact composeFrom_of_ascii c 0 fun d hd => h d (List.mem_cons_of_mem _ hd)

end Renaming.Text
