import Mathlib.Data.List.TakeWhile
import Renaming.Text.Blank

/-!
# Trimmed texts

Trimming takes blanks away at both ends until there are none (`exists_trimBoth`,
`trimmed_trimBoth`). So what is trimmed stays the same when it is trimmed again.
-/

namespace Renaming.Text

/-- There is no blank at either end. -/
structure Trimmed (cs : List Char) : Prop where
  first : ∀ c, cs.head? = some c → isBlank c = false
  last : ∀ c, cs.getLast? = some c → isBlank c = false

/-! ## One end -/

theorem dropWhile_of_head {cs : List Char} (h : ∀ c, cs.head? = some c → isBlank c = false) :
    cs.dropWhile isBlank = cs := by
  cases cs with
  | nil => rfl
  | cons c cs =>
    have hc : isBlank c = false := h c rfl
    simp [hc]

theorem isBlank_of_head?_dropWhile {cs : List Char} {c : Char}
    (h : (cs.dropWhile isBlank).head? = some c) : isBlank c = false := by
  have hnot := List.head?_dropWhile_not isBlank cs
  rw [h] at hnot
  simpa using hnot

theorem trimEnd_append_of_blank {cs blanks : List Char} (h : ∀ c ∈ blanks, isBlank c = true) :
    trimEnd (cs ++ blanks) = trimEnd cs := by
  unfold trimEnd
  rw [List.reverse_append, List.dropWhile_append_of_pos]
  intro c hc
  exact h c (List.mem_reverse.mp hc)

theorem trimStart_append_of_blank {cs blanks : List Char} (h : ∀ c ∈ blanks, isBlank c = true) :
    trimStart (blanks ++ cs) = trimStart cs :=
  List.dropWhile_append_of_pos h

theorem trimEnd_of_last {cs : List Char} (h : ∀ c, cs.getLast? = some c → isBlank c = false) :
    trimEnd cs = cs := by
  unfold trimEnd
  rw [dropWhile_of_head fun c hc => h c (by simpa using hc), List.reverse_reverse]

theorem trimStart_of_first {cs : List Char} (h : ∀ c, cs.head? = some c → isBlank c = false) :
    trimStart cs = cs :=
  dropWhile_of_head h

theorem exists_trimEnd (cs : List Char) :
    ∃ after, cs = trimEnd cs ++ after ∧ ∀ c ∈ after, isBlank c = true := by
  refine ⟨(cs.reverse.takeWhile isBlank).reverse, ?_, ?_⟩
  · unfold trimEnd
    rw [← List.reverse_append, List.takeWhile_append_dropWhile, List.reverse_reverse]
  · exact fun c hc => List.mem_takeWhile_imp (List.mem_reverse.mp hc)

/-- Dropping does not reach behind a character that is to be kept. -/
theorem dropWhile_append_cons {p : Char → Bool} {c : Char} (hc : p c = false)
    (before cs : List Char) : (before ++ c :: cs).dropWhile p = before.dropWhile p ++ c :: cs := by
  rw [List.dropWhile_append]
  split
  · rename_i hempty
    rw [List.isEmpty_iff.mp hempty, List.nil_append, List.dropWhile_cons_of_neg (by simp [hc])]
  · rfl

theorem trimStart_append (before : List Char) {c : Char} (hc : isBlank c = false)
    (cs : List Char) : trimStart (before ++ c :: cs) = trimStart before ++ c :: cs :=
  dropWhile_append_cons hc before cs

theorem trimEnd_eq (cs : List Char) : trimEnd cs = (trimStart cs.reverse).reverse := rfl

theorem trimEnd_append (cs : List Char) {c : Char} (hc : isBlank c = false) (after : List Char) :
    trimEnd (cs ++ c :: after) = cs ++ c :: trimEnd after := by
  rw [trimEnd_eq, List.reverse_append, List.reverse_cons, List.append_assoc,
    List.singleton_append, trimStart_append _ hc, trimEnd_eq after]
  simp

/-! ## Both ends -/

/-- Trimming takes away some blanks at the start and some at the end. -/
theorem exists_trimBoth (cs : List Char) : ∃ before after,
    cs = before ++ (trimBoth cs ++ after) ∧ (∀ c ∈ before, isBlank c = true) ∧
      ∀ c ∈ after, isBlank c = true := by
  obtain ⟨after, hafter, hblank⟩ := exists_trimEnd (trimStart cs)
  refine ⟨cs.takeWhile isBlank, after, ?_, fun c hc => List.mem_takeWhile_imp hc, hblank⟩
  unfold trimBoth
  rw [← hafter]
  exact List.takeWhile_append_dropWhile.symm

theorem trimmed_trimBoth (cs : List Char) : Trimmed (trimBoth cs) where
  first c hc := by
    obtain ⟨after, hafter, -⟩ := exists_trimEnd (trimStart cs)
    have hstart : (trimStart cs).head? = some c := by
      rw [hafter, List.head?_append]
      exact Option.or_eq_some_iff.mpr (.inl hc)
    exact isBlank_of_head?_dropWhile hstart
  last c hc := by
    unfold trimBoth trimEnd at hc
    rw [List.getLast?_reverse] at hc
    exact isBlank_of_head?_dropWhile hc

theorem mem_trimBoth {c : Char} {cs : List Char} (h : c ∈ cs) (hc : isBlank c = false) :
    c ∈ trimBoth cs := by
  obtain ⟨before, after, hcs, hbefore, hafter⟩ := exists_trimBoth cs
  have hmem : c ∈ before ++ (trimBoth cs ++ after) := hcs ▸ h
  rw [List.mem_append, List.mem_append] at hmem
  rcases hmem with hmem | hmem | hmem
  · rw [hbefore c hmem] at hc
    cases hc
  · exact hmem
  · rw [hafter c hmem] at hc
    cases hc

theorem mem_of_mem_trimBoth {c : Char} {cs : List Char} (h : c ∈ trimBoth cs) : c ∈ cs := by
  obtain ⟨before, after, hcs, -, -⟩ := exists_trimBoth cs
  rw [hcs]
  exact List.mem_append_right _ (List.mem_append_left _ h)

theorem trimBoth_eq_nil_iff {cs : List Char} :
    trimBoth cs = [] ↔ ∀ c ∈ cs, isBlank c = true := by
  constructor
  · intro h c hc
    by_contra hblank
    have hmem := mem_trimBoth hc (Bool.not_eq_true _ ▸ hblank)
    rw [h] at hmem
    cases hmem
  · intro h
    unfold trimBoth trimStart
    rw [List.dropWhile_eq_nil_iff.mpr h]
    rfl

theorem trimBoth_of_trimmed {cs : List Char} (h : Trimmed cs) : trimBoth cs = cs := by
  unfold trimBoth
  rw [trimStart_of_first h.first, trimEnd_of_last h.last]

@[simp] theorem trimBoth_trimBoth (cs : List Char) : trimBoth (trimBoth cs) = trimBoth cs :=
  trimBoth_of_trimmed (trimmed_trimBoth cs)

/-- Blanks around a text do not change what is left of it. -/
theorem trimBoth_append_blanks {before cs after : List Char}
    (hbefore : ∀ c ∈ before, isBlank c = true) (hafter : ∀ c ∈ after, isBlank c = true) :
    trimBoth (before ++ (cs ++ after)) = trimBoth cs := by
  unfold trimBoth
  rw [trimStart_append_of_blank hbefore]
  unfold trimStart
  rw [List.dropWhile_append]
  split
  · rename_i hempty
    rw [List.isEmpty_iff.mp hempty, List.dropWhile_eq_nil_iff.mpr hafter]
  · exact trimEnd_append_of_blank hafter

end Renaming.Text
