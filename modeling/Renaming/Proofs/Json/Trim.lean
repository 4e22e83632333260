import Renaming.Proofs.Json.Reader

/-!
# Blanks around documents

The blanks of JSON are among those that trimming takes away, and no value starts or ends with one of
these. So a document can be trimmed before it is read.
-/

namespace Renaming.Json

open Text

theorem isBlank_of_isSpace {c : Char} (h : isSpace c = true) : isBlank c = true := by
  rcases eq_of_isSpace h with rfl | rfl | rfl | rfl <;> decide

theorem isBlank_of_isDigit {c : Char} (h : c.isDigit = true) : isBlank c = false := by
  have hrange : 48 ≤ c.toNat ∧ c.toNat ≤ 57 := by
    simpa [Char.isDigit, UInt32.le_iff_toNat_le] using h
  simp only [isBlank, Bool.or_eq_false_iff, Bool.and_eq_false_iff, decide_eq_false_iff_not,
    beq_eq_false_iff_ne]
  omega

/-! ## How a value ends -/

def EndsInDigit (cs : List Char) : Prop := ∀ c, cs.getLast? = some c → c.isDigit = true

theorem Digits.endsInDigit {cs : List Char} (h : Digits cs) : EndsInDigit cs :=
  fun c hc => h c (List.mem_of_getLast? hc)

theorem EndsInDigit.append {cs cs' : List Char} (h : EndsInDigit cs) (h' : EndsInDigit cs') :
    EndsInDigit (cs ++ cs') := by
  intro c hc
  rw [List.getLast?_append, Option.or_eq_some_iff] at hc
  rcases hc with hc | ⟨-, hc⟩
  · exact h' c hc
  · exact h c hc

theorem EndsInDigit.prepend {d : Char} {cs : List Char} (h : EndsInDigit (d :: cs))
    (before : List Char) : EndsInDigit (before ++ d :: cs) := by
  intro c hc
  rw [List.getLast?_append, Option.or_eq_some_iff] at hc
  rcases hc with hc | ⟨hnone, -⟩
  · exact h c hc
  · simp at hnone

theorem UnsignedText.endsInDigit {negative : Bool} {cs : List Char} {n : Number}
    (h : UnsignedText negative cs n) : EndsInDigit cs := by
  have hnil : EndsInDigit [] := fun c hc => by cases hc
  cases h with
  | mk hw hf he =>
    refine EndsInDigit.append ?_ (EndsInDigit.append ?_ ?_)
    · cases hw with
      | zero => exact fun c hc => by cases hc; decide
      | positive hc _ hcs => exact Digits.endsInDigit (List.forall_mem_cons.mpr ⟨hc, hcs⟩)
    · cases hf with
      | absent => exact hnil
      | digits hds => exact hds.endsInDigit.prepend ['.']
    · cases he with
      | absent => exact hnil
      | @digits mark _ sign _ _ _ _ hds => exact hds.endsInDigit.prepend (mark :: sign)

theorem NumberText.endsInDigit {cs : List Char} {n : Number} (h : NumberText cs n) :
    EndsInDigit cs := by
  cases h with
  | positive h => exact h.endsInDigit
  | negative h =>
    obtain ⟨c, rest, rfl, -⟩ := h.head
    exact h.endsInDigit.prepend ['-']

/-! ## Trimming -/

theorem trimmed_of_ends {c d : Char} (hc : isBlank c = false) (hd : isBlank d = false)
    (cs : List Char) : Trimmed (c :: (cs ++ [d])) where
  first x hx := by
    cases hx
    exact hc
  last x hx := by
    rw [← List.cons_append, List.getLast?_concat] at hx
    cases hx
    exact hd

theorem NumberText.trimmed {cs : List Char} {n : Number} (h : NumberText cs n) : Trimmed cs where
  first c hc := by
    obtain ⟨d, rest, rfl, hd⟩ := h.head
    cases hc
    rcases hd with hd | rfl
    · exact isBlank_of_isDigit hd
    · decide
  last c hc := isBlank_of_isDigit (h.endsInDigit c hc)

/-- There is no blank at either end of a value. -/
theorem Spells.trimmed {cs : List Char} {v : Json} (h : Spells cs (.value v)) : Trimmed cs := by
  cases h with
  | null => exact trimmed_of_ends (by decide) (by decide) ['u', 'l']
  | yes => exact trimmed_of_ends (by decide) (by decide) ['r', 'u']
  | no => exact trimmed_of_ends (by decide) (by decide) ['a', 'l', 's']
  | number hn => exact hn.trimmed
  | string _ => exact trimmed_of_ends (by decide) (by decide) _
  | noItems _ => exact trimmed_of_ends (by decide) (by decide) _
  | array _ _ =>
    rw [← List.append_assoc]
    exact trimmed_of_ends (by decide) (by decide) _
  | noMembers _ => exact trimmed_of_ends (by decide) (by decide) _
  | object _ _ =>
    rw [← List.append_assoc]
    exact trimmed_of_ends (by decide) (by decide) _

/-- A document without the blanks around it is the same document. -/
theorem parse_trimBoth {cs : List Char} {v : Json} (h : parse cs = some v) :
    parse (trimBoth cs) = some v := by
  obtain ⟨s, text, s', rfl, hs, hs', htext⟩ := (parse_eq_some_iff cs v).mp h
  rw [trimBoth_append_blanks (fun c hc => isBlank_of_isSpace (hs c hc))
    (fun c hc => isBlank_of_isSpace (hs' c hc)), trimBoth_of_trimmed htext.trimmed,
    parse_eq_some_iff]
  refine ⟨[], text, [], by simp, ?_, ?_, htext⟩
  · exact fun c hc => by cases hc
  · exact fun c hc => by cases hc

end Renaming.Json
