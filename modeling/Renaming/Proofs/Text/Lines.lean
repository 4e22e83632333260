import Mathlib.Data.List.Chain
import Renaming.Text.Lines

/-!
# Lines that stay lines

Behind whole lines the lines of a text start anew (`lines_append`). A line without breaks that does
not end in a carriage return is found again when a line feed follows it (`lines_line`).
-/

namespace Renaming.Text

/-! ## Whole lines -/

/-- Nothing stands behind the last line feed. -/
def WholeLines (text : String) : Prop := ∀ c, text.toList.getLast? = some c → c = '\n'

@[simp] theorem wholeLines_empty : WholeLines "" := nofun

theorem WholeLines.prepend {y : String} (h : WholeLines y) (hne : y ≠ "") (x : String) :
    WholeLines (x ++ y) := by
  intro c hc
  rw [String.toList_append, List.getLast?_append_of_ne_nil _ (by simpa using hne)] at hc
  exact h c hc

@[simp] theorem wholeLines_newline (line : String) : WholeLines (line ++ "\n") :=
  .prepend (fun c hc => by simpa [eq_comm] using hc) (by decide) line

theorem WholeLines.append {x y : String} (hx : WholeLines x) (hy : WholeLines y) :
    WholeLines (x ++ y) := by
  by_cases hempty : y = ""
  · rwa [hempty, String.append_empty]
  · exact hy.prepend hempty x

theorem WholeLines.join {xs : List String} (h : ∀ x ∈ xs, WholeLines x) :
    WholeLines (String.join xs) := by
  induction xs with
  | nil => simp
  | cons x xs ih =>
    obtain ⟨hx, hxs⟩ := List.forall_mem_cons.mp h
    rw [String.join_cons]
    exact hx.append (ih hxs)

theorem linesAfter_append {line cs : List Char} (h : cs.getLast? = some '\n') (rest : List Char) :
    linesAfter line (cs ++ rest) = linesAfter line cs ++ linesOf rest := by
  fun_induction linesAfter line cs with
  | case1 | case2 => cases h
  | case3 line cs ih =>
    rw [List.cons_append, linesAfter, List.cons_append]
    cases cs with
    | nil => rfl
    | cons c cs => rw [ih (by simpa using h)]
  | case4 line c cs hc ih =>
    rw [List.cons_append, linesAfter.eq_3 _ _ _ hc]
    cases cs with
    | nil => exact absurd (Option.some.inj h) hc
    | cons c' cs => exact ih (by simpa using h)

theorem lines_append {x : String} (h : WholeLines x) (y : String) :
    lines (x ++ y) = lines x ++ lines y := by
  cases hlast : x.toList.getLast? with
  | none =>
    obtain rfl : x = "" := by simpa using hlast
    simp [lines, linesOf, linesAfter]
  | some c =>
    rw [h c hlast] at hlast
    unfold lines linesOf
    rw [String.toList_append, linesAfter_append hlast, List.map_append, linesOf]

/-! ## Single lines -/

/-- Followed by a line feed, this is one line. -/
structure IsLine (line : String) : Prop where
  unbroken : '\n' ∉ line.toList
  ends : line.toList.getLast? ≠ some '\r'

theorem isLine_empty : IsLine "" := ⟨by simp, by simp⟩

theorem IsLine.prepend {margin line : String} (hmargin : IsLine margin) (h : IsLine line) :
    IsLine (margin ++ line) where
  unbroken := by simp [hmargin.unbroken, h.unbroken]
  ends := by
    rw [String.toList_append, List.getLast?_append]
    cases hlast : line.toList.getLast? with
    | none => simpa using hmargin.ends
    | some c => simpa [hlast] using h.ends

theorem linesAfter_line {line : List Char} (h : '\n' ∉ line) (found : List Char) :
    linesAfter found (line ++ ['\n']) = [endLine (line.reverse ++ found)] := by
  induction line generalizing found with
  | nil => rfl
  | cons c line ih =>
    obtain ⟨hc, hline⟩ := not_or.mp (List.mem_cons.not.mp h)
    rw [List.cons_append, linesAfter.eq_3 _ _ _ (Ne.symm hc), ih hline, List.reverse_cons,
      List.append_assoc, List.singleton_append]

theorem endLine_reverse {line : List Char} (h : line.getLast? ≠ some '\r') :
    endLine line.reverse = line := by
  rw [← List.head?_reverse] at h
  unfold endLine
  split
  · rename_i heq
    exact absurd (by rw [heq]; rfl) h
  · exact List.reverse_reverse line

theorem lines_line {line : String} (h : IsLine line) : lines (line ++ "\n") = [line] := by
  have hchars : (line ++ "\n").toList = line.toList ++ ['\n'] := by simp
  rw [lines, hchars, linesOf, linesAfter_line h.unbroken, List.append_nil, endLine_reverse h.ends]
  simp

/-! ## The lines of a text -/

/-- Every carriage return stands directly before a line feed. -/
structure PairedReturns (cs : List Char) : Prop where
  followed : cs.IsChain fun c d => c = '\r' → d = '\n'
  ends : cs.getLast? ≠ some '\r'

theorem PairedReturns.of_append {before cs : List Char} (h : PairedReturns (before ++ cs)) :
    PairedReturns cs where
  followed := (List.isChain_append.mp h.followed).2.1
  ends hlast := h.ends (by rw [List.getLast?_append, hlast]; rfl)

theorem PairedReturns.getLast?_ne {line rest : List Char} (h : PairedReturns (line ++ rest))
    (hrest : rest.head? ≠ some '\n') : line.getLast? ≠ some '\r' := by
  intro hlast
  cases rest with
  | nil => exact h.ends (by rwa [List.append_nil])
  | cons c rest =>
    have hnext := (List.isChain_append.mp h.followed).2.2 _ hlast c rfl rfl
    exact hrest (by rw [hnext]; rfl)

theorem getLast?_endLine {line rest : List Char}
    (h : PairedReturns (line.reverse ++ '\n' :: rest)) :
    (endLine line).getLast? ≠ some '\r' := by
  unfold endLine
  split
  · rename_i line
    have hbefore : PairedReturns (line.reverse ++ '\r' :: '\n' :: rest) := by simpa using h
    exact hbefore.getLast?_ne (by simp)
  · rename_i hreturn
    rw [List.getLast?_reverse]
    rintro hhead
    obtain ⟨front, rfl⟩ := List.head?_eq_some_iff.mp hhead
    exact hreturn front rfl

theorem newline_notMem_endLine {line : List Char} (h : '\n' ∉ line) : '\n' ∉ endLine line := by
  unfold endLine
  split
  · simpa using (not_or.mp (List.mem_cons.not.mp h)).2
  · simpa using h

/-- The induction reads the text from its start; the line that is not yet ended stands before the
rest, so that a carriage return at its end is known to have its line feed. -/
theorem of_mem_linesAfter {found cs line : List Char} (hfound : '\n' ∉ found)
    (h : PairedReturns (found.reverse ++ cs)) (hline : line ∈ linesAfter found cs) :
    '\n' ∉ line ∧ line.getLast? ≠ some '\r' := by
  fun_induction linesAfter found cs with
  | case1 => cases hline
  | case2 found _ =>
    rw [List.mem_singleton.mp hline]
    exact ⟨by simpa using hfound, h.getLast?_ne (by simp)⟩
  | case3 found rest ih =>
    rcases List.mem_cons.mp hline with rfl | hline
    · exact ⟨newline_notMem_endLine hfound, getLast?_endLine h⟩
    · refine ih (List.not_mem_nil) ?_ hline
      rw [List.append_cons] at h
      exact h.of_append
  | case4 found c rest hc ih =>
    refine ih ?_ (by simpa using h) hline
    simpa [eq_comm, hfound] using hc

theorem isLine_of_mem_lines {text line : String} (h : PairedReturns text.toList)
    (hline : line ∈ lines text) : IsLine line := by
  obtain ⟨cs, hcs, rfl⟩ := List.mem_map.mp hline
  obtain ⟨hbreak, hreturn⟩ := of_mem_linesAfter List.not_mem_nil h hcs
  exact ⟨by simpa using hbreak, by simpa using hreturn⟩

end Renaming.Text
