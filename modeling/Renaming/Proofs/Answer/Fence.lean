import Renaming.Proofs.Answer.Extract
import Renaming.Proofs.Answer.Name

/-!
# A name in a fence

Reading a name takes the backticks of a fence away, but not the word behind its opening, which is
then the first line with something in it. Reading a document takes both away. So the two agree on a
name in a fence only if the fence is opened without a word (`name_in_fence`).
-/

namespace Renaming

/-! ## The first line with something in it -/

namespace Text

theorem inkLine_append_of_blank {blanks : List Char} (h : ∀ c ∈ blanks, isBlank c = true)
    (cs : List Char) : inkLine (blanks ++ cs) = inkLine cs := by
  induction blanks with
  | nil => rfl
  | cons c blanks ih =>
    rw [List.cons_append, inkLine_cons_of_blank (h c List.mem_cons_self),
      ih fun d hd => h d (List.mem_cons_of_mem _ hd)]

theorem inkLine_line {line : List Char} (htrimmed : Trimmed line) (hline : '\n' ∉ line)
    (hsome : line ≠ []) (rest : List Char) : inkLine (line ++ '\n' :: rest) = line := by
  obtain ⟨c, cs, rfl⟩ := List.exists_cons_of_ne_nil hsome
  have hfirst : firstLine (c :: cs ++ '\n' :: rest) = c :: cs := by
    unfold firstLine
    rw [List.takeWhile_append_of_pos (Answer.ne_newline hline),
      List.takeWhile_cons_of_neg (by decide), List.append_nil]
  rw [List.cons_append, inkLine_cons_of_not_blank (htrimmed.first c rfl), ← List.cons_append,
    hfirst, trimBoth_of_trimmed htrimmed]

end Text

namespace Answer

open Text

variable {before after info name : List Char}

/-! ## Words -/

theorem isBlank_of_isAlphanum {c : Char} (h : c.isAlphanum = true) : isBlank c = false := by
  rw [Bool.eq_false_iff]
  intro hblank
  have hrange : (65 ≤ c.toNat ∧ c.toNat ≤ 90 ∨ 97 ≤ c.toNat ∧ c.toNat ≤ 122) ∨
      48 ≤ c.toNat ∧ c.toNat ≤ 57 := by
    unfold Char.isAlphanum Char.isAlpha Char.isUpper Char.isLower Char.isDigit at h
    simp only [Bool.or_eq_true, Bool.and_eq_true, decide_eq_true_eq, ge_iff_le,
      UInt32.le_iff_toNat_le] at h
    exact h
  simp only [isBlank, Bool.or_eq_true, Bool.and_eq_true, decide_eq_true_eq, beq_iff_eq] at hblank
  omega

theorem plain_of_isAlphanum (h : ∀ c ∈ info, c.isAlphanum = true) : Plain info where
  trimmed :=
    ⟨fun c hc => isBlank_of_isAlphanum (h c (List.mem_of_mem_head? hc)),
      fun c hc => isBlank_of_isAlphanum (h c (List.mem_of_mem_getLast? hc))⟩
  noBacktick hmem := absurd (h _ hmem) (by decide)
  oneLine hmem := absurd (h _ hmem) (by decide)

/-! ## Fences -/

theorem backtick_notMem_of_blank {blanks : List Char} (h : ∀ c ∈ blanks, isBlank c = true) :
    '\x60' ∉ blanks := fun hmem => absurd (h _ hmem) (by decide)

/-- Without backticks a fence is its word and its lines, each on a line of its own. -/
theorem filter_fenced (hinfo : '\x60' ∉ info) (hname : '\x60' ∉ name) :
    (fenced info name).filter (· != '\x60') = info ++ '\n' :: (name ++ ['\n']) := by
  have hfence : fence.filter (· != '\x60') = [] := by decide
  have hkept (cs : List Char) :
      ('\n' :: cs).filter (· != '\x60') = '\n' :: cs.filter (· != '\x60') :=
    List.filter_cons_of_pos (by decide)
  simp only [fenced, List.filter_append, hkept, hfence, filter_backtick_of_notMem hinfo,
    filter_backtick_of_notMem hname, List.nil_append]

theorem nameChars_fenced (hbefore : ∀ c ∈ before, isBlank c = true)
    (hafter : ∀ c ∈ after, isBlank c = true) (hinfo : ∀ c ∈ info, c.isAlphanum = true)
    (hname : Plain name) (hsome : name ≠ []) :
    nameChars (before ++ (fenced info name ++ after)) = if info = [] then name else info := by
  have hword := plain_of_isAlphanum hinfo
  rw [nameChars_eq_inkLine, List.filter_append, List.filter_append,
    filter_fenced hword.noBacktick hname.noBacktick,
    filter_backtick_of_notMem (backtick_notMem_of_blank hbefore),
    filter_backtick_of_notMem (backtick_notMem_of_blank hafter), inkLine_append_of_blank hbefore]
  split
  · rename_i hnil
    have hlines : info ++ '\n' :: (name ++ ['\n']) ++ after = '\n' :: (name ++ '\n' :: after) := by
      simp [hnil]
    rw [hlines, inkLine_cons_of_blank (by decide), inkLine_line hname.trimmed hname.oneLine hsome]
  · rename_i hnil
    have hlines : info ++ '\n' :: (name ++ ['\n']) ++ after =
        info ++ '\n' :: (name ++ '\n' :: after) := by
      simp
    rw [hlines, inkLine_line hword.trimmed hword.oneLine hnil]

/-- In a fence around a name, maybe with blanks around the fence, a document is read as the name. A
name is read as the word behind the opening of the fence, and as the name only if there is none. -/
theorem name_in_fence {before after info name : String}
    (hbefore : ∀ c ∈ before.toList, isBlank c = true)
    (hafter : ∀ c ∈ after.toList, isBlank c = true)
    (hinfo : ∀ c ∈ info.toList, c.isAlphanum = true) (hname : Plain name.toList)
    (hsome : name ≠ "") :
    let answer := before ++ ("```" ++ info ++ "\n" ++ name ++ "\n```") ++ after
    unfenced (trimBoth answer.toList) = name.toList ∧
      Answer.name answer = if info = "" then name else info := by
  intro answer
  have hanswer : answer.toList =
      before.toList ++ (fenced info.toList name.toList ++ after.toList) := by
    simp [answer, fenced, fence]
  rw [Answer.name, hanswer]
  constructor
  · rw [trimBoth_append_blanks hbefore hafter, trimBoth_of_trimmed (trimmed_fenced _ _),
      unfenced_fenced hinfo, trimBoth_of_trimmed hname.trimmed]
  · rw [nameChars_fenced hbefore hafter hinfo hname fun h => hsome (String.toList_eq_nil_iff.mp h)]
    simp only [String.toList_eq_nil_iff, apply_ite String.ofList, String.ofList_toList]

/-- Blanks around a fence without a word, and a name that has blanks and marks of code in it. -/
theorem name_in_fence_without_word :
    let answer := "\n\u3000" ++ ("```" ++ "" ++ "\n" ++ "operator <(T x)" ++ "\n```") ++ "\n"
    unfenced (trimBoth answer.toList) = "operator <(T x)".toList ∧
      Answer.name answer = "operator <(T x)" := by
  have hname : Plain "operator <(T x)".toList := nameChars_eq_self_iff.mp (by decide +kernel)
  have hread := @name_in_fence "\n\u3000" "\n" "" "operator <(T x)" (List.all_eq_true.mp rfl)
    (List.all_eq_true.mp rfl) (List.forall_mem_nil _) hname (by decide)
  exact hread

/-- In the fence that the prompt itself puts around code, a name is not read. -/
theorem name_in_fence_of_code :
    let answer := "```csharp\nCount\n```"
    unfenced (trimBoth answer.toList) = "Count".toList ∧ Answer.name answer = "csharp" := by
  decide +kernel

end Answer

end Renaming
