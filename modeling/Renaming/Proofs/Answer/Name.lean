import Renaming.Answer.Extract
import Renaming.Answer.Name
import Renaming.Proofs.Text.Blank

/-!
# Reading a name

What is read from an answer is its first line with something besides backticks and blanks in it,
without those (`name_is_first_meaningful_line`). Reading leaves a name alone if it is trimmed, of
one line and without backticks (`Plain`), and leaves nothing of a text of blanks and backticks
(`Hollow`).
-/

namespace Renaming

/-! ## Taking marks away -/

namespace Text

/-- The text without the mark that consists of `first` and then `more`. Its places are looked for
from the left, each behind the one before it. -/
def without (first : Char) (more : List Char) : List Char → List Char
  | [] => []
  | c :: cs =>
    if c = first ∧ more <+: cs then without first more (cs.drop more.length)
    else c :: without first more cs
termination_by cs => cs.length
decreasing_by
  · simp only [List.length_drop, List.length_cons]
    omega
  · simp

/-- Characters that are in no mark are not taken away. -/
theorem filter_without {first : Char} {more : List Char} {keep : Char → Bool}
    (hmark : ∀ c ∈ first :: more, keep c = false) (cs : List Char) :
    (without first more cs).filter keep = cs.filter keep := by
  fun_induction without first more cs with
  | case1 => rfl
  | case2 c cs hplace ih =>
    obtain ⟨rfl, rest, rfl⟩ := hplace
    have hmore : more.filter keep = [] :=
      List.filter_eq_nil_iff.mpr fun d hd => by simp [hmark d (List.mem_cons_of_mem _ hd)]
    rw [ih, List.drop_left, List.filter_cons_of_neg (by simp [hmark c List.mem_cons_self]),
      List.filter_append, hmore, List.nil_append]
  | case3 c cs _ ih => rw [List.filter_cons, List.filter_cons, ih]

/-- A mark of one character is taken away wherever it stands. -/
theorem without_nil (mark : Char) (cs : List Char) :
    without mark [] cs = cs.filter (· != mark) := by
  fun_induction without mark [] cs with
  | case1 => rfl
  | case2 c cs hplace ih =>
    rw [ih, hplace.1, List.filter_cons_of_neg (by simp)]
    rfl
  | case3 c cs hplace ih =>
    have hc : c ≠ mark := fun hc => hplace ⟨hc, List.nil_prefix⟩
    rw [ih, List.filter_cons_of_pos (by simpa using hc)]

/-! ## First lines -/

theorem firstLine_eq_self {cs : List Char} (h : '\n' ∉ cs) : firstLine cs = cs := by
  apply List.takeWhile_eq_self_iff.mpr
  intro c hc
  exact bne_iff_ne.mpr fun heq => h (heq ▸ hc)

theorem newline_notMem_firstLine (cs : List Char) : '\n' ∉ firstLine cs := by
  intro h
  have := List.mem_takeWhile_imp h
  simp at this

theorem exists_splitOn (cs : List Char) :
    ∃ lines, cs.splitOn '\n' = firstLine cs :: lines := by
  induction cs with
  | nil => exact ⟨[], rfl⟩
  | cons c cs ih =>
    obtain ⟨lines, hlines⟩ := ih
    rw [List.splitOn_cons_eq_if_modifyHead, hlines]
    by_cases hc : c = '\n'
    · exact ⟨firstLine cs :: lines, by simp [hc, firstLine]⟩
    · exact ⟨lines, by simp [hc, firstLine]⟩

/-- Blanks behind a text add nothing to its first line that trimming leaves. -/
theorem trimBoth_firstLine_append {after : List Char} (h : ∀ c ∈ after, isBlank c = true)
    (cs : List Char) : trimBoth (firstLine (cs ++ after)) = trimBoth (firstLine cs) := by
  unfold firstLine
  rw [List.takeWhile_append]
  split
  · rename_i hlength
    rw [(List.takeWhile_prefix _).eq_of_length hlength]
    exact trimBoth_append_blanks (List.forall_mem_nil _)
      fun c hc => h c ((List.takeWhile_sublist _).subset hc)
  · rfl

theorem trimBoth_firstLine_trimBoth (cs : List Char) :
    trimBoth (firstLine (trimBoth cs)) = trimBoth (firstLine (trimStart cs)) := by
  obtain ⟨after, hafter, hblank⟩ := exists_trimEnd (trimStart cs)
  conv => rhs; rw [hafter]
  exact (trimBoth_firstLine_append hblank _).symm

theorem trimBoth_cons_of_blank {c : Char} (hc : isBlank c = true) (cs : List Char) :
    trimBoth (c :: cs) = trimBoth cs := by
  unfold trimBoth trimStart
  rw [List.dropWhile_cons_of_pos hc]

/-! ## The first line with something in it -/

def hasInk (line : List Char) : Bool := line.any fun c => !isBlank c

/-- The first line that is not blank, trimmed. If all lines are blank there is nothing. -/
def inkLine (cs : List Char) : List Char := (((cs.splitOn '\n').find? hasInk).map trimBoth).getD []

theorem inkLine_cons_of_blank {c : Char} (hc : isBlank c = true) (cs : List Char) :
    inkLine (c :: cs) = inkLine cs := by
  obtain ⟨lines, hlines⟩ := exists_splitOn cs
  unfold inkLine
  rw [List.splitOn_cons_eq_if_modifyHead, hlines]
  split
  · rfl
  · -- The blank goes to the start of the first line.
    have hink : hasInk (c :: firstLine cs) = hasInk (firstLine cs) := by simp [hasInk, hc]
    rw [List.modifyHead_cons, List.find?_cons, List.find?_cons, hink]
    cases hasInk (firstLine cs) with
    | true => exact trimBoth_cons_of_blank hc _
    | false => rfl

theorem inkLine_cons_of_not_blank {c : Char} (hc : isBlank c = false) (cs : List Char) :
    inkLine (c :: cs) = trimBoth (firstLine (c :: cs)) := by
  obtain ⟨lines, hlines⟩ := exists_splitOn (c :: cs)
  have hne : (c != '\n') = true := bne_iff_ne.mpr fun h => by
    rw [h] at hc
    cases hc
  have hink : hasInk (firstLine (c :: cs)) = true := by simp [hasInk, firstLine, hne, hc]
  unfold inkLine
  rw [hlines, List.find?_cons_of_pos hink]
  rfl

/-- The first line of what is left when the blanks before it are gone has something in it. -/
theorem trimBoth_firstLine_trimStart (cs : List Char) :
    trimBoth (firstLine (trimStart cs)) = inkLine cs := by
  induction cs with
  | nil => rfl
  | cons c cs ih =>
    cases hc : isBlank c with
    | true =>
      rw [inkLine_cons_of_blank hc, ← ih]
      unfold trimStart
      rw [List.dropWhile_cons_of_pos hc]
    | false =>
      rw [inkLine_cons_of_not_blank hc]
      unfold trimStart
      rw [List.dropWhile_cons_of_neg (by simp [hc])]

end Text

namespace Answer

open Text

/-! ## What reading leaves -/

/-- Reading takes nothing away. -/
structure Plain (cs : List Char) : Prop where
  trimmed : Trimmed cs
  noBacktick : '\x60' ∉ cs
  oneLine : '\n' ∉ cs

/-- Reading leaves nothing. -/
def Hollow (cs : List Char) : Prop := ∀ c ∈ cs, isBlank c = true ∨ c = '\x60'

theorem backtick_notMem_nameChars (cs : List Char) : '\x60' ∉ nameChars cs := by
  intro h
  have hline := mem_of_mem_trimBoth h
  have htrimmed := (List.takeWhile_sublist _).subset hline
  have hkept := (List.mem_filter.mp (mem_of_mem_trimBoth htrimmed)).2
  simp at hkept

theorem plain_nameChars (cs : List Char) : Plain (nameChars cs) where
  trimmed := trimmed_trimBoth _
  noBacktick := backtick_notMem_nameChars cs
  oneLine h := newline_notMem_firstLine _ (mem_of_mem_trimBoth h)

theorem filter_backtick_of_notMem {cs : List Char} (h : '\x60' ∉ cs) :
    cs.filter (· != '\x60') = cs :=
  List.filter_eq_self.mpr fun _ hc => bne_iff_ne.mpr fun heq => h (heq ▸ hc)

theorem nameChars_of_plain {cs : List Char} (h : Plain cs) : nameChars cs = cs := by
  unfold nameChars
  rw [filter_backtick_of_notMem h.noBacktick, trimBoth_of_trimmed h.trimmed,
    firstLine_eq_self h.oneLine, trimBoth_of_trimmed h.trimmed]

theorem nameChars_eq_self_iff {cs : List Char} : nameChars cs = cs ↔ Plain cs :=
  ⟨fun h => h ▸ plain_nameChars cs, nameChars_of_plain⟩

/-- What is trimmed starts with a character that is no blank, and so does its first line. -/
theorem trimBoth_firstLine_eq_nil_iff {cs : List Char} (h : Trimmed cs) :
    trimBoth (firstLine cs) = [] ↔ cs = [] := by
  cases cs with
  | nil => simp [firstLine]
  | cons c cs =>
    have hc : isBlank c = false := h.first c rfl
    have hline : c ∈ firstLine (c :: cs) := by
      have hne : (c != '\n') = true := bne_iff_ne.mpr fun heq => by
        rw [heq] at hc
        cases hc
      simp [firstLine, hne]
    constructor
    · intro hnil
      rw [trimBoth_eq_nil_iff.mp hnil c hline] at hc
      cases hc
    · intro hnil
      cases hnil

theorem nameChars_eq_nil_iff {cs : List Char} : nameChars cs = [] ↔ Hollow cs := by
  unfold nameChars Hollow
  rw [trimBoth_firstLine_eq_nil_iff (trimmed_trimBoth _), trimBoth_eq_nil_iff]
  simp only [List.mem_filter, bne_iff_ne, and_imp]
  exact forall₂_congr fun c _ => by rw [or_comm, or_iff_not_imp_left]

theorem name_eq_self_iff {name : String} : Answer.name name = name ↔ Plain name.toList := by
  rw [← nameChars_eq_self_iff, ← String.toList_inj, Answer.name, String.toList_ofList]

theorem isEmpty_name_iff {name : String} :
    (Answer.name name).isEmpty = true ↔ Hollow name.toList := by
  rw [← nameChars_eq_nil_iff, String.isEmpty_iff, Answer.name, String.ofList_eq_empty_iff]

theorem plain_name (answer : String) : Plain (name answer).toList := by
  rw [name, String.toList_ofList]
  exact plain_nameChars _

/-! ## Fences, backticks and lines -/

/-- The text without fences, and then without the backticks that are left. -/
def bare (cs : List Char) : List Char := without '\x60' [] (without '\x60' ['\x60', '\x60'] cs)

/-- Fences consist of backticks, so it makes no difference whether they are taken away first. -/
theorem bare_eq_filter (cs : List Char) : bare cs = cs.filter (· != '\x60') := by
  unfold bare
  rw [without_nil]
  apply filter_without
  simp

theorem nameChars_eq_inkLine (cs : List Char) :
    nameChars cs = inkLine (cs.filter (· != '\x60')) := by
  unfold nameChars
  rw [trimBoth_firstLine_trimBoth, trimBoth_firstLine_trimStart]

/-- An answer is read by taking away first all fences and then all other backticks, and trimming the
first line of what is left and trimmed. What is read is the first line of the answer without its
backticks that is not blank. It is empty if there are only blanks and backticks, has neither a
backtick nor a line feed in it, and is read as itself. -/
theorem name_is_first_meaningful_line (answer : String) :
    name answer = String.ofList (trimBoth (firstLine (trimBoth (bare answer.toList)))) ∧
    name answer = String.ofList (inkLine (answer.toList.filter (· != '\x60'))) ∧
    (name answer = "" ↔ ∀ c ∈ answer.toList, isBlank c = true ∨ c = '\x60') ∧
    '\x60' ∉ (name answer).toList ∧ '\n' ∉ (name answer).toList ∧
    name (name answer) = name answer := by
  refine ⟨?_, ?_, ?_, ?_, ?_, ?_⟩
  · rw [bare_eq_filter]
    rfl
  · rw [← nameChars_eq_inkLine]
    rfl
  · rw [← String.isEmpty_iff]
    exact isEmpty_name_iff
  · exact (plain_name answer).noBacktick
  · exact (plain_name answer).oneLine
  · exact name_eq_self_iff.mpr (plain_name answer)

example : name "\x60\x60\x60\n \x60\x60 \n \x60a\x60b \nc\n\x60\x60\x60" = "ab" := by decide

end Answer

end Renaming
