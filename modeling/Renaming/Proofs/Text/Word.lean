import Mathlib.Order.Bounds.Basic
import Renaming.Text.Word

/-!
# The first place of a word

A text is found at the first of its places between two boundaries (`findWord_eq_some_iff`,
`findWord_eq_none_iff`). If it starts and ends with word characters, these are the places where no
word character stands beside it. Otherwise a word character has to stand beside it.
-/

namespace Renaming.Text

/-- A word character stands directly before the place. -/
def wordBefore (text : List Char) (i : Nat) : Bool := (text.take i).getLast?.any isWordChar

/-- A word character stands directly behind the place. -/
def wordBehind (text : List Char) (i : Nat) : Bool := text[i]?.any isWordChar

/-- The word stands at the place, with no word character beside it. -/
structure StandsAlone (word text : List Char) (i : Nat) : Prop where
  here : word <+: text.drop i
  before : wordBefore text i = false
  behind : wordBehind text (i + word.length) = false

/-- The word stands at the place between two boundaries. -/
structure StandsBounded (word text : List Char) (i : Nat) : Prop where
  here : word <+: text.drop i
  start : wordBefore text i ≠ wordBehind text i
  stop : wordBefore text (i + word.length) ≠ wordBehind text (i + word.length)

/-- The text starts and ends with word characters. -/
structure WordEnds (word : List Char) : Prop where
  first : word.head?.any isWordChar = true
  last : word.getLast?.any isWordChar = true

variable {word text : List Char} {i : Nat}

/-! ## Boundaries -/

theorem take_of_here (h : word <+: text.drop i) :
    text.take (i + word.length) = text.take i ++ word := by
  rw [List.take_add, ← List.prefix_iff_eq_take.mp h]

theorem wordBehind_of_here (hword : word ≠ []) (h : word <+: text.drop i) :
    wordBehind text i = word.head?.any isWordChar := by
  obtain ⟨c, cs, rfl⟩ := List.exists_cons_of_ne_nil hword
  obtain ⟨rest, hrest⟩ := h
  unfold wordBehind
  rw [← List.head?_drop, ← hrest]
  rfl

theorem wordBefore_of_here (hword : word ≠ []) (h : word <+: text.drop i) :
    wordBefore text (i + word.length) = word.getLast?.any isWordChar := by
  unfold wordBefore
  rw [take_of_here h, List.getLast?_append, List.getLast?_eq_some_getLast hword, Option.some_or]

theorem wordAt_eq_true_iff :
    wordAt word (text.take i).getLast? (text.drop i) = true ↔ StandsBounded word text i := by
  have hstop (h : word <+: text.drop i) :
      isBoundary ((word.getLast?).or (text.take i).getLast?)
          ((text.drop i).drop word.length).head? =
        (wordBefore text (i + word.length) != wordBehind text (i + word.length)) := by
    rw [← List.getLast?_append, ← take_of_here h, List.drop_drop, List.head?_drop]
    rfl
  unfold wordAt
  rw [Bool.and_eq_true, Bool.and_eq_true, List.isPrefixOf_iff_prefix, List.head?_drop]
  constructor
  · rintro ⟨⟨hhere, hstart⟩, hend⟩
    rw [hstop hhere] at hend
    exact ⟨hhere, bne_iff_ne.mp hstart, bne_iff_ne.mp hend⟩
  · intro h
    refine ⟨⟨h.here, bne_iff_ne.mpr h.start⟩, ?_⟩
    rw [hstop h.here]
    exact bne_iff_ne.mpr h.stop

theorem WordEnds.ne_nil (hends : WordEnds word) : word ≠ [] := by
  rintro rfl
  cases hends.first

/-- A word that starts and ends with word characters is found where it stands alone. -/
theorem standsBounded_iff (hends : WordEnds word) :
    StandsBounded word text i ↔ StandsAlone word text i := by
  have hword := hends.ne_nil
  constructor
  · intro h
    have hstart := h.start
    have hstop := h.stop
    rw [wordBehind_of_here hword h.here, hends.first] at hstart
    rw [wordBefore_of_here hword h.here, hends.last] at hstop
    exact ⟨h.here, Bool.eq_false_iff.mpr hstart, Bool.eq_false_iff.mpr hstop.symm⟩
  · intro h
    refine ⟨h.here, ?_, ?_⟩
    · rw [wordBehind_of_here hword h.here, hends.first, h.before]
      exact Bool.false_ne_true
    · rw [wordBefore_of_here hword h.here, hends.last, h.behind]
      exact Bool.false_ne_true.symm

/-! ## The search -/

theorem take_read {before rest : List Char} (htext : before.reverse ++ rest = text) :
    text.take before.length = before.reverse := by
  rw [← htext, List.take_left' before.length_reverse]

theorem drop_read {before rest : List Char} (htext : before.reverse ++ rest = text) :
    text.drop before.length = rest := by
  rw [← htext, List.drop_left' before.length_reverse]

/-- The search tries the places in turn, from the end of what it has read. -/
theorem findWordAfter_eq (word : List Char) {before rest : List Char}
    (htext : before.reverse ++ rest = text) :
    findWordAfter word before rest =
      ((List.range' before.length (rest.length + 1)).find? fun i =>
        wordAt word (text.take i).getLast? (text.drop i)).map fun i =>
          (text.take i, text.drop i) := by
  induction rest generalizing before with
  | nil =>
    rw [findWordAfter, List.length_nil, List.range'_one, List.find?_singleton, take_read htext,
      drop_read htext, List.getLast?_reverse]
    split
    · rw [Option.map_some, take_read htext, drop_read htext]
    · rfl
  | cons c rest ih =>
    have hread : (c :: before).reverse ++ rest = text := by
      rw [← htext, List.reverse_cons, List.append_assoc, List.singleton_append]
    rw [findWordAfter, List.length_cons, List.range'_succ, List.find?_cons, take_read htext,
      drop_read htext, List.getLast?_reverse]
    cases wordAt word before.head? (c :: rest) with
    | true => simp [take_read htext, drop_read htext]
    | false => simpa using ih hread

theorem findWord_eq (word text : List Char) :
    findWord word text =
      ((List.range (text.length + 1)).find? fun i =>
        wordAt word (text.take i).getLast? (text.drop i)).map fun i =>
          (text.take i, text.drop i) := by
  unfold findWord
  rw [findWordAfter_eq word rfl, List.length_nil, ← List.range_eq_range', List.reverse_nil,
    List.nil_append]

theorem StandsBounded.lt (h : StandsBounded word text i) (hword : word ≠ []) :
    i < text.length := by
  refine Nat.lt_of_not_le fun hlong => hword ?_
  have hhere := h.here
  rw [List.drop_eq_nil_of_le hlong] at hhere
  exact List.prefix_nil.mp hhere

/-- A word is found at the first of its places between two boundaries. -/
theorem findWord_eq_some_iff (hword : word ≠ []) {found : List Char × List Char} :
    findWord word text = some found ↔
      ∃ i, IsLeast {i | StandsBounded word text i} i ∧ (text.take i, text.drop i) = found := by
  rw [findWord_eq, Option.map_eq_some_iff]
  refine exists_congr fun i => and_congr_left' ?_
  simp only [List.find?_range_eq_some, List.mem_range, Bool.not_eq_true', ← Bool.not_eq_true,
    wordAt_eq_true_iff]
  constructor
  · rintro ⟨h, -, hfirst⟩
    exact ⟨h, fun j hj => Nat.le_of_not_lt fun hlt => hfirst j hlt hj⟩
  · rintro ⟨h, hfirst⟩
    exact ⟨h, Nat.lt_succ_of_lt (h.lt hword), fun j hlt hj => Nat.not_le_of_lt hlt (hfirst hj)⟩

theorem findWord_eq_none_iff (hword : word ≠ []) :
    findWord word text = none ↔ ∀ i, ¬ StandsBounded word text i := by
  simp only [findWord_eq, Option.map_eq_none_iff, List.find?_range_eq_none, Bool.not_eq_true',
    ← Bool.not_eq_true, wordAt_eq_true_iff]
  constructor
  · intro h i hi
    exact h i (Nat.lt_succ_of_lt (hi.lt hword)) hi
  · intro h i _
    exact h i

/-! ## Words with other ends -/

theorem wordBehind_append_spaces (word : List Char) (n i : Nat) :
    wordBehind (word ++ List.replicate n ' ') (i + word.length) = false := by
  unfold wordBehind
  rw [List.getElem?_append_right (Nat.le_add_left _ _), List.getElem?_replicate]
  split
  · decide
  · rfl

theorem standsAlone_append_spaces (word : List Char) (n : Nat) :
    StandsAlone word (word ++ List.replicate n ' ') 0 :=
  ⟨List.prefix_append _ _, rfl, wordBehind_append_spaces word n 0⟩

/-- In front of spaces, a word that starts or ends with another character is not found. -/
theorem not_standsBounded_append_spaces (hends : ¬ WordEnds word) (hword : word ≠ []) (n i : Nat) :
    ¬ StandsBounded word (word ++ List.replicate (n + 1) ' ') i := by
  intro h
  have hlast : wordBefore (word ++ List.replicate (n + 1) ' ') (i + word.length) = true :=
    Bool.ne_false_iff.mp (wordBehind_append_spaces word (n + 1) i ▸ h.stop)
  cases i with
  | zero =>
    have hstart := h.start
    rw [wordBehind_of_here hword h.here] at hstart
    rw [wordBefore_of_here hword h.here] at hlast
    exact hends ⟨Bool.ne_false_iff.mp hstart.symm, hlast⟩
  | succ i =>
    -- The place that follows the word is behind a space.
    unfold wordBefore at hlast
    rw [Nat.add_comm, List.take_length_add_append, List.take_replicate, List.getLast?_append,
      List.getLast?_replicate, if_neg (by omega), Option.some_or] at hlast
    exact absurd hlast (by decide)

end Renaming.Text
