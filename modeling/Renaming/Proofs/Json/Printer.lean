import Renaming.Json.Printer
import Renaming.Proofs.Json.Reader

/-!
# What is written can be read

A document is written in the grammar that the reader reads, whatever blanks the layout puts between
its tokens. So it is read back as it was (`parse_chars`).
-/

namespace Renaming.Json

/-! ## Numbers -/

theorem natChars_digit : ∀ d < 10, natChars d = [d.digitChar] ∧ d.digitChar.isDigit = true ∧
    digitValue d.digitChar = d ∧ (d ≠ 0 → d.digitChar ≠ '0') := by
  decide

theorem digits_natChars (n : Nat) : Digits (natChars n) :=
  fun _ hc => Nat.isDigit_of_mem_toDigits (by decide) (by decide) hc

theorem natOfDigits_natChars (n : Nat) : natOfDigits ((natChars n).map digitValue) = n := by
  have hvalue : (natChars n).foldl (fun m c => 10 * m + (c.toNat - '0'.toNat)) 0 = n :=
    Nat.ofDigitChars_toDigits (by decide) (by decide)
  rw [natOfDigits, List.foldl_map]
  exact hvalue

/-- A number starts with its own first digit, which is zero for zero only. -/
theorem natChars_cons (n : Nat) : ∃ c cs, natChars n = c :: cs ∧ (n ≠ 0 → c ≠ '0') := by
  induction n using Nat.strongRecOn with
  | ind n ih =>
    by_cases hlt : n < 10
    · obtain ⟨hdigit, -, -, hzero⟩ := natChars_digit n hlt
      exact ⟨n.digitChar, [], hdigit, hzero⟩
    · obtain ⟨c, cs, hhead, hc⟩ := ih (n / 10) (by omega)
      refine ⟨c, cs ++ [(n % 10).digitChar], ?_, fun _ => hc (by omega)⟩
      unfold natChars at hhead ⊢
      rw [Nat.toDigits_of_base_le (by decide) (by omega), hhead, List.cons_append]

theorem wholeText_natChars (n : Nat) : WholeText (natChars n) n := by
  obtain ⟨c, cs, hcs, hc⟩ := natChars_cons n
  by_cases hn : n = 0
  · subst hn
    exact .zero
  · have hvalue := natOfDigits_natChars n
    have hdigits := digits_natChars n
    rw [hcs] at hvalue hdigits ⊢
    obtain ⟨hdigit, hrest⟩ := List.forall_mem_cons.mp hdigits
    have htext := WholeText.positive hdigit (hc hn) hrest
    rwa [hvalue] at htext

/-- What stands after the point are digits. -/
def Number.WellFormed (n : Number) : Prop := ∀ d ∈ n.fraction, d < 10

theorem fraction_digits {ds : List Nat} (h : ∀ d ∈ ds, d < 10) :
    Digits (ds.flatMap natChars) ∧ (ds.flatMap natChars).map digitValue = ds := by
  induction ds with
  | nil => exact ⟨List.forall_mem_nil _, rfl⟩
  | cons d ds ih =>
    obtain ⟨hd, hds⟩ := List.forall_mem_cons.mp h
    obtain ⟨hdigit, hisDigit, hvalue, -⟩ := natChars_digit d hd
    obtain ⟨hdigits, hvalues⟩ := ih hds
    rw [List.flatMap_cons, hdigit]
    refine ⟨List.forall_mem_cons.mpr ⟨hisDigit, hdigits⟩, ?_⟩
    rw [List.cons_append, List.nil_append, List.map_cons, hvalue, hvalues]

theorem fractionText {ds : List Nat} (h : ∀ d ∈ ds, d < 10) :
    FractionText (if ds.isEmpty then [] else '.' :: ds.flatMap natChars) ds := by
  cases ds with
  | nil => exact .absent
  | cons d ds =>
    obtain ⟨hdigits, hvalues⟩ := fraction_digits h
    obtain ⟨hdigit, -⟩ := natChars_digit d (h d (List.mem_cons_self ..))
    rw [List.flatMap_cons, hdigit, List.cons_append, List.nil_append] at hdigits hvalues
    have htext := FractionText.digits hdigits
    rw [hvalues] at htext
    simpa [hdigit] using htext

theorem exponentText (exponent : Int) : ExponentText (exponentChars exponent) (some exponent) := by
  obtain ⟨c, cs, hcs, -⟩ := natChars_cons exponent.natAbs
  have hvalue := natOfDigits_natChars exponent.natAbs
  have hdigits := digits_natChars exponent.natAbs
  rw [hcs] at hvalue hdigits
  by_cases hneg : exponent < 0
  · have htext := ExponentText.digits (.inl rfl) .minus hdigits
    rw [hvalue, show (-1) * (exponent.natAbs : Int) = exponent by omega] at htext
    simpa [exponentChars, hneg, hcs] using htext
  · have htext := ExponentText.digits (.inl rfl) .plus hdigits
    rw [hvalue, show 1 * (exponent.natAbs : Int) = exponent by omega] at htext
    simpa [exponentChars, hneg, hcs] using htext

theorem numberText {n : Number} (h : n.WellFormed) : NumberText n.chars n := by
  have hunsigned : ∀ {cs : List Char} {exponent : Option Int}, ExponentText cs exponent →
      ∀ negative, UnsignedText negative _ ⟨negative, n.whole, n.fraction, exponent⟩ :=
    fun hexponent _ => .mk (wholeText_natChars n.whole) (fractionText h) hexponent
  obtain ⟨negative, whole, fraction, exponent⟩ := n
  cases exponent with
  | none =>
    cases negative with
    | false => simpa [Number.chars] using NumberText.positive (hunsigned .absent false)
    | true => simpa [Number.chars] using NumberText.negative (hunsigned .absent true)
  | some exponent =>
    have hsigned := hunsigned (exponentText exponent)
    cases negative with
    | false => simpa [Number.chars] using NumberText.positive (hsigned false)
    | true => simpa [Number.chars] using NumberText.negative (hsigned true)

/-! ## Strings -/

theorem hexFour_hexDigit : ∀ n < 32,
    hexFour '0' '0' (hexDigit (n / 16)) (hexDigit (n % 16)) = some n := by
  decide

theorem pieceOfUnit_control {c : Char} (h : c.toNat < 32) : pieceOfUnit c.toNat = .char c := by
  have hhigh : isHighHalf c.toNat = false := by
    simp only [isHighHalf, Bool.and_eq_false_iff, decide_eq_false_iff_not]
    omega
  have hlow : isLowHalf c.toNat = false := by
    simp only [isLowHalf, Bool.and_eq_false_iff, decide_eq_false_iff_not]
    omega
  rw [pieceOfUnit, hhigh, hlow, Char.ofNat_toNat]
  rfl

/-- A character is written with a letter of its own, by its number, or as it is. -/
theorem escape_cases (c : Char) :
    (∃ e, escape c = ['\\', e] ∧ shortEscape e = some c) ∨
      (∃ x y, escape c = ['\\', 'u', '0', '0', x, y] ∧ hexFour '0' '0' x y = some c.toNat ∧
        c.toNat < 32) ∨
      (escape c = [c] ∧ c ≠ '"' ∧ c ≠ '\\' ∧ ¬ c < ' ') := by
  by_cases hletter : c ∈ ['"', '\\', '\x08', '\x0c', '\n', '\r', '\t']
  · left
    simp only [List.mem_cons, List.not_mem_nil, or_false] at hletter
    rcases hletter with rfl | rfl | rfl | rfl | rfl | rfl | rfl <;> exact ⟨_, rfl, rfl⟩
  · right
    simp only [List.mem_cons, List.not_mem_nil, or_false, not_or] at hletter
    unfold escape
    simp only [hletter, beq_iff_eq, if_false]
    by_cases hcontrol : c < ' '
    · have hlt : c.toNat < 32 := UInt32.lt_iff_toNat_lt.mp hcontrol
      left
      rw [if_pos hcontrol]
      exact ⟨_, _, rfl, hexFour_hexDigit c.toNat hlt, hlt⟩
    · right
      rw [if_neg hcontrol]
      exact ⟨rfl, hletter.1, hletter.2.1, hcontrol⟩

theorem BodyText.escape {cs : List Char} {ps : List Piece} (h : BodyText cs ps) (c : Char) :
    BodyText (escape c ++ cs) (.char c :: ps) := by
  rcases escape_cases c with ⟨e, hc, hshort⟩ | ⟨x, y, hc, hunit, hlt⟩ | ⟨hc, hquote, hslash, hlow⟩
  · rw [hc]
    exact .short hshort h
  · rw [hc, ← pieceOfUnit_control hlt]
    exact .unit hunit h
  · rw [hc]
    exact .char hquote hslash hlow h

theorem bodyText_escape (cs : List Char) : BodyText (cs.flatMap Json.escape) (cs.map .char) := by
  induction cs with
  | nil => exact .nil
  | cons c cs ih => exact ih.escape c

theorem joinAfter_chars (found cs : List Char) :
    joinAfter found (cs.map .char) = some (found.reverse ++ cs) := by
  induction cs generalizing found with
  | nil => simp [joinAfter]
  | cons c cs ih => simp [joinAfter, ih]

theorem quoted_eq (text : Option String) :
    ∃ cs ps, quoted text = '"' :: (cs ++ ['"']) ∧ BodyText cs ps ∧ joined ps = text := by
  cases text with
  | none =>
    exact ⟨['\\', 'u', 'd', '8', '0', '0'], [pieceOfUnit 0xD800], rfl, .unit rfl .nil, rfl⟩
  | some text =>
    refine ⟨text.toList.flatMap Json.escape, text.toList.map .char, rfl, bodyText_escape _, ?_⟩
    simp [joined, joinAfter_chars]

/-! ## Documents -/

theorem spaces_nil : Spaces [] := List.forall_mem_nil _

/-- The layout puts blanks only between tokens. -/
structure Layout.Blank (layout : Layout) : Prop where
  newline (level : Nat) : Spaces (layout.newline level)
  gap : Spaces layout.gap

theorem Layout.blank_compact : Layout.compact.Blank where
  newline _ := spaces_nil
  gap := spaces_nil

theorem Layout.blank_pretty : Layout.pretty.Blank where
  newline level c hc := by
    rcases List.mem_cons.mp hc with rfl | hc
    · rfl
    · rw [(List.mem_replicate.mp hc).2]
      rfl
  gap c hc := by
    rw [List.mem_singleton.mp hc]
    rfl

/-- All numbers of the document are literals. -/
inductive Printable : Json → Prop
  | null : Printable .null
  | bool (value : Bool) : Printable (.bool value)
  | number {literal : Number} : literal.WellFormed → Printable (.number literal)
  | string (text : Option String) : Printable (.string text)
  | array {items : List Json} : (∀ v ∈ items, Printable v) → Printable (.array items)
  | object {members : List (Option String × Json)} : (∀ m ∈ members, Printable m.2) →
      Printable (.object members)

section

variable {layout : Layout} (hlayout : layout.Blank)

include hlayout

theorem spells_member (key : Option String) {value : Json} {cs : List Char}
    (h : Spells cs (.value value)) :
    Spells (quoted key ++ ':' :: (layout.gap ++ cs)) (.member (key, value)) := by
  obtain ⟨body, ps, hbody, hps, rfl⟩ := quoted_eq key
  have hmember := Spells.member hps spaces_nil hlayout.gap h
  simpa [hbody] using hmember

variable {level : Nat} {s : List Char} (hs : Spaces s)

include hs

theorem spells_items {item : Json} {items : List Json}
    (h : ∀ v ∈ item :: items, Spells (chars layout level v) (.value v)) :
    Spells (chars layout level item ++ (itemChars layout level items ++ s))
      (.items (item :: items)) := by
  induction items generalizing item with
  | nil => exact .lastItem (h item (List.mem_cons_self ..)) hs
  | cons next items ih =>
    obtain ⟨hitem, hitems⟩ := List.forall_mem_cons.mp h
    have hrest := Spells.nextItem hitem spaces_nil (hlayout.newline level) (ih hitems)
    simpa [itemChars] using hrest

theorem spells_members {member : Option String × Json} {members : List (Option String × Json)}
    (h : ∀ m ∈ member :: members, Spells (chars layout level m.2) (.value m.2)) :
    Spells (quoted member.1 ++ ':' :: (layout.gap ++ (chars layout level member.2 ++
      (memberChars layout level members ++ s)))) (.members (member :: members)) := by
  induction members generalizing member with
  | nil =>
    have hmember := spells_member hlayout member.1 (h member (List.mem_cons_self ..))
    simpa [memberChars] using Spells.lastMember hmember hs
  | cons next members ih =>
    obtain ⟨hmember, hmembers⟩ := List.forall_mem_cons.mp h
    have hrest := Spells.nextMember (spells_member hlayout member.1 hmember) spaces_nil
      (hlayout.newline level) (ih hmembers)
    simpa [memberChars] using hrest

end

theorem spells_chars {layout : Layout} (hlayout : layout.Blank) {v : Json} (h : Printable v)
    (level : Nat) : Spells (chars layout level v) (.value v) := by
  induction h generalizing level with
  | null => exact .null
  | bool value => cases value <;> constructor
  | number h => exact .number (numberText h)
  | string text =>
    obtain ⟨cs, ps, hcs, hps, rfl⟩ := quoted_eq text
    rw [chars, hcs]
    exact .string hps
  | @array items _ ih =>
    cases items with
    | nil => exact .noItems spaces_nil
    | cons item items =>
      have hitems := spells_items hlayout (hlayout.newline level) fun v hv => ih v hv (level + 1)
      simpa [chars] using Spells.array (hlayout.newline (level + 1)) hitems
  | @object members _ ih =>
    cases members with
    | nil => exact .noMembers spaces_nil
    | cons member members =>
      have hmembers := spells_members hlayout (hlayout.newline level)
        fun m hm => ih m hm (level + 1)
      simpa [chars] using Spells.object (hlayout.newline (level + 1)) hmembers

/-- A document that was written, in whatever layout, is read as what it was. -/
theorem parse_chars {layout : Layout} (hlayout : layout.Blank) {v : Json} (h : Printable v)
    (level : Nat) : parse (chars layout level v) = some v :=
  (parse_eq_some_iff _ v).mpr
    ⟨[], chars layout level v, [], by simp, spaces_nil, spaces_nil, spells_chars hlayout h level⟩

theorem parse_compact {v : Json} (h : Printable v) : parse v.compact.toList = some v := by
  rw [compact, String.toList_ofList]
  exact parse_chars Layout.blank_compact h 0

theorem parse_pretty {v : Json} (h : Printable v) : parse v.pretty.toList = some v := by
  rw [pretty, String.toList_ofList]
  exact parse_chars Layout.blank_pretty h 0

/-! ## Printable documents -/

theorem printable_list {α : Type} {f : α → Json} {xs : List α} (h : ∀ x ∈ xs, Printable (f x)) :
    Printable (array (xs.map f)) := by
  refine .array fun v hv => ?_
  obtain ⟨x, hx, rfl⟩ := List.mem_map.mp hv
  exact h x hx

theorem printable_record {members : List (String × Json)} (h : ∀ m ∈ members, Printable m.2) :
    Printable (record members) := by
  refine .object fun m hm => ?_
  obtain ⟨m', hm', rfl⟩ := List.mem_map.mp hm
  exact h m' hm'

end Renaming.Json
