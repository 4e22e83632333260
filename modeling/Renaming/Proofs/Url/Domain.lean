import Renaming.Proofs.Text.Compose
import Renaming.Text.Blank
import Renaming.Url.Domain

/-!
# What every version of the rules for domain names says

Small letters and digits of ASCII are written as they are, and no domain name holds a blank or a
control character (`LawfulDomainRules`). Nothing else is used of the rules. The ones of the program
are lawful: blanks beyond ASCII have no plain form, and the other ones come through composing and
encoding to be refused at last.
-/

namespace Renaming.Url

/-- A blank or a control character. -/
def Gap (c : Char) : Prop := c.toNat ≤ 0x20 ∨ Text.isBlank c = true

/-- A character that domain names are written with in ASCII. -/
def IsPlain (c : Char) : Prop := c.isLower = true ∨ c.isDigit = true

instance : DecidablePred IsPlain := fun _ => inferInstanceAs (Decidable (_ ∨ _))

/-- The standards say this of domain names, whatever the tables. -/
class LawfulDomainRules [DomainRules] : Prop where
  /-- A label of small letters and digits is in ASCII already. -/
  toASCII?_of_plain {cs : List Char} : cs ≠ [] → (∀ c ∈ cs, IsPlain c) →
    DomainRules.toASCII? cs = some cs
  /-- A blank is forbidden in domain names, and so is a control character. -/
  toASCII?_of_gap {cs : List Char} {c : Char} : c ∈ cs → Gap c → DomainRules.toASCII? cs = none

theorem exists_mem_mapM {α β : Type} {f : α → Option β} {x : α} {xs : List α} {ys : List β}
    (h : xs.mapM f = some ys) (hx : x ∈ xs) : ∃ y ∈ ys, f x = some y := by
  induction xs generalizing ys with
  | nil => cases hx
  | cons z zs ih =>
    rw [List.mapM_cons] at h
    obtain ⟨w, hw, h⟩ := Option.bind_eq_some_iff.mp h
    obtain ⟨ws, hws, h⟩ := Option.bind_eq_some_iff.mp h
    cases h
    rcases List.mem_cons.mp hx with rfl | hx
    · exact ⟨w, List.mem_cons_self .., hw⟩
    · obtain ⟨y, hy, hfy⟩ := ih hws hx
      exact ⟨y, List.mem_cons_of_mem _ hy, hfy⟩

variable {c : Char} {cs : List Char}

/-! ## Plain form -/

theorem inRuns_of_mem {runs : List (Nat × Nat)} {run : Nat × Nat} (hmem : run ∈ runs) {n : Nat}
    (hn : run.1 ≤ n ∧ n ≤ run.2) : inRuns runs n = true :=
  List.any_eq_true.mpr ⟨run, hmem, by simp [hn]⟩

theorem inRuns_of_isBlank (hc : Text.isBlank c = true) (hwide : 0x20 < c.toNat) :
    inRuns bannedRuns c.toNat = true := by
  have hruns : ∀ run ∈ [(0x80, 0xA0), (0x1680, 0x1680), (0x1FFD, 0x200A), (0x2028, 0x202F),
      (0x205F, 0x205F), (0x2FD6, 0x3000)], run ∈ bannedRuns := by
    decide +kernel
  have hrun : ∃ run ∈ [(0x80, 0xA0), (0x1680, 0x1680), (0x1FFD, 0x200A), (0x2028, 0x202F),
      (0x205F, 0x205F), (0x2FD6, 0x3000)], run.1 ≤ c.toNat ∧ c.toNat ≤ run.2 := by
    simp only [Text.isBlank, Bool.or_eq_true, Bool.and_eq_true, decide_eq_true_eq, beq_iff_eq] at hc
    simp only [List.mem_cons, List.not_mem_nil, or_false, exists_eq_or_imp, exists_eq_left]
    omega
  obtain ⟨run, hmem, hn⟩ := hrun
  exact inRuns_of_mem (hruns run hmem) hn

theorem image?_of_ascii (hc : c.toNat < 0x80) : image? c = some [c.toLower] := by
  simp only [image?]
  rw [if_pos hc]

theorem toLower_of_le_space (hc : c.toNat ≤ 0x20) : c.toLower = c := by
  unfold Char.toLower
  rw [dif_neg]
  rintro ⟨hcapital, -⟩
  have : 65 ≤ c.toNat := hcapital
  omega

theorem image?_of_isBlank (hc : Text.isBlank c = true) (hwide : 0x20 < c.toNat) :
    image? c = none := by
  have hbanned := inRuns_of_isBlank hc hwide
  have hascii : ¬c.toNat < 0x80 := by
    simp only [Text.isBlank, Bool.or_eq_true, Bool.and_eq_true, decide_eq_true_eq, beq_iff_eq] at hc
    omega
  simp only [image?]
  rw [if_neg hascii, if_pos hbanned]

/-- A gap in a text that has a plain form is a space or a control, and still there. -/
theorem mem_plainForm?_of_gap {plain : List Char} (h : plainForm? cs = some plain) (hc : c ∈ cs)
    (hgap : Gap c) : c.toNat ≤ 0x20 ∧ c ∈ plain := by
  unfold plainForm? at h
  obtain ⟨images, himages, h⟩ := Option.bind_eq_some_iff.mp h
  cases h
  obtain ⟨image, hmem, himage⟩ := exists_mem_mapM himages hc
  have hascii : c.toNat ≤ 0x20 := by
    rcases hgap with hspace | hblank
    · exact hspace
    · by_contra hwide
      rw [image?_of_isBlank hblank (by omega)] at himage
      cases himage
  rw [image?_of_ascii (by omega), toLower_of_le_space hascii] at himage
  cases himage
  refine ⟨hascii, Text.mem_composed (Text.inert_of_le_space hascii) ?_⟩
  exact List.mem_flatten_of_mem hmem (List.mem_singleton_self c)

theorem isLower_iff_toNat : c.isLower = true ↔ 0x61 ≤ c.toNat ∧ c.toNat ≤ 0x7A := by
  unfold Char.isLower
  simp [UInt32.le_iff_toNat_le, ← Char.toNat_val]

theorem IsPlain.toNat (h : IsPlain c) :
    (0x30 ≤ c.toNat ∧ c.toNat ≤ 0x39) ∨ (0x61 ≤ c.toNat ∧ c.toNat ≤ 0x7A) := by
  rcases h with hlower | hdigit
  · exact .inr (isLower_iff_toNat.mp hlower)
  · exact .inl (Char.isDigit_iff_toNat.mp hdigit)

theorem IsPlain.toLower (h : IsPlain c) : c.toLower = c := by
  unfold Char.toLower
  rw [dif_neg]
  rintro ⟨hlow, hhigh⟩
  have hlow : 65 ≤ c.toNat := hlow
  have hhigh : c.toNat ≤ 90 := hhigh
  have := h.toNat
  omega

theorem plainForm?_of_ascii (hascii : ∀ c ∈ cs, c.toNat < 0x80)
    (hsmall : ∀ c ∈ cs, c.toLower = c) : plainForm? cs = some cs := by
  have himages : cs.mapM image? = some (cs.map fun c => [c]) := by
    induction cs with
    | nil => rfl
    | cons c cs ih =>
      rw [List.mapM_cons, image?_of_ascii (hascii c (List.mem_cons_self ..)),
        hsmall c (List.mem_cons_self ..), ih (fun d hd => hascii d (List.mem_cons_of_mem _ hd))
          fun d hd => hsmall d (List.mem_cons_of_mem _ hd)]
      rfl
  unfold plainForm?
  rw [himages]
  simp [← List.flatMap_def, Text.composed_of_ascii hascii]

/-! ## Labels -/

namespace Punycode

theorem written_pass (asciiCount point : Nat) (e : Encoder) (d : Char) :
    e.written <+: (e.pass asciiCount point d).written := by
  unfold Encoder.pass
  split
  · exact List.prefix_rfl
  · split
    · exact List.prefix_append ..
    · exact List.prefix_rfl

theorem written_foldl_pass (asciiCount point : Nat) (e : Encoder) (label : List Char) :
    e.written <+: (label.foldl (Encoder.pass asciiCount point) e).written := by
  induction label generalizing e with
  | nil => exact List.prefix_rfl
  | cons d label ih => exact (written_pass asciiCount point e d).trans (ih _)

theorem written_write (label : List Char) (asciiCount : Nat) (e : Encoder) (next : Nat)
    (points : List Nat) : e.written <+: (e.write label asciiCount next points).written := by
  induction points generalizing e next with
  | nil => exact List.prefix_rfl
  | cons point points ih =>
    unfold Encoder.write
    refine List.IsPrefix.trans ?_ (ih _ _)
    exact written_foldl_pass asciiCount point
      { e with delta := e.delta + (point - next) * (e.count + 1) } label

/-- What is written starts with the characters of ASCII. -/
theorem mem_encode {label : List Char} (hc : c ∈ label) (hascii : c.toNat < 0x80) :
    c ∈ encode label := by
  have hmem : c ∈ label.filter fun c => c.toNat < 0x80 := by
    simpa using ⟨hc, hascii⟩
  unfold encode
  apply (written_write ..).subset
  rw [if_neg]
  · exact List.mem_append_left _ hmem
  · rw [List.isEmpty_iff]
    exact List.ne_nil_of_mem hmem

end Punycode

theorem mem_asciiLabel {label : List Char} (hc : c ∈ label) (hascii : c.toNat < 0x80) :
    c ∈ asciiLabel label := by
  unfold asciiLabel
  split
  · exact hc
  · exact List.mem_append_right _ (Punycode.mem_encode hc hascii)

theorem asciiLabel_of_decodedLabel? {label : List Char} (h : decodedLabel? cs = some label) :
    asciiLabel label = cs := by
  unfold decodedLabel? at h
  split at h
  · split at h
    · rename_i hfits
      cases h
      simp only [Bool.and_eq_true, beq_iff_eq] at hfits
      exact hfits.2
    · cases h
  · cases h

theorem mem_asciiLabel_of_label? {label : List Char} (h : label? cs = some label) (hc : c ∈ cs)
    (hascii : c.toNat < 0x80) : c ∈ asciiLabel label := by
  unfold label? at h
  split at h
  · rwa [asciiLabel_of_decodedLabel? h]
  · split at h
    · cases h
      exact mem_asciiLabel hc hascii
    · cases h

theorem exists_mem_splitAt (isMark : Char → Bool) (hc : c ∈ cs) (hmark : isMark c = false) :
    ∃ part ∈ Text.splitAt isMark cs, c ∈ part := by
  fun_induction Text.splitAt isMark cs with
  | case1 => cases hc
  | case2 d cs hd ih =>
    have hne : c ≠ d := by
      rintro rfl
      rw [hmark] at hd
      cases hd
    obtain ⟨part, hpart, hmem⟩ := ih (List.mem_of_ne_of_mem hne hc)
    exact ⟨part, List.mem_cons_of_mem _ hpart, hmem⟩
  | case3 d cs hd part parts hsplit ih =>
    rcases List.mem_cons.mp hc with rfl | hc
    · exact ⟨c :: part, List.mem_cons_self .., List.mem_cons_self ..⟩
    · obtain ⟨part', hpart', hmem⟩ := ih hc
      rw [hsplit] at hpart'
      rcases List.mem_cons.mp hpart' with rfl | hpart'
      · exact ⟨d :: part', List.mem_cons_self .., List.mem_cons_of_mem _ hmem⟩
      · exact ⟨part', List.mem_cons_of_mem _ hpart', hmem⟩
  | case4 d cs hd hsplit ih =>
    rcases List.mem_cons.mp hc with rfl | hc
    · exact ⟨[c], List.mem_singleton_self _, List.mem_singleton_self c⟩
    · obtain ⟨part, hpart, -⟩ := ih hc
      rw [hsplit] at hpart
      cases hpart

theorem mem_intercalate {mark label : List Char} {labels : List (List Char)}
    (hlabel : label ∈ labels) (hc : c ∈ label) : c ∈ List.intercalate mark labels := by
  induction labels with
  | nil => cases hlabel
  | cons first rest ih =>
    cases rest with
    | nil =>
      rw [List.mem_singleton.mp hlabel] at hc
      rwa [List.intercalate_singleton]
    | cons second rest =>
      rw [List.intercalate_cons_cons]
      rcases List.mem_cons.mp hlabel with rfl | hlabel
      · simp [hc]
      · exact List.mem_append_right _ (ih hlabel)

/-! ## Names -/

theorem domain?_of_gap (hc : c ∈ cs) (hgap : Gap c) : domain? cs = none := by
  rw [Option.eq_none_iff_forall_ne_some]
  intro name h
  obtain ⟨plain, hplain, h⟩ := Option.bind_eq_some_iff.mp h
  obtain ⟨labels, hlabels, h⟩ := Option.bind_eq_some_iff.mp h
  obtain ⟨hspace, hmem⟩ := mem_plainForm?_of_gap hplain hc hgap
  have hdot : (c == '.') = false := by
    rw [beq_eq_false_iff_ne]
    rintro rfl
    revert hspace
    decide
  obtain ⟨part, hpart, hmem⟩ := exists_mem_splitAt (· == '.') hmem hdot
  obtain ⟨label, hlabel, hread⟩ := exists_mem_mapM hlabels hpart
  have hname : c ∈ List.intercalate ['.'] (labels.map asciiLabel) :=
    mem_intercalate (List.mem_map_of_mem hlabel) (mem_asciiLabel_of_label? hread hmem (by omega))
  have hforbidden : isForbiddenInDomain c = true := by
    simp [isForbiddenInDomain, hspace]
  simp only [List.any_eq_true.mpr ⟨c, hname, hforbidden⟩, Bool.or_true, if_true] at h
  cases h

/-! ## Small letters and digits -/

theorem splitAt_of_forall {isMark : Char → Bool} (h : ∀ c ∈ cs, isMark c = false) :
    Text.splitAt isMark cs = [cs] := by
  induction cs with
  | nil => rfl
  | cons c cs ih =>
    obtain ⟨hc, hcs⟩ := List.forall_mem_cons.mp h
    rw [Text.splitAt, hc, ih hcs]
    rfl

theorem isRight_direction_of_ascii (h : c.toNat < 0x80) : (direction c).isRight = false := by
  simp only [direction]
  rw [if_pos h]
  split
  · rfl
  · split <;> rfl

section

variable (hplain : ∀ c ∈ cs, IsPlain c)

include hplain

theorem isASCII_of_plain : isASCII cs = true := by
  rw [isASCII, List.all_eq_true]
  intro c hc
  have := (hplain c hc).toNat
  simpa using (by omega : c.toNat < 0x80)

theorem label?_of_plain : label? cs = some cs := by
  have hmark : encodedMark.isPrefixOf cs = false := by
    rw [Bool.eq_false_iff, ne_eq, List.isPrefixOf_iff_prefix]
    intro hstart
    have := hplain '-' (hstart.subset (by decide))
    revert this
    decide
  unfold label?
  rw [hmark, isASCII_of_plain hplain]
  rfl

/-- Nothing in the label is written from right to left. -/
theorem directionsFit_of_plain : directionsFit [cs] = true := by
  have hleft : (cs.map direction).any Direction.isRight = false := by
    rw [List.any_map, List.any_eq_false]
    intro c hc
    have := (hplain c hc).toNat
    simp [isRight_direction_of_ascii (by omega : c.toNat < 0x80)]
  simp [directionsFit, hleft]

theorem isForbiddenInDomain_of_plain : ∀ c ∈ cs, isForbiddenInDomain c = false := by
  intro c hc
  have := (hplain c hc).toNat
  have hmark : c ∉ "%#/:<>?@[\\]^|".toList := by
    intro hmem
    have hmarks : ("%#/:<>?@[\\]^|".toList.all fun d => !decide (IsPlain d)) = true := by
      decide +kernel
    have := List.all_eq_true.mp hmarks c hmem
    simp [hplain c hc] at this
  rw [Bool.eq_false_iff]
  simp only [isForbiddenInDomain, ne_eq, Bool.or_eq_true, decide_eq_true_eq, beq_iff_eq,
    List.contains_iff_mem, hmark, or_false]
  omega

theorem domain?_of_plain : domain? cs = some cs := by
  have hascii : ∀ c ∈ cs, c.toNat < 0x80 := by
    simpa [isASCII] using isASCII_of_plain hplain
  have hdots : ∀ c ∈ cs, (c == '.') = false := by
    intro c hc
    rw [beq_eq_false_iff_ne]
    rintro rfl
    exact absurd (hplain '.' hc) (by decide)
  have hlabel : asciiLabel cs = cs := by
    unfold asciiLabel
    rw [if_pos (isASCII_of_plain hplain)]
  unfold domain? domainOfPlain?
  rw [plainForm?_of_ascii hascii fun c hc => (hplain c hc).toLower]
  simpa [splitAt_of_forall hdots, label?_of_plain hplain, hlabel, directionsFit_of_plain hplain]
    using isForbiddenInDomain_of_plain hplain

end

instance : LawfulDomainRules where
  toASCII?_of_plain _ := domain?_of_plain
  toASCII?_of_gap := domain?_of_gap

end Renaming.Url
