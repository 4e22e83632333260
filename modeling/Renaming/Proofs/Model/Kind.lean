import Renaming.Model.Kind
import Renaming.Proofs.Text.Blank

/-!
# Loosely written kinds

A loosely written tag is one of seven words in any case (`parse?_eq_some_iff`). Only the case of
ASCII letters matters: the small forms of all other characters have something in them that occurs in
no tag.
-/

namespace Renaming

namespace Text

/-! ## Small forms -/

/-- Occurs in no tag. -/
def Foreign (c : Char) : Prop := 0x80 ≤ c.toNat ∨ c = 'k'

theorem capitalPairs_fit : ∀ run ∈ capitalPairs, 0x80 ≤ run.1 ∧ run.2 + 1 < 0xD800 := by
  decide

theorem capitalRuns_fit : ∀ run ∈ capitalRuns, run = (0x212A, 0x212A, 0x6B) ∨
    0x80 ≤ run.2.2 ∧ (run.2.2 + (run.2.1 - run.1) < 0xD800 ∨
      0xE000 ≤ run.2.2 ∧ run.2.2 + (run.2.1 - run.1) < 0x110000) := by
  decide +kernel

theorem foreign_ofNat {n : Nat} (h : 0x80 ≤ n) (hn : n < 0xD800 ∨ 0xE000 ≤ n ∧ n < 0x110000) :
    Foreign (Char.ofNat n) := by
  have hvalid : n.isValidChar := by
    unfold Nat.isValidChar
    omega
  left
  rw [Char.ofNat, dif_pos hvalid]
  exact h

theorem foreign_of_smallForm? {n m : Nat} (h : smallForm? n = some m) : Foreign (Char.ofNat m) := by
  unfold smallForm? at h
  split at h
  · rename_i hpair
    obtain ⟨run, hrun, hn⟩ := List.any_eq_true.mp hpair
    have hfits := capitalPairs_fit run hrun
    simp only [Bool.and_eq_true, decide_eq_true_eq] at hn
    cases h
    exact foreign_ofNat (by omega) (by omega)
  · obtain ⟨⟨first, last, image⟩, hfind, rfl⟩ := Option.map_eq_some_iff.mp h
    have hn := List.find?_some hfind
    simp only [Bool.and_eq_true, decide_eq_true_eq] at hn
    rcases capitalRuns_fit _ (List.mem_of_find?_eq_some hfind) with hrun | hfits
    · -- The Kelvin sign is the only other capital that becomes an ASCII letter.
      cases hrun
      have hkelvin : n = 0x212A := by omega
      subst hkelvin
      exact .inr rfl
    · simp only at hfits ⊢
      exact foreign_ofNat (by omega) (by omega)

theorem exists_foreign_of_beyond {c : Char} (h : 0x80 ≤ c.toNat) :
    ∃ l ∈ lowerChar c, Foreign l := by
  unfold lowerChar
  rw [if_neg (by omega)]
  split
  · exact ⟨'\u0307', by simp, .inl (by decide)⟩
  · split
    · rename_i hform
      exact ⟨_, List.mem_singleton_self _, foreign_of_smallForm? hform⟩
    · exact ⟨c, List.mem_singleton_self c, .inl h⟩

theorem toLower_of_beyond {c : Char} (h : 0x80 ≤ c.toNat) : c.toLower = c := by
  unfold Char.toLower
  rw [dif_neg]
  rintro ⟨-, hcapital⟩
  have : c.toNat ≤ 90 := hcapital
  omega

/-- A text in lower case is a word without foreign characters only if ASCII letters are all that had
to be put into lower case. -/
theorem lower_eq_iff {word : List Char} (hword : ∀ l ∈ word, ¬Foreign l) (cs : List Char) :
    lower cs = word ↔ cs.map Char.toLower = word := by
  induction cs generalizing word with
  | nil => rfl
  | cons c cs ih =>
    by_cases hascii : c.toNat < 0x80
    · have hlower : lower (c :: cs) = c.toLower :: lower cs := by
        simp [lower, lowerChar, hascii]
      rw [hlower, List.map_cons]
      cases word with
      | nil => simp
      | cons l word => simp [ih (List.forall_mem_cons.mp hword).2]
    · have hbeyond : 0x80 ≤ c.toNat := by omega
      constructor
      · rintro rfl
        obtain ⟨l, hl, hforeign⟩ := exists_foreign_of_beyond hbeyond
        exact absurd hforeign (hword l (List.mem_flatMap.mpr ⟨c, List.mem_cons_self .., hl⟩))
      · rintro rfl
        rw [List.map_cons, toLower_of_beyond hbeyond] at hword
        exact absurd (.inl hbeyond) (hword c (List.mem_cons_self ..))

end Text

namespace Kind

/-- The words for a kind. -/
def words : Kind → List String
  | type => ["class", "type"]
  | k => [k.tag]

/-- Without the blanks around it and up to the case of ASCII letters, the text is a word for the
kind. -/
def Spelled (k : Kind) (text : String) : Prop :=
  ∃ word ∈ k.words, (Text.trimBoth text.toList).map Char.toLower = word.toList

theorem ofTag?_eq_some_iff (word : String) (k : Kind) : ofTag? word = some k ↔ k.tag = word := by
  constructor
  · intro h
    have htag := List.find?_some h
    exact eq_of_beq htag
  · rintro rfl
    cases k <;> decide

theorem parse?_eq_some_iff (text : String) (k : Kind) : parse? text = some k ↔ k.Spelled text := by
  have hwords : ∀ word ∈ k.words, ∀ l ∈ word.toList, ¬Text.Foreign l := by
    cases k <;> simp [words, tag, Text.Foreign]
  have hmeaning : ∀ word, (if word == "type" then some type else ofTag? word) = some k ↔
      word ∈ k.words := by
    intro word
    split
    · rename_i htype
      rw [eq_of_beq htype]
      cases k <;> decide
    · rename_i htype
      rw [beq_iff_eq] at htype
      rw [ofTag?_eq_some_iff, eq_comm]
      cases k with
      | type => simp [words, tag, htype]
      | _ => simp [words]
  unfold parse?
  rw [hmeaning]
  constructor
  · intro h
    refine ⟨_, h, ?_⟩
    rw [← Text.lower_eq_iff (hwords _ h), String.toList_ofList]
  · rintro ⟨word, hword, h⟩
    rw [← Text.lower_eq_iff (hwords _ hword)] at h
    rwa [h, String.ofList_toList]

/-- No tag has a character beyond ASCII, a sigma for example, whatever its small form is. -/
theorem parse?_eq_none_of_beyond {text : String} {c : Char} (h : c ∈ text.toList)
    (hbeyond : 0x80 ≤ c.toNat) (hblank : Text.isBlank c = false) : parse? text = none := by
  rw [Option.eq_none_iff_forall_ne_some]
  intro k hk
  obtain ⟨word, hword, hspelled⟩ := (parse?_eq_some_iff text k).mp hk
  have hmem : c ∈ word.toList := by
    rw [← hspelled, List.mem_map]
    exact ⟨c, Text.mem_trimBoth h hblank, Text.toLower_of_beyond hbeyond⟩
  have hascii : ∀ k : Kind, ∀ word ∈ k.words, ∀ l ∈ word.toList, l.toNat < 0x80 := by
    intro k
    cases k <;> simp [words, tag]
  have := hascii k word hword c hmem
  omega

end Kind

end Renaming
