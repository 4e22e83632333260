import Renaming.Json.Decode
import Renaming.Proofs.Json.Printer

/-!
# Numbers in documents

What is written for a double or a natural number can be printed, and a natural number that fits into
a word is read back.
-/

namespace Renaming

theorem Decimal.Scaled.digitList_lt (d : Scaled) : ∀ n ∈ d.digitList, n < 10 := by
  intro n hn
  unfold digitList at hn
  split at hn
  · exact nomatch hn
  · obtain ⟨c, hc, rfl⟩ := List.mem_map.mp hn
    have hdigit := Nat.isDigit_of_mem_toDigits (by decide) (by decide) hc
    have hrange : 48 ≤ c.toNat ∧ c.toNat ≤ 57 := by
      simpa [Char.isDigit, UInt32.le_iff_toNat_le] using hdigit
    change c.toNat - 48 < 10
    omega

namespace Json

/-- Digits in, digits out: a plain literal has no others after its point. -/
theorem wellFormed_plain {digits : List Nat} (h : ∀ d ∈ digits, d < 10) (negative : Bool)
    (point : Int) : (plain negative digits point).WellFormed := by
  have hfraction : ∀ d ∈ (if point ≤ 0 then List.replicate point.natAbs 0 ++ digits
      else digits.drop point.natAbs), d < 10 := by
    intro d hd
    split at hd
    · rcases List.mem_append.mp hd with hd | hd
      · rw [List.eq_of_mem_replicate hd]
        decide
      · exact h d hd
    · exact h d (List.mem_of_mem_drop hd)
  intro d hd
  unfold plain at hd
  simp only at hd
  generalize (if point ≤ 0 then List.replicate point.natAbs 0 ++ digits
    else digits.drop point.natAbs) = fraction at hd hfraction
  split at hd
  · rw [List.mem_singleton.mp hd]
    decide
  · exact hfraction d hd

theorem wellFormed_ofBinary (b : Decimal.Binary) : (Number.ofBinary b).WellFormed := by
  have hdigits := b.shortest.digitList_lt
  unfold Number.ofBinary
  simp only
  split
  · exact wellFormed_plain hdigits _ _
  · exact fun d hd => hdigits d (List.mem_of_mem_tail hd)

theorem printable_float (x : Float) : Printable (float x) := by
  unfold float
  split
  · exact .number (wellFormed_ofBinary _)
  · exact .null

theorem printable_natural (n : Nat) : Printable (natural n) := .number (List.forall_mem_nil _)

theorem natural?_natural {n : Nat} (h : n < wordLimit) : natural? (natural n) = some n := by
  simp [natural?, natural, Number.natural?, h]

theorem lt_of_natural? {v : Json} {n : Nat} (h : natural? v = some n) : n < wordLimit := by
  cases v with
  | number literal =>
    unfold natural? Number.natural? at h
    simp only at h
    split at h
    · rename_i hfits
      cases h
      simp only [Bool.and_eq_true, decide_eq_true_eq] at hfits
      exact hfits.2
    · cases h
  | _ => cases h

end Json

end Renaming
