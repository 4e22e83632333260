import Mathlib.Data.List.TakeWhile
import Renaming.Proofs.Json.Grammar

/-!
# Reading numbers

The reader takes the longest number there is: exactly those characters that the grammar has for it,
if what follows does not go on with the number.
-/

namespace Renaming.Json

/-- No number goes on with these characters. -/
def Stops (rest : List Char) : Prop :=
  ∀ c, rest.head? = some c → c.isDigit = false ∧ c ≠ '.' ∧ c ≠ 'e' ∧ c ≠ 'E'

/-! ## Digits -/

theorem digits_append {ds rest : List Char} (hds : Digits ds)
    (hrest : ∀ c, rest.head? = some c → c.isDigit = false) :
    digits (ds ++ rest) = (ds.map digitValue, rest) := by
  have htake : rest.takeWhile Char.isDigit = [] := by
    cases rest with
    | nil => rfl
    | cons c rest => simp [hrest c rfl]
  have hdrop : rest.dropWhile Char.isDigit = rest := by
    cases rest with
    | nil => rfl
    | cons c rest => simp [hrest c rfl]
  unfold digits
  rw [List.takeWhile_append_of_pos hds, List.dropWhile_append_of_pos hds, htake, hdrop,
    List.append_nil]

/-- The digits that are read, and what comes after them. -/
theorem exists_digits (cs : List Char) : ∃ ds rest, cs = ds ++ rest ∧ Digits ds ∧
    digits cs = (ds.map digitValue, rest) :=
  ⟨cs.takeWhile Char.isDigit, cs.dropWhile Char.isDigit, List.takeWhile_append_dropWhile.symm,
    fun _ hc => List.mem_takeWhile_imp hc, rfl⟩

/-! ## Parts of a number -/

theorem readWhole_append {w rest : List Char} {n : Nat} (h : WholeText w n)
    (hrest : ∀ c, rest.head? = some c → c.isDigit = false) :
    readWhole (w ++ rest) = some (n, rest) := by
  cases h with
  | zero => rfl
  | @positive c cs hc hzero hcs =>
    have hall : Digits (c :: cs) := List.forall_mem_cons.mpr ⟨hc, hcs⟩
    have hread := digits_append hall hrest
    unfold readWhole
    split
    · rename_i hcons
      exact absurd (List.cons.inj hcons).1 hzero
    · rw [hread]
      rfl

theorem readFraction_append {f rest : List Char} {ds : List Nat} (h : FractionText f ds)
    (hrest : ∀ c, rest.head? = some c → c.isDigit = false ∧ c ≠ '.') :
    readFraction (f ++ rest) = some (ds, rest) := by
  cases h with
  | absent =>
    rw [List.nil_append]
    unfold readFraction
    split
    · exact absurd rfl (hrest '.' rfl).2
    · rfl
  | digits hds =>
    have hread := digits_append hds fun c hc => (hrest c hc).1
    rw [List.cons_append]
    simp only [readFraction, hread]
    rfl

theorem readSign_append {sign rest : List Char} {factor : Int} (h : SignText sign factor)
    (hrest : ∀ c, rest.head? = some c → c.isDigit = true) :
    readSign (sign ++ rest) = (factor, rest) := by
  cases h with
  | plus => rfl
  | minus => rfl
  | absent =>
    rw [List.nil_append]
    unfold readSign
    split
    · exact absurd (hrest '-' rfl) (by decide)
    · exact absurd (hrest '+' rfl) (by decide)
    · rfl

theorem readExponent_append {e rest : List Char} {x : Option Int} (h : ExponentText e x)
    (hrest : ∀ c, rest.head? = some c → c.isDigit = false ∧ c ≠ 'e' ∧ c ≠ 'E') :
    readExponent (e ++ rest) = some (x, rest) := by
  cases h with
  | absent =>
    rw [List.nil_append]
    unfold readExponent
    split
    · rename_i mark rest'
      obtain ⟨-, hsmall, hcapital⟩ := hrest mark rfl
      simp [hsmall, hcapital]
    · rfl
  | @digits mark c sign cs factor hmark hsign hcs =>
    have hhead : ∀ d, (c :: cs ++ rest).head? = some d → d.isDigit = true := by
      intro d hd
      cases hd
      exact hcs c (List.mem_cons_self ..)
    have hsigned := readSign_append hsign hhead
    have hread := digits_append hcs fun d hd => (hrest d hd).1
    have hmark' : (mark == 'e' || mark == 'E') = true := by simpa using hmark
    rw [List.cons_append, List.append_assoc]
    simp only [readExponent, hmark', if_true, hsigned, hread]
    rfl

/-! ## Whole numbers -/

theorem FractionText.head {f rest : List Char} {ds : List Nat} {c : Char} (h : FractionText f ds)
    (hc : (f ++ rest).head? = some c) : c = '.' ∨ rest.head? = some c := by
  cases h with
  | absent => exact .inr hc
  | digits _ => exact .inl (Option.some.inj hc).symm

theorem ExponentText.head {e rest : List Char} {x : Option Int} {c : Char} (h : ExponentText e x)
    (hc : (e ++ rest).head? = some c) : (c = 'e' ∨ c = 'E') ∨ rest.head? = some c := by
  cases h with
  | absent => exact .inr hc
  | digits hmark _ _ => exact .inl ((Option.some.inj hc) ▸ hmark)

theorem readUnsigned_append {negative : Bool} {cs rest : List Char} {n : Number}
    (h : UnsignedText negative cs n) (hrest : Stops rest) :
    readUnsigned negative (cs ++ rest) = some (n, rest) := by
  cases h with
  | @mk w f e whole fraction exponent hw hf he =>
    have hexponent : ∀ c, (e ++ rest).head? = some c → c.isDigit = false ∧ c ≠ '.' := by
      intro c hc
      rcases he.head hc with (rfl | rfl) | hc
      · decide
      · decide
      · exact ⟨(hrest c hc).1, (hrest c hc).2.1⟩
    have hfraction : ∀ c, (f ++ (e ++ rest)).head? = some c → c.isDigit = false := by
      intro c hc
      rcases hf.head hc with rfl | hc
      · decide
      · exact (hexponent c hc).1
    have hstop : ∀ c, rest.head? = some c → c.isDigit = false ∧ c ≠ 'e' ∧ c ≠ 'E' :=
      fun c hc => ⟨(hrest c hc).1, (hrest c hc).2.2⟩
    rw [List.append_assoc, List.append_assoc]
    simp only [readUnsigned, readWhole_append hw hfraction, readFraction_append hf hexponent,
      readExponent_append he hstop, Option.bind_eq_bind, Option.bind_some]
    rfl

theorem WholeText.head {w : List Char} {n : Nat} (h : WholeText w n) :
    ∃ c cs, w = c :: cs ∧ c.isDigit = true := by
  cases h with
  | zero => exact ⟨'0', [], rfl, by decide⟩
  | positive hc _ _ => exact ⟨_, _, rfl, hc⟩

theorem UnsignedText.head {negative : Bool} {cs : List Char} {n : Number}
    (h : UnsignedText negative cs n) : ∃ c cs', cs = c :: cs' ∧ c.isDigit = true := by
  cases h with
  | mk hw _ _ =>
    obtain ⟨c, cs, rfl, hc⟩ := hw.head
    exact ⟨c, _, rfl, hc⟩

theorem readNumber_append {cs rest : List Char} {n : Number} (h : NumberText cs n)
    (hrest : Stops rest) : readNumber (cs ++ rest) = some (n, rest) := by
  cases h with
  | negative h => exact readUnsigned_append h hrest
  | positive h =>
    obtain ⟨c, cs', rfl, hc⟩ := h.head
    have hread := readUnsigned_append h hrest
    unfold readNumber
    split
    · rename_i hcons
      rw [(List.cons.inj hcons).1] at hc
      exact absurd hc (by decide)
    · exact hread

/-! ## What is read is a number -/

theorem readWhole_sound {cs rest : List Char} {n : Nat} (h : readWhole cs = some (n, rest)) :
    ∃ w, cs = w ++ rest ∧ WholeText w n := by
  unfold readWhole at h
  split at h
  · cases h
    exact ⟨['0'], rfl, .zero⟩
  · rename_i hzero
    obtain ⟨ds, rest', rfl, hds, hread⟩ := exists_digits cs
    rw [hread] at h
    cases ds with
    | nil => cases h
    | cons c ds =>
      cases h
      obtain ⟨hc, hrest⟩ := List.forall_mem_cons.mp hds
      exact ⟨c :: ds, rfl, .positive hc (fun h0 => hzero _ (by rw [h0]; rfl)) hrest⟩

theorem readFraction_sound {cs rest : List Char} {ds : List Nat}
    (h : readFraction cs = some (ds, rest)) : ∃ f, cs = f ++ rest ∧ FractionText f ds := by
  unfold readFraction at h
  split at h
  · rename_i cs
    obtain ⟨digits, rest', rfl, hdigits, hread⟩ := exists_digits cs
    rw [hread] at h
    cases digits with
    | nil => cases h
    | cons c digits =>
      cases h
      exact ⟨'.' :: c :: digits, rfl, .digits hdigits⟩
  · cases h
    exact ⟨[], rfl, .absent⟩

theorem readSign_sound (cs : List Char) :
    ∃ sign, cs = sign ++ (readSign cs).2 ∧ SignText sign (readSign cs).1 := by
  unfold readSign
  split
  · exact ⟨['-'], rfl, .minus⟩
  · exact ⟨['+'], rfl, .plus⟩
  · exact ⟨[], rfl, .absent⟩

theorem readExponent_sound {cs rest : List Char} {x : Option Int}
    (h : readExponent cs = some (x, rest)) : ∃ e, cs = e ++ rest ∧ ExponentText e x := by
  unfold readExponent at h
  split at h
  · rename_i mark after
    split at h
    · rename_i hmark
      obtain ⟨sign, hsplit, hsign⟩ := readSign_sound after
      obtain ⟨ds, rest', hrest, hds, hread⟩ := exists_digits (readSign after).2
      simp only [hread] at h
      cases ds with
      | nil => cases h
      | cons c ds =>
        cases h
        refine ⟨mark :: (sign ++ c :: ds), ?_, .digits (by simpa using hmark) hsign hds⟩
        rw [hsplit, hrest]
        simp
    · cases h
      exact ⟨[], rfl, .absent⟩
  · cases h
    exact ⟨[], rfl, .absent⟩

theorem readUnsigned_sound {negative : Bool} {cs rest : List Char} {n : Number}
    (h : readUnsigned negative cs = some (n, rest)) :
    ∃ text, cs = text ++ rest ∧ UnsignedText negative text n := by
  unfold readUnsigned at h
  simp only [Option.bind_eq_bind, Option.bind_eq_some_iff, Prod.exists] at h
  obtain ⟨whole, cs₁, hwhole, fraction, cs₂, hfraction, exponent, cs₃, hexponent, hn⟩ := h
  cases hn
  obtain ⟨w, rfl, hw⟩ := readWhole_sound hwhole
  obtain ⟨f, rfl, hf⟩ := readFraction_sound hfraction
  obtain ⟨e, rfl, he⟩ := readExponent_sound hexponent
  exact ⟨w ++ (f ++ e), by simp, .mk hw hf he⟩

theorem readNumber_sound {cs rest : List Char} {n : Number}
    (h : readNumber cs = some (n, rest)) : ∃ text, cs = text ++ rest ∧ NumberText text n := by
  unfold readNumber at h
  split at h
  · obtain ⟨text, rfl, htext⟩ := readUnsigned_sound h
    exact ⟨'-' :: text, rfl, .negative htext⟩
  · obtain ⟨text, rfl, htext⟩ := readUnsigned_sound h
    exact ⟨text, rfl, .positive htext⟩

end Renaming.Json
