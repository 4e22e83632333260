import Renaming.Proofs.Json.Trim
import Renaming.Proofs.Time.Date
import Renaming.Time.Text

/-!
# Written moments read back

Every part of a written moment ends before a character that is no digit, so it is read as the number
it was written for, and the parts together are the moment again (`ofText?_text`).
-/

namespace Renaming

namespace Time

open Text

/-! ## Numbers -/

/-- One digit at least, and together they are the number. -/
structure Numeral (cs : List Char) (n : Nat) : Prop where
  nonempty : cs ≠ []
  digits : ∀ c ∈ cs, c.isDigit = true
  value : digitsValue cs = n

/-- No digit comes next. -/
def Stops (cs : List Char) : Prop := ∀ c, cs.head? = some c → c.isDigit = false

theorem stops_cons {c : Char} (h : c.isDigit = false) (cs : List Char) : Stops (c :: cs) := by
  intro c' hc'
  cases hc'
  exact h

theorem Stops.takeWhile {cs : List Char} (h : Stops cs) : cs.takeWhile Char.isDigit = [] := by
  cases cs with
  | nil => rfl
  | cons c cs => simp [h c rfl]

theorem Stops.dropWhile {cs : List Char} (h : Stops cs) : cs.dropWhile Char.isDigit = cs := by
  cases cs with
  | nil => rfl
  | cons c cs => simp [h c rfl]

theorem digitsValue_eq (cs : List Char) : digitsValue cs = Nat.ofDigitChars 10 cs 0 :=
  Nat.ofDigitChars_eq_foldl.symm

theorem toList_padded (width n : Nat) : (padded width n).toList =
    List.replicate (width - (Nat.toDigits 10 n).length) '0' ++ Nat.toDigits 10 n :=
  String.toList_ofList

theorem numeral_padded (width n : Nat) : Numeral (padded width n).toList n where
  nonempty := by simp [toList_padded]
  digits c hc := by
    rw [toList_padded, List.mem_append] at hc
    rcases hc with hc | hc
    · rw [List.eq_of_mem_replicate hc]
      rfl
    · exact Nat.isDigit_of_mem_toDigits (by decide) (by decide) hc
  value := by
    rw [digitsValue_eq, toList_padded, Nat.ofDigitChars_append, Nat.ofDigitChars_replicate_zero,
      Nat.mul_zero, Nat.ofDigitChars_ten_toDigits]

theorem length_padded {n : Nat} (width : Nat) (hwidth : 0 < width) (h : n < 10 ^ width) :
    (padded width n).toList.length = width := by
  have hlength := (Nat.length_toDigits_le_iff (by decide) hwidth).mpr h
  rw [toList_padded, List.length_append, List.length_replicate]
  omega

namespace Numeral

variable {cs rest : List Char} {n : Nat} (h : Numeral cs n)

include h

theorem head : ∃ c cs', cs = c :: cs' ∧ c.isDigit = true := by
  obtain ⟨c, cs', rfl⟩ := List.exists_cons_of_ne_nil h.nonempty
  exact ⟨c, cs', rfl, h.digits c (List.mem_cons_self ..)⟩

theorem trimStart_append : trimStart (cs ++ rest) = cs ++ rest := by
  obtain ⟨c, cs', rfl, hc⟩ := h.head
  apply trimStart_of_first
  intro d hd
  cases hd
  exact Json.isBlank_of_isDigit hc

theorem number_append {width : Option Nat} (hfits : ∀ w ∈ width, cs.length ≤ w)
    (hrest : Stops rest) : number width (cs ++ rest) = some (n, rest) := by
  have htake : (cs ++ rest).takeWhile Char.isDigit = cs := by
    rw [List.takeWhile_append_of_pos h.digits, hrest.takeWhile, List.append_nil]
  have hnonempty : cs.isEmpty = false := by simpa using h.nonempty
  unfold number
  rw [htake]
  cases width with
  | none => simp [hnonempty, h.value]
  | some w =>
    have hall : cs.take w = cs := List.take_of_length_le (hfits w rfl)
    simp [hall, hnonempty, h.value]

end Numeral

theorem part_padded {n : Nat} {rest : List Char} (hn : n < 100) (hrest : Stops rest) :
    part 2 ((padded 2 n).toList ++ rest) = some (n, rest) := by
  have hnumeral := numeral_padded 2 n
  have hlength := length_padded 2 (by decide) hn
  unfold part
  rw [hnumeral.trimStart_append, hnumeral.number_append _ hrest]
  intro w hw
  cases hw
  exact hlength.le

/-! ## Dates -/

theorem mark_cons {c : Char} (h : isBlank c = false) (cs : List Char) :
    mark c (c :: cs) = some cs := by
  have htrim : trimStart (c :: cs) = c :: cs := by
    apply trimStart_of_first
    intro d hd
    cases hd
    exact h
  simp [mark, htrim]

theorem year_yearText (y : Int) {rest : List Char} (hrest : Stops rest) :
    year ((yearText y).toList ++ rest) = some (y, rest) := by
  have hnumeral := numeral_padded 4 y.natAbs
  have hread : number none ((padded 4 y.natAbs).toList ++ rest) = some (y.natAbs, rest) :=
    hnumeral.number_append (by simp) hrest
  unfold yearText
  by_cases hplain : 0 ≤ y ∧ y ≤ 9999
  · have hlength := length_padded (n := y.natAbs) 4 (by decide) (by omega)
    obtain ⟨c, cs, hcs, hc⟩ := hnumeral.head
    have hread : number (some 4) ((padded 4 y.natAbs).toList ++ rest) = some (y.natAbs, rest) :=
      hnumeral.number_append (by simp [hlength]) hrest
    rw [if_pos (by simpa using hplain), year, hnumeral.trimStart_append]
    -- A digit is no sign.
    split
    · rename_i heq
      rw [hcs] at heq
      cases heq
      cases hc
    · rename_i heq
      rw [hcs] at heq
      cases heq
      cases hc
    · rw [hread]
      simp
      omega
  · rw [if_neg (by simpa using hplain)]
    by_cases hneg : y < 0
    · have htrim : trimStart ('-' :: ((padded 4 y.natAbs).toList ++ rest)) =
          '-' :: ((padded 4 y.natAbs).toList ++ rest) := trimStart_of_first (by simp; decide)
      simp [year, hneg, htrim, hread, abs_of_neg hneg]
    · have htrim : trimStart ('+' :: ((padded 4 y.natAbs).toList ++ rest)) =
          '+' :: ((padded 4 y.natAbs).toList ++ rest) := trimStart_of_first (by simp; decide)
      simp [year, hneg, htrim, hread, abs_of_nonneg (not_lt.mp hneg)]

theorem date_text (d : Date) (hmonth : d.month < 100) (hday : d.day < 100) {rest : List Char}
    (hrest : Stops rest) :
    date ((yearText d.year).toList ++ '-' :: ((padded 2 d.month).toList ++
      '-' :: ((padded 2 d.day).toList ++ rest))) = some (d, rest) := by
  have hdash : ∀ cs, Stops ('-' :: cs) := stops_cons (by decide)
  have hmark : ∀ cs, mark '-' ('-' :: cs) = some cs := mark_cons (by decide)
  unfold date
  simp [year_yearText d.year (hdash _), hmark, part_padded hmonth (hdash _),
    part_padded hday hrest]

/-! ## Times of day -/

/-- Digits after the point stand for a number that so many zeros follow. -/
theorem fraction_padded {n : Nat} (width : Nat) (hwidth : 0 < width) (hlimit : width ≤ 9)
    (hn : n < 10 ^ width) {rest : List Char} (hrest : Stops rest) :
    fraction ('.' :: ((padded width n).toList ++ rest)) = some (n * 10 ^ (9 - width), rest) := by
  have hlength := length_padded width hwidth hn
  have hread : number (some 9) ((padded width n).toList ++ rest) = some (n, rest) :=
    (numeral_padded width n).number_append (by simp [hlength, hlimit]) hrest
  simp [fraction, hread, hlength, hrest.dropWhile]

theorem fraction_fractionText {n : Nat} (h : n < 1000000000) (rest : List Char) :
    fraction ((fractionText n).toList ++ 'Z' :: rest) = some (n, 'Z' :: rest) := by
  have hrest : Stops ('Z' :: rest) := stops_cons (by decide) rest
  unfold fractionText
  split
  · rename_i hzero
    rw [beq_iff_eq.mp hzero]
    rfl
  · split
    · rename_i hmilli
      have hvalue : n / 1000000 * 1000000 = n := by
        rw [beq_iff_eq] at hmilli
        omega
      have hread := fraction_padded (n := n / 1000000) 3 (by decide) (by decide)
        (by omega) hrest
      simpa [hvalue] using hread
    · split
      · rename_i hmicro
        have hvalue : n / 1000 * 1000 = n := by
          rw [beq_iff_eq] at hmicro
          omega
        have hread := fraction_padded (n := n / 1000) 6 (by decide) (by decide)
          (by omega) hrest
        simpa [hvalue] using hread
      · have hread := fraction_padded (n := n) 9 (by decide) (by decide) h hrest
        simpa using hread

theorem stops_fractionText (n : Nat) (rest : List Char) :
    Stops ((fractionText n).toList ++ 'Z' :: rest) := by
  have hpoint : ∀ cs, Stops ('.' :: cs) := stops_cons (by decide)
  unfold fractionText
  split
  · exact stops_cons (by decide) rest
  · split
    · simpa using hpoint _
    · split <;> simpa using hpoint _

theorem clock_text {hour minute second nanos : Nat} (hhour : hour < 24) (hminute : minute < 60)
    (hsecond : second ≤ 60) (hnanos : nanos < 1000000000) (rest : List Char) :
    clock ((padded 2 hour).toList ++ ':' :: ((padded 2 minute).toList ++
      ':' :: ((padded 2 second).toList ++ ((fractionText nanos).toList ++ 'Z' :: rest)))) =
    if second = 60 then some ((hour * 3600 + minute * 60 + 59, nanos + 1000000000), 'Z' :: rest)
    else some ((hour * 3600 + minute * 60 + second, nanos), 'Z' :: rest) := by
  have hcolon : ∀ cs, Stops (':' :: cs) := stops_cons (by decide)
  have hmark : ∀ cs, mark ':' (':' :: cs) = some cs := mark_cons (by decide)
  unfold clock
  simp [part_padded (show hour < 100 by omega) (hcolon _), hmark,
    part_padded (show minute < 100 by omega) (hcolon _),
    part_padded (show second < 100 by omega) (stops_fractionText nanos rest),
    fraction_fractionText hnanos, hhour, hminute, hsecond]

end Time

namespace Moment

open Time

/-- A moment of the clock: the year can be written, and only the last second of a minute can be a
leap second. -/
structure Proper (m : Moment) : Prop where
  year : isYear m.date.year = true
  nanos : m.nanos < 1000000000 ∨ m.nanos < 2000000000 ∧ m.seconds % 60 = 59

/-- How many seconds a leap second is written ahead of the second it is part of. -/
def leap (m : Moment) : Nat := if m.nanos < 1000000000 then 0 else 1

theorem toList_text (m : Moment) : m.text.toList =
    (yearText m.date.year).toList ++ '-' :: ((padded 2 m.date.month).toList ++
      '-' :: ((padded 2 m.date.day).toList ++ 'T' :: ((padded 2 (m.secondOfDay / 3600)).toList ++
      ':' :: ((padded 2 (m.secondOfDay / 60 % 60)).toList ++
      ':' :: ((padded 2 (m.secondOfDay % 60 + m.leap)).toList ++
      ((fractionText (m.nanos - m.leap * 1000000000)).toList ++ ['Z'])))))) := by
  simp [text, leap]

theorem secondOfDay_eq (m : Moment) : (m.secondOfDay : Int) = m.seconds % 86400 :=
  Int.toNat_of_nonneg (Int.emod_nonneg _ (by decide))

theorem date_bounds (m : Moment) : m.date.month < 100 ∧ m.date.day < 100 := by
  have hvalid := isValid_ofDays (m.seconds / 86400)
  simp only [Date.isValid, Bool.and_eq_true, decide_eq_true_eq] at hvalid
  obtain ⟨⟨⟨-, hmonth⟩, -⟩, hday⟩ := hvalid
  have hlength : ∀ year month, monthLength year month ≤ 31 := by
    intro year month
    unfold monthLength
    split
    · split <;> decide
    · split <;> decide
  have hday' := Nat.le_trans hday (hlength _ _)
  unfold date
  omega

theorem clock_moment {m : Moment} (h : m.Proper) (rest : List Char) :
    clock ((padded 2 (m.secondOfDay / 3600)).toList ++
      ':' :: ((padded 2 (m.secondOfDay / 60 % 60)).toList ++
      ':' :: ((padded 2 (m.secondOfDay % 60 + m.leap)).toList ++
      ((fractionText (m.nanos - m.leap * 1000000000)).toList ++ 'Z' :: rest)))) =
    some ((m.secondOfDay, m.nanos), 'Z' :: rest) := by
  have hday := m.secondOfDay_eq
  have hnanos := h.nanos
  generalize m.secondOfDay = second at hday ⊢
  unfold leap
  by_cases hleap : m.nanos < 1000000000
  · rw [if_pos hleap, clock_text (by omega) (by omega) (by omega) (by omega), if_neg (by omega)]
    simp only [Option.some.injEq, Prod.mk.injEq, and_true]
    omega
  · rw [if_neg hleap, clock_text (by omega) (by omega) (by omega) (by omega), if_pos (by omega)]
    simp only [Option.some.injEq, Prod.mk.injEq, and_true]
    omega

/-- A moment is read back from its text. -/
theorem ofText?_text {m : Moment} (h : m.Proper) : ofText? m.text = some m := by
  obtain ⟨hmonth, hday⟩ := m.date_bounds
  have hdate := fun cs => date_text m.date hmonth hday (stops_cons (c := 'T') (by decide) cs)
  have hzone : Text.trimStart ['Z'] = ['Z'] := by decide
  have hmoment : (⟨m.date.toDays * 86400 + m.secondOfDay - 0, m.nanos⟩ : Moment) = m := by
    have hdays : m.date.toDays = m.seconds / 86400 := toDays_ofDays _
    rw [hdays, m.secondOfDay_eq, Int.ediv_mul_add_emod, Int.sub_zero]
  have hvalid : m.date.isValid = true := isValid_ofDays _
  have hseparator : ∀ cs, separator ('T' :: cs) = some cs := fun _ => rfl
  simp only [ofText?, toList_text, hdate, hseparator, clock_moment h, hzone, offset, hmoment,
    hvalid, h.year, bind, Option.bind_some]
  rfl

end Moment

end Renaming
