import Mathlib.Tactic.IntervalCases
import Renaming.Time.Moment

/-!
# Dates and days

The date of a day is a date of the calendar (`isValid_ofDays`), and the day of that date is the day
it was taken from (`toDays_ofDays`). Both follow from the year that starts in March, in which a leap
day comes last.
-/

namespace Renaming.Time

/-! ## Years from March on -/

/-- The year in an era of 400 years, and the day in that year. -/
theorem yearOfEra_bounds {d : Int} (h0 : 0 ≤ d) (h1 : d < 146097) :
    let y := (d - d / 1460 + d / 36524 - d / 146096) / 365
    let r := d - (365 * y + y / 4 - y / 100)
    0 ≤ y ∧ y < 400 ∧ 0 ≤ r ∧ r ≤ 365 ∧ (r = 365 → y % 4 = 3 ∧ (y % 100 ≠ 99 ∨ y = 399)) := by
  intro y r
  by_cases hlast : d = 146096
  · subst hlast
    decide
  have hera : d / 146096 = 0 := by omega
  have hy : 100 * (d / 36524) ≤ y ∧ y < 100 * (d / 36524) + 100 := by omega
  have hcentury : y / 100 = d / 36524 := by omega
  -- So many leap days have passed, or one more on the last day of four years.
  have hlow : y / 4 ≤ d / 1460 := by omega
  have hhigh : d / 1460 ≤ y / 4 + 1 := by omega
  omega

/-- The month of a day in the year, March being zero. -/
def monthOf (dayOfYear : Int) : Int := (5 * dayOfYear + 2) / 153

/-- How many days of the year are over when a month starts. -/
def startOf (month : Int) : Int := (153 * month + 2) / 5

theorem monthOf_bounds {r : Int} (h0 : 0 ≤ r) (h1 : r ≤ 365) : 0 ≤ monthOf r ∧ monthOf r < 12 := by
  unfold monthOf
  omega

theorem startOf_monthOf (r : Int) :
    startOf (monthOf r) ≤ r ∧ r < startOf (monthOf r + 1) := by
  unfold startOf monthOf
  omega

/-- The date of a day in a year that starts in March. -/
def Date.ofMarch (year dayOfYear : Int) : Date :=
  let month := monthOf dayOfYear
  let day := dayOfYear - startOf month + 1
  if month < 10 then ⟨year, (month + 3).toNat, day.toNat⟩
  else ⟨year + 1, (month - 9).toNat, day.toNat⟩

theorem exists_ofMarch (days : Int) : ∃ era y r : Int,
    Date.ofDays days = .ofMarch (y + era * 400) r ∧
    days + 719468 = 146097 * era + (365 * y + y / 4 - y / 100) + r ∧
    0 ≤ y ∧ y < 400 ∧ 0 ≤ r ∧ r ≤ 365 ∧ (r = 365 → y % 4 = 3 ∧ (y % 100 ≠ 99 ∨ y = 399)) := by
  unfold Date.ofDays
  extract_lets n era dayOfEra y r
  refine ⟨era, y, r, rfl, ?_, yearOfEra_bounds (d := dayOfEra) (by omega) (by omega)⟩
  have hera : n = 146097 * era + dayOfEra := by omega
  have hyear : dayOfEra = 365 * y + y / 4 - y / 100 + r := by
    simp only [r]
    omega
  clear_value era dayOfEra y r
  change n = _
  omega

/-! ## Back to days -/

theorem toDays_ofMarch {year r : Int} (h0 : 0 ≤ r) (h1 : r ≤ 365) :
    (Date.ofMarch year r).toDays =
      year * 365 + year / 4 - year / 100 + year / 400 + r - 719468 := by
  have hmonth := monthOf_bounds h0 h1
  have hstart := (startOf_monthOf r).1
  unfold Date.ofMarch Date.toDays
  generalize monthOf r = m at hmonth hstart ⊢
  have hday : (((r - startOf m + 1).toNat : Nat) : Int) = r - startOf m + 1 := by omega
  by_cases hm : m < 10
  · have hnumber : (((m + 3).toNat : Nat) : Int) = m + 3 := by omega
    have hback : (m + 3 + 9) % 12 = m := by omega
    simp only [if_pos hm, hnumber, hday, hback]
    rw [if_neg (by omega)]
    unfold startOf
    omega
  · have hnumber : (((m - 9).toNat : Nat) : Int) = m - 9 := by omega
    have hback : (m - 9 + 9) % 12 = m := by omega
    simp only [if_neg hm, hnumber, hday, hback, add_sub_cancel_right]
    rw [if_pos (by omega)]
    unfold startOf
    omega

theorem toDays_ofDays (days : Int) : (Date.ofDays days).toDays = days := by
  obtain ⟨era, y, r, hdate, hdays, hy0, hy1, hr0, hr1, -⟩ := exists_ofMarch days
  rw [hdate, toDays_ofMarch hr0 hr1]
  have h4 : (y + era * 400) / 4 = y / 4 + 100 * era := by omega
  have h100 : (y + era * 400) / 100 = y / 100 + 4 * era := by omega
  have h400 : (y + era * 400) / 400 = era := by omega
  rw [h4, h100, h400]
  omega

/-! ## Valid dates -/

theorem isValid_ofMarch {year r : Int} (h0 : 0 ≤ r) (h1 : r ≤ 365)
    (hleap : r = 365 → isLeapYear (year + 1) = true) : (Date.ofMarch year r).isValid = true := by
  obtain ⟨hm0, hm1⟩ := monthOf_bounds h0 h1
  have hstart := startOf_monthOf r
  unfold Date.ofMarch
  generalize monthOf r = m at hm0 hm1 hstart ⊢
  obtain ⟨n, hn⟩ : ∃ n : Nat, r - startOf m + 1 = n := ⟨(r - startOf m + 1).toNat, by omega⟩
  simp only [hn, Int.toNat_natCast]
  unfold startOf at hstart hn
  unfold Date.isValid
  interval_cases m
  case «11» =>
    -- Only the last day of a leap year is a 29th of February.
    simp only [monthLength]
    cases hyear : isLeapYear (year + 1) with
    | false =>
      have hr : r ≠ 365 := fun h => by simp [hleap h] at hyear
      simp [hyear]
      omega
    | true =>
      simp [hyear]
      omega
  all_goals
    simp [monthLength]
    omega

theorem isValid_ofDays (days : Int) : (Date.ofDays days).isValid = true := by
  obtain ⟨era, y, r, hdate, -, hy0, hy1, hr0, hr1, hlast⟩ := exists_ofMarch days
  rw [hdate]
  apply isValid_ofMarch hr0 hr1
  intro h
  obtain ⟨h4, h100⟩ := hlast h
  simp only [isLeapYear, Bool.and_eq_true, Bool.or_eq_true, beq_iff_eq, bne_iff_ne]
  omega

end Renaming.Time
