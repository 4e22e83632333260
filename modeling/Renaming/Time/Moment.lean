/-!
# Moments

A moment of the UTC clock, to the nanosecond, and its date in the Gregorian calendar. A leap second
counts as part of the second before it.
-/

namespace Renaming

/-- Seconds since the start of 1970 and nanoseconds on top, a second and more in a leap second. -/
structure Moment where
  seconds : Int
  nanos : Nat
deriving DecidableEq, Repr, Inhabited

namespace Time

/-! ## Dates -/

structure Date where
  year : Int
  month : Nat
  day : Nat
deriving DecidableEq, Repr, Inhabited

def isLeapYear (year : Int) : Bool := year % 4 == 0 && (year % 100 != 0 || year % 400 == 0)

def monthLength (year : Int) (month : Nat) : Nat :=
  if month == 2 then if isLeapYear year then 29 else 28
  else if month == 4 || month == 6 || month == 9 || month == 11 then 30
  else 31

def Date.isValid (d : Date) : Bool :=
  1 ≤ d.month && d.month ≤ 12 && 1 ≤ d.day && d.day ≤ monthLength d.year d.month

/-- Days since the start of 1970. Years are counted from March, so that a leap day comes last. -/
def Date.toDays (d : Date) : Int :=
  let year := if d.month ≤ 2 then d.year - 1 else d.year
  let month : Int := (d.month + 9) % 12
  let dayOfYear := (153 * month + 2) / 5 + d.day - 1
  year * 365 + year / 4 - year / 100 + year / 400 + dayOfYear - 719468

/-- The date that many days after the start of 1970. -/
def Date.ofDays (days : Int) : Date :=
  let days := days + 719468
  let era := days / 146097
  let dayOfEra := days % 146097
  let yearOfEra := (dayOfEra - dayOfEra / 1460 + dayOfEra / 36524 - dayOfEra / 146096) / 365
  let dayOfYear := dayOfEra - (365 * yearOfEra + yearOfEra / 4 - yearOfEra / 100)
  let month := (5 * dayOfYear + 2) / 153
  let day := dayOfYear - (153 * month + 2) / 5 + 1
  let year := yearOfEra + era * 400
  if month < 10 then ⟨year, (month + 3).toNat, day.toNat⟩
  else ⟨year + 1, (month - 9).toNat, day.toNat⟩

/-- The years that moments can lie in. -/
def isYear (year : Int) : Bool := -262143 ≤ year && year ≤ 262142

end Time

/-- The date of a moment. -/
def Moment.date (m : Moment) : Time.Date := .ofDays (m.seconds / 86400)

/-- Seconds since the start of the day. -/
def Moment.secondOfDay (m : Moment) : Nat := (m.seconds % 86400).toNat

end Renaming
