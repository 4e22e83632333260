import Renaming.Text.Blank
import Renaming.Time.Moment

/-!
# Written moments

Moments are written as RFC 3339 has it, in UTC with `Z`, with no fraction or one of 3, 6 or 9
digits. They are read with any offset and in a relaxed form: blanks may stand between the parts,
digits may be missing in front, and the letters may be small.
-/

namespace Renaming

namespace Time

open Text

/-! ## Writing -/

/-- The digits of a number, filled up with zeros. -/
def padded (width n : Nat) : String :=
  let digits := Nat.toDigits 10 n
  String.ofList (List.replicate (width - digits.length) '0' ++ digits)

def yearText (year : Int) : String :=
  if 0 ≤ year && year ≤ 9999 then padded 4 year.natAbs
  else (if year < 0 then "-" else "+") ++ padded 4 year.natAbs

def fractionText (nanos : Nat) : String :=
  if nanos == 0 then ""
  else if nanos % 1000000 == 0 then "." ++ padded 3 (nanos / 1000000)
  else if nanos % 1000 == 0 then "." ++ padded 6 (nanos / 1000)
  else "." ++ padded 9 nanos

/-!
## Reading

Every reader returns what it read and the text after it.
-/

def digitsValue (cs : List Char) : Nat := cs.foldl (fun n c => 10 * n + (c.toNat - '0'.toNat)) 0

/-- One digit at least, at most `width` of them if there is a width. -/
def number (width : Option Nat) (cs : List Char) : Option (Nat × List Char) :=
  let digits := cs.takeWhile Char.isDigit
  let digits := match width with
    | some width => digits.take width
    | none => digits
  if digits.isEmpty then none else some (digitsValue digits, cs.drop digits.length)

/-- A number after blanks. -/
def part (width : Nat) (cs : List Char) : Option (Nat × List Char) :=
  number (some width) (trimStart cs)

/-- A year after blanks. With a sign it may have any number of digits. -/
def year (cs : List Char) : Option (Int × List Char) :=
  match trimStart cs with
  | '-' :: cs => (number none cs).map fun (n, cs) => (-n, cs)
  | '+' :: cs => (number none cs).map fun (n, cs) => (n, cs)
  | cs => (number (some 4) cs).map fun (n, cs) => (n, cs)

/-- A mark after blanks. -/
def mark (c : Char) (cs : List Char) : Option (List Char) :=
  match trimStart cs with
  | c' :: cs => if c' == c then some cs else none
  | [] => none

def date (cs : List Char) : Option (Date × List Char) := do
  let (year, cs) ← year cs
  let (month, cs) ← part 2 (← mark '-' cs)
  let (day, cs) ← part 2 (← mark '-' cs)
  return (⟨year, month, day⟩, cs)

/-- Between date and time. -/
def separator : List Char → Option (List Char)
  | c :: cs => if c == 'T' || c == 't' || c == ' ' then some cs else none
  | [] => none

/-- A fraction of a second in nanoseconds. Digits after the ninth do not count. -/
def fraction : List Char → Option (Nat × List Char)
  | '.' :: cs => do
    let (nanos, rest) ← number (some 9) cs
    return (nanos * Nat.pow 10 (9 - (cs.length - rest.length)), rest.dropWhile Char.isDigit)
  | cs => some (0, cs)

/-- Seconds since the start of the day, and nanoseconds. The second 60 is a leap second. -/
def clock (cs : List Char) : Option ((Nat × Nat) × List Char) := do
  let (hour, cs) ← part 2 cs
  let (minute, cs) ← part 2 (← mark ':' cs)
  let (second, cs) ← part 2 (← mark ':' cs)
  let (nanos, cs) ← fraction cs
  if hour < 24 && minute < 60 && second ≤ 60 then
    if second == 60 then some ((hour * 3600 + minute * 60 + 59, nanos + 1000000000), cs)
    else some ((hour * 3600 + minute * 60 + second, nanos), cs)
  else none

def twoDigits : List Char → Option (Nat × List Char)
  | a :: b :: cs => if a.isDigit && b.isDigit then some (digitsValue [a, b], cs) else none
  | _ => none

/-- Hours and minutes of an offset in seconds, less than a day. -/
def offsetTime (cs : List Char) : Option (Nat × List Char) := do
  let (hours, cs) ← twoDigits cs
  let (minutes, cs) ← twoDigits (cs.dropWhile fun c => c == ':' || isBlank c)
  if minutes < 60 && hours < 24 then some (hours * 3600 + minutes * 60, cs) else none

/-- The offset of a clock from UTC in seconds. -/
def offset (cs : List Char) : Option (Int × List Char) :=
  match cs with
  | 'Z' :: cs | 'z' :: cs => some (0, cs)
  | '+' :: cs => (offsetTime cs).map fun (n, cs) => (n, cs)
  | '-' :: cs | '\u2212' :: cs => (offsetTime cs).map fun (n, cs) => (-n, cs)
  | u :: t :: c :: cs =>
    if [u, t, c].map Char.toUpper == ['U', 'T', 'C'] then some (0, cs) else none
  | _ => none

end Time

open Time

/-- The written form of a moment. -/
def Moment.text (m : Moment) : String :=
  let second := m.secondOfDay
  let leap := if m.nanos < 1000000000 then 0 else 1
  yearText m.date.year ++ "-" ++ padded 2 m.date.month ++ "-" ++ padded 2 m.date.day ++ "T" ++
    padded 2 (second / 3600) ++ ":" ++ padded 2 (second / 60 % 60) ++ ":" ++
    padded 2 (second % 60 + leap) ++ fractionText (m.nanos - leap * 1000000000) ++ "Z"

/-- The moment that a text stands for. -/
def Moment.ofText? (text : String) : Option Moment := do
  let (date, cs) ← Time.date text.toList
  let ((second, nanos), cs) ← clock (← separator cs)
  let (offset, cs) ← offset (Text.trimStart cs)
  let m : Moment := ⟨date.toDays * 86400 + second - offset, nanos⟩
  if date.isValid && isYear date.year && isYear m.date.year && (Text.trimStart cs).isEmpty then
    some m
  else none

end Renaming
