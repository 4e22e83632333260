/-!
# Labels in ASCII

A label with other characters is written with its ASCII characters first and then, as one number for
each of the others in ascending order, how far to go to the place where it belongs. The numbers are
written in base 36, lowest digit first, with a threshold at each place that tells whether a digit is
the last one (RFC 3492).
-/

namespace Renaming.Url.Punycode

/-! ## Digits -/

def digit (d : Nat) : Char := Char.ofNat (if d < 26 then 'a'.toNat + d else '0'.toNat + (d - 26))

def value? (c : Char) : Option Nat :=
  if c.isLower then some (c.toNat - 'a'.toNat)
  else if c.isUpper then some (c.toNat - 'A'.toNat)
  else if c.isDigit then some (c.toNat - '0'.toNat + 26)
  else none

/-- The threshold at a place. Places are counted in steps of 36 from 36 on. -/
def threshold (bias place : Nat) : Nat := min 26 (max 1 (place - bias))

theorem threshold_pos (bias place : Nat) : 1 ≤ threshold bias place := by
  simp only [threshold]; omega

/-- Divides by 35 until at most 455 is left, and counts 36 for each division. -/
def reduce (delta : Nat) : Nat × Nat :=
  if 455 < delta then
    let (rest, places) := reduce (delta / 35)
    (rest, places + 36)
  else (delta, 0)

/-- The bias after a number was written. -/
def adapt (delta count : Nat) (isFirst : Bool) : Nat :=
  let delta := if isFirst then delta / 700 else delta / 2
  let (rest, places) := reduce (delta + delta / count)
  places + 36 * rest / (rest + 38)

/-! ## Writing -/

def digits (bias place n : Nat) : List Char :=
  let t := threshold bias place
  if n < t then [digit n]
  else digit (t + (n - t) % (36 - t)) :: digits bias (place + 36) ((n - t) / (36 - t))
termination_by n
decreasing_by
  have := threshold_pos bias place
  have := Nat.div_le_self (n - threshold bias place) (36 - threshold bias place)
  omega

structure Encoder where
  written : List Char
  delta : Nat
  bias : Nat
  count : Nat

/-- Passes one character of the label while `point` is being written. -/
def Encoder.pass (asciiCount point : Nat) (e : Encoder) (c : Char) : Encoder :=
  if c.toNat < point then { e with delta := e.delta + 1 }
  else if c.toNat == point then
    { written := e.written ++ digits e.bias 36 e.delta
      delta := 0
      bias := adapt e.delta (e.count + 1) (e.count == asciiCount)
      count := e.count + 1 }
  else e

/-- Writes the points one after another. All characters below `next` are written already. -/
def Encoder.write (label : List Char) (asciiCount : Nat) (e : Encoder) (next : Nat) :
    List Nat → Encoder
  | [] => e
  | point :: points =>
    let e := { e with delta := e.delta + (point - next) * (e.count + 1) }
    let e := label.foldl (pass asciiCount point) e
    write label asciiCount { e with delta := e.delta + 1 } (point + 1) points

def insertPoint (n : Nat) : List Nat → List Nat
  | [] => [n]
  | m :: ms => if n < m then n :: m :: ms else if n == m then m :: ms else m :: insertPoint n ms

/-- The points beyond ASCII, in ascending order. -/
def points (label : List Char) : List Nat :=
  (label.filter fun c => c.toNat ≥ 0x80).foldr (fun c ns => insertPoint c.toNat ns) []

def encode (label : List Char) : List Char :=
  let ascii := label.filter fun c => c.toNat < 0x80
  let e : Encoder := ⟨if ascii.isEmpty then [] else ascii ++ ['-'], 0, 72, ascii.length⟩
  (e.write label ascii.length 0x80 (points label)).written

/-! ## Reading -/

structure Decoder where
  label : List Char
  /-- The character that the last number stood for. -/
  point : Nat
  index : Nat
  bias : Nat
  /-- The number that is being read: its value so far, and the next place with its weight. -/
  delta : Nat
  place : Nat
  weight : Nat

/-- The number is complete: it tells the next character and where it belongs. -/
def Decoder.insert? (d : Decoder) (delta : Nat) : Option Decoder :=
  let count := d.label.length + 1
  let index := d.index + delta
  let point := d.point + index / count
  if h : point.isValidChar then
    some {
      label := d.label.insertIdx (index % count) (Char.ofNatAux point h)
      point
      index := index % count + 1
      bias := adapt delta count (d.index == 0)
      delta := 0
      place := 36
      weight := 1 }
  else none

def Decoder.read? (d : Decoder) (c : Char) : Option Decoder := do
  let n ← value? c
  let t := threshold d.bias d.place
  let delta := d.delta + n * d.weight
  if n < t then d.insert? delta
  else some { d with delta, place := d.place + 36, weight := d.weight * (36 - t) }

/-- What comes before and after the last hyphen. Without a hyphen nothing comes before. -/
def splitLast (cs : List Char) : List Char × List Char :=
  if cs.contains '-' then
    let after := (cs.reverse.takeWhile (· != '-')).reverse
    (cs.take (cs.length - after.length - 1), after)
  else ([], cs)

def decode? (cs : List Char) : Option (List Char) := do
  let (ascii, numbers) := splitLast cs
  let d ← numbers.foldlM Decoder.read? ⟨ascii, 0x80, 0, 72, 0, 36, 1⟩
  if d.place == 36 then some d.label else none

end Renaming.Url.Punycode
