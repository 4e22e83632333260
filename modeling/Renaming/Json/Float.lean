import Renaming.Decimal.Shortest
import Renaming.Json.Basic

/-!
# Doubles in JSON

A double is written with the fewest digits that read back as it: plainly from 1e-5 up to below 1e16,
with at least one digit after the point, and with an exponent outside that range.

A literal is read in double arithmetic. As many of its digits as fit into 64 bits make a number that
is then multiplied or divided by a power of ten, so the result may be a neighbour of the double that
is nearest to the literal.
-/

namespace Renaming.Json

/-! ## Writing -/

/-- Decimal points of this position, counted from the first digit, are written plainly. -/
def isPlainPoint (point : Int) : Bool := -4 ≤ point && point ≤ 16

/-- The literal for digits with their point after the first `point` of them. -/
def plain (negative : Bool) (digits : List Nat) (point : Int) : Number :=
  let whole := if point ≤ 0 then [] else
    (digits ++ List.replicate (point.natAbs - digits.length) 0).take point.natAbs
  let fraction := if point ≤ 0 then List.replicate point.natAbs 0 ++ digits
    else digits.drop point.natAbs
  ⟨negative, whole.foldl (fun n d => 10 * n + d) 0,
    if fraction.isEmpty then [0] else fraction, none⟩

/-- The literal with one digit before its point. -/
def scientific (negative : Bool) (digits : List Nat) (point : Int) : Number :=
  ⟨negative, digits.headD 0, digits.tail, some (point - 1)⟩

def Number.ofBinary (b : Decimal.Binary) : Number :=
  let d := b.shortest
  let digits := d.digitList
  let point := d.exponent + digits.length
  if isPlainPoint point then plain b.negative digits point else scientific b.negative digits point

/-- What is not a finite number is written as null. -/
def float (x : Float) : Json :=
  match Decimal.Binary.ofFloat? x with
  | some b => number (.ofBinary b)
  | none => null

/-! ## Reading -/

def wordLimit : Nat := Nat.pow 2 64

/-- Appends digits as long as the number fits into a word, and counts the ones left over. -/
def pushDigits (n : Nat) : List Nat → Nat × Nat
  | [] => (n, 0)
  | d :: ds => if 10 * n + d < wordLimit then pushDigits (10 * n + d) ds else (n, ds.length + 1)

def wholeDigits (n : Nat) : List Nat := (Nat.toDigits 10 n).map fun c => c.toNat - '0'.toNat

/-- The digits that count and the power of ten that they are scaled by. -/
def Number.scaled (n : Number) : Nat × Int :=
  let (digits, dropped) := pushDigits 0 (wholeDigits n.whole)
  let (digits, ignored) := pushDigits digits n.fraction
  (digits, n.exponent.getD 0 + dropped - (n.fraction.length - ignored : Nat))

def powerOfTen (e : Nat) : Float := Float.ofScientific 1 false e

/-- `x * 10 ^ e`, none if that is too large for a double. A large division goes in steps. -/
def scale (x : Float) (e : Int) : Option Float :=
  if e.natAbs ≤ 308 then
    if e < 0 then some (x / powerOfTen e.natAbs)
    else
      let y := x * powerOfTen e.natAbs
      if y.isInf then none else some y
  else if x == 0 then some x
  else if h : e < 0 then scale (x / powerOfTen 308) (e + 308)
  else none
termination_by e.natAbs
decreasing_by omega

def Number.float? (n : Number) : Option Float :=
  let (digits, exponent) := n.scaled
  (scale (Float.ofNat digits) exponent).map fun x => if n.negative then -x else x

/-- The literal is a natural number below `2 ^ 64`. Minus zero is not. -/
def Number.natural? (n : Number) : Option Nat :=
  if !n.negative && n.fraction.isEmpty && n.exponent.isNone && n.whole < wordLimit then some n.whole
  else none

/-- The literal is an integer of 64 bits, with or without a sign. Minus zero is not. -/
def Number.isInteger (n : Number) : Bool :=
  n.fraction.isEmpty && n.exponent.isNone &&
    (if n.negative then n.whole != 0 && n.whole ≤ Nat.pow 2 63
      else n.whole < wordLimit)

end Renaming.Json
