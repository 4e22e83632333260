import Renaming.Decimal.Binary

/-!
# Shortest decimals

The shortest decimal that reads back as a given double: of all decimals with the fewest digits that
round to it, the one nearest to it. The search goes through the grids with 1, 2, … 17 digits and
looks at the two neighbours of the double on each.
-/

namespace Renaming.Decimal

/-- The number `digits * 10 ^ exponent`. -/
structure Scaled where
  digits : Nat
  exponent : Int
deriving DecidableEq, Repr

def Scaled.value (d : Scaled) : Ratio := .power d.digits 10 d.exponent

/-- The digits in order, none for zero. -/
def Scaled.digitList (d : Scaled) : List Nat :=
  if d.digits == 0 then [] else (Nat.toDigits 10 d.digits).map fun c => c.toNat - '0'.toNat

/-! ## Grids -/

/-- The quotient of `x` by `10 ^ e`, rounded down. -/
def Ratio.divPower (x : Ratio) (e : Int) : Nat :=
  let power := Nat.pow 10 e.natAbs
  if e < 0 then x.num * power / x.den else x.num / (x.den * power)

/-- The least `m` with `x < 10 ^ m`, for `x` not zero. The numbers of digits of numerator and
denominator leave two candidates. -/
def Ratio.magnitude (x : Ratio) : Int :=
  let guess : Int := (Nat.toDigits 10 x.num).length - (Nat.toDigits 10 x.den).length
  if x.lt (.power 1 10 guess) then guess else guess + 1

/-- Which side of the middle between `a` and `b` the fraction `x` lies on. -/
def Ratio.side (x a b : Ratio) : Ordering :=
  compare (2 * x.num * (a.den * b.den)) ((a.num * b.den + b.num * a.den) * x.den)

/-- Of the two multiples of `10 ^ e` around `b`, the one that rounds to `b`; of two such the nearer,
and of two equally near the even one. -/
def Binary.onGrid (b : Binary) (e : Int) : Option Scaled :=
  let below : Scaled := ⟨b.value.divPower e, e⟩
  let above : Scaled := ⟨below.digits + 1, e⟩
  match b.covers below.value, b.covers above.value with
  | true, true =>
    match b.value.side below.value above.value with
    | .lt => some below
    | .gt => some above
    | .eq => some (if below.digits % 2 == 0 then below else above)
  | true, false => some below
  | false, true => some above
  | false, false => none

/-- Searches the grids from `count` digits on, `tries` of them. -/
def Binary.search (b : Binary) (magnitude : Int) (count : Nat) : Nat → Scaled
  | 0 => ⟨b.value.divPower (magnitude - count), magnitude - count⟩
  | tries + 1 =>
    match b.onGrid (magnitude - count) with
    | some d => d
    | none => b.search magnitude (count + 1) tries

/-- Drops the zeros at the end of the digits, at most `fuel` of them. -/
def Scaled.dropZeros (d : Scaled) : Nat → Scaled
  | 0 => d
  | fuel + 1 =>
    if d.digits != 0 && d.digits % 10 == 0 then dropZeros ⟨d.digits / 10, d.exponent + 1⟩ fuel
    else d

/-- The shortest decimal for the absolute value of a binary fraction. -/
def Binary.shortest (b : Binary) : Scaled :=
  if b.mantissa == 0 then ⟨0, 0⟩ else (b.search b.value.magnitude 1 17).dropZeros 18

end Renaming.Decimal
