import Renaming.Decimal.Binary

/-!
# Decimals with a fixed number of places

The exact value of a double rounded to the nearest multiple of a power of ten. A tie goes to the
even neighbour.
-/

namespace Renaming.Decimal

/-- The quotient rounded to the nearest natural number, a tie to the even one. -/
def roundDiv (num den : Nat) : Nat :=
  let low := num / den
  match compare (2 * (num % den)) den with
  | .lt => low
  | .gt => low + 1
  | .eq => if low % 2 == 0 then low else low + 1

/-- The double with this many places after the point, which is left out before none. -/
def fixed (x : Float) (places : Nat) : String :=
  match Binary.ofFloat? x with
  | none => if x.isNaN then "NaN" else if x < 0 then "-inf" else "inf"
  | some b =>
    let scaled := roundDiv (b.value.num * Nat.pow 10 places) b.value.den
    let digits := Nat.toDigits 10 scaled
    let digits := List.replicate (places + 1 - digits.length) '0' ++ digits
    let point := digits.length - places
    (if b.negative then "-" else "") ++ String.ofList (digits.take point) ++
      (if places == 0 then "" else "." ++ String.ofList (digits.drop point))

end Renaming.Decimal
