/-!
# Binary fractions

A finite double is `± mantissa * 2 ^ exponent` with a mantissa below `2 ^ 53`. The reals that round
to it form an interval around it. Its ends belong to it exactly when the mantissa is even.
-/

namespace Renaming.Decimal

structure Binary where
  negative : Bool
  mantissa : Nat
  exponent : Int
  /-- The next double below is only half as far away as the next one above. -/
  narrowBelow : Bool
deriving DecidableEq, Repr

/-- The binary fraction with these 64 bits, none for an infinity or what is not a number. -/
def Binary.ofBits? (bits : Nat) : Option Binary :=
  let negative := bits / Nat.pow 2 63 == 1
  let scale : Nat := bits / Nat.pow 2 52 % Nat.pow 2 11
  let fraction : Nat := bits % Nat.pow 2 52
  if scale == 2047 then none
  else if scale == 0 then some ⟨negative, fraction, -1074, false⟩
  else some ⟨negative, Nat.pow 2 52 + fraction, (scale : Int) - 1075, fraction == 0 && scale > 1⟩

def Binary.ofFloat? (x : Float) : Option Binary := ofBits? x.toBits.toNat

/-- A nonnegative fraction. -/
structure Ratio where
  num : Nat
  den : Nat
deriving Repr

/-- `n * base ^ e`. -/
def Ratio.power (n base : Nat) (e : Int) : Ratio :=
  if e < 0 then ⟨n, base.pow e.natAbs⟩ else ⟨n * base.pow e.natAbs, 1⟩

def Ratio.lt (a b : Ratio) : Bool := a.num * b.den < b.num * a.den

def Ratio.le (a b : Ratio) : Bool := a.num * b.den ≤ b.num * a.den

def Binary.value (b : Binary) : Ratio := .power b.mantissa 2 b.exponent

/-- The lower end of the interval that rounds to `b`. -/
def Binary.low (b : Binary) : Ratio :=
  if b.narrowBelow then .power (4 * b.mantissa - 1) 2 (b.exponent - 2)
  else .power (2 * b.mantissa - 1) 2 (b.exponent - 1)

/-- The upper end of the interval that rounds to `b`. -/
def Binary.high (b : Binary) : Ratio := .power (2 * b.mantissa + 1) 2 (b.exponent - 1)

/-- The fraction rounds to `b`. -/
def Binary.covers (b : Binary) (x : Ratio) : Bool :=
  if b.mantissa % 2 == 0 then b.low.le x && x.le b.high else b.low.lt x && x.lt b.high

end Renaming.Decimal
