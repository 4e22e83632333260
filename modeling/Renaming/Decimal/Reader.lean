/-!
# Reading decimals

The written forms of numbers in settings. A double may have a sign, digits on one side of its point
only, and an exponent, or be the word for an infinity or for what is not a number. It is the double
nearest to the written number. A count may have a plus sign.
-/

namespace Renaming.Decimal

def digitOf (c : Char) : Nat := c.toNat - '0'.toNat

def ofDigits (cs : List Char) : Nat := cs.foldl (fun n c => 10 * n + digitOf c) 0

/-- Splits off the sign. The first part says that it is a minus. -/
def splitSign : List Char → Bool × List Char
  | '-' :: cs => (true, cs)
  | '+' :: cs => (false, cs)
  | cs => (false, cs)

/-- The digits after a point, none without a point. -/
def splitPoint : List Char → List Char × List Char
  | '.' :: cs => (cs.takeWhile Char.isDigit, cs.dropWhile Char.isDigit)
  | cs => ([], cs)

/-- The exponent that fills the rest of the text. -/
def exponentOf? : List Char → Option Int
  | [] => some 0
  | mark :: cs =>
    if mark == 'e' || mark == 'E' then
      let (negative, cs) := splitSign cs
      if !cs.isEmpty && cs.all Char.isDigit then
        some (if negative then -(ofDigits cs : Int) else ofDigits cs)
      else none
    else none

/-- The double nearest to `digits * 10 ^ exponent`. Beyond the range of doubles the power of ten is
not computed. -/
def nearest (digits : Nat) (exponent : Int) : Float :=
  let top := exponent + (Nat.toDigits 10 digits).length
  if digits == 0 || top < -400 then 0
  else if top > 400 then 1 / 0
  else if exponent < 0 then Float.ofScientific digits true exponent.natAbs
  else Float.ofScientific digits false exponent.natAbs

def unsignedFloat? (cs : List Char) : Option Float :=
  let word := cs.map Char.toLower
  if word == "inf".toList || word == "infinity".toList then some (1 / 0)
  else if word == "nan".toList then some (0 / 0)
  else
    let whole := cs.takeWhile Char.isDigit
    let (fraction, rest) := splitPoint (cs.dropWhile Char.isDigit)
    if whole.isEmpty && fraction.isEmpty then none
    else (exponentOf? rest).map fun exponent =>
      nearest (ofDigits (whole ++ fraction)) (exponent - fraction.length)

def float? (text : String) : Option Float :=
  let (negative, cs) := splitSign text.toList
  (unsignedFloat? cs).map fun x => if negative then -x else x

/-- A count of 64 bits. -/
def count? (text : String) : Option Nat :=
  let cs := match text.toList with
    | '+' :: cs => cs
    | cs => cs
  if !cs.isEmpty && cs.all Char.isDigit && ofDigits cs < Nat.pow 2 64 then
    some (ofDigits cs)
  else none

def bool? (text : String) : Option Bool :=
  if text == "true" then some true else if text == "false" then some false else none

end Renaming.Decimal
