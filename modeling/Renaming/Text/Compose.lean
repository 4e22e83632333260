import Renaming.Text.MarkTable

/-!
# Composed text

A text in its composed form has its marks in the order of their classes, and every character that
composes with marks after it is one character with them.
-/

namespace Renaming.Text

/-- Zero for characters that do not combine with the one before them. -/
def combiningClass (c : Char) : Nat :=
  ((classRuns.find? fun (first, last, _) => first ≤ c.toNat && c.toNat ≤ last).map (·.2.2)).getD 0

/-! ## Pairs -/

/-- The composite that follows its first character in a row of the table. -/
def compositeIn? (first : Char) : List Char → Option Char
  | a :: c :: row => if a == first then some c else compositeIn? first row
  | _ => none

/-- The first character of a composite in a row of the table. -/
def firstIn? (composite : Char) : List Char → Option Char
  | a :: c :: row => if c == composite then some a else firstIn? composite row
  | _ => none

/-- Korean syllables are composed by counting: 19 leading, 21 middle and 27 trailing letters. -/
def syllable? (a b : Char) : Option Char :=
  let leading := a.toNat - 0x1100
  let middle := b.toNat - 0x1161
  let trailing := b.toNat - 0x11A7
  if 0x1100 ≤ a.toNat && leading < 19 && 0x1161 ≤ b.toNat && middle < 21 then
    some (Char.ofNat (0xAC00 + (leading * 21 + middle) * 28))
  else if 0xAC00 ≤ a.toNat && a.toNat ≤ 0xD7A3 && (a.toNat - 0xAC00) % 28 == 0 &&
      0x11A7 < b.toNat && trailing < 28 then
    some (Char.ofNat (a.toNat + trailing))
  else none

def composite? (a b : Char) : Option Char :=
  (syllable? a b).or <| compositeRuns.findSome? fun (second, row) =>
    if second == b.toNat then compositeIn? a row.toList else none

def parts? (c : Char) : Option (Char × Char) :=
  if 0xAC00 ≤ c.toNat && c.toNat ≤ 0xD7A3 then
    let index := c.toNat - 0xAC00
    if index % 28 == 0 then
      some (Char.ofNat (0x1100 + index / 28 / 21), Char.ofNat (0x1161 + index / 28 % 21))
    else some (Char.ofNat (c.toNat - index % 28), Char.ofNat (0x11A7 + index % 28))
  else compositeRuns.findSome? fun (second, row) =>
    (firstIn? c row.toList).map fun first => (first, Char.ofNat second)

/-! ## Texts -/

/-- Takes a character apart up to `depth` times. No composite needs more than four. -/
def decompose (depth : Nat) (c : Char) : List Char :=
  match depth with
  | 0 => [c]
  | depth + 1 =>
    match parts? c with
    | some (a, b) => decompose depth a ++ [b]
    | none => [c]

/-- Puts a mark behind the marks of lower classes that follow it. -/
def insertMark (c : Char) : List Char → List Char
  | [] => [c]
  | m :: ms =>
    if combiningClass m != 0 && combiningClass m < combiningClass c then m :: insertMark c ms
    else c :: m :: ms

/-- Composes a character with the marks that follow it. A mark stays apart if the one before it
stayed apart and has no lower class. -/
def composeFrom (base : Char) (marks : List Char) (lastClass : Nat) : List Char → List Char
  | [] => base :: marks.reverse
  | c :: cs =>
    let k := combiningClass c
    match if marks.isEmpty || lastClass < k then composite? base c else none with
    | some composite => composeFrom composite marks lastClass cs
    | none =>
      if k == 0 then (base :: marks.reverse) ++ composeFrom c [] 0 cs
      else composeFrom base (c :: marks) k cs

def compose : List Char → List Char
  | [] => []
  | c :: cs => composeFrom c [] 0 cs

/-- The composed form of a text. -/
def composed (cs : List Char) : List Char :=
  compose ((cs.flatMap (decompose 4)).foldr insertMark [])

end Renaming.Text
