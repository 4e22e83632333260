import Renaming.Url.Domain

/-!
# Numeric addresses

IPv4 addresses have up to four numbers, decimal, octal or hexadecimal, of which the last fills all
places that are left. IPv6 addresses have eight pieces; `::` stands for as many zeros as are
missing.
-/

namespace Renaming.Url

/-! ## IPv4 -/

def isHexDigit (c : Char) : Bool := c.isDigit || ('a' ≤ c && c ≤ 'f') || ('A' ≤ c && c ≤ 'F')

def isOctalDigit (c : Char) : Bool := '0' ≤ c && c ≤ '7'

def numberIn (base : Nat) (digits : List Char) : Nat :=
  digits.foldl (fun n c => base * n + (hexValue c)) 0
where hexValue (c : Char) : Nat :=
  if c.isDigit then c.toNat - '0'.toNat else c.toLower.toNat - 'a'.toNat + 10

/-- A number of an IPv4 address: hexadecimal after `0x`, octal after `0`. -/
def ipv4Number? : List Char → Option Nat
  | [] => none
  | '0' :: 'x' :: digits | '0' :: 'X' :: digits =>
    if digits.all isHexDigit then some (numberIn 16 digits) else none
  | '0' :: digits => if digits.all isOctalDigit then some (numberIn 8 digits) else none
  | digits => if digits.all Char.isDigit then some (numberIn 10 digits) else none

/-- The parts of a name. A dot at its end does not count. -/
def ipv4Parts (cs : List Char) : List (List Char) :=
  let parts := Text.splitAt (· == '.') cs
  if 1 < parts.length && parts.getLast? == some [] then parts.dropLast else parts

/-- The name ends in a number, so that it is an address or nothing. -/
def endsInNumber (cs : List Char) : Bool :=
  (ipv4Parts cs).getLast?.any fun last =>
    !last.isEmpty && (last.all Char.isDigit || (ipv4Number? last).isSome)

/-- Every number but the last takes one byte. -/
def ipv4OfNumbers? : List Nat → Option Nat
  | [] => none
  | numbers =>
    let bytes := numbers.dropLast
    let last := numbers.getLastD 0
    let room := Nat.pow 256 (4 - bytes.length)
    if numbers.length ≤ 4 && bytes.all (· < 256) && last < room then
      some (bytes.foldl (fun n b => 256 * n + b) 0 * room + last)
    else none

def ipv4? (cs : List Char) : Option Nat := (ipv4Parts cs).mapM ipv4Number? >>= ipv4OfNumbers?

def ipv4Text (address : Nat) : String :=
  s!"{address / Nat.pow 256 3}.{address / Nat.pow 256 2 % 256}.{address / 256 % 256}.{address % 256}"

/-! ## IPv6 -/

/-- The pieces read so far and how many of them come before `::`. -/
structure Ipv6Reading where
  pieces : List Nat
  gap : Option Nat

def Ipv6Reading.push (r : Ipv6Reading) (piece : Nat) : Ipv6Reading :=
  { r with pieces := r.pieces ++ [piece] }

/-- All eight pieces. -/
def Ipv6Reading.finish? (r : Ipv6Reading) : Option (List Nat) :=
  match r.gap with
  | some gap =>
    some (r.pieces.take gap ++ List.replicate (8 - r.pieces.length) 0 ++ r.pieces.drop gap)
  | none => if r.pieces.length == 8 then some r.pieces else none

/-- A decimal byte without needless zeros. -/
def byte? (cs : List Char) : Option Nat :=
  if cs.isEmpty || !cs.all Char.isDigit || (cs.head? == some '0' && 1 < cs.length) then none
  else if numberIn 10 cs < 256 then some (numberIn 10 cs)
  else none

/-- The last two pieces, written as four decimal bytes. -/
def embedded? (cs : List Char) : Option (Nat × Nat) :=
  match (Text.splitAt (· == '.') cs).mapM byte? with
  | some [a, b, c, d] => some (256 * a + b, 256 * c + d)
  | _ => none

/-- Reads pieces as long as there is room. The mark `::` takes the room of a piece. -/
def readPieces (room : Nat) (r : Ipv6Reading) (cs : List Char) : Option Ipv6Reading :=
  match room, cs with
  | _, [] => some r
  | 0, _ => none
  | room + 1, ':' :: cs =>
    if r.gap.isSome then none else readPieces room { r with gap := some r.pieces.length } cs
  | room + 1, cs =>
    let digits := (cs.take 4).takeWhile isHexDigit
    match cs.drop digits.length with
    | [] => some (r.push (numberIn 16 digits))
    | '.' :: _ =>
      if digits.isEmpty || room == 0 then none
      else (embedded? cs).map fun (a, b) => (r.push a).push b
    | [':'] => none
    | ':' :: cs => readPieces room (r.push (numberIn 16 digits)) cs
    | _ => none

def ipv6? : List Char → Option (List Nat)
  | ':' :: ':' :: cs => readPieces 7 ⟨[], some 0⟩ cs >>= (·.finish?)
  | [] | ':' :: _ | [_] => none
  | cs => readPieces 8 ⟨[], none⟩ cs >>= (·.finish?)

/-! ## Writing IPv6 -/

/-- How many zeros the pieces start with. -/
def zeros (pieces : List Nat) : Nat := (pieces.takeWhile (· == 0)).length

/-- The place and the length of the first longest run of zeros. -/
def longestZeros : List Nat → Nat × Nat
  | [] => (0, 0)
  | p :: ps =>
    let (place, length) := longestZeros ps
    if length ≤ zeros (p :: ps) then (0, zeros (p :: ps)) else (place + 1, length)

def piecesText (pieces : List Nat) : String :=
  String.intercalate ":" (pieces.map fun p => String.ofList (Nat.toDigits 16 p))

/-- Two zeros or more are written as `::`. -/
def ipv6Text (pieces : List Nat) : String :=
  let (place, length) := longestZeros pieces
  if length < 2 then piecesText pieces
  else piecesText (pieces.take place) ++ "::" ++ piecesText (pieces.drop (place + length))

end Renaming.Url
