import Renaming.Json.Basic

/-!
# Reading JSON

A strict reader: only space, tab, line feed and carriage return separate tokens, a number has no
leading zero and digits on both sides of its point, control characters in strings are escaped, and
nothing follows the document.
-/

namespace Renaming.Json

def isSpace (c : Char) : Bool := c == ' ' || c == '\t' || c == '\n' || c == '\r'

def skipSpaces (cs : List Char) : List Char := cs.dropWhile isSpace

/-! ## Numbers -/

def digitValue (c : Char) : Nat := c.toNat - '0'.toNat

/-- The leading digits as numbers below ten, and what follows them. -/
def digits (cs : List Char) : List Nat × List Char :=
  ((cs.takeWhile Char.isDigit).map digitValue, cs.dropWhile Char.isDigit)

def natOfDigits (ds : List Nat) : Nat := ds.foldl (fun n d => 10 * n + d) 0

/-- The whole part: one zero, or digits that start with another. -/
def readWhole : List Char → Option (Nat × List Char)
  | '0' :: rest => some (0, rest)
  | cs => match digits cs with
    | ([], _) => none
    | (ds, rest) => some (natOfDigits ds, rest)

/-- The fraction, if a point comes next. -/
def readFraction : List Char → Option (List Nat × List Char)
  | '.' :: cs => match digits cs with
    | ([], _) => none
    | (ds, rest) => some (ds, rest)
  | cs => some ([], cs)

/-- The sign of an exponent: minus one or one. -/
def readSign : List Char → Int × List Char
  | '-' :: cs => (-1, cs)
  | '+' :: cs => (1, cs)
  | cs => (1, cs)

/-- The exponent, if its mark comes next. -/
def readExponent (cs : List Char) : Option (Option Int × List Char) :=
  match cs with
  | mark :: rest =>
    if mark == 'e' || mark == 'E' then
      let (sign, rest) := readSign rest
      match digits rest with
      | ([], _) => none
      | (ds, rest) => some (some (sign * natOfDigits ds), rest)
    else some (none, cs)
  | [] => some (none, cs)

def readUnsigned (negative : Bool) (cs : List Char) : Option (Number × List Char) := do
  let (whole, cs) ← readWhole cs
  let (fraction, cs) ← readFraction cs
  let (exponent, cs) ← readExponent cs
  return (⟨negative, whole, fraction, exponent⟩, cs)

def readNumber : List Char → Option (Number × List Char)
  | '-' :: cs => readUnsigned true cs
  | cs => readUnsigned false cs

/-! ## Strings -/

/-- What one character or escape of a string literal stands for: a character, or half of a
surrogate pair. -/
inductive Piece where
  | char (c : Char)
  | half (unit : Nat)
deriving DecidableEq, Repr

/-- The body of a string literal and what follows its closing quote. `body` has already been read,
in reverse. -/
def splitQuoted (body : List Char) : List Char → Option (List Char × List Char)
  | [] => none
  | '"' :: rest => some (body.reverse, rest)
  | ['\\'] => none
  | '\\' :: c :: rest => splitQuoted (c :: '\\' :: body) rest
  | c :: rest => splitQuoted (c :: body) rest

def hexValue (c : Char) : Option Nat :=
  if c.isDigit then some (c.toNat - '0'.toNat)
  else if 'a' ≤ c && c ≤ 'f' then some (c.toNat - 'a'.toNat + 10)
  else if 'A' ≤ c && c ≤ 'F' then some (c.toNat - 'A'.toNat + 10)
  else none

def hexFour (a b c d : Char) : Option Nat := do
  let a ← hexValue a
  let b ← hexValue b
  let c ← hexValue c
  let d ← hexValue d
  return ((a * 16 + b) * 16 + c) * 16 + d

def isHighHalf (unit : Nat) : Bool := 0xD800 ≤ unit && unit < 0xDC00

def isLowHalf (unit : Nat) : Bool := 0xDC00 ≤ unit && unit < 0xE000

def pieceOfUnit (unit : Nat) : Piece :=
  if isHighHalf unit || isLowHalf unit then .half unit else .char (Char.ofNat unit)

/-- The character that an escape with this letter stands for. -/
def shortEscape : Char → Option Char
  | '"' => some '"'
  | '\\' => some '\\'
  | '/' => some '/'
  | 'b' => some '\x08'
  | 'f' => some '\x0c'
  | 'n' => some '\n'
  | 'r' => some '\r'
  | 't' => some '\t'
  | _ => none

/-- The pieces of a body, after the `pieces` already found, which come in reverse. -/
def piecesAfter (pieces : List Piece) : List Char → Option (List Piece)
  | [] => some pieces.reverse
  | '\\' :: 'u' :: a :: b :: c :: d :: rest =>
    match hexFour a b c d with
    | some unit => piecesAfter (pieceOfUnit unit :: pieces) rest
    | none => none
  | '\\' :: e :: rest =>
    match shortEscape e with
    | some c => piecesAfter (.char c :: pieces) rest
    | none => none
  | ['\\'] => none
  | c :: rest => if c < ' ' then none else piecesAfter (.char c :: pieces) rest

/-- The character of a surrogate pair. -/
def pairChar (high low : Nat) : Char :=
  Char.ofNat (0x10000 + (high - 0xD800) * 0x400 + (low - 0xDC00))

/-- Joins the pieces, after the characters `cs` already found, which come in reverse. None if half
of a pair stands alone. -/
def joinAfter (cs : List Char) : List Piece → Option (List Char)
  | [] => some cs.reverse
  | .char c :: rest => joinAfter (c :: cs) rest
  | .half high :: .half low :: rest =>
    if isHighHalf high && isLowHalf low then joinAfter (pairChar high low :: cs) rest else none
  | .half _ :: _ => none

/-- The text of a string literal that starts after its opening quote. -/
def readString (cs : List Char) : Option (Option String × List Char) := do
  let (body, rest) ← splitQuoted [] cs
  let pieces ← piecesAfter [] body
  return ((joinAfter [] pieces).map String.ofList, rest)

/-! ## Documents

`fuel` bounds the number of nested calls. Each call uses up a character, so the length of the text
is enough. -/

mutual

def readValue : Nat → List Char → Option (Json × List Char)
  | 0, _ => none
  | fuel + 1, cs =>
    match cs with
    | 'n' :: 'u' :: 'l' :: 'l' :: rest => some (.null, rest)
    | 't' :: 'r' :: 'u' :: 'e' :: rest => some (.bool true, rest)
    | 'f' :: 'a' :: 'l' :: 's' :: 'e' :: rest => some (.bool false, rest)
    | '"' :: rest => (readString rest).map fun (text, rest) => (.string text, rest)
    | '[' :: rest =>
      match skipSpaces rest with
      | ']' :: rest => some (.array [], rest)
      | rest => readItems fuel [] rest
    | '\x7b' :: rest =>
      match skipSpaces rest with
      | '\x7d' :: rest => some (.object [], rest)
      | rest => readMembers fuel [] rest
    | cs => (readNumber cs).map fun (literal, rest) => (.number literal, rest)

/-- The rest of an array from its next item on. The items before it come in reverse. -/
def readItems : Nat → List Json → List Char → Option (Json × List Char)
  | 0, _, _ => none
  | fuel + 1, items, cs =>
    match readValue fuel cs with
    | none => none
    | some (item, rest) =>
      match skipSpaces rest with
      | ',' :: rest => readItems fuel (item :: items) (skipSpaces rest)
      | ']' :: rest => some (.array (item :: items).reverse, rest)
      | _ => none

/-- The rest of an object from its next key on. The members before it come in reverse. -/
def readMembers : Nat → List (Option String × Json) → List Char → Option (Json × List Char)
  | 0, _, _ => none
  | fuel + 1, members, cs =>
    match cs with
    | '"' :: rest =>
      match readString rest with
      | none => none
      | some (key, rest) =>
        match skipSpaces rest with
        | ':' :: rest =>
          match readValue fuel (skipSpaces rest) with
          | none => none
          | some (value, rest) =>
            match skipSpaces rest with
            | ',' :: rest => readMembers fuel ((key, value) :: members) (skipSpaces rest)
            | '\x7d' :: rest => some (.object ((key, value) :: members).reverse, rest)
            | _ => none
        | _ => none
    | _ => none

end

/-- The document that a text is, blanks around it aside. -/
def parse (cs : List Char) : Option Json :=
  match readValue (cs.length + 1) (skipSpaces cs) with
  | some (value, rest) => if (skipSpaces rest).isEmpty then some value else none
  | none => none

end Renaming.Json
