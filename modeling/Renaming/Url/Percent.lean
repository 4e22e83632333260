/-!
# Percent encoding

Characters that may not stand in a part of an address are written as their UTF-8 bytes, each as `%`
and two hexadecimal digits. Each part has its own set of such characters.
-/

namespace Renaming.Url

/-! ## Sets -/

/-- Controls, and everything beyond ASCII. -/
def isUnprintable (c : Char) : Bool := c.toNat < 0x20 || 0x7E < c.toNat

/-- An unprintable character or one of those listed. -/
def isEncodedIn (listed : String) (c : Char) : Bool := isUnprintable c || listed.toList.contains c

def encodedInFragment : Char → Bool := isEncodedIn " \"<>\x60"

def encodedInPath : Char → Bool := isEncodedIn " \"#<>?^\x60\x7b\x7d"

def encodedInUserinfo : Char → Bool := isEncodedIn " \"#/:;<=>?@[\\]^\x60\x7b|\x7d"

/-- Special schemes encode the apostrophe too. -/
def encodedInQuery (special : Bool) : Char → Bool :=
  isEncodedIn (if special then " \"#'<>" else " \"#<>")

/-! ## Encoding and decoding -/

def hexDigit (n : Nat) : Char := Char.ofNat (if n < 10 then '0'.toNat + n else 'A'.toNat + (n - 10))

def escapeByte (b : UInt8) : List Char := ['%', hexDigit (b.toNat / 16), hexDigit (b.toNat % 16)]

def percentEncode (encoded : Char → Bool) (cs : List Char) : List Char :=
  cs.flatMap fun c => if encoded c then (String.utf8EncodeChar c).flatMap escapeByte else [c]

def hexValue? (c : Char) : Option Nat :=
  if c.isDigit then some (c.toNat - '0'.toNat)
  else if 'a' ≤ c && c ≤ 'f' then some (c.toNat - 'a'.toNat + 10)
  else if 'A' ≤ c && c ≤ 'F' then some (c.toNat - 'A'.toNat + 10)
  else none

/-- The bytes of a text in which every `%` with two digits stands for one byte. -/
def decodedBytes : List Char → List UInt8
  | '%' :: a :: b :: cs =>
    match hexValue? a, hexValue? b with
    | some a, some b => UInt8.ofNat (16 * a + b) :: decodedBytes cs
    | _, _ => String.utf8EncodeChar '%' ++ decodedBytes (a :: b :: cs)
  | c :: cs => String.utf8EncodeChar c ++ decodedBytes cs
  | [] => []

/-- The decoded text, none if its bytes are not UTF-8. -/
def percentDecode? (cs : List Char) : Option (List Char) :=
  (String.fromUTF8? ⟨(decodedBytes cs).toArray⟩).map (·.toList)

end Renaming.Url
