import Renaming.Json.Reader
import Renaming.Proofs.Text.Blank

/-!
# The grammar of JSON

Which characters are written for which document. What single digits and escapes stand for is shared
with the reader, how they are put together is not. A phrase is a value, or what stands between the
brackets of an array or an object.
-/

namespace Renaming.Json

def Spaces (cs : List Char) : Prop := ∀ c ∈ cs, isSpace c = true

def Digits (cs : List Char) : Prop := ∀ c ∈ cs, c.isDigit = true

/-! ## Numbers -/

inductive WholeText : List Char → Nat → Prop
  | zero : WholeText ['0'] 0
  | positive {c : Char} {cs : List Char} : c.isDigit = true → c ≠ '0' → Digits cs →
      WholeText (c :: cs) (natOfDigits ((c :: cs).map digitValue))

inductive FractionText : List Char → List Nat → Prop
  | absent : FractionText [] []
  | digits {c : Char} {cs : List Char} : Digits (c :: cs) →
      FractionText ('.' :: c :: cs) ((c :: cs).map digitValue)

inductive SignText : List Char → Int → Prop
  | absent : SignText [] 1
  | plus : SignText ['+'] 1
  | minus : SignText ['-'] (-1)

inductive ExponentText : List Char → Option Int → Prop
  | absent : ExponentText [] none
  | digits {mark c : Char} {sign cs : List Char} {factor : Int} : mark = 'e' ∨ mark = 'E' →
      SignText sign factor → Digits (c :: cs) →
      ExponentText (mark :: (sign ++ c :: cs))
        (some (factor * natOfDigits ((c :: cs).map digitValue)))

inductive UnsignedText (negative : Bool) : List Char → Number → Prop
  | mk {w f e : List Char} {whole : Nat} {fraction : List Nat} {exponent : Option Int} :
      WholeText w whole → FractionText f fraction → ExponentText e exponent →
      UnsignedText negative (w ++ (f ++ e)) ⟨negative, whole, fraction, exponent⟩

inductive NumberText : List Char → Number → Prop
  | positive {cs : List Char} {n : Number} : UnsignedText false cs n → NumberText cs n
  | negative {cs : List Char} {n : Number} : UnsignedText true cs n → NumberText ('-' :: cs) n

/-! ## Strings -/

/-- What stands between the quotes of a string. -/
inductive BodyText : List Char → List Piece → Prop
  | nil : BodyText [] []
  | char {c : Char} {cs : List Char} {ps : List Piece} : c ≠ '"' → c ≠ '\\' → ¬ c < ' ' →
      BodyText cs ps → BodyText (c :: cs) (.char c :: ps)
  | short {e c : Char} {cs : List Char} {ps : List Piece} : shortEscape e = some c →
      BodyText cs ps → BodyText ('\\' :: e :: cs) (.char c :: ps)
  | unit {a b c d : Char} {u : Nat} {cs : List Char} {ps : List Piece} :
      hexFour a b c d = some u → BodyText cs ps →
      BodyText ('\\' :: 'u' :: a :: b :: c :: d :: cs) (pieceOfUnit u :: ps)

/-- The text that pieces stand for, none if half of a pair stands alone. -/
def joined (ps : List Piece) : Option String := (joinAfter [] ps).map String.ofList

/-! ## Documents -/

inductive Phrase where
  | value (v : Json)
  | items (vs : List Json)
  | member (m : Option String × Json)
  | members (ms : List (Option String × Json))

/-- The characters are written for the phrase. Blanks come after the parts of an array or object,
and the blanks before its first part belong to the bracket. -/
inductive Spells : List Char → Phrase → Prop
  | null : Spells ['n', 'u', 'l', 'l'] (.value .null)
  | yes : Spells ['t', 'r', 'u', 'e'] (.value (.bool true))
  | no : Spells ['f', 'a', 'l', 's', 'e'] (.value (.bool false))
  | number {cs : List Char} {n : Number} : NumberText cs n → Spells cs (.value (.number n))
  | string {cs : List Char} {ps : List Piece} : BodyText cs ps →
      Spells ('"' :: (cs ++ ['"'])) (.value (.string (joined ps)))
  | noItems {s : List Char} : Spaces s → Spells ('[' :: (s ++ [']'])) (.value (.array []))
  | array {s cs : List Char} {vs : List Json} : Spaces s → Spells cs (.items vs) →
      Spells ('[' :: (s ++ (cs ++ [']']))) (.value (.array vs))
  | noMembers {s : List Char} : Spaces s →
      Spells ('\x7b' :: (s ++ ['\x7d'])) (.value (.object []))
  | object {s cs : List Char} {ms : List (Option String × Json)} : Spaces s →
      Spells cs (.members ms) → Spells ('\x7b' :: (s ++ (cs ++ ['\x7d']))) (.value (.object ms))
  | lastItem {cs s : List Char} {v : Json} : Spells cs (.value v) → Spaces s →
      Spells (cs ++ s) (.items [v])
  | nextItem {cs s s' rest : List Char} {v : Json} {vs : List Json} : Spells cs (.value v) →
      Spaces s → Spaces s' → Spells rest (.items vs) →
      Spells (cs ++ (s ++ ',' :: (s' ++ rest))) (.items (v :: vs))
  | member {key s s' cs : List Char} {ps : List Piece} {v : Json} : BodyText key ps → Spaces s →
      Spaces s' → Spells cs (.value v) →
      Spells ('"' :: (key ++ '"' :: (s ++ ':' :: (s' ++ cs)))) (.member (joined ps, v))
  | lastMember {cs s : List Char} {m : Option String × Json} : Spells cs (.member m) → Spaces s →
      Spells (cs ++ s) (.members [m])
  | nextMember {cs s s' rest : List Char} {m : Option String × Json}
      {ms : List (Option String × Json)} : Spells cs (.member m) → Spaces s → Spaces s' →
      Spells rest (.members ms) → Spells (cs ++ (s ++ ',' :: (s' ++ rest))) (.members (m :: ms))

end Renaming.Json
