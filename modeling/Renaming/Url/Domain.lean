import Renaming.Text.Compose
import Renaming.Text.Split
import Renaming.Url.DomainTable
import Renaming.Url.LabelTable
import Renaming.Url.Punycode

/-!
# Domain names

What a domain name is in ASCII is for a library to say, whose tables change with every version of
Unicode. So it is a parameter here (`DomainRules`). The program takes the rules of UTS #46 with the
tables of Unicode 17: a name is put into its plain form, which is small, composed and free of
compatibility forms. Its labels are checked, and those that still hold characters beyond ASCII are
written in ASCII.
-/

namespace Renaming.Url

/-! ## Plain form -/

/-- In the run the characters from the first to the last. -/
def inRuns (runs : List (Nat × Nat)) (n : Nat) : Bool :=
  runs.any fun (first, last) => first ≤ n && n ≤ last

def shifted? (n : Nat) : Option Nat :=
  (shiftRuns.find? fun (first, last, _) => first ≤ n && n ≤ last).map fun (first, _, image) =>
    image + (n - first)

def imaged? (n : Nat) : Option (List Char) :=
  imageRuns.findSome? fun (first, images) =>
    if n < first then none else (images.splitOn " ")[n - first]?.map (·.toList)

/-- What a character becomes, none if no domain may hold it. -/
def image? (c : Char) : Option (List Char) :=
  let n := c.toNat
  if n < 0x80 then some [c.toLower]
  else if inRuns bannedRuns n then none
  else if inRuns droppedRuns n then some []
  else if pairRuns.any fun (first, last) => first ≤ n && n ≤ last && (n - first) % 2 == 0 then
    some [Char.ofNat (n + 1)]
  else match shifted? n with
    | some n => some [Char.ofNat n]
    | none => some ((imaged? n).getD [c])

def plainForm? (cs : List Char) : Option (List Char) := do
  return Text.composed (← cs.mapM image?).flatten

def isASCII (cs : List Char) : Bool := cs.all fun c => c.toNat < 0x80

/-! ## Marks and joiners -/

def isMark (c : Char) : Bool := inRuns nonspacingRuns c.toNat || inRuns spacingRuns c.toNat

def nonJoiner : Char := '\u200c'

def isJoiner (c : Char) : Bool := c == nonJoiner || c == '\u200d'

/-- A mark of the class that joins the letters around it. -/
def isVirama (c : Char) : Bool := Text.combiningClass c == 9

/-- Letters join across the character: a mark without room of its own, or the sign of a nasal in
Adlam, which is a letter. -/
def isTransparent (c : Char) : Bool := inRuns nonspacingRuns c.toNat || c.toNat == 0x1E94B

/-- The first character that letters do not join across is in one of the runs. -/
def startsJoining (runs : List (Nat × Nat)) (cs : List Char) : Bool :=
  (cs.find? fun c => !isTransparent c).any fun c => inRuns runs c.toNat

/-- Joiners stand only behind a virama, and the one that keeps letters apart also between letters
that would join. The characters `before` come in reverse. -/
def joinersFit (before : List Char) : List Char → Bool
  | [] => true
  | c :: cs =>
    (!isJoiner c || before.head?.any isVirama ||
      (c == nonJoiner && startsJoining joinsNextRuns before &&
        startsJoining joinsPreviousRuns cs)) && joinersFit (c :: before) cs

/-- The label may stand in a name. It does not start with a mark. -/
def isLabel (cs : List Char) : Bool := joinersFit [] cs && !cs.head?.any isMark

/-! ## Directions -/

inductive Direction where
  | left
  | right
  | arabicDigit
  | europeanDigit
  | neutral
  | mark
deriving DecidableEq, Repr, Inhabited

/-- The way a character is written. Blanks and controls of ASCII are refused at last anyway. -/
def direction (c : Char) : Direction :=
  let n := c.toNat
  if n < 0x80 then if c.isAlpha then .left else if c.isDigit then .europeanDigit else .neutral
  else if inRuns rightRuns n then .right
  else if inRuns arabicDigitRuns n then .arabicDigit
  else if inRuns europeanDigitRuns n then .europeanDigit
  else if inRuns nonspacingRuns n then if inRuns leftMarkRuns n then .left else .mark
  else if inRuns neutralRuns n then .neutral
  else .left

def Direction.isRight (d : Direction) : Bool := d == right || d == arabicDigit

/-- The direction at the end of a label, where marks do not count. -/
def lastDirection? (ds : List Direction) : Option Direction := ds.reverse.find? (· != .mark)

/-- Beside names from right to left a label has one direction, from its first character on, and ends
with a letter or a digit. It does not mix Arabic and European digits from right to left. -/
def keepsDirection (ds : List Direction) : Bool :=
  match ds with
  | [] => true
  | .left :: _ =>
    ds.all (!·.isRight) && [some .left, some .europeanDigit].contains (lastDirection? ds)
  | .right :: _ =>
    !ds.contains .left && !(ds.contains .arabicDigit && ds.contains .europeanDigit) &&
      [some .right, some .arabicDigit, some .europeanDigit].contains (lastDirection? ds)
  | _ => false

/-- If one label is written from right to left, then all labels keep to their directions. -/
def directionsFit (labels : List (List Char)) : Bool :=
  let directions := labels.map (·.map direction)
  !directions.any (·.any Direction.isRight) || directions.all keepsDirection

/-! ## Labels -/

/-- Labels with this start are written in ASCII already. -/
def encodedMark : List Char := ['x', 'n', '-', '-']

def asciiLabel (label : List Char) : List Char :=
  if isASCII label then label else encodedMark ++ Punycode.encode label

/-- What an encoded label stands for, if that may be encoded and is written like this. -/
def decodedLabel? (cs : List Char) : Option (List Char) :=
  match Punycode.decode? (cs.drop encodedMark.length) with
  | some label =>
    if !isASCII label && !encodedMark.isPrefixOf label && isLabel label &&
        plainForm? label == some label && asciiLabel label == cs then some label
    else none
  | none => none

/-- A label of a plain form, decoded. -/
def label? (cs : List Char) : Option (List Char) :=
  if encodedMark.isPrefixOf cs then decodedLabel? cs
  else if isASCII cs || isLabel cs then some cs
  else none

/-! ## Names -/

/-- Characters of ASCII that no domain name may hold. -/
def isForbiddenInDomain (c : Char) : Bool :=
  c.toNat ≤ 0x20 || c.toNat == 0x7F || "%#/:<>?@[\\]^|".toList.contains c

/-- A domain name in ASCII, from its plain form. -/
def domainOfPlain? (plain : List Char) : Option (List Char) := do
  let labels ← (Text.splitAt (· == '.') plain).mapM label?
  let name := List.intercalate ['.'] (labels.map asciiLabel)
  if !directionsFit labels || name.any isForbiddenInDomain then none else some name

/-- A domain name in ASCII. -/
def domain? (cs : List Char) : Option (List Char) := plainForm? cs >>= domainOfPlain?

/-- How domain names are written in ASCII, none for names that are refused. -/
class DomainRules where
  toASCII? : List Char → Option (List Char)

instance : DomainRules := ⟨domain?⟩

end Renaming.Url
