import Renaming.Json.Decode
import Renaming.Text.Blank

/-!
# The JSON in an answer

A language model asked for JSON alone may put it into a code fence or write around it. Four readings
are tried, from strict to forgiving: the whole answer, the inside of its fence, the first object in
that, and the first object in the whole answer.
-/

namespace Renaming.Answer

open Text

/-! ## Fences -/

def fence : List Char := ['\x60', '\x60', '\x60']

/-- The rest after a leading fence. -/
def afterFence? : List Char → Option (List Char)
  | '\x60' :: '\x60' :: '\x60' :: rest => some rest
  | _ => none

/-- The text before a closing fence, or all of it if there is none. -/
def beforeFence (cs : List Char) : List Char :=
  match afterFence? (trimEnd cs).reverse with
  | some inside => inside.reverse
  | none => cs

/-- Without the first line, if that is a word of ASCII letters and digits or blank. -/
def withoutInfo (cs : List Char) : List Char :=
  match cs.dropWhile (· != '\n') with
  | [] => cs
  | _ :: rest => if (trimBoth (cs.takeWhile (· != '\n'))).all Char.isAlphanum then rest else cs

/-- The inside of a fence around the whole text, or the text itself. -/
def unfenced (cs : List Char) : List Char :=
  match afterFence? cs with
  | none => cs
  | some rest => trimBoth (beforeFence (withoutInfo rest))

/-! ## Objects -/

/-- Where a scan of an object stands. -/
inductive Scan where
  | code
  | quoted
  | escaped
deriving DecidableEq, Repr

/-- The object whose characters so far come in reverse, with `depth` braces open, up to the brace
that closes it. Braces in strings do not count. -/
def closeObject (object : List Char) (depth : Nat) : Scan → List Char → Option (List Char)
  | _, [] => none
  | .escaped, c :: rest => closeObject (c :: object) depth .quoted rest
  | .quoted, c :: rest =>
    closeObject (c :: object) depth
      (if c == '\\' then .escaped else if c == '"' then .code else .quoted) rest
  | .code, c :: rest =>
    if c == '"' then closeObject (c :: object) depth .quoted rest
    else if c == '\x7b' then closeObject (c :: object) (depth + 1) .code rest
    else if c == '\x7d' then
      if depth ≤ 1 then some (c :: object).reverse
      else closeObject (c :: object) (depth - 1) .code rest
    else closeObject (c :: object) depth .code rest

/-- The first stretch from an opening brace to the brace that closes it. -/
def findObject (cs : List Char) : Option (List Char) :=
  match cs.dropWhile (· != '\x7b') with
  | [] => none
  | c :: rest => closeObject [c] 1 .code rest

/-! ## Extraction -/

/-- No reading of an answer succeeded. -/
structure NotJson where
  /-- The start of the answer. -/
  preview : String
deriving DecidableEq, Repr

def NotJson.message (e : NotJson) : String :=
  "no valid JSON object in model response (preview: " ++ e.preview ++ ")"

def previewLength : Nat := 200

/-- The first of the four readings that gives a value. -/
def extract (value? : Json → Option α) (answer : String) : Except NotJson α :=
  let whole := trimBoth answer.toList
  let inside := unfenced whole
  let reading := fun cs => (Json.parse cs).bind value?
  match reading whole <|> reading inside <|> (findObject inside).bind reading <|>
      (findObject whole).bind reading with
  | some value => .ok value
  | none => .error ⟨String.ofList (whole.take previewLength)⟩

end Renaming.Answer
