import Renaming.Json.Basic

/-!
# Writing JSON

Two layouts: compact, without spaces, and pretty, with one item a line and two spaces a level.
Members keep their order. Only quotes, backslashes and control characters are escaped.
-/

namespace Renaming.Json

/-! ## Numbers -/

def natChars (n : Nat) : List Char := Nat.toDigits 10 n

def exponentChars (exponent : Int) : List Char :=
  'e' :: (if exponent < 0 then '-' else '+') :: natChars exponent.natAbs

def Number.chars (n : Number) : List Char :=
  (if n.negative then ['-'] else []) ++ natChars n.whole ++
    (if n.fraction.isEmpty then [] else '.' :: n.fraction.flatMap natChars) ++
    (match n.exponent with
      | some exponent => exponentChars exponent
      | none => [])

/-! ## Strings -/

def hexDigit (n : Nat) : Char := (Nat.toDigits 16 n).headD '0'

/-- One character of a string, escaped if it has to be. -/
def escape (c : Char) : List Char :=
  if c == '"' then ['\\', '"']
  else if c == '\\' then ['\\', '\\']
  else if c == '\x08' then ['\\', 'b']
  else if c == '\x0c' then ['\\', 'f']
  else if c == '\n' then ['\\', 'n']
  else if c == '\r' then ['\\', 'r']
  else if c == '\t' then ['\\', 't']
  else if c < ' ' then ['\\', 'u', '0', '0', hexDigit (c.toNat / 16), hexDigit (c.toNat % 16)]
  else [c]

/-- A string literal. One that denotes no text is written as half of a pair. -/
def quoted (text : Option String) : List Char :=
  match text with
  | some text => '"' :: (text.toList.flatMap escape ++ ['"'])
  | none => ['"', '\\', 'u', 'd', '8', '0', '0', '"']

/-! ## Documents -/

/-- What stands between the tokens of an array or object. -/
structure Layout where
  /-- After an opening bracket, a comma, and before a closing bracket, at a level of nesting. -/
  newline : Nat → List Char
  /-- After a colon. -/
  gap : List Char

def Layout.compact : Layout := ⟨fun _ => [], []⟩

def Layout.pretty : Layout := ⟨fun level => '\n' :: List.replicate (2 * level) ' ', [' ']⟩

mutual

/-- The document, which stands at a level of nesting. -/
def chars (layout : Layout) (level : Nat) : Json → List Char
  | null => ['n', 'u', 'l', 'l']
  | bool true => ['t', 'r', 'u', 'e']
  | bool false => ['f', 'a', 'l', 's', 'e']
  | number literal => literal.chars
  | string text => quoted text
  | array [] => ['[', ']']
  | array (item :: items) =>
    '[' :: (layout.newline (level + 1) ++ chars layout (level + 1) item ++
      itemChars layout (level + 1) items ++ layout.newline level ++ [']'])
  | object [] => ['\x7b', '\x7d']
  | object ((key, value) :: members) =>
    '\x7b' :: (layout.newline (level + 1) ++ quoted key ++ ':' :: layout.gap ++
      chars layout (level + 1) value ++ memberChars layout (level + 1) members ++
      layout.newline level ++ ['\x7d'])

/-- The items after the first. -/
def itemChars (layout : Layout) (level : Nat) : List Json → List Char
  | [] => []
  | item :: items =>
    ',' :: (layout.newline level ++ chars layout level item ++ itemChars layout level items)

/-- The members after the first. -/
def memberChars (layout : Layout) (level : Nat) : List (Option String × Json) → List Char
  | [] => []
  | (key, value) :: members =>
    ',' :: (layout.newline level ++ quoted key ++ ':' :: layout.gap ++ chars layout level value ++
      memberChars layout level members)

end

def compact (value : Json) : String := String.ofList (value.chars .compact 0)

def pretty (value : Json) : String := String.ofList (value.chars .pretty 0)

end Renaming.Json
