/-!
# JSON documents

A document is kept as it was written, as far as reading it may depend on that: a number is its
literal, an object lists its members in order with repetitions, and a string whose escapes name half
of a surrogate pair denotes no text. Such a string is only an error where the text is needed.
-/

namespace Renaming

namespace Json

/-- A number literal: `-12.50e+3` has whole part 12, fraction digits 5 and 0, and exponent 3. -/
structure Number where
  negative : Bool
  whole : Nat
  fraction : List Nat
  exponent : Option Int
deriving DecidableEq, Repr, Inhabited

end Json

inductive Json where
  | null
  | bool (value : Bool)
  | number (literal : Json.Number)
  | string (text : Option String)
  | array (items : List Json)
  | object (members : List (Option String × Json))
deriving Inhabited, Repr

namespace Json

def text (s : String) : Json := string (some s)

def natural (n : Nat) : Json := number ⟨false, n, [], none⟩

/-- An object whose keys are texts. -/
def record (members : List (String × Json)) : Json :=
  object (members.map fun (key, value) => (some key, value))

/-! ## Nesting -/

mutual

/-- How many arrays and objects enclose the deepest value, this one counted. -/
def height : Json → Nat
  | array items => heightItems items + 1
  | object members => heightMembers members + 1
  | _ => 0

def heightItems : List Json → Nat
  | [] => 0
  | item :: items => max (height item) (heightItems items)

def heightMembers : List (Option String × Json) → Nat
  | [] => 0
  | (_, value) :: members => max (height value) (heightMembers members)

end

/-- Arrays and objects may be nested this deep in a value that is kept. -/
def nestingLimit : Nat := 127

end Json

end Renaming
