import Renaming.Text.Blank
import Renaming.Text.Case

/-!
# Kinds of program elements
-/

namespace Renaming

/-- What kind of program element a name belongs to. -/
inductive Kind where
  | method
  | type
  | property
  | field
  | parameter
  | var
deriving DecidableEq, Repr, Inhabited

namespace Kind

def all : List Kind := [method, type, property, field, parameter, var]

/-- The word for a kind. Types are called classes. -/
def tag : Kind → String
  | method => "method"
  | type => "class"
  | property => "property"
  | field => "field"
  | parameter => "parameter"
  | var => "variable"

/-- The kind with exactly this tag. -/
def ofTag? (text : String) : Option Kind := all.find? (·.tag == text)

/-- The kind that a loosely written tag means: blanks around it and the case of its letters do not
count, and `type` is another word for a class. -/
def parse? (text : String) : Option Kind :=
  let word := String.ofList (Text.lower (Text.trimBoth text.toList))
  if word == "type" then some type else ofTag? word

end Kind

end Renaming
