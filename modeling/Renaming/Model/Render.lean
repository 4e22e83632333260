import Renaming.Model.Assembly
import Renaming.Text.Blank
import Renaming.Text.Lines

/-!
# Rendered code

The model as source text. Members are indented by four spaces a level, and types that follow each
other in one namespace share its block.
-/

namespace Renaming.Render

open Text

def indent : String := "    "

/-- A body line below a method that stands at an indent. -/
def bodyLine (margin line : String) : String :=
  if (trimBoth line.toList).isEmpty then "\n" else margin ++ indent ++ line ++ "\n"

def parameters (ps : List ParameterDecl) : String :=
  ", ".intercalate (ps.map fun p => p.parameterType ++ " " ++ p.name)

def method (m : MethodDecl) (margin : String) : String :=
  margin ++ "public " ++ m.returnType ++ " " ++ m.name ++ "(" ++ parameters m.parameters ++ ")\n" ++
  margin ++ "\x7b\n" ++ String.join ((lines m.body).map (bodyLine margin)) ++ margin ++ "\x7d\n"

def field (f : FieldDecl) (margin : String) : String :=
  margin ++ "private " ++ f.fieldType ++ " " ++ f.name ++ ";\n"

def property (p : PropertyDecl) (margin : String) : String :=
  margin ++ "public " ++ p.propertyType ++ " " ++ p.name ++ " \x7b get; set; \x7d\n"

/-- The base of a type, unless it is the base of all types. -/
def baseClause : Option String → String
  | some base => if base == "object" then "" else " : " ++ base
  | none => ""

/-- The methods of a type. A blank line stands before each, except before the first member of a
type. -/
def methods (hasOthers : Bool) : List MethodDecl → String
  | [] => ""
  | m :: ms =>
    (if hasOthers then "\n" else "") ++ method m indent ++ methods true ms

def type (d : TypeDecl) : String :=
  "public class " ++ d.name ++ baseClause d.baseType ++ "\n\x7b\n" ++
  String.join (d.fields.map (field · indent)) ++
  String.join (d.properties.map (property · indent)) ++
  methods (!d.fields.isEmpty || !d.properties.isEmpty) d.methods ++ "\x7d\n"

/-- The lines of a block with an indent before each that is not empty. -/
def indentBlock (block : String) : String :=
  String.join ((lines block).map fun line => if line.isEmpty then "\n" else indent ++ line ++ "\n")

/-! ## Namespaces -/

def openSpace (space : String) : String :=
  if space.isEmpty then "" else "\nnamespace " ++ space ++ "\n\x7b\n"

def closeSpace (space : String) : String := if space.isEmpty then "" else "\x7d\n"

def typeIn (space : String) (d : TypeDecl) : String :=
  "\n" ++ (if space.isEmpty then type d else indentBlock (type d))

/-- The types that follow inside the block of `space`, and its end. -/
def typesAfter (space : String) : List TypeDecl → String
  | [] => closeSpace space
  | d :: ds =>
    if d.space == space then typeIn space d ++ typesAfter space ds
    else closeSpace space ++ openSpace d.space ++ typeIn d.space d ++ typesAfter d.space ds

/-- The whole module. Before its first type the block of no namespace is open. -/
def module (a : Assembly) : String := "// " ++ a.name ++ "\n" ++ typesAfter "" a.types

end Renaming.Render

namespace Renaming.Assembly

/-- The code of an entity, for parameters and local variables that of their method. -/
def code? (a : Assembly) : Entity → Option String
  | .type t => (a.type? t).map Render.type
  | .method t m => (a.method? t m).map (Render.method · "")
  | .property t p => (a.property? t p).map (Render.property · "")
  | .field t f => (a.field? t f).map (Render.field · "")
  | .parameter t m _ => (a.method? t m).map (Render.method · "")
  | .var t m _ => (a.method? t m).map (Render.method · "")

def code (a : Assembly) : String := Render.module a

end Renaming.Assembly
