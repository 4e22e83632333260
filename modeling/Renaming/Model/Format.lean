import Renaming.Json.Decode
import Renaming.Json.Printer
import Renaming.Model.Assembly

/-!
# The model file

The JSON form of a model. A module needs its name, and fields, properties, parameters and local
variables need all their members; everything else may be missing.
-/

namespace Renaming

open Json

/-! ## Kinds and entities -/

def Kind.json (k : Kind) : Json := text k.tag

def Kind.ofJson? (value : Json) : Option Kind := (choice? value).bind ofTag?

def Entity.json : Entity → Json
  | type t => record [("entity", text "type"), ("ty", natural t)]
  | method t m => record [("entity", text "method"), ("ty", natural t), ("method", natural m)]
  | property t p => record [("entity", text "property"), ("ty", natural t), ("property", natural p)]
  | field t f => record [("entity", text "field"), ("ty", natural t), ("field", natural f)]
  | parameter t m p => record [("entity", text "parameter"), ("ty", natural t),
      ("method", natural m), ("param", natural p)]
  | var t m v => record [("entity", text "local"), ("ty", natural t), ("method", natural m),
      ("local", natural v)]

/-- The numbers in the fields of an entity, from what is left of it without its tag. -/
def Entity.numbers? (fields : List String) (rest : Json) : Option (List Nat) :=
  (record? fields rest).bind (·.mapM (Slot.required natural?))

/-- The entity with a tag and the rest of its document. -/
def Entity.ofTagged? (tag : String) (rest : Json) : Option Entity :=
  match tag with
  | "type" => match numbers? ["ty"] rest with
    | some [t] => some (type t)
    | _ => none
  | "method" => match numbers? ["ty", "method"] rest with
    | some [t, m] => some (method t m)
    | _ => none
  | "property" => match numbers? ["ty", "property"] rest with
    | some [t, p] => some (property t p)
    | _ => none
  | "field" => match numbers? ["ty", "field"] rest with
    | some [t, f] => some (field t f)
    | _ => none
  | "parameter" => match numbers? ["ty", "method", "param"] rest with
    | some [t, m, p] => some (parameter t m p)
    | _ => none
  | "local" => match numbers? ["ty", "method", "local"] rest with
    | some [t, m, v] => some (var t m v)
    | _ => none
  | _ => none

/-- Splits a document into its tag and the rest: the member called `entity` or the first item. -/
def Entity.splitTag? : Json → Option (String × Json)
  | object members =>
    match members.filter (·.1 == some "entity") with
    | [(_, string (some tag))] => some (tag, object (members.filter (·.1 != some "entity")))
    | _ => none
  | array (string (some tag) :: rest) => some (tag, array rest)
  | _ => none

/-- The entity that a document stands for, `outer` levels deep. It is kept whole until its tag is
known. -/
def Entity.ofJson? (outer : Nat) (value : Json) : Option Entity :=
  if value.keepable outer then (splitTag? value).bind fun (tag, rest) => ofTagged? tag rest
  else none

/-! ## Declarations -/

def FieldDecl.json (d : FieldDecl) : Json :=
  record [("name", text d.name), ("fieldType", text d.fieldType)]

def FieldDecl.ofJson? (value : Json) : Option FieldDecl :=
  match record? ["name", "fieldType"] value with
  | some [name, fieldType] => do return ⟨← name.required text?, ← fieldType.required text?⟩
  | _ => none

def PropertyDecl.json (d : PropertyDecl) : Json :=
  record [("name", text d.name), ("propertyType", text d.propertyType)]

def PropertyDecl.ofJson? (value : Json) : Option PropertyDecl :=
  match record? ["name", "propertyType"] value with
  | some [name, propertyType] => do return ⟨← name.required text?, ← propertyType.required text?⟩
  | _ => none

def ParameterDecl.json (d : ParameterDecl) : Json :=
  record [("name", text d.name), ("paramType", text d.parameterType)]

def ParameterDecl.ofJson? (value : Json) : Option ParameterDecl :=
  match record? ["name", "paramType"] value with
  | some [name, paramType] => do return ⟨← name.required text?, ← paramType.required text?⟩
  | _ => none

def LocalDecl.json (d : LocalDecl) : Json :=
  record [("name", text d.name), ("localType", text d.localType)]

def LocalDecl.ofJson? (value : Json) : Option LocalDecl :=
  match record? ["name", "localType"] value with
  | some [name, localType] => do return ⟨← name.required text?, ← localType.required text?⟩
  | _ => none

def MethodDecl.json (d : MethodDecl) : Json :=
  record [("name", text d.name), ("returnType", text d.returnType),
    ("parameters", array (d.parameters.map (·.json))), ("locals", array (d.locals.map (·.json))),
    ("body", text d.body)]

def MethodDecl.ofJson? (value : Json) : Option MethodDecl :=
  match record? ["name", "returnType", "parameters", "locals", "body"] value with
  | some [name, returnType, parameters, locals, body] => do
    return {
      name := ← name.withDefault "" text?
      returnType := ← returnType.withDefault "" text?
      parameters := ← parameters.withDefault [] (list? ParameterDecl.ofJson?)
      locals := ← locals.withDefault [] (list? LocalDecl.ofJson?)
      body := ← body.withDefault "" text? }
  | _ => none

def TypeDecl.json (d : TypeDecl) : Json :=
  record [("namespace", text d.space), ("name", text d.name),
    ("baseType", (d.baseType.map text).getD null), ("fields", array (d.fields.map (·.json))),
    ("properties", array (d.properties.map (·.json))), ("methods", array (d.methods.map (·.json)))]

def TypeDecl.ofJson? (value : Json) : Option TypeDecl :=
  match record? ["namespace", "name", "baseType", "fields", "properties", "methods"] value with
  | some [space, name, baseType, fields, properties, methods] => do
    return {
      space := ← space.withDefault "" text?
      name := ← name.withDefault "" text?
      baseType := ← baseType.nullable text?
      fields := ← fields.withDefault [] (list? FieldDecl.ofJson?)
      properties := ← properties.withDefault [] (list? PropertyDecl.ofJson?)
      methods := ← methods.withDefault [] (list? MethodDecl.ofJson?) }
  | _ => none

def Assembly.json (a : Assembly) : Json :=
  record [("name", text a.name), ("types", array (a.types.map (·.json)))]

def Assembly.ofJson? (value : Json) : Option Assembly :=
  match record? ["name", "types"] value with
  | some [name, types] => do
    return ⟨← name.required text?, ← types.withDefault [] (list? TypeDecl.ofJson?)⟩
  | _ => none

/-- The model that a text describes. -/
def Assembly.ofText? (text : String) : Option Assembly := decode? ofJson? text

/-- The text of a model file. -/
def Assembly.fileText (a : Assembly) : String := a.json.pretty

end Renaming
