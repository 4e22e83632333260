import Renaming.Model.Render
import Renaming.Prompt
import Renaming.Text.Word

/-!
# Rename requests

All that is needed to ask for a new name, read from the model once: the code around the entity, a
few facts about it, and for a method its parameters, which are renamed along with it.
-/

namespace Renaming

/-- What an oracle is asked about one name. -/
structure Question where
  excerpt : String
  name : String
  kind : Kind
  context : String
deriving DecidableEq, Repr, Inhabited

/-- A parameter of a method that is to be renamed. -/
structure ParameterSlot where
  entity : Entity
  name : String
  parameterType : String
deriving DecidableEq, Repr, Inhabited

structure RenameRequest where
  entity : Entity
  kind : Kind
  currentName : String
  excerpt : String
  context : String
  /-- The method that declares a parameter or local variable. -/
  methodName : Option String
  parameters : List ParameterSlot
deriving DecidableEq, Repr, Inhabited

/-- How many characters are shown on each side of the first use of a local variable. -/
def useRadius : Nat := 500

/-- The code around the first use of a name as a whole word, or all code if there is none. The name
is searched for with a regular expression, which the program cannot build from a name that takes
more than ten megabytes once it is compiled. Then it shows all code. This limit is left out here. -/
def surroundingCode (code name : String) : String :=
  match Text.findWord name.toList code.toList with
  | some (before, after) => String.ofList (Text.around before after useRadius)
  | none => code

def parameterContext (methodName parameterType : String) : String :=
  "Parameter in method " ++ methodName ++ ", Type: " ++ parameterType

namespace Assembly

/-- How many entities of a kind a type declares. -/
def countIn (a : Assembly) (kind : Kind) (t : Nat) : Nat :=
  (a.entities kind).countP fun
    | .method t' _ => t' == t
    | .property t' _ => t' == t
    | _ => false

/-- The parameters of a method in the order of declaration. -/
def parameterSlots (a : Assembly) (t m : Nat) : List ParameterSlot :=
  (a.entities .parameter).filterMap fun e =>
    match e with
    | .parameter t' m' _ =>
      if t' == t && m' == m then
        (a.name? e).map fun name => ⟨e, name, (a.signature? e).getD ""⟩
      else none
    | _ => none

/-- What a prompt says about an entity besides its code. -/
def context (a : Assembly) (entity : Entity) (methodName : Option String) : String :=
  let signature := (a.signature? entity).getD ""
  match entity with
  | .type t =>
    s!"Base type: {signature}, Methods: {a.countIn .method t}, Properties: {a.countIn .property t}"
  | .method t m => s!"Return type: {signature}, Parameters: {(a.parameterSlots t m).length}"
  | .parameter _ _ _ => parameterContext (methodName.getD "") signature
  | _ => "Type: " ++ signature

/-- The code of an entity; for a local variable only what surrounds its first use. -/
def excerpt (a : Assembly) (entity : Entity) (name : String) : String :=
  let code := (a.code? entity).getD ""
  match entity with
  | .var _ _ _ => surroundingCode code name
  | _ => code

/-- The request for a live entity. -/
def request (a : Assembly) (entity : Entity) : Except ModelError RenameRequest :=
  match a.name? entity with
  | none => .error (.entityNotFound entity)
  | some currentName =>
    let methodName := entity.declaringMethod?.bind a.name?
    .ok {
      entity
      kind := entity.kind
      currentName
      excerpt := Text.truncate (a.excerpt entity currentName) Prompt.excerptLimit
      context := a.context entity methodName
      methodName
      parameters := match entity with
        | .method t m => a.parameterSlots t m
        | _ => [] }

end Assembly

namespace RenameRequest

/-- The question for the entity itself. -/
def question (r : RenameRequest) : Question := ⟨r.excerpt, r.currentName, r.kind, r.context⟩

/-- The questions for the parameters that are renamed along with it. They come without code. -/
def parameterQuestions (r : RenameRequest) : List Question :=
  if r.kind == .method then
    r.parameters.map fun p =>
      ⟨"", p.name, .parameter, parameterContext r.currentName p.parameterType⟩
  else []

end RenameRequest

end Renaming
