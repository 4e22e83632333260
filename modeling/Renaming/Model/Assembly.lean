import Renaming.Model.Entity

/-!
# Program models

A module with its types and their members. Only names are ever changed, one at a time.
-/

namespace Renaming

structure FieldDecl where
  name : String
  fieldType : String
deriving DecidableEq, Repr, Inhabited

structure PropertyDecl where
  name : String
  propertyType : String
deriving DecidableEq, Repr, Inhabited

structure ParameterDecl where
  name : String
  parameterType : String
deriving DecidableEq, Repr, Inhabited

structure LocalDecl where
  name : String
  localType : String
deriving DecidableEq, Repr, Inhabited

structure MethodDecl where
  name : String
  returnType : String
  parameters : List ParameterDecl
  locals : List LocalDecl
  /-- The statements as text. -/
  body : String
deriving DecidableEq, Repr, Inhabited

structure TypeDecl where
  space : String
  name : String
  baseType : Option String
  fields : List FieldDecl
  properties : List PropertyDecl
  methods : List MethodDecl
deriving DecidableEq, Repr, Inhabited

structure Assembly where
  name : String
  types : List TypeDecl
deriving DecidableEq, Repr, Inhabited

/-- What a model refuses. -/
inductive ModelError where
  /-- The handle names nothing in the model. -/
  | entityNotFound (entity : Entity)
  /-- The new name is blank or the same as the old one. -/
  | notActionable (oldName newName : String)
deriving DecidableEq, Repr

def ModelError.message : ModelError → String
  | entityNotFound entity => "Entity not found: " ++ entity.label
  | notActionable oldName newName =>
    "Suggestion " ++ oldName ++ " -> '" ++ newName ++ "' would not change anything"

namespace Assembly

/-! ## Looking up -/

def type? (a : Assembly) (t : Nat) : Option TypeDecl := a.types[t]?

def method? (a : Assembly) (t m : Nat) : Option MethodDecl := (a.type? t).bind (·.methods[m]?)

def property? (a : Assembly) (t p : Nat) : Option PropertyDecl :=
  (a.type? t).bind (·.properties[p]?)

def field? (a : Assembly) (t f : Nat) : Option FieldDecl := (a.type? t).bind (·.fields[f]?)

def parameter? (a : Assembly) (t m p : Nat) : Option ParameterDecl :=
  (a.method? t m).bind (·.parameters[p]?)

def local? (a : Assembly) (t m v : Nat) : Option LocalDecl := (a.method? t m).bind (·.locals[v]?)

def name? (a : Assembly) : Entity → Option String
  | .type t => (a.type? t).map (·.name)
  | .method t m => (a.method? t m).map (·.name)
  | .property t p => (a.property? t p).map (·.name)
  | .field t f => (a.field? t f).map (·.name)
  | .parameter t m p => (a.parameter? t m p).map (·.name)
  | .var t m v => (a.local? t m v).map (·.name)

/-- The type written at a declaration: of a type its base, of a method what it returns. -/
def signature? (a : Assembly) : Entity → Option String
  | .type t => (a.type? t).map (·.baseType.getD "object")
  | .method t m => (a.method? t m).map (·.returnType)
  | .property t p => (a.property? t p).map (·.propertyType)
  | .field t f => (a.field? t f).map (·.fieldType)
  | .parameter t m p => (a.parameter? t m p).map (·.parameterType)
  | .var t m v => (a.local? t m v).map (·.localType)

/-- The entities of a kind that one type declares, the type itself for types. -/
def entitiesOf (kind : Kind) (t : Nat) (d : TypeDecl) : List Entity :=
  match kind with
  | .type => [.type t]
  | .method => (List.range d.methods.length).map (.method t)
  | .property => (List.range d.properties.length).map (.property t)
  | .field => (List.range d.fields.length).map (.field t)
  | .parameter =>
    d.methods.zipIdx.flatMap fun (d, m) => (List.range d.parameters.length).map (.parameter t m)
  | .var => d.methods.zipIdx.flatMap fun (d, m) => (List.range d.locals.length).map (.var t m)

/-- All entities of a kind in the order of declaration. -/
def entities (a : Assembly) (kind : Kind) : List Entity :=
  a.types.zipIdx.flatMap fun (d, t) => entitiesOf kind t d

/-! ## Renaming -/

/-- Writes at a place of a list, none if there is no such place or nothing to write there. -/
def writeAt? {α : Type} (xs : List α) (i : Nat) (write : α → Option α) : Option (List α) :=
  xs[i]?.bind fun x => (write x).map fun x => xs.set i x

def writeType? (a : Assembly) (t : Nat) (write : TypeDecl → Option TypeDecl) : Option Assembly :=
  (writeAt? a.types t write).map fun types => { a with types }

def writeMethod? (a : Assembly) (t m : Nat) (write : MethodDecl → Option MethodDecl) :
    Option Assembly :=
  a.writeType? t fun d => (writeAt? d.methods m write).map fun methods => { d with methods }

/-- Writes a name to the place that a handle stands for, none if there is no such place. -/
def writeName? (a : Assembly) (entity : Entity) (name : String) : Option Assembly :=
  match entity with
  | .type t => a.writeType? t fun d => some { d with name }
  | .method t m => a.writeMethod? t m fun d => some { d with name }
  | .property t p => a.writeType? t fun d =>
    (writeAt? d.properties p fun d => some { d with name }).map fun properties =>
      { d with properties }
  | .field t f => a.writeType? t fun d =>
    (writeAt? d.fields f fun d => some { d with name }).map fun fields => { d with fields }
  | .parameter t m p => a.writeMethod? t m fun d =>
    (writeAt? d.parameters p fun d => some { d with name }).map fun parameters =>
      { d with parameters }
  | .var t m v => a.writeMethod? t m fun d =>
    (writeAt? d.locals v fun d => some { d with name }).map fun locals => { d with locals }

/-- Gives a live entity another name. -/
def setName (a : Assembly) (entity : Entity) (name : String) : Except ModelError Assembly :=
  match a.writeName? entity name with
  | some a => .ok a
  | none => .error (.entityNotFound entity)

end Assembly

end Renaming
