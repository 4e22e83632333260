import Renaming.Model.Kind

/-!
# Entities

A handle names a program element by its place: the number of its type in the module, then the
numbers of the members within, all in the order of declaration.
-/

namespace Renaming

inductive Entity where
  | type (type : Nat)
  | method (type method : Nat)
  | property (type property : Nat)
  | field (type field : Nat)
  | parameter (type method parameter : Nat)
  | var (type method var : Nat)
deriving DecidableEq, Repr, Inhabited

namespace Entity

def kind : Entity → Kind
  | type _ => .type
  | method _ _ => .method
  | property _ _ => .property
  | field _ _ => .field
  | parameter _ _ _ => .parameter
  | var _ _ _ => .var

/-- The method that declares a parameter or local variable. -/
def declaringMethod? : Entity → Option Entity
  | parameter t m _ => some (method t m)
  | var t m _ => some (method t m)
  | _ => none

/-- The written form: what it is and the numbers of its place. -/
def label : Entity → String
  | type t => s!"type#{t}"
  | method t m => s!"method#{t}.{m}"
  | property t p => s!"property#{t}.{p}"
  | field t f => s!"field#{t}.{f}"
  | parameter t m p => s!"parameter#{t}.{m}.{p}"
  | var t m v => s!"local#{t}.{m}.{v}"

end Entity

end Renaming
