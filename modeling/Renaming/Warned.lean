/-!
# Warnings

Work that goes on after something odd reports it on the side.
-/

namespace Renaming

/-- A value and the warnings that came up on the way to it, in order. -/
structure Warned (α : Type) where
  value : α
  warnings : List String
deriving Repr, Inhabited

namespace Warned

def silent (value : α) : Warned α := ⟨value, []⟩

def map (f : α → β) (w : Warned α) : Warned β := ⟨f w.value, w.warnings⟩

end Warned

end Renaming
