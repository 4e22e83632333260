import Renaming.Proofs.Model.Handles

/-!
# Names as a lens

Reading and writing the name behind a live handle obey the laws of a lens, and handles do not get in
each other's way (`names_form_a_lens`). Of the rest of the model nothing changes.
-/

namespace Renaming

/-! ## Outlines -/

/-- The body of a method, and how many parameters and local variables it has. -/
def MethodDecl.outline (d : MethodDecl) : String × Nat × Nat :=
  (d.body, d.parameters.length, d.locals.length)

/-- The namespace of a type, how many fields and properties it has, and its methods. -/
def TypeDecl.outline (d : TypeDecl) : String × Nat × Nat × List (String × Nat × Nat) :=
  (d.space, d.fields.length, d.properties.length, d.methods.map (·.outline))

namespace Assembly

def outline (a : Assembly) : List (String × Nat × Nat × List (String × Nat × Nat)) :=
  a.types.map (·.outline)

theorem outline_nameless (a : Assembly) : a.nameless.outline = a.outline := by
  simp [outline, nameless, TypeDecl.outline, TypeDecl.nameless, MethodDecl.outline,
    MethodDecl.nameless, Function.comp_def]

theorem signature?_nameless (a : Assembly) (e : Entity) :
    a.nameless.signature? e = a.signature? e := by
  cases e <;>
    simp [signature?, method?, property?, field?, parameter?, local?, type?, nameless,
      TypeDecl.nameless, MethodDecl.nameless, Function.comp_def, Option.bind_map, Option.map_bind,
      Option.bind_assoc]

/-! ## Writing -/

variable {a : Assembly} {e f : Entity}

/-- What is written for one handle is written whether or not a live one was written before. -/
theorem setName_comm {old : String} (h : e ≠ f) (he : a.name? e = some old) (n m : String) :
    (a.setName e n).bind (·.setName f m) = (a.setName f m).bind (·.setName e n) := by
  have hf : (a.rename e n).name? f = a.name? f := name?_rename_of_ne a n h
  have he' : (a.rename f m).name? e = some old := (name?_rename_of_ne a m h.symm).trans he
  rw [setName_of_name? n he, Except.bind]
  cases hname : a.name? f with
  | none => rw [setName_of_dead m hname, setName_of_dead m (hf.trans hname), Except.bind]
  | some name =>
    rw [setName_of_name? m hname, setName_of_name? m (hf.trans hname), Except.bind,
      setName_of_name? n he', rename_comm a h]

theorem setNames_pair (a : Assembly) (e f : Entity) (n m : String) :
    a.setNames [(e, n), (f, m)] = (a.rename e n).rename f m := by
  simp [setNames, setName_getD]

/-- Writing to a live handle succeeds. Then its name is what was written, and all other names and
all that is no name stay. Writing the name that is there changes nothing, the second of two names
written to one handle wins, and writing to two handles commutes. Nothing is written to a handle
that is not live. -/
theorem names_form_a_lens (a : Assembly) (e : Entity) (n m : String) :
    (∀ old, a.name? e = some old →
      a.setName e old = .ok a ∧
      (∃ b, a.setName e n = .ok b ∧ b.name? e = some n ∧ (∀ f, f ≠ e → b.name? f = a.name? f) ∧
        (∀ f, b.signature? f = a.signature? f) ∧ b.outline = a.outline ∧
        b.nameless = a.nameless ∧ b.setName e m = a.setName e m) ∧
      ∀ f, f ≠ e → (a.setName e n).bind (·.setName f m) = (a.setName f m).bind (·.setName e n)) ∧
    (a.name? e = none → a.setName e n = .error (.entityNotFound e) ∧ a.rename e n = a) ∧
    ∀ f, f ≠ e → a.setNames [(e, n), (f, m)] = a.setNames [(f, m), (e, n)] := by
  refine ⟨?_, ?_, ?_⟩
  · intro old hold
    have hname : (a.rename e n).name? e = some n := by
      rw [name?_rename_self, hold, Option.map_some]
    have hnameless := a.nameless_rename e n
    refine ⟨?_, ⟨a.rename e n, setName_of_name? n hold, hname, ?_, ?_, ?_, hnameless, ?_⟩, ?_⟩
    · rw [setName_of_name? old hold, rename_name hold]
    · exact fun f hf => name?_rename_of_ne a n hf.symm
    · exact fun f => by rw [← signature?_nameless, hnameless, signature?_nameless]
    · rw [← outline_nameless, hnameless, outline_nameless]
    · rw [setName_of_name? m hold, setName_of_name? m hname, rename_rename]
    · exact fun f hf => setName_comm hf.symm hold n m
  · exact fun hdead => ⟨setName_of_dead n hdead, rename_of_name?_eq_none n hdead⟩
  · intro f hf
    rw [setNames_pair, setNames_pair, rename_comm a hf.symm]

/-! ### A parameter and a local variable with the same numbers -/

def sharedPlaces : Assembly :=
  ⟨"", [⟨"", "c", none, [], [], [⟨"a", "", [⟨"x", "int"⟩], [⟨"y", "int"⟩], ""⟩]⟩]⟩

theorem names_of_parameter_and_variable :
    ∃ b, sharedPlaces.setName (.parameter 0 0 0) "count" = .ok b ∧
      b.name? (.parameter 0 0 0) = some "count" ∧
      b.name? (.var 0 0 0) = sharedPlaces.name? (.var 0 0 0) ∧
      (b.setName (.var 0 0 0) "total").toOption =
        ((sharedPlaces.setName (.var 0 0 0) "total").bind
          (·.setName (.parameter 0 0 0) "count")).toOption := by
  obtain ⟨-, ⟨b, hb, hname, hothers, -⟩, hcomm⟩ :=
    (names_form_a_lens sharedPlaces (.parameter 0 0 0) "count" "total").1 "x" rfl
  have hne : Entity.var 0 0 0 ≠ .parameter 0 0 0 := by decide
  have hwritten := hcomm (.var 0 0 0) hne
  rw [hb] at hwritten
  exact ⟨b, hb, hname, hothers _ hne, congrArg Except.toOption hwritten⟩

end Assembly

end Renaming
