import Mathlib.Data.List.Basic
import Renaming.Model.Assembly

/-!
# The names in a model

A model is what is left of it without names, together with the name behind each handle
(`eq_of_names`). Renaming an entity changes its name and nothing else (`name?_rename`,
`nameless_rename`). Everything else that is proved about renaming follows from these three, and the
program renames wherever it finds a name (`writeName?_eq`).
-/

namespace Renaming

/-! ## Lists of declarations -/

theorem map_getElem?_modify {α β : Type} (l : List α) (i j : Nat) (f : α → α) (g : α → β) :
    (l.modify i f)[j]?.map g = if i = j then l[j]?.map (g ∘ f) else l[j]?.map g := by
  rw [List.getElem?_modify]
  split <;> simp

theorem bind_getElem?_modify {α β : Type} (l : List α) (i j : Nat) (f : α → α) (g : α → Option β) :
    (l.modify i f)[j]?.bind g = if i = j then l[j]?.bind (g ∘ f) else l[j]?.bind g := by
  rw [List.getElem?_modify]
  split <;> simp [Option.bind_map]

theorem map_modify_eq {α β : Type} (l : List α) (i : Nat) (f : α → α) (g : α → β)
    (h : ∀ x, g (f x) = g x) : (l.modify i f).map g = l.map g := by
  apply List.ext_getElem?
  intro j
  rw [List.getElem?_map, map_getElem?_modify, List.getElem?_map]
  split <;> simp [Function.comp_def, h]

/-- Lists are equal if what is left of their items is, and the items are wherever that is. -/
theorem eq_of_map_eq {α β : Type} {l l' : List α} (rest : α → β)
    (hrest : l.map rest = l'.map rest)
    (hitem : ∀ (i : Nat) (x x' : α), l[i]? = some x → l'[i]? = some x' →
      rest x = rest x' → x = x') :
    l = l' := by
  apply List.ext_getElem?
  intro i
  have hi := congrArg (·[i]?) hrest
  simp only [List.getElem?_map] at hi
  cases hx : l[i]? with
  | none => cases hx' : l'[i]? <;> simp_all
  | some x =>
    cases hx' : l'[i]? with
    | none => simp_all
    | some x' =>
      rw [hx, hx'] at hi
      rw [hitem i x x' hx hx' (by simpa using hi)]

theorem eq_of_map_names {α β : Type} {l l' : List α} (name : α → String) (rest : α → β)
    (hinj : ∀ x x', rest x = rest x' → name x = name x' → x = x')
    (hrest : l.map rest = l'.map rest)
    (hname : ∀ i : Nat, l[i]?.map name = l'[i]?.map name) : l = l' := by
  refine eq_of_map_eq rest hrest fun i x x' hx hx' hxx => hinj x x' hxx ?_
  simpa [hx, hx'] using hname i

/-! ## What is left without names -/

def MethodDecl.nameless (d : MethodDecl) : MethodDecl :=
  { d with
    name := ""
    parameters := d.parameters.map ({ · with name := "" })
    locals := d.locals.map ({ · with name := "" }) }

def TypeDecl.nameless (d : TypeDecl) : TypeDecl :=
  { d with
    name := ""
    fields := d.fields.map ({ · with name := "" })
    properties := d.properties.map ({ · with name := "" })
    methods := d.methods.map (·.nameless) }

/-- All of a model but the names of its entities. -/
def Assembly.nameless (a : Assembly) : Assembly := { a with types := a.types.map (·.nameless) }

theorem MethodDecl.eq_of_names (d d' : MethodDecl) (hrest : d.nameless = d'.nameless)
    (hname : d.name = d'.name)
    (hpar : ∀ p : Nat, d.parameters[p]?.map (·.name) = d'.parameters[p]?.map (·.name))
    (hvar : ∀ v : Nat, d.locals[v]?.map (·.name) = d'.locals[v]?.map (·.name)) : d = d' := by
  obtain ⟨name, result, parameters, locals, body⟩ := d
  obtain ⟨name', result', parameters', locals', body'⟩ := d'
  simp only [nameless, mk.injEq, true_and] at hrest hname hpar hvar
  obtain ⟨rfl, hp, hv, rfl⟩ := hrest
  have hparameters : parameters = parameters' := by
    refine eq_of_map_names (·.name) _ ?_ hp hpar
    rintro ⟨name, type⟩ ⟨name', type'⟩ hrest hname
    simp_all
  have hlocals : locals = locals' := by
    refine eq_of_map_names (·.name) _ ?_ hv hvar
    rintro ⟨name, type⟩ ⟨name', type'⟩ hrest hname
    simp_all
  subst hname hparameters hlocals
  rfl

/-! ## One type

A handle starts with the number of its type. The rest of it is a place in that type. -/

/-- The number of the type that an entity belongs to. -/
def Entity.home : Entity → Nat
  | type t | method t _ | property t _ | field t _ | parameter t _ _ | var t _ _ => t

namespace TypeDecl

/-- The name at a place in the type. -/
def nameAt? (d : TypeDecl) : Entity → Option String
  | .type _ => some d.name
  | .method _ m => d.methods[m]?.map (·.name)
  | .property _ p => d.properties[p]?.map (·.name)
  | .field _ f => d.fields[f]?.map (·.name)
  | .parameter _ m p => d.methods[m]?.bind fun d => d.parameters[p]?.map (·.name)
  | .var _ m v => d.methods[m]?.bind fun d => d.locals[v]?.map (·.name)

def renameAt (d : TypeDecl) (name : String) : Entity → TypeDecl
  | .type _ => { d with name }
  | .method _ m => { d with methods := d.methods.modify m ({ · with name }) }
  | .property _ p => { d with properties := d.properties.modify p ({ · with name }) }
  | .field _ f => { d with fields := d.fields.modify f ({ · with name }) }
  | .parameter _ m p =>
    { d with methods := d.methods.modify m fun d =>
      { d with parameters := d.parameters.modify p ({ · with name }) } }
  | .var _ m v =>
    { d with methods := d.methods.modify m fun d =>
      { d with locals := d.locals.modify v ({ · with name }) } }

theorem nameAt?_renameAt (d : TypeDecl) (e f : Entity) (name : String) (h : e.home = f.home) :
    (d.renameAt name e).nameAt? f =
      if e = f then (d.nameAt? f).map fun _ => name else d.nameAt? f := by
  -- Places of different forms are in different fields or different parts of a method.
  cases e <;> cases f <;> simp only [Entity.home] at h <;> subst h <;>
    simp [nameAt?, renameAt, map_getElem?_modify, bind_getElem?_modify, Function.comp_def]
  case parameter.parameter m p m' p' =>
    by_cases hm : m = m' <;> by_cases hp : p = p' <;> simp [hm, hp]
  case var.var m v m' v' =>
    by_cases hm : m = m' <;> by_cases hv : v = v' <;> simp [hm, hv]

theorem nameless_renameAt (d : TypeDecl) (name : String) (e : Entity) :
    (d.renameAt name e).nameless = d.nameless := by
  cases e <;> simp [renameAt, nameless, map_modify_eq, MethodDecl.nameless]

theorem nameAt?_nameless (d : TypeDecl) (e : Entity) :
    d.nameless.nameAt? e = (d.nameAt? e).map fun _ => "" := by
  cases e <;> simp [nameAt?, nameless, Function.comp_def, MethodDecl.nameless, Option.bind_map,
    Option.map_bind]

theorem eq_of_nameAt? (d d' : TypeDecl) (t : Nat) (hrest : d.nameless = d'.nameless)
    (hname : ∀ e, e.home = t → d.nameAt? e = d'.nameAt? e) : d = d' := by
  obtain ⟨space, name, base, fields, properties, methods⟩ := d
  obtain ⟨space', name', base', fields', properties', methods'⟩ := d'
  simp only [nameless, mk.injEq, true_and] at hrest
  obtain ⟨rfl, rfl, hf, hp, hm⟩ := hrest
  have hname' : name = name' := by simpa [nameAt?] using hname (.type t) rfl
  have hfields : fields = fields' := by
    refine eq_of_map_names (·.name) _ ?_ hf fun i => hname (.field t i) rfl
    rintro ⟨name, type⟩ ⟨name', type'⟩ hrest hname
    simp_all
  have hproperties : properties = properties' := by
    refine eq_of_map_names (·.name) _ ?_ hp fun i => hname (.property t i) rfl
    rintro ⟨name, type⟩ ⟨name', type'⟩ hrest hname
    simp_all
  have hmethods : methods = methods' := by
    refine eq_of_map_eq _ hm fun i x x' hx hx' hxx => ?_
    have hn := hname (.method t i) rfl
    have hpar := fun p => hname (.parameter t i p) rfl
    have hvar := fun v => hname (.var t i v) rfl
    simp only [nameAt?, hx, hx', Option.map_some, Option.bind_some, Option.some.injEq]
      at hn hpar hvar
    exact MethodDecl.eq_of_names x x' hxx hn hpar hvar
  subst hname' hfields hproperties hmethods
  rfl

end TypeDecl

/-! ## The model -/

namespace Assembly

def modifyType (a : Assembly) (t : Nat) (f : TypeDecl → TypeDecl) : Assembly :=
  { a with types := a.types.modify t f }

def modifyMethod (a : Assembly) (t m : Nat) (f : MethodDecl → MethodDecl) : Assembly :=
  a.modifyType t fun d => { d with methods := d.methods.modify m f }

/-- The model with another name for one entity, the same model if the handle names nothing. -/
def rename (a : Assembly) (entity : Entity) (name : String) : Assembly :=
  match entity with
  | .type t => a.modifyType t fun d => { d with name }
  | .method t m => a.modifyMethod t m fun d => { d with name }
  | .property t p =>
    a.modifyType t fun d => { d with properties := d.properties.modify p ({ · with name }) }
  | .field t f => a.modifyType t fun d => { d with fields := d.fields.modify f ({ · with name }) }
  | .parameter t m p =>
    a.modifyMethod t m fun d => { d with parameters := d.parameters.modify p ({ · with name }) }
  | .var t m v =>
    a.modifyMethod t m fun d => { d with locals := d.locals.modify v ({ · with name }) }

theorem type?_modifyType (a : Assembly) (t t' : Nat) (f : TypeDecl → TypeDecl) :
    (a.modifyType t f).type? t' = if t = t' then (a.type? t').map f else a.type? t' := by
  unfold type? modifyType
  rw [List.getElem?_modify]
  split <;> simp

theorem name?_eq (a : Assembly) (e : Entity) : a.name? e = (a.type? e.home).bind (·.nameAt? e) := by
  cases e with
  | type t => exact Option.map_eq_bind
  | _ => simp [name?, Entity.home, TypeDecl.nameAt?, method?, property?, field?, parameter?, local?,
      Option.bind_assoc, Option.map_eq_bind]

theorem rename_eq (a : Assembly) (e : Entity) (name : String) :
    a.rename e name = a.modifyType e.home (·.renameAt name e) := by
  cases e <;> rfl

theorem name?_rename (a : Assembly) (e f : Entity) (name : String) :
    (a.rename e name).name? f = if e = f then (a.name? f).map fun _ => name else a.name? f := by
  rw [name?_eq, rename_eq, type?_modifyType, name?_eq]
  cases a.type? f.home with
  | none => simp
  | some d =>
    by_cases h : e.home = f.home
    · simp [h, TypeDecl.nameAt?_renameAt]
    · have hne : e ≠ f := fun he => h (congrArg Entity.home he)
      simp [h, hne]

theorem nameless_rename (a : Assembly) (e : Entity) (name : String) :
    (a.rename e name).nameless = a.nameless := by
  simp [rename_eq, modifyType, nameless, map_modify_eq, TypeDecl.nameless_renameAt]

theorem eq_of_names {a b : Assembly} (hrest : a.nameless = b.nameless)
    (hname : ∀ e, a.name? e = b.name? e) : a = b := by
  obtain ⟨name, types⟩ := a
  obtain ⟨name', types'⟩ := b
  simp only [nameless, mk.injEq] at hrest
  obtain ⟨rfl, ht⟩ := hrest
  have htypes : types = types' := by
    refine eq_of_map_eq _ ht fun t d d' hd hd' hdd => ?_
    refine TypeDecl.eq_of_nameAt? d d' t hdd fun e he => ?_
    simpa [name?_eq, type?, he, hd, hd'] using hname e
  subst htypes
  rfl

/-! ## Live handles -/

theorem name?_nameless (a : Assembly) (e : Entity) :
    a.nameless.name? e = (a.name? e).map fun _ => "" := by
  rw [name?_eq, name?_eq]
  have ht : a.nameless.type? e.home = (a.type? e.home).map (·.nameless) := by
    simp [type?, nameless]
  rw [ht]
  cases a.type? e.home with
  | none => rfl
  | some d => simp [TypeDecl.nameAt?_nameless]

/-- Which handles are live does not depend on names. -/
theorem isSome_name?_congr {a b : Assembly} (h : a.nameless = b.nameless) (e : Entity) :
    (a.name? e).isSome = (b.name? e).isSome := by
  have := congrArg (fun a => (name? a e).isSome) h
  simpa [name?_nameless] using this

@[simp] theorem name?_rename_self (a : Assembly) (e : Entity) (name : String) :
    (a.rename e name).name? e = (a.name? e).map fun _ => name := by
  rw [name?_rename, if_pos rfl]

theorem name?_rename_of_ne (a : Assembly) {e f : Entity} (name : String) (h : e ≠ f) :
    (a.rename e name).name? f = a.name? f := by
  rw [name?_rename, if_neg h]

/-! ## Laws of renaming -/

theorem rename_name {a : Assembly} {e : Entity} {old : String} (h : a.name? e = some old) :
    a.rename e old = a := by
  apply eq_of_names (a.nameless_rename e old)
  intro f
  by_cases hf : e = f
  · subst hf
    simp [h]
  · exact a.name?_rename_of_ne old hf

theorem rename_rename (a : Assembly) (e : Entity) (first second : String) :
    (a.rename e first).rename e second = a.rename e second := by
  apply eq_of_names
  · simp only [nameless_rename]
  · intro f
    by_cases hf : e = f
    · subst hf
      simp [Function.comp_def]
    · simp only [name?_rename_of_ne _ _ hf]

theorem rename_comm (a : Assembly) {e f : Entity} (h : e ≠ f) (n m : String) :
    (a.rename e n).rename f m = (a.rename f m).rename e n := by
  apply eq_of_names
  · simp only [nameless_rename]
  · intro g
    simp only [name?_rename]
    by_cases he : e = g
    · have hf : f ≠ g := fun hf => h (he.trans hf.symm)
      simp [he, hf]
    · simp [he]

/-- An entity that gets another name and then its own again is as it was. -/
theorem rename_rename_of_name? {a : Assembly} {e : Entity} {old : String} (name : String)
    (h : a.name? e = some old) : (a.rename e name).rename e old = a := by
  rw [rename_rename, rename_name h]

/-! ## Writing names -/

section Write

variable {α β : Type}

/-- What is written where something is found is written at a place of the list. -/
theorem writeAt?_eq {write : α → Option α} {put : α → α} (found : α → Option β)
    (h : ∀ x, write x = (found x).map fun _ => put x) (xs : List α) (i : Nat) :
    writeAt? xs i write = (xs[i]?.bind found).map fun _ => xs.modify i put := by
  cases hx : xs[i]? with
  | none => simp [writeAt?, hx]
  | some x => simp [writeAt?, hx, h, List.modify_eq_set_getElem?, Function.comp_def]

theorem map_writeAt?_some (put : α → α) (whole : List α → β) (xs : List α) (i : Nat) :
    (writeAt? xs i fun x => some (put x)).map whole =
      xs[i]?.map fun _ => whole (xs.modify i put) := by
  have hwrite (x : α) : some (put x) = (some x).map fun _ => put x := rfl
  rw [writeAt?_eq some hwrite, Option.bind_fun_some]
  exact Option.map_map ..

theorem writeType?_eq {write : TypeDecl → Option TypeDecl} {put : TypeDecl → TypeDecl}
    (found : TypeDecl → Option β) (h : ∀ d, write d = (found d).map fun _ => put d)
    (a : Assembly) (t : Nat) :
    a.writeType? t write = ((a.type? t).bind found).map fun _ => a.modifyType t put := by
  rw [writeType?, writeAt?_eq found h]
  exact Option.map_map ..

theorem writeMethod?_eq {write : MethodDecl → Option MethodDecl} {put : MethodDecl → MethodDecl}
    (found : MethodDecl → Option β) (h : ∀ d, write d = (found d).map fun _ => put d)
    (a : Assembly) (t m : Nat) :
    a.writeMethod? t m write =
      ((a.method? t m).bind found).map fun _ => a.modifyMethod t m put := by
  rw [writeMethod?, method?, Option.bind_assoc]
  refine writeType?_eq (fun d => d.methods[m]?.bind found) (fun d => ?_) a t
  rw [writeAt?_eq found h]
  exact Option.map_map ..

end Write

/-- A name is written where one is found, and then the entity is renamed. -/
theorem writeName?_eq (a : Assembly) (e : Entity) (name : String) :
    a.writeName? e name = (a.name? e).map fun _ => a.rename e name := by
  have hname {α : Type} (found : Option α) (read : α → String) :
      (found.map read).map (fun _ => a.rename e name) = found.map fun _ => a.rename e name :=
    Option.map_map ..
  cases e with
  | type t =>
    rw [name?, hname, ← Option.bind_fun_some (a.type? t)]
    exact writeType?_eq some (fun _ => rfl) a t
  | method t m =>
    rw [name?, hname, ← Option.bind_fun_some (a.method? t m)]
    exact writeMethod?_eq some (fun _ => rfl) a t m
  | property t _ | field t _ =>
    rw [name?, hname]
    exact writeType?_eq _ (fun _ => map_writeAt?_some ..) a t
  | parameter t m _ | var t m _ =>
    rw [name?, hname]
    exact writeMethod?_eq _ (fun _ => map_writeAt?_some ..) a t m

theorem setName_of_name? {a : Assembly} {e : Entity} {old : String} (name : String)
    (h : a.name? e = some old) : a.setName e name = .ok (a.rename e name) := by
  unfold setName
  rw [writeName?_eq, h, Option.map_some]

theorem setName_of_dead {a : Assembly} {e : Entity} (name : String) (h : a.name? e = none) :
    a.setName e name = .error (.entityNotFound e) := by
  unfold setName
  rw [writeName?_eq, h, Option.map_none]

end Assembly

end Renaming
