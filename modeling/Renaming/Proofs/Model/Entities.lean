import Mathlib.Data.List.Nodup
import Renaming.Proofs.Model.Names
import Renaming.Request

/-!
# Enumerated entities

The entities of a kind are its live handles, each listed once, in the order of their places. So are
the parameters that a request lists for a method.
-/

namespace Renaming

/-- Numbered parts, each in order, are in order together if the numbers decide between parts. -/
theorem pairwise_flatMap_zipIdx {α β : Type} {R : β → β → Prop} (l : List α) (f : α × Nat → List β)
    (hwithin : ∀ x, (f x).Pairwise R)
    (hacross : ∀ x x', x.2 < x'.2 → ∀ y ∈ f x, ∀ y' ∈ f x', R y y') :
    (l.zipIdx.flatMap f).Pairwise R := by
  rw [List.pairwise_flatMap]
  refine ⟨fun x _ => hwithin x, ?_⟩
  have hlt : l.zipIdx.Pairwise fun x x' => x.2 < x'.2 := by
    rw [← List.pairwise_map (f := Prod.snd), List.zipIdx_map_snd]
    exact List.pairwise_lt_range'
  exact hlt.imp fun {x x'} h => hacross x x' h

/-- If only the item with number `i` gives anything, it gives everything. -/
theorem flatMap_zipIdx_of_eq_nil {α β : Type} {l : List α} {f : α × Nat → List β} {i : Nat}
    (h : ∀ x j, j ≠ i → f (x, j) = []) :
    l.zipIdx.flatMap f = (l[i]?.map fun x => f (x, i)).getD [] := by
  have hfrom (k : Nat) : (l.zipIdx k).flatMap f =
      if k ≤ i then (l[i - k]?.map fun x => f (x, i)).getD [] else [] := by
    induction l generalizing k with
    | nil => simp
    | cons x l ih =>
      rw [List.zipIdx_cons, List.flatMap_cons, ih]
      by_cases hk : k = i
      · subst hk
        rw [if_neg (by omega), if_pos (Nat.le_refl k)]
        simp
      · rw [h x k hk, List.nil_append]
        by_cases hle : k ≤ i
        · have hsub : i - k = (i - (k + 1)) + 1 := by omega
          rw [if_pos hle, if_pos (by omega), hsub, List.getElem?_cons_succ]
        · rw [if_neg hle, if_neg (by omega)]
  exact hfrom 0

/-- Looking up every number of a list gives its items with their numbers. -/
theorem filterMap_range_getElem? {α β : Type} (l : List α) (g : Nat → α → β) :
    (List.range l.length).filterMap (fun i => l[i]?.map (g i)) =
      l.zipIdx.map fun x => g x.2 x.1 := by
  rw [← List.filterMap_eq_map, List.range_eq_range', ← List.zipIdx_map_snd 0 l, List.filterMap_map]
  apply List.filterMap_congr
  rintro ⟨x, i⟩ hx
  simp [List.mem_zipIdx_iff_getElem?.mp hx]

/-! ## Places -/

/-- The numbers of an entity's place, from the outside in. The order of declaration is the order of
these. -/
def Entity.place : Entity → List Nat
  | .type t => [t]
  | .method t i | .property t i | .field t i => [t, i]
  | .parameter t m i | .var t m i => [t, m, i]

/-! ## The entities of one type -/

namespace Assembly

theorem mem_entitiesOf (kind : Kind) (t : Nat) (d : TypeDecl) (e : Entity) :
    e ∈ entitiesOf kind t d ↔ e.kind = kind ∧ e.home = t ∧ (d.nameAt? e).isSome = true := by
  cases kind <;> cases e <;>
    simp [entitiesOf, Entity.kind, Entity.home, TypeDecl.nameAt?, List.mem_zipIdx_iff_getElem?]
  case parameter.parameter t' m p =>
    cases hm : d.methods[m]? <;> simp [and_comm, eq_comm (a := t)]
  case var.var t' m v =>
    cases hm : d.methods[m]? <;> simp [and_comm, eq_comm (a := t)]
  all_goals exact and_comm.trans (and_congr_left fun _ => eq_comm)

theorem place_of_mem_entitiesOf {kind : Kind} {t : Nat} {d : TypeDecl} {e : Entity}
    (h : e ∈ entitiesOf kind t d) : ∃ inner, e.place = t :: inner := by
  obtain ⟨-, rfl, -⟩ := (mem_entitiesOf kind t d e).mp h
  cases e <;> exact ⟨_, rfl⟩

theorem sorted_entitiesOf (kind : Kind) (t : Nat) (d : TypeDecl) :
    (entitiesOf kind t d).Pairwise fun e f => e.place < f.place := by
  have hnumbered : ∀ (f : Nat → Entity), (∀ i j, i < j → (f i).place < (f j).place) →
      ∀ n, ((List.range n).map f).Pairwise fun e f => e.place < f.place :=
    fun f hf n => (List.pairwise_lt_range (n := n)).map f hf
  cases kind with
  | type => simp [entitiesOf]
  | method | property | field =>
    exact hnumbered _ (fun i j h => by simp [Entity.place, List.cons_lt_cons_iff, h]) _
  | parameter | var =>
    apply pairwise_flatMap_zipIdx
    · exact fun x => hnumbered _ (fun i j h => by simp [Entity.place, List.cons_lt_cons_iff, h]) _
    · intro x x' hlt y hy y' hy'
      obtain ⟨i, -, rfl⟩ := List.mem_map.mp hy
      obtain ⟨j, -, rfl⟩ := List.mem_map.mp hy'
      simp [Entity.place, List.cons_lt_cons_iff, hlt]

/-! ## The entities of a model -/

theorem mem_entities (a : Assembly) (kind : Kind) (e : Entity) :
    e ∈ a.entities kind ↔ e.kind = kind ∧ (a.name? e).isSome = true := by
  unfold entities
  rw [name?_eq, List.mem_flatMap]
  constructor
  · rintro ⟨⟨d, t⟩, hd, he⟩
    rw [List.mem_zipIdx_iff_getElem?] at hd
    obtain ⟨hk, ht, hn⟩ := (mem_entitiesOf kind t d e).mp he
    refine ⟨hk, ?_⟩
    simpa [type?, ht, hd] using hn
  · rintro ⟨hk, hn⟩
    cases hd : a.type? e.home with
    | none => simp [hd] at hn
    | some d =>
      rw [hd] at hn
      refine ⟨(d, e.home), List.mem_zipIdx_iff_getElem?.mpr hd, ?_⟩
      exact (mem_entitiesOf kind e.home d e).mpr ⟨hk, rfl, hn⟩

theorem sorted_entities (a : Assembly) (kind : Kind) :
    (a.entities kind).Pairwise fun e f => e.place < f.place := by
  apply pairwise_flatMap_zipIdx
  · exact fun x => sorted_entitiesOf kind x.2 x.1
  · intro x x' hlt e he f hf
    obtain ⟨i, hi⟩ := place_of_mem_entitiesOf he
    obtain ⟨j, hj⟩ := place_of_mem_entitiesOf hf
    rw [hi, hj, List.cons_lt_cons_iff]
    exact .inl hlt

theorem nodup_entities (a : Assembly) (kind : Kind) : (a.entities kind).Nodup := by
  rw [List.nodup_iff_pairwise_ne]
  refine (a.sorted_entities kind).imp ?_
  rintro e _ hlt rfl
  exact List.lt_irrefl _ hlt

theorem entitiesOf_nameless (kind : Kind) (t : Nat) (d : TypeDecl) :
    entitiesOf kind t d.nameless = entitiesOf kind t d := by
  cases kind <;>
    simp [entitiesOf, TypeDecl.nameless, MethodDecl.nameless, List.zipIdx_map, List.flatMap_map]

/-- Which entities there are, and in which order, does not depend on names. -/
theorem entities_congr {a b : Assembly} (h : a.nameless = b.nameless) (kind : Kind) :
    a.entities kind = b.entities kind := by
  have hnameless : ∀ a : Assembly, a.nameless.entities kind = a.entities kind := by
    intro a
    simp [entities, nameless, List.zipIdx_map, List.flatMap_map, entitiesOf_nameless]
  rw [← hnameless a, h, hnameless b]

@[simp] theorem entities_rename (a : Assembly) (e : Entity) (name : String) (kind : Kind) :
    (a.rename e name).entities kind = a.entities kind :=
  entities_congr (a.nameless_rename e name) kind

/-! ## The parameters of a method -/

/-- What a request lists for an entity: something for the parameters of its method only. -/
def slot? (a : Assembly) (t m : Nat) (e : Entity) : Option ParameterSlot :=
  match e with
  | .parameter t' m' _ =>
    if t' == t && m' == m then (a.name? e).map fun name => ⟨e, name, (a.signature? e).getD ""⟩
    else none
  | _ => none

theorem parameterSlots_eq (a : Assembly) (t m : Nat) :
    a.parameterSlots t m = (a.entities .parameter).filterMap (a.slot? t m) :=
  rfl

theorem slot?_eq_some {a : Assembly} {t m : Nat} {e : Entity} {slot : ParameterSlot}
    (h : a.slot? t m e = some slot) :
    slot.entity = e ∧ (∃ p, e = .parameter t m p) ∧ a.name? e = some slot.name := by
  unfold slot? at h
  split at h
  next t' m' p =>
    split at h
    next hplace =>
      simp only [Bool.and_eq_true, beq_iff_eq] at hplace
      obtain ⟨rfl, rfl⟩ := hplace
      obtain ⟨name, hname, rfl⟩ := Option.map_eq_some_iff.mp h
      exact ⟨rfl, ⟨p, rfl⟩, hname⟩
    next => simp at h
  next => simp at h

/-- The parameters of a request are the parameters of the method, under their names. -/
theorem of_mem_parameterSlots {a : Assembly} {t m : Nat} {slot : ParameterSlot}
    (h : slot ∈ a.parameterSlots t m) :
    (∃ p, slot.entity = .parameter t m p) ∧ a.name? slot.entity = some slot.name := by
  rw [parameterSlots_eq] at h
  obtain ⟨e, -, he⟩ := List.mem_filterMap.mp h
  obtain ⟨rfl, hplace, hname⟩ := slot?_eq_some he
  exact ⟨hplace, hname⟩

theorem nodup_parameterSlots (a : Assembly) (t m : Nat) :
    ((a.parameterSlots t m).map (·.entity)).Nodup := by
  rw [parameterSlots_eq, List.map_filterMap]
  refine List.Nodup.filterMap (fun e e' f he he' => ?_) (nodup_entities a .parameter)
  -- Each slot is for the entity that it was made from.
  obtain ⟨slot, hslot, rfl⟩ := Option.map_eq_some_iff.mp he
  obtain ⟨slot', hslot', hsame⟩ := Option.map_eq_some_iff.mp he'
  rw [← (slot?_eq_some hslot).1, ← hsame]
  exact (slot?_eq_some hslot').1

/-- The slots of a method are its parameters in the order of declaration. -/
theorem parameterSlots_of_method {a : Assembly} {t m : Nat} {d : MethodDecl}
    (h : a.method? t m = some d) :
    a.parameterSlots t m = d.parameters.zipIdx.map fun x =>
      ⟨.parameter t m x.2, x.1.name, x.1.parameterType⟩ := by
  obtain ⟨c, hc, hd⟩ := Option.bind_eq_some_iff.mp h
  have hc' : a.types[t]? = some c := hc
  have hnone (e : Entity) (he : ∀ p, e ≠ .parameter t m p) : a.slot? t m e = none := by
    rw [Option.eq_none_iff_forall_ne_some]
    intro slot hslot
    obtain ⟨-, ⟨p, hp⟩, -⟩ := slot?_eq_some hslot
    exact he p hp
  have hslot (i : Nat) : a.slot? t m (.parameter t m i) =
      d.parameters[i]?.map fun p => ⟨.parameter t m i, p.name, p.parameterType⟩ := by
    cases hp : d.parameters[i]? <;> simp [slot?, name?, signature?, parameter?, h, hp]
  -- Of all types only one, and of its methods only one, has anything to list.
  rw [parameterSlots_eq, entities, List.filterMap_flatMap, flatMap_zipIdx_of_eq_nil (i := t)]
  · simp only [hc', Option.map_some, Option.getD_some, entitiesOf]
    rw [List.filterMap_flatMap, flatMap_zipIdx_of_eq_nil (i := m)]
    · simp only [hd, Option.map_some, Option.getD_some, List.filterMap_map, Function.comp_def,
        hslot]
      exact filterMap_range_getElem? d.parameters
        fun i p => ParameterSlot.mk (.parameter t m i) p.name p.parameterType
    · intro d' j hj
      rw [List.filterMap_eq_nil_iff]
      intro e he
      obtain ⟨i, -, rfl⟩ := List.mem_map.mp he
      exact hnone _ fun p hp => hj (by cases hp; rfl)
  · intro c' j hj
    rw [List.filterMap_eq_nil_iff]
    intro e he
    obtain ⟨-, rfl, -⟩ := (mem_entitiesOf _ _ _ _).mp he
    exact hnone _ fun p hp => hj (by rw [hp]; rfl)

end Assembly

end Renaming
