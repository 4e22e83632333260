import Renaming.Plan
import Renaming.Proofs.Model.Entities

/-!
# What a plan changes

A request is about one entity and, for a method, its parameters: each once, and each live in the
model that the request was built from. A plan changes some of them, in their order, whatever the
oracle answered. So plans for two entities of one kind have no entity in common.
-/

namespace Renaming

/-! ## Requests -/

namespace RenameRequest

/-- The entities that a request is about. -/
def entities (r : RenameRequest) : List Entity := r.entity :: r.parameters.map (·.entity)

end RenameRequest

/-- The entity itself, or a part of it that is renamed along with it. -/
def Entity.covers (e f : Entity) : Prop := f = e ∨ f.declaringMethod? = some e

/-- Different entities of one kind have no part in common. -/
theorem Entity.eq_of_covers {e e' f : Entity} (hkind : e.kind = e'.kind) (h : e.covers f)
    (h' : e'.covers f) : e = e' := by
  -- What declares a method is no method, so the kinds exclude that one covers the other.
  have hmethod : ∀ f g : Entity, f.declaringMethod? = some g → g.kind = .method := by
    intro f g hg
    cases f <;> simp [declaringMethod?] at hg <;> subst hg <;> rfl
  have hnot : ∀ f g : Entity, f.kind = .method → f.declaringMethod? ≠ some g := by
    intro f g hf
    cases f <;> simp [kind, declaringMethod?] at hf ⊢
  rcases h with rfl | h
  · rcases h' with h' | h'
    · exact h'
    · exact absurd h' (hnot _ _ (hkind.trans (hmethod _ _ h')))
  · rcases h' with rfl | h'
    · exact absurd h (hnot _ _ (hkind.symm.trans (hmethod _ _ h)))
    · exact Option.some.inj (h.symm.trans h')

namespace Assembly

/-- What is renamed along with an entity. -/
def slots (a : Assembly) : Entity → List ParameterSlot
  | .method t m => a.parameterSlots t m
  | _ => []

theorem request_of_dead {a : Assembly} {e : Entity} (h : a.name? e = none) :
    a.request e = .error (.entityNotFound e) := by
  unfold request
  rw [h]

theorem exists_request {a : Assembly} {e : Entity} (h : (a.name? e).isSome = true) :
    ∃ r, a.request e = .ok r := by
  obtain ⟨name, hname⟩ := Option.isSome_iff_exists.mp h
  unfold request
  rw [hname]
  exact ⟨_, rfl⟩

theorem request_eq_ok {a : Assembly} {e : Entity} {r : RenameRequest} (h : a.request e = .ok r) :
    r.entity = e ∧ r.kind = e.kind ∧ a.name? e = some r.currentName ∧ r.parameters = a.slots e := by
  unfold request at h
  split at h
  next => simp at h
  next name hname =>
    cases h
    refine ⟨rfl, rfl, hname, ?_⟩
    cases e <;> rfl

theorem mem_request_parameters {a : Assembly} {e : Entity} {r : RenameRequest}
    (h : a.request e = .ok r) {slot : ParameterSlot} (hslot : slot ∈ r.parameters) :
    ∃ t m p, e = .method t m ∧ slot.entity = .parameter t m p ∧
      a.name? slot.entity = some slot.name := by
  rw [(request_eq_ok h).2.2.2] at hslot
  cases e with
  | method t m =>
    obtain ⟨⟨p, hp⟩, hname⟩ := of_mem_parameterSlots hslot
    exact ⟨t, m, p, rfl, hp, hname⟩
  | _ => simp [slots] at hslot

/-- Every entity that a request is about is live. -/
theorem isSome_of_mem_request {a : Assembly} {e f : Entity} {r : RenameRequest}
    (h : a.request e = .ok r) (hf : f ∈ r.entities) : (a.name? f).isSome = true := by
  obtain ⟨hentity, -, hname, -⟩ := request_eq_ok h
  rcases List.mem_cons.mp hf with rfl | hf
  · simp [hentity, hname]
  · obtain ⟨slot, hslot, rfl⟩ := List.mem_map.mp hf
    obtain ⟨t, m, p, -, -, hlive⟩ := mem_request_parameters h hslot
    simp [hlive]

theorem nodup_request {a : Assembly} {e : Entity} {r : RenameRequest} (h : a.request e = .ok r) :
    r.entities.Nodup := by
  obtain ⟨hentity, -, -, hparameters⟩ := request_eq_ok h
  unfold RenameRequest.entities
  rw [hentity, hparameters]
  cases e with
  | method t m =>
    refine List.nodup_cons.mpr ⟨?_, a.nodup_parameterSlots t m⟩
    intro hmem
    obtain ⟨slot, hslot, hsame⟩ := List.mem_map.mp hmem
    obtain ⟨⟨p, hp⟩, -⟩ := of_mem_parameterSlots hslot
    simp [hp] at hsame
  | _ => simp [slots]

theorem covers_of_mem_request {a : Assembly} {e f : Entity} {r : RenameRequest}
    (h : a.request e = .ok r) (hf : f ∈ r.entities) : e.covers f := by
  rcases List.mem_cons.mp hf with rfl | hf
  · exact .inl (request_eq_ok h).1
  · obtain ⟨slot, hslot, rfl⟩ := List.mem_map.mp hf
    obtain ⟨t, m, p, rfl, hp, -⟩ := mem_request_parameters h hslot
    exact .inr (by rw [hp]; rfl)

end Assembly

/-! ## Plans -/

namespace RenamePlan

/-- The entities that a plan changes, in its order. -/
def entities (p : RenamePlan) : List Entity := p.changes.map (·.entity)

theorem entities_renamePrimary (name : String) (cs : List PlannedChange) :
    (renamePrimary name cs).map (·.entity) = cs.map (·.entity) := by
  induction cs with
  | nil => rfl
  | cons c cs ih =>
    unfold renamePrimary
    split
    · rfl
    · simp [ih]

@[simp] theorem entities_withNewName (p : RenamePlan) (name : String) :
    (p.withNewName name).entities = p.entities :=
  entities_renamePrimary name p.changes

theorem map_targets (p : RenamePlan) : p.targets.map (·.1) = p.entities := by
  simp [targets, entities, Function.comp_def]

end RenamePlan

namespace RenameRequest

variable (r : RenameRequest)

theorem entity_of_parameterChange? {slot : ParameterSlot} {answer : Except OracleError String}
    {c : PlannedChange} (h : parameterChange? slot answer = some c) : c.entity = slot.entity := by
  cases answer <;> simp [parameterChange?] at h
  rw [← h]

theorem sublist_parameterChanges (slots : List ParameterSlot)
    (answers : List (Except OracleError String)) :
    (((slots.zip answers).filterMap fun x => parameterChange? x.1 x.2).map (·.entity)).Sublist
      (slots.map (·.entity)) := by
  induction slots generalizing answers with
  | nil => simp
  | cons slot slots ih =>
    cases answers with
    | nil => simp
    | cons answer answers =>
      rw [List.zip_cons_cons]
      cases h : parameterChange? slot answer with
      | none => simpa [h] using (ih answers).cons slot.entity
      | some c => simpa [h, entity_of_parameterChange? h] using (ih answers).cons_cons slot.entity

/-- A plan changes its entity and then some of the parameters, in the order of the request. -/
theorem planOf_entities (name : String) (answers : List (Except OracleError String)) :
    (r.planOf name answers).value.entities.Sublist r.entities :=
  (sublist_parameterChanges r.parameters answers).cons_cons r.entity

end RenameRequest

end Renaming
