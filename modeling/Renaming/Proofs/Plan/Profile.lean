import Renaming.Proofs.Plan.Questions

/-!
# What requests say

A request looks for the members of an entity among all entities of the module. What it finds is what
the declaration itself says (`profile?`), and a parameter is described alike when it is asked about
along with its method and on its own (`requests_read_declarations`).
-/

namespace Renaming

/-! ## Profiles -/

/-- What a request says about an entity besides its code. -/
structure Profile where
  kind : Kind
  name : String
  context : String
  methodName : Option String
  parameters : List ParameterSlot

def RenameRequest.profile (r : RenameRequest) : Profile :=
  ⟨r.kind, r.currentName, r.context, r.methodName, r.parameters⟩

namespace Assembly

/-- What the declaration of an entity says, none if there is no declaration. -/
def profile? (a : Assembly) : Entity → Option Profile
  | .type t => (a.type? t).map fun c =>
    ⟨.type, c.name, "Base type: " ++ c.baseType.getD "object" ++ ", Methods: " ++
      toString c.methods.length ++ ", Properties: " ++ toString c.properties.length, none, []⟩
  | .method t m => (a.method? t m).map fun d =>
    ⟨.method, d.name, "Return type: " ++ d.returnType ++ ", Parameters: " ++
      toString d.parameters.length, none,
      d.parameters.zipIdx.map fun (x, p) => ⟨.parameter t m p, x.name, x.parameterType⟩⟩
  | .property t p => (a.property? t p).map fun x =>
    ⟨.property, x.name, "Type: " ++ x.propertyType, none, []⟩
  | .field t f => (a.field? t f).map fun x => ⟨.field, x.name, "Type: " ++ x.fieldType, none, []⟩
  | .parameter t m p => (a.method? t m).bind fun d => d.parameters[p]?.map fun x =>
    ⟨.parameter, x.name, "Parameter in method " ++ d.name ++ ", Type: " ++ x.parameterType,
      some d.name, []⟩
  | .var t m v => (a.method? t m).bind fun d => d.locals[v]?.map fun x =>
    ⟨.var, x.name, "Type: " ++ x.localType, some d.name, []⟩

/-! ## Members of a type -/

theorem filter_home_entities (a : Assembly) (kind : Kind) (t : Nat) :
    (a.entities kind).filter (·.home == t) = (a.types[t]?.map (entitiesOf kind t)).getD [] := by
  have hfilter (d : TypeDecl) (j : Nat) : (entitiesOf kind j d).filter (·.home == t) =
      if j = t then entitiesOf kind j d else [] := by
    split
    · rename_i hj
      rw [List.filter_eq_self]
      intro e he
      rw [((mem_entitiesOf kind j d e).mp he).2.1, hj, beq_self_eq_true]
    · rename_i hj
      rw [List.filter_eq_nil_iff]
      intro e he
      rw [((mem_entitiesOf kind j d e).mp he).2.1, beq_iff_eq]
      exact hj
  unfold entities
  rw [List.filter_flatMap, flatMap_zipIdx_of_eq_nil (i := t)]
  · simp [hfilter]
  · intro d j hj
    simp [hfilter, hj]

/-- The entities that count as members of a type are those that its declaration lists. -/
theorem countIn_eq {a : Assembly} {kind : Kind} (hkind : kind = .method ∨ kind = .property)
    {t : Nat} {d : TypeDecl} (h : a.type? t = some d) :
    a.countIn kind t = (entitiesOf kind t d).length := by
  unfold type? at h
  have hhome : a.countIn kind t = (a.entities kind).countP (·.home == t) := by
    apply List.countP_congr
    intro e he
    have hk := ((a.mem_entities kind e).mp he).1
    cases e with
    | method t' m | property t' m => exact Iff.rfl
    | type | field | parameter | var => simp [← hk, Entity.kind] at hkind
  rw [hhome, List.countP_eq_length_filter, filter_home_entities, h]
  rfl

/-! ## Requests -/

/-- The name of the method that declares a parameter or local variable. -/
def methodName? (a : Assembly) (e : Entity) : Option String := e.declaringMethod?.bind a.name?

theorem context_type (a : Assembly) (t : Nat) (methodName : Option String) :
    a.context (.type t) methodName = "Base type: " ++ (a.signature? (.type t)).getD "" ++
      ", Methods: " ++ toString (a.countIn .method t) ++ ", Properties: " ++
      toString (a.countIn .property t) := rfl

theorem context_method (a : Assembly) (t m : Nat) (methodName : Option String) :
    a.context (.method t m) methodName = "Return type: " ++
      (a.signature? (.method t m)).getD "" ++ ", Parameters: " ++
      toString (a.parameterSlots t m).length := rfl

theorem context_parameter (a : Assembly) (t m p : Nat) (methodName : Option String) :
    a.context (.parameter t m p) methodName = "Parameter in method " ++ methodName.getD "" ++
      ", Type: " ++ (a.signature? (.parameter t m p)).getD "" := rfl

theorem context_of_kind (a : Assembly) {e : Entity}
    (h : e.kind = .property ∨ e.kind = .field ∨ e.kind = .var) (methodName : Option String) :
    a.context e methodName = "Type: " ++ (a.signature? e).getD "" := by
  cases e with
  | property | field | var => rfl
  | type | method | parameter => simp [Entity.kind] at h

/-- What a request says about a live entity, as far as it is looked up in the module. -/
def found (a : Assembly) (e : Entity) (name : String) : Profile :=
  ⟨e.kind, name, a.context e (a.methodName? e), a.methodName? e, a.slots e⟩

theorem profile_of_live {a : Assembly} {e : Entity} {name : String} (h : a.name? e = some name) :
    (a.request e).map (·.profile) = .ok (a.found e name) := by
  unfold request
  rw [h]
  cases e <;> rfl

theorem profile?_of_live {a : Assembly} {e : Entity} {name : String} (h : a.name? e = some name) :
    a.profile? e = some (a.found e name) := by
  cases e with
  | type t =>
    obtain ⟨c, hc, rfl⟩ := Option.map_eq_some_iff.mp h
    have hmethods : a.countIn .method t = c.methods.length := by
      rw [countIn_eq (.inl rfl) hc]
      simp [entitiesOf]
    have hproperties : a.countIn .property t = c.properties.length := by
      rw [countIn_eq (.inr rfl) hc]
      simp [entitiesOf]
    simp only [profile?, found, context_type, signature?, hc, hmethods, hproperties]
    rfl
  | method t m =>
    obtain ⟨d, hd, rfl⟩ := Option.map_eq_some_iff.mp h
    simp only [profile?, found, context_method, signature?, slots, hd, parameterSlots_of_method hd,
      List.length_map, List.length_zipIdx]
    rfl
  | property t p =>
    obtain ⟨x, hx, rfl⟩ := Option.map_eq_some_iff.mp h
    have hcontext := a.context_of_kind (e := .property t p) (.inl rfl)
    simp only [profile?, found, hcontext, signature?, hx]
    rfl
  | field t f =>
    obtain ⟨x, hx, rfl⟩ := Option.map_eq_some_iff.mp h
    have hcontext := a.context_of_kind (e := .field t f) (.inr (.inl rfl))
    simp only [profile?, found, hcontext, signature?, hx]
    rfl
  | parameter t m p =>
    obtain ⟨x, hx, rfl⟩ := Option.map_eq_some_iff.mp h
    obtain ⟨d, hd, hp⟩ := Option.bind_eq_some_iff.mp hx
    have hmethod : a.methodName? (.parameter t m p) = some d.name :=
      Option.map_eq_some_iff.mpr ⟨d, hd, rfl⟩
    simp only [profile?, found, context_parameter, signature?, hx, hd, hp, hmethod,
      Option.bind_some]
    rfl
  | var t m v =>
    obtain ⟨x, hx, rfl⟩ := Option.map_eq_some_iff.mp h
    obtain ⟨d, hd, hv⟩ := Option.bind_eq_some_iff.mp hx
    have hmethod : a.methodName? (.var t m v) = some d.name :=
      Option.map_eq_some_iff.mpr ⟨d, hd, rfl⟩
    have hcontext := a.context_of_kind (e := .var t m v) (.inr (.inr rfl))
    simp only [profile?, found, hcontext, signature?, hx, hd, hv, hmethod, Option.bind_some]
    rfl

theorem exists_request_of_live {a : Assembly} {e : Entity} {name : String}
    (h : a.name? e = some name) : ∃ r, a.request e = .ok r ∧ a.profile? e = some r.profile := by
  obtain ⟨r, hr⟩ := exists_request (Option.isSome_iff_exists.mpr ⟨name, h⟩)
  have hprofile := profile_of_live h
  rw [hr] at hprofile
  have hfound : r.profile = a.found e name := Except.ok.inj hprofile
  exact ⟨r, hr, by rw [profile?_of_live h, hfound]⟩

theorem request_eq_error_iff (a : Assembly) (e : Entity) (error : ModelError) :
    a.request e = .error error ↔ error = .entityNotFound e ∧ a.name? e = none := by
  cases hname : a.name? e with
  | none =>
    rw [request_of_dead hname]
    simp [eq_comm]
  | some name =>
    obtain ⟨r, hr, -⟩ := exists_request_of_live hname
    rw [hr]
    simp

theorem length_excerpt_of_request {a : Assembly} {e : Entity} {r : RenameRequest}
    (h : a.request e = .ok r) : r.excerpt.length ≤ 3000 := by
  unfold request at h
  split at h
  · cases h
  · cases h
    unfold Text.truncate
    rw [String.length_ofList, List.length_take]
    exact Nat.min_le_left _ _

/-! ## Parameters -/

theorem getElem?_parameterQuestions {a : Assembly} {t m p : Nat} {d : MethodDecl}
    {x : ParameterDecl} {r : RenameRequest} (hd : a.method? t m = some d)
    (hx : d.parameters[p]? = some x) (hr : a.request (.method t m) = .ok r) :
    r.parameterQuestions[p]? = some (questionFor r.currentName x) := by
  rw [parameterQuestions_of_request hr, declared, hd]
  simp [hx]

/-- Once the entity is named, its parameters are asked about in order. -/
theorem getElem?_notes {σ : Type} {r : RenameRequest} {oracle : Oracle σ} {s : σ} {name : String}
    (h : ((oracle.suggest r.question).run s).1 = .ok name) {p : Nat} {q : Question}
    (hq : r.parameterQuestions[p]? = some q) :
    ∃ answer, ((r.plan oracle.noting).run (s, [])).2.2[p + 1]? = some (q, answer) := by
  rw [r.run_plan_noting_of_ok h]
  simp only [List.getElem?_cons_succ]
  obtain ⟨hlt, -⟩ := List.getElem?_eq_some_iff.mp hq
  rw [← length_run_mapM (f := oracle.suggest) _ ((oracle.suggest r.question).run s).2] at hlt
  exact ⟨_, List.getElem?_zip_eq_some.mpr ⟨hq, List.getElem?_eq_getElem hlt⟩⟩

/-- A request fails if its handle names nothing, and only then. Otherwise it says what the
declaration says: how many methods and properties a type has, and what the parameters of a method
are and how many. It shows at most 3000 characters of code. A parameter is asked about under the
same name, with the same kind and the same context, along with its method and on its own. -/
theorem requests_read_declarations (a : Assembly) :
    (∀ e error, a.request e = .error error ↔ error = .entityNotFound e ∧ a.name? e = none) ∧
    (∀ e name, a.name? e = some name → ∃ r, a.request e = .ok r ∧ r.entity = e ∧
      a.profile? e = some r.profile ∧ r.excerpt.length ≤ 3000) ∧
    ∀ t m p x, a.parameter? t m p = some x →
      ∃ r r', a.request (.method t m) = .ok r ∧ a.request (.parameter t m p) = .ok r' ∧
        ∀ {σ : Type} (oracle : Oracle σ) (s : σ) (name : String),
          ((oracle.suggest r.question).run s).1 = .ok name →
          ∃ q answer, ((r.plan oracle.noting).run (s, [])).2.2[p + 1]? = some (q, answer) ∧
            q.name = r'.currentName ∧ q.kind = r'.kind ∧ q.context = r'.context := by
  refine ⟨a.request_eq_error_iff, ?_, ?_⟩
  · intro e name h
    obtain ⟨r, hr, hprofile⟩ := exists_request_of_live h
    exact ⟨r, hr, (request_eq_ok hr).1, hprofile, length_excerpt_of_request hr⟩
  · intro t m p x hx
    obtain ⟨d, hd, hp⟩ := Option.bind_eq_some_iff.mp hx
    have hmethod : a.name? (.method t m) = some d.name := Option.map_eq_some_iff.mpr ⟨d, hd, rfl⟩
    have hparameter : a.name? (.parameter t m p) = some x.name :=
      Option.map_eq_some_iff.mpr ⟨x, hx, rfl⟩
    obtain ⟨r, hr, hprofile⟩ := exists_request_of_live hmethod
    obtain ⟨r', hr', hprofile'⟩ := exists_request_of_live hparameter
    simp only [profile?, hd, hp, Option.bind_some, Option.map_some, Option.some.injEq]
      at hprofile hprofile'
    refine ⟨r, r', hr, hr', fun oracle s name hanswer => ?_⟩
    obtain ⟨answer, hnote⟩ := getElem?_notes hanswer (getElem?_parameterQuestions hd hp hr)
    refine ⟨_, answer, hnote, congrArg Profile.name hprofile', congrArg Profile.kind hprofile', ?_⟩
    rw [← show d.name = r.currentName from congrArg Profile.name hprofile]
    exact congrArg Profile.context hprofile'

/-! ### The second of two parameters of one name -/

theorem requests_for_second_parameter :
    ∃ r r', sameNames.request (.method 0 0) = .ok r ∧
      sameNames.request (.parameter 0 0 1) = .ok r' ∧
      r'.context = "Parameter in method a, Type: string" ∧
      ∃ q answer, ((r.plan Oracle.ofAnswers.noting).run
        ([.ok "Load", .error .noSuggestion, .ok "count"], [])).2.2[2]? = some (q, answer) ∧
        q.name = r'.currentName ∧ q.kind = r'.kind ∧ q.context = r'.context := by
  obtain ⟨-, hfound, hparameters⟩ := requests_read_declarations sameNames
  obtain ⟨r, r', hr, hr', hasked⟩ := hparameters 0 0 1 ⟨"x", "string"⟩ rfl
  obtain ⟨own, hown, -, hprofile, -⟩ := hfound (.parameter 0 0 1) _ rfl
  have hsame : own = r' := Except.ok.inj (hown.symm.trans hr')
  have hcontext := congrArg Profile.context (Option.some.inj hprofile)
  rw [hsame] at hcontext
  exact ⟨r, r', hr, hr', hcontext.symm, hasked .ofAnswers _ "Load" rfl⟩

end Assembly

end Renaming
