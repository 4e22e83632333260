import Renaming.Proofs.Session.Full
import Renaming.Proofs.Text.Blank
import Renaming.Server.Client

/-!
# Plans of the client

The client reads a name from each response, trimmed and never the one it asked about. So a plan that
it makes can be applied in full, also when its entities have other names by then.
-/

namespace Renaming

/-! ## Names in responses -/

@[simp] theorem Answer.trim_name (answer : String) : Text.trim (name answer) = name answer := by
  unfold Text.trim name nameChars
  rw [String.toList_ofList, Text.trimBoth_trimBoth]

namespace Server

theorem nameOf_eq_ok {current name : String} {response : Option String}
    (h : nameOf current response = .ok name) :
    name = Answer.name (response.getD current) ∧ name.isEmpty = false ∧ name ≠ current := by
  simp only [nameOf] at h
  split at h
  · cases h
  · rename_i hnot
    have hname := Except.ok.inj h
    subst hname
    simp only [Bool.or_eq_true, beq_iff_eq, not_or, Bool.not_eq_true] at hnot
    exact ⟨rfl, hnot⟩

theorem nameOf_eq_error_iff {current : String} {said : Option String} {e : OracleError} :
    nameOf current said = .error e ↔ e = .noSuggestion ∧
      (Answer.name (said.getD current) = "" ∨ Answer.name (said.getD current) = current) := by
  unfold nameOf
  by_cases h : Answer.name (said.getD current) = "" ∨ Answer.name (said.getD current) = current
  · have hidle : ((Answer.name (said.getD current)).isEmpty ||
        Answer.name (said.getD current) == current) = true := by simpa using h
    rw [if_pos hidle]
    constructor
    · exact fun he => ⟨(Except.error.inj he).symm, h⟩
    · rintro ⟨rfl, -⟩
      rfl
  · have hidle : ¬((Answer.name (said.getD current)).isEmpty ||
        Answer.name (said.getD current) == current) = true := by simpa using h
    rw [if_neg hidle]
    simp [h]

theorem nameOf_eq_ok_iff {current name : String} {said : Option String} :
    nameOf current said = .ok name ↔
      name = Answer.name (said.getD current) ∧ name ≠ "" ∧ name ≠ current := by
  constructor
  · intro h
    obtain ⟨hname, hempty, hnew⟩ := nameOf_eq_ok h
    exact ⟨hname, fun h => by simp [h] at hempty, hnew⟩
  · rintro ⟨rfl, hempty, hnew⟩
    unfold nameOf
    simp [hempty, hnew]

/-- A name that the client gives is worth giving as it stands. -/
theorem isActionable_of_nameOf {current name : String} {response : Option String} (kind : Kind)
    (h : nameOf current response = .ok name) :
    Text.trim name = name ∧ (Suggestion.certain current name kind).isActionable = true := by
  obtain ⟨rfl, hsome, hnew⟩ := nameOf_eq_ok h
  exact ⟨Answer.trim_name _, Suggestion.isActionable_certain (Answer.trim_name _) hsome hnew⟩

/-! ## Responses -/

/-- What the server says to a question. -/
def respond [Url.DomainRules] {σ : Type} (transport : Http.Transport σ) (s : Settings)
    (q : Question) : StateM σ (Except OracleError (Option String)) :=
  generate transport s (Prompt.rename q.excerpt q.name q.kind q.context) (renameSampling s)

/-- The name in what the server said, if it is of use. -/
def readName (q : Question) (response : Except OracleError (Option String)) :
    Except OracleError String :=
  response.bind (nameOf q.name)

theorem readName_eq_ok {q : Question} {response : Except OracleError (Option String)}
    {name : String} (h : readName q response = .ok name) :
    ∃ text, response = .ok text ∧ nameOf q.name text = .ok name := by
  cases response with
  | error e => cases h
  | ok text =>
    simp only [readName, Except.bind] at h
    exact ⟨text, rfl, h⟩

variable {σ : Type} (transport : Http.Transport σ) (s : Settings)

theorem run_map {α β : Type} (ask : StateM σ α) (f : α → β) (state : σ) :
    (do return f (← ask) : StateM σ β).run state = (f (ask.run state).1, (ask.run state).2) := rfl

theorem suggest_eq [Url.DomainRules] (q : Question) :
    suggest transport s q = (do return readName q (← respond transport s q)) := by
  unfold suggest respond readName
  rfl

theorem run_suggest [Url.DomainRules] (q : Question) (state : σ) :
    (suggest transport s q).run state =
      let response := (respond transport s q).run state
      (readName q response.1, response.2) := by
  rw [suggest_eq, run_map]

theorem run_mapM_suggest [Url.DomainRules] (qs : List Question) (state : σ) :
    (qs.mapM (suggest transport s)).run state =
      let responses := (qs.mapM (respond transport s)).run state
      (List.zipWith readName qs responses.1, responses.2) := by
  induction qs generalizing state with
  | nil => rfl
  | cons q qs ih =>
    simp only [run_mapM_cons, run_suggest, ih, List.zipWith_cons_cons]

/-- What comes of a request, by what its transport delivers. -/
def received (url : Url) : Http.Delivery → Except OracleError (Option String)
  | .undelivered => .error (.transport (.undelivered url.text))
  | .reply status body => readReply status body

theorem run_generate [Url.DomainRules] {t : Target} (htarget : target s.server = .ok t)
    (prompt : String) (sampling : Sampling) (state : σ) :
    (generate transport s prompt sampling).run state =
      let sent := (transport ⟨t.url, t.credentials, requestBody s.model prompt sampling⟩).run state
      (received t.url sent.1, sent.2) := by
  unfold generate
  rw [htarget]
  dsimp only
  rw [StateT.run_bind]
  generalize (transport ⟨t.url, t.credentials, requestBody s.model prompt sampling⟩).run state =
    sent
  obtain ⟨delivery, state⟩ := sent
  cases delivery <;> rfl

theorem run_generate_error [Url.DomainRules] {e : TransportError}
    (htarget : target s.server = .error e) (prompt : String) (sampling : Sampling) (state : σ) :
    (generate transport s prompt sampling).run state = (.error (.transport e), state) := by
  unfold generate
  rw [htarget]
  rfl

/-- What the server says to the questions of a request if all of them are asked. -/
def responses (r : RenameRequest) (state : σ) : List (Except OracleError (Option String)) :=
  (((r.question :: r.parameterQuestions).mapM (respond transport s)).run state).1

end Server

/-! ## Plans -/

namespace RenameRequest

/-- The entities that a request is about, each with its question. -/
def asked (r : RenameRequest) : List (Entity × Question) :=
  (r.entity, r.question) ::
    (r.parameters.zip r.parameterQuestions).map fun x => (x.1.entity, x.2)

theorem name_of_getElem?_parameterQuestions {r : RenameRequest} {i : Nat} {slot : ParameterSlot}
    {q : Question} (hslot : r.parameters[i]? = some slot) (hq : r.parameterQuestions[i]? = some q) :
    q.name = slot.name := by
  unfold parameterQuestions at hq
  split at hq
  · rw [List.getElem?_map, hslot] at hq
    cases hq
    rfl
  · simp at hq

/-- Something for every question, matched with the entities that it is about. -/
theorem mem_zip_asked {r : RenameRequest} {α : Type} (x : α) {xs : List α} {y : α} {i : Nat}
    {slot : ParameterSlot} {q : Question} (hslot : r.parameters[i]? = some slot)
    (hq : r.parameterQuestions[i]? = some q) (hy : xs[i]? = some y) :
    ((slot.entity, q), y) ∈ r.asked.zip (x :: xs) := by
  have hasked : (r.parameters.zip r.parameterQuestions)[i]? = some (slot, q) :=
    List.getElem?_zip_eq_some.mpr ⟨hslot, hq⟩
  unfold asked
  rw [List.zip_cons_cons]
  apply List.mem_cons_of_mem
  apply List.mem_of_getElem? (i := i)
  rw [List.getElem?_zip_eq_some, List.getElem?_map, hasked]
  exact ⟨rfl, hy⟩

end RenameRequest

theorem RenamePlan.unedited_planOf (r : RenameRequest) (name : String)
    (answers : List (Except OracleError String)) :
    (r.planOf name answers).value.withNewName name = (r.planOf name answers).value := by
  simp [RenameRequest.planOf, withNewName, renamePrimary, Suggestion.certain]

namespace Server

variable {σ : Type} {transport : Http.Transport σ} {s : Settings} {state : σ}

theorem plan_eq_ok {r : RenameRequest} {plan : RenamePlan}
    (h : ((r.plan (oracle transport s)).run state).1.value = .ok plan) :
    ∃ first rest name, responses transport s r state = first :: rest ∧
      readName r.question first = .ok name ∧
      plan = (r.planOf name (List.zipWith readName r.parameterQuestions rest)).value := by
  -- The first question was answered, so the others were asked as well.
  have hsuggest : (oracle transport s).suggest = suggest transport s := rfl
  simp only [RenameRequest.run_plan, RenameRequest.value_finish, hsuggest, run_suggest,
    run_mapM_suggest] at h
  simp only [responses, run_mapM_cons]
  generalize (respond transport s r.question).run state = first at h ⊢
  generalize (r.parameterQuestions.mapM (respond transport s)).run first.2 = rest at h ⊢
  cases hname : readName r.question first.1 with
  | error e =>
    rw [hname] at h
    cases h
  | ok name =>
    rw [hname] at h
    exact ⟨first.1, rest.1, name, rfl, hname, (Except.ok.inj h).symm⟩

/-- Every change of a plan comes from the response to the question about its entity. -/
theorem exists_response {r : RenameRequest} {plan : RenamePlan}
    (h : ((r.plan (oracle transport s)).run state).1.value = .ok plan) {c : PlannedChange}
    (hc : c ∈ plan.changes) :
    ∃ q text name kind, ((c.entity, q), .ok text) ∈ r.asked.zip (responses transport s r state) ∧
      nameOf q.name text = .ok name ∧ c.suggestion = .certain q.name name kind := by
  obtain ⟨first, rest, name, hresponses, hname, rfl⟩ := plan_eq_ok h
  rw [hresponses]
  rcases List.mem_cons.mp hc with rfl | hc
  · obtain ⟨text, rfl, htext⟩ := readName_eq_ok hname
    exact ⟨r.question, text, name, r.kind, List.mem_cons_self .., htext, rfl⟩
  · obtain ⟨⟨slot, answer⟩, hanswer, hchange⟩ := List.mem_filterMap.mp hc
    obtain ⟨i, hi⟩ := List.mem_iff_getElem?.mp hanswer
    rw [List.getElem?_zip_eq_some, List.getElem?_zipWith_eq_some] at hi
    obtain ⟨hslot, q, response, hq, hresponse, hread⟩ := hi
    simp only at hslot hread hchange
    subst hread
    have hslotname := RenameRequest.name_of_getElem?_parameterQuestions hslot hq
    cases hname' : readName q response with
    | error e => simp [hname', RenameRequest.parameterChange?] at hchange
    | ok name' =>
      obtain ⟨text, rfl, htext⟩ := readName_eq_ok hname'
      rw [hname'] at hchange
      have hc' := Option.some.inj hchange
      subst hc'
      refine ⟨q, text, name', .parameter, ?_, htext, by rw [hslotname]⟩
      exact RenameRequest.mem_zip_asked first hslot hq hresponse

end Server

/-! ## Planning with a server -/

/-- A request that was built from a model, and the plan that came of it with some server. -/
structure Planning (a : Assembly) where
  {σ : Type}
  transport : Http.Transport σ
  settings : Settings
  state : σ
  entity : Entity
  request : RenameRequest
  plan : RenamePlan
  built : a.request entity = .ok request
  planned : ((request.plan (Server.oracle transport settings)).run state).1.value = .ok plan

namespace Planning

variable {a b : Assembly} (p : Planning a)

/-- The server answered the question about the entity, and this name is left of its response. A
response without a text counts as the current name. -/
def Answered (e : Entity) (name : String) : Prop :=
  ∃ q text, ((e, q), .ok text) ∈
    p.request.asked.zip (Server.responses p.transport p.settings p.request p.state) ∧
    name = Answer.name (text.getD q.name)

theorem answered_of_mem {c : PlannedChange} (hc : c ∈ p.plan.changes) :
    p.Answered c.entity c.suggestion.newName := by
  obtain ⟨q, text, name, kind, hmem, hname, hsuggestion⟩ := Server.exists_response p.planned hc
  refine ⟨q, text, hmem, ?_⟩
  rw [hsuggestion]
  exact (Server.nameOf_eq_ok hname).1

theorem sublist_entities : p.plan.entities.Sublist p.request.entities :=
  RenameRequest.Planned.sublist ⟨_, _, _, p.planned⟩

theorem nodup_entities : p.plan.entities.Nodup :=
  p.sublist_entities.nodup (a.nodup_request p.built)

/-- The plan can be applied in full to every model with the same handles. -/
theorem ready (h : a.nameless = b.nameless) : p.plan.Ready b where
  clean c hc := by
    obtain ⟨q, text, name, kind, -, hname, hsuggestion⟩ := Server.exists_response p.planned hc
    obtain ⟨htrimmed, hactionable⟩ := Server.isActionable_of_nameOf kind hname
    rw [← hsuggestion] at hactionable
    exact ⟨by rw [hsuggestion]; exact htrimmed, hactionable⟩
  live c hc := by
    rw [← Assembly.isSome_name?_congr h]
    have hmem : c.entity ∈ p.plan.entities := List.mem_map_of_mem hc
    exact a.isSome_of_mem_request p.built (p.sublist_entities.subset hmem)
  unedited := by
    obtain ⟨first, rest, name, -, -, hplan⟩ := Server.plan_eq_ok p.planned
    rw [hplan]
    exact RenamePlan.unedited_planOf ..

theorem not_mem_after {before after : List PlannedChange} {c : PlannedChange}
    (h : p.plan.changes = before ++ c :: after) : c.entity ∉ after.map (·.entity) := by
  have hnodup := p.nodup_entities
  unfold RenamePlan.entities at hnodup
  rw [h, List.map_append, List.map_cons] at hnodup
  exact (List.nodup_cons.mp (List.nodup_append.mp hnodup).2.1).1

/-- Plans of the client are applied in full, whatever their entities are called by then: nothing is
skipped, and there is one change for each change of the plan, in its order. Then every entity of the
plan has the name that the server answered for it, and all other names stay. A session that accepts
several such plans applies all of them in full, and for an entity in several plans the last one
counts. -/
theorem applies_in_full (a : Assembly) (names : List (Entity × String)) :
    let b := a.renameAll names
    (∀ p : Planning a,
      let result := b.applyPlan p.plan
      result.2.skipped = [] ∧
      (result.2.applied.map fun c => (c.entity, c.newName)) = p.plan.changes.map (·.named) ∧
      (∀ c ∈ p.plan.changes, p.Answered c.entity c.suggestion.newName ∧
        result.1.name? c.entity = some c.suggestion.newName) ∧
      (∀ e ∉ p.plan.entities, result.1.name? e = b.name? e) ∧
      result.1.nameless = b.nameless) ∧
    (∀ (ps : List (Planning a)) (awaited : Nat), ps.length ≤ awaited → ∀ {ρ : Type} (state : ρ),
      let queue := ps.map fun p => Event.planned (.ok p.plan)
      let result := ((Session.run .acceptAll b awaited queue).run state).1
      let changes := ps.flatMap fun p => p.plan.changes
      result.report.outcome.skipped = [] ∧ result.report.rejected = 0 ∧
      (result.report.outcome.applied.map fun c => (c.entity, c.newName)) =
        changes.map (·.named) ∧
      (∀ before c after, changes = before ++ c :: after → c.entity ∉ after.map (·.entity) →
        result.model.name? c.entity = some c.suggestion.newName) ∧
      (∀ e ∉ changes.map (·.entity), result.model.name? e = b.name? e) ∧
      result.model.nameless = b.nameless) := by
  intro b
  have hb : a.nameless = b.nameless := (a.nameless_renameAll names).symm
  constructor
  · intro p result
    have hready := p.ready hb
    obtain ⟨hmodel, hskipped, happlied⟩ := Assembly.applyPlan_full hready.clean hready.live
    refine ⟨hskipped, happlied, ?_, ?_, ?_⟩
    · intro c hc
      refine ⟨p.answered_of_mem hc, ?_⟩
      obtain ⟨before, after, hchanges⟩ := List.append_of_mem hc
      rw [hmodel, hchanges]
      exact b.name?_renameAll_named_last (hready.live c hc) (p.not_mem_after hchanges)
    · intro e he
      rw [hmodel]
      exact b.name?_renameAll_named_of_not_mem he
    · rw [hmodel, Assembly.nameless_renameAll]
  · intro ps awaited hawaited ρ state queue result changes
    have hready : ∀ plan ∈ ps.map (·.plan), plan.Ready b := by
      intro plan hplan
      obtain ⟨p, -, rfl⟩ := List.mem_map.mp hplan
      exact p.ready hb
    have hlength : (ps.map (·.plan)).length ≤ awaited := by rwa [List.length_map]
    have hqueue : ((ps.map (·.plan)).map fun plan => Event.planned (.ok plan)) = queue :=
      List.map_map
    have hchanges : ((ps.map (·.plan)).flatMap fun plan => plan.changes.map (·.named)) =
        changes.map (·.named) := by
      rw [List.flatMap_map, List.map_flatMap]
    have hrun := Session.run_acceptAll hready hlength state
    simp only [hqueue, hchanges] at hrun
    obtain ⟨hmodel, hskipped, happlied, hrejected⟩ := hrun
    refine ⟨hskipped, hrejected, happlied, ?_, ?_, ?_⟩
    · intro before c after hc hlast
      have hlive : (b.name? c.entity).isSome = true := by
        have hmem : c ∈ changes := by
          rw [hc]
          exact List.mem_append_cons_self
        obtain ⟨p, -, hp⟩ := List.mem_flatMap.mp hmem
        exact (p.ready hb).live c hp
      rw [hc] at hmodel
      exact hmodel ▸ b.name?_renameAll_named_last hlive hlast
    · intro e he
      exact hmodel ▸ b.name?_renameAll_named_of_not_mem he
    · exact hmodel ▸ b.nameless_renameAll _

/-! ### A method with a parameter -/

def scaleModel : Assembly :=
  ⟨"", [⟨"", "", none, [], [], [⟨"a", "", [⟨"x", "int"⟩], [], ""⟩]⟩]⟩

/-- A server on this machine. -/
def localSettings : Settings := { Settings.standard with server := "http://[::1]:11434" }

/-- A name in backticks for the method, and a failure for its parameter. -/
def scaleScript : Http.Transport.Script :=
  ⟨[.reply 200 "\x7b\"response\":\"\x60scale\x60\"\x7d", .reply 500 ""], none⟩

def scaleResult (r : RenameRequest) : Except OracleError RenamePlan :=
  ((r.plan (Server.oracle Http.Transport.scripted localSettings)).run scaleScript).1.value

theorem eq_ok_of_toOption {ε α : Type} {x : Except ε α} {y : α} (h : x.toOption = some y) :
    x = .ok y := by
  cases x with
  | error e => cases h
  | ok z => exact congrArg Except.ok (Option.some.inj h)

theorem applies_in_full_to_renamed_method :
    ∃ p : Planning scaleModel,
      let result := (scaleModel.renameAll [(.method 0 0, "b")]).applyPlan p.plan
      p.plan.changes.map (·.named) = [(.method 0 0, "scale")] ∧
      result.2.skipped = [] ∧
      (result.2.applied.map fun c => (c.entity, c.newName)) = [(.method 0 0, "scale")] ∧
      result.1.name? (.method 0 0) = some "scale" := by
  have hresult : ((scaleModel.request (.method 0 0)).toOption.bind fun r =>
      (scaleResult r).toOption.map fun plan => plan.changes.map (·.named)) =
        some [(.method 0 0, "scale")] := by
    decide +kernel
  obtain ⟨r, hr, hplanned⟩ := Option.bind_eq_some_iff.mp hresult
  obtain ⟨plan, hplan, hchanges⟩ := Option.map_eq_some_iff.mp hplanned
  obtain ⟨c, hc, hnamed⟩ := List.map_eq_singleton_iff.mp hchanges
  have hentity : c.entity = .method 0 0 := congrArg Prod.fst hnamed
  have hnew : c.suggestion.newName = "scale" := congrArg Prod.snd hnamed
  let p : Planning scaleModel :=
    ⟨_, _, _, _, r, plan, eq_ok_of_toOption hr, eq_ok_of_toOption hplan⟩
  obtain ⟨hskipped, happlied, hnames, -, -⟩ :=
    (applies_in_full scaleModel [(.method 0 0, "b")]).1 p
  have hname := (hnames c (by rw [hc]; exact List.mem_singleton_self c)).2
  rw [hentity, hnew] at hname
  exact ⟨p, hchanges, hskipped, happlied.trans hchanges, hname⟩

end Planning

end Renaming
