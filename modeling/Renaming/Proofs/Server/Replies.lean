import Renaming.Proofs.Server.Echo
import Renaming.Proofs.Server.Posts
import Renaming.Proofs.Server.Response

/-!
# Replies

Each call of the client posts one request. What comes of it depends on the status of the reply, on
whether its body is a response, and then on what that says, in this order
(`replies_are_classified`). A review takes any response, a name only one with something new in it.
-/

namespace Renaming.Server

/-! ## Classes of replies -/

def Succeeds (status : Nat) : Prop := 200 ≤ status ∧ status < 300

instance (status : Nat) : Decidable (Succeeds status) :=
  inferInstanceAs (Decidable (200 ≤ status ∧ status < 300))

theorem isSuccess_iff (status : Nat) : Http.isSuccess status = true ↔ Succeeds status := by
  simp [Http.isSuccess, Succeeds]

/-- What a call makes of a reply, if it makes nothing of the responses in `Idle` and the values in
`Gives` of the others. -/
structure Classified {α : Type} (status : Nat) (body : String) (Idle : Option String → Prop)
    (Gives : Option String → α → Prop) (answer : Except OracleError α) : Prop where
  http (code : Nat) (text : String) :
    answer = .error (.http code text) ↔ ¬Succeeds status ∧ code = status ∧ text = body
  transport (cause : TransportError) :
    answer = .error (.transport cause) ↔
      Succeeds status ∧ (¬∃ said, Responds body said) ∧ cause = .undecodable
  noSuggestion :
    answer = .error .noSuggestion ↔ Succeeds status ∧ ∃ said, Responds body said ∧ Idle said
  ok (x : α) : answer = .ok x ↔ Succeeds status ∧ ∃ said, Responds body said ∧ Gives said x
  available (details : String) : answer ≠ .error (.unavailable details)

/-- The name in a response, the current one if there is no text in it, is of no use. -/
def KeepsName (current : String) (said : Option String) : Prop :=
  Answer.name (said.getD current) = "" ∨ Answer.name (said.getD current) = current

/-- The name in a response is a new one. -/
def GivesName (current : String) (said : Option String) (name : String) : Prop :=
  name = Answer.name (said.getD current) ∧ name ≠ "" ∧ name ≠ current

theorem readReply_of_failure {status : Nat} (h : ¬Succeeds status) (body : String) :
    readReply status body = .error (.http status body) := by
  rw [← isSuccess_iff, Bool.not_eq_true] at h
  unfold readReply
  rw [h]
  rfl

theorem readReply_of_garbage {status : Nat} {body : String} (h : Succeeds status)
    (hbody : ¬∃ said, Responds body said) :
    readReply status body = .error (.transport .undecodable) := by
  have hnone : Json.decode? response? body = none := by
    rw [Option.eq_none_iff_forall_ne_some]
    exact fun said hsaid => hbody ⟨said, responds_iff.mpr hsaid⟩
  unfold readReply
  rw [(isSuccess_iff status).mpr h, hnone]
  rfl

/-- A call is classified if what it makes of a response is a value or no suggestion. -/
theorem classified_bind {α : Type} {Idle : Option String → Prop} {Gives : Option String → α → Prop}
    {read : Option String → Except OracleError α}
    (hidle : ∀ said e, read said = .error e ↔ e = .noSuggestion ∧ Idle said)
    (hgives : ∀ said x, read said = .ok x ↔ Gives said x) (status : Nat) (body : String) :
    Classified status body Idle Gives ((readReply status body).bind read) := by
  by_cases hstatus : Succeeds status
  · by_cases hbody : ∃ said, Responds body said
    · obtain ⟨said, hsaid⟩ := hbody
      have honly (P : Option String → Prop) : (∃ said, Responds body said ∧ P said) ↔ P said :=
        ⟨fun ⟨_, hsaid', h⟩ => hsaid.unique hsaid' ▸ h, fun h => ⟨said, hsaid, h⟩⟩
      rw [readReply_of_response ((isSuccess_iff status).mpr hstatus) (responds_iff.mp hsaid),
        Except.bind]
      constructor
      · simp [hidle, hstatus]
      · intro cause
        simp only [hidle, reduceCtorEq, false_and, false_iff, not_and]
        exact fun _ hnone => absurd ⟨said, hsaid⟩ hnone
      · simp [hidle, hstatus, honly]
      · simp [hgives, hstatus, honly]
      · simp [hidle]
    · have hnone (P : Option String → Prop) : ¬∃ said, Responds body said ∧ P said :=
        fun ⟨said, hsaid, _⟩ => hbody ⟨said, hsaid⟩
      rw [readReply_of_garbage hstatus hbody, Except.bind]
      constructor
      · simp [hstatus]
      · simp [hstatus, hbody, eq_comm]
      · simp [hnone]
      · simp [hnone]
      · simp
  · rw [readReply_of_failure hstatus, Except.bind]
    constructor
    · simp [hstatus, eq_comm]
    · simp [hstatus]
    · simp [hstatus]
    · simp [hstatus]
    · simp

/-! ## Calls -/

/-- The post for a call. -/
def Target.post (t : Target) (s : Settings) : Inquiry → Http.Post
  | .name q => t.ask s q
  | .review source =>
    ⟨t.url, t.credentials, requestBody s.model (Prompt.analysis source) analysisSampling⟩

variable {σ : Type} {transport : Http.Transport σ} {s : Settings} {t : Target} {state : σ}
  {status : Nat} {body : String}

theorem review_of_reply (htarget : target s.server = .ok t) {source : String}
    (hreply : ((transport (t.post s (.review source))).run state).1 = .reply status body) :
    ((analyze transport s source).run state).1.value =
      (readReply status body).bind fun said => .ok (analysisOf said).value := by
  have hsent : ((generate transport s (Prompt.analysis source) analysisSampling).run state).1 =
      readReply status body := by
    rw [run_generate transport s htarget]
    change received t.url ((transport (t.post s (.review source))).run state).1 = _
    rw [hreply]
    rfl
  rw [← hsent]
  unfold analyze
  rw [StateT.run_bind]
  generalize (generate transport s (Prompt.analysis source) analysisSampling).run state = sent
  obtain ⟨answer, after⟩ := sent
  cases answer <;> rfl

theorem posts_singleton (inquiry : Inquiry) :
    posts transport s state [inquiry] = ((inquiry.ask transport.kept s).run (state, [])).2.2 := rfl

theorem posts_one (htarget : target s.server = .ok t) (inquiry : Inquiry) :
    posts transport s state [inquiry] = [t.post s inquiry] := by
  have hsent (prompt : String) (sampling : Sampling) :
      ((generate transport.kept s prompt sampling).run (state, [])).2.2 =
        [⟨t.url, t.credentials, requestBody s.model prompt sampling⟩] := by
    rw [run_generate transport.kept s htarget]
    rfl
  rw [posts_singleton]
  cases inquiry with
  | name q => rw [Inquiry.ask, snd_run_discard, snd_run_suggest, hsent, Target.post, Target.ask]
  | review source => rw [Inquiry.ask, snd_run_discard, snd_run_analyze, hsent, Target.post]

/-- A call posts one request, with the model and the sampling of its kind. If there is a reply, its
class is that of the answer: a failure with the status and body of the reply, a body that is no
response, a name that is empty or the current one, or else a new name, which is plain. For a review
every response gives an analysis. -/
theorem replies_are_classified (htarget : target s.server = .ok t) (transport : Http.Transport σ)
    (state : σ) :
    (∀ inquiry, posts transport s state [inquiry] = [t.post s inquiry]) ∧
    (∀ q, (t.post s (.name q)).body = Json.record [("model", .text s.model),
      ("prompt", .text (Prompt.rename q.excerpt q.name q.kind q.context)), ("stream", .bool false),
      ("options", .record [("temperature", .float s.temperature), ("top_p", .float 0.9)])]) ∧
    (∀ source, (t.post s (.review source)).body = Json.record [("model", .text s.model),
      ("prompt", .text (Prompt.analysis source)), ("stream", .bool false),
      ("options", .record [("temperature", .float 0.2), ("top_p", .float 0.8)])]) ∧
    (∀ q status body, ((transport (t.post s (.name q))).run state).1 = .reply status body →
      Classified status body (KeepsName q.name) (GivesName q.name)
        ((suggest transport s q).run state).1 ∧
      ∀ name, ((suggest transport s q).run state).1 = .ok name → Answer.Plain name.toList) ∧
    ∀ source status body,
      ((transport (t.post s (.review source))).run state).1 = .reply status body →
      Classified status body (fun _ => False)
        (fun said analysis => analysis = (Analysis.ofAnswer (said.getD "\x7b\x7d")).value)
        ((analyze transport s source).run state).1.value := by
  refine ⟨fun inquiry => posts_one htarget inquiry, fun q => rfl, fun source => rfl, ?_, ?_⟩
  · intro q status body hreply
    have hclassified : Classified status body (KeepsName q.name) (GivesName q.name)
        ((suggest transport s q).run state).1 := by
      rw [suggest_of_reply htarget hreply]
      exact classified_bind (fun _ _ => nameOf_eq_error_iff) (fun _ _ => nameOf_eq_ok_iff) ..
    refine ⟨hclassified, fun name hname => ?_⟩
    obtain ⟨-, said, -, rfl, -⟩ := (hclassified.ok name).mp hname
    exact Answer.plain_name _
  · intro source status body hreply
    rw [review_of_reply htarget hreply]
    apply classified_bind
    · simp
    · exact fun said analysis => ⟨fun h => (Except.ok.inj h).symm, fun h => congrArg _ h.symm⟩

/-! ### A name in backticks, and an empty array -/

def scaleBody : String := "\x7b\"response\":\"\x60scale\x60\"\x7d"

def replying (body : String) : Http.Transport.Script := ⟨[.reply 200 body], none⟩

theorem replies_of_name_and_empty_array :
    ((suggest .scripted Planning.localSettings ⟨"", "a", .method, ""⟩).run
      (replying scaleBody)).1 = .ok "scale" ∧
    ((analyze .scripted Planning.localSettings "").run (replying "[]")).1.value =
      .error (.transport .undecodable) := by
  have htarget : (target Planning.localSettings.server).toOption.isSome = true := by decide +kernel
  obtain ⟨t, ht⟩ := Option.isSome_iff_exists.mp htarget
  have hclasses (state : Http.Transport.Script) :=
    replies_are_classified (Planning.eq_ok_of_toOption ht) .scripted state
  have hsuccess : Succeeds 200 := by decide
  constructor
  · obtain ⟨-, -, -, hnames, -⟩ := hclasses (replying scaleBody)
    have hbody : Responds scaleBody (some "\x60scale\x60") := responds_iff.mpr (by decide +kernel)
    have hname := (hnames ⟨"", "a", .method, ""⟩ 200 scaleBody rfl).1.ok "scale"
    exact hname.mpr ⟨hsuccess, _, hbody, by decide, by decide, by decide⟩
  · obtain ⟨-, -, -, -, hreviews⟩ := hclasses (replying "[]")
    have hbody : Json.decode? response? "[]" = none := by decide +kernel
    refine ((hreviews "" 200 "[]" rfl).transport .undecodable).mpr ⟨hsuccess, ?_, rfl⟩
    rintro ⟨said, hsaid⟩
    rw [responds_iff, hbody] at hsaid
    cases hsaid

end Renaming.Server
