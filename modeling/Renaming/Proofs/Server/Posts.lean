import Renaming.Proofs.Server.Address
import Renaming.Proofs.Server.Client

/-!
# What leaves this machine

All posts of the client go to the one address that is made from the setting. So with a setting that
is an address and a client that gave no warning, none of them leaves this machine, whatever is asked
and whatever comes back (`posts_stay_here`).
-/

namespace Renaming

/-! ## Posts -/

namespace Http.Transport

/-- The transport, with all posts that went through it so far. -/
def kept {σ : Type} (transport : Transport σ) : Transport (σ × List Post) := fun post => do
  let (state, posts) ← get
  let (delivery, state) := (transport post).run state
  set (state, posts ++ [post])
  return delivery

end Http.Transport

namespace Server

/-- What a client can be asked. -/
inductive Inquiry where
  | name (q : Question)
  | review (source : String)

variable {σ : Type} (transport : Http.Transport σ) (s : Settings)

def Inquiry.ask [Url.DomainRules] : Inquiry → StateM σ Unit
  | name q => discard (suggest transport s q)
  | review source => discard (analyze transport s source)

/-- What the client posts while it is asked one thing after another. -/
def posts [Url.DomainRules] (state : σ) (inquiries : List Inquiry) : List Http.Post :=
  ((inquiries.forM (Inquiry.ask transport.kept s)).run (state, [])).2.2

theorem posts_generate [Url.DomainRules] (prompt : String) (sampling : Sampling) (state : σ)
    (before : List Http.Post) :
    let after := ((generate transport.kept s prompt sampling).run (state, before)).2.2
    after = before ∨ ∃ t body, target s.server = .ok t ∧
      after = before ++ [⟨t.url, t.credentials, body⟩] := by
  intro after
  cases htarget : target s.server with
  | error e =>
    left
    change ((generate transport.kept s prompt sampling).run (state, before)).2.2 = _
    rw [run_generate_error transport.kept s htarget]
  | ok t =>
    right
    refine ⟨t, requestBody s.model prompt sampling, rfl, ?_⟩
    change ((generate transport.kept s prompt sampling).run (state, before)).2.2 = _
    rw [run_generate transport.kept s htarget]
    rfl

theorem snd_run_discard {α : Type} (m : StateM σ α) (state : σ) :
    ((discard m).run state).2 = (m.run state).2 := rfl

theorem snd_run_suggest [Url.DomainRules] (q : Question) (state : σ) :
    ((suggest transport s q).run state).2 =
      ((generate transport s (Prompt.rename q.excerpt q.name q.kind q.context)
        (renameSampling s)).run state).2 := by
  simp only [run_suggest, respond]

theorem snd_run_analyze [Url.DomainRules] (source : String) (state : σ) :
    ((analyze transport s source).run state).2 =
      ((generate transport s (Prompt.analysis source) analysisSampling).run state).2 := by
  unfold analyze
  rw [StateT.run_bind]
  generalize (generate transport s (Prompt.analysis source) analysisSampling).run state = answered
  obtain ⟨answer, state⟩ := answered
  cases answer <;> rfl

/-- All posts go to hosts on this machine. -/
def StayHere (posts : List Http.Post) : Prop :=
  ∀ post ∈ posts, ∃ host, post.url.host? = some host ∧ host.isLoopback = true

section

variable [Url.DomainRules] [Url.LawfulDomainRules] {s} {url : Url}
  (hsilent : warnings s.server = [])
  (haddress : Url.ofText? s.server = some url)

include hsilent haddress

theorem stayHere_generate (prompt : String) (sampling : Sampling) (state : σ)
    {before : List Http.Post} (h : StayHere before) :
    StayHere ((generate transport.kept s prompt sampling).run (state, before)).2.2 := by
  rcases posts_generate transport s prompt sampling state before with
    hsame | ⟨t, body, htarget, hmore⟩
  · rwa [hsame]
  · rw [hmore]
    intro post hpost
    rcases List.mem_append.mp hpost with hpost | hpost
    · exact h post hpost
    · rw [List.mem_singleton.mp hpost]
      exact target_isLoopback hsilent haddress htarget

theorem stayHere_ask (inquiry : Inquiry) (state : σ) {before : List Http.Post}
    (h : StayHere before) :
    StayHere ((inquiry.ask transport.kept s).run (state, before)).2.2 := by
  cases inquiry with
  | name q =>
    simp only [Inquiry.ask, snd_run_discard, snd_run_suggest]
    exact stayHere_generate transport hsilent haddress _ _ state h
  | review source =>
    simp only [Inquiry.ask, snd_run_discard, snd_run_analyze]
    exact stayHere_generate transport hsilent haddress _ _ state h

theorem stayHere_forM (inquiries : List Inquiry) (state : σ) {before : List Http.Post}
    (h : StayHere before) :
    StayHere ((inquiries.forM (Inquiry.ask transport.kept s)).run (state, before)).2.2 := by
  induction inquiries generalizing state before with
  | nil => exact h
  | cons inquiry inquiries ih =>
    exact ih _ (stayHere_ask transport hsilent haddress inquiry state h)

end

/-- If the setting is an address and the client gives no warning about it, then whatever it is asked
it posts to this machine only. -/
theorem posts_stay_here [Url.DomainRules] [Url.LawfulDomainRules] {s : Settings} {url : Url}
    (hsilent : warnings s.server = []) (haddress : Url.ofText? s.server = some url) (state : σ)
    (inquiries : List Inquiry) :
    ∀ post ∈ posts transport s state inquiries,
      ∃ host, post.url.host? = some host ∧ host.isLoopback = true :=
  stayHere_forM transport hsilent haddress inquiries state fun _ hpost => nomatch hpost

/-! ### A setting that is an address and one that is none -/

def twoInquiries : List Inquiry := [.name ⟨"", "a", .method, ""⟩, .review ""]

theorem posts_stay_here_for_two_inquiries :
    let sent := posts .none Planning.localSettings () twoInquiries
    sent.length = 2 ∧
      ∀ post ∈ sent, ∃ host, post.url.host? = some host ∧ host.isLoopback = true := by
  have haddress : (Url.ofText? Planning.localSettings.server).isSome = true := by decide +kernel
  obtain ⟨url, hurl⟩ := Option.isSome_iff_exists.mp haddress
  exact ⟨by decide +kernel, posts_stay_here .none (by decide +kernel) hurl () twoInquiries⟩

/-- A wide blank in front of an address far away: no address, until it is trimmed. -/
def blankSettings : Settings :=
  { Settings.standard with server := "\u3000http://[2001:db8::1]:11434" }

theorem posts_leave_without_warning :
    let farAway := Url.Host.ipv6 [0x2001, 0xDB8, 0, 0, 0, 0, 0, 1]
    warnings blankSettings.server = [] ∧ farAway.isLoopback = false ∧
      (posts .none blankSettings () twoInquiries).map (fun post => post.url.host?) =
        [some farAway, some farAway] := by
  decide +kernel

end Server

end Renaming
