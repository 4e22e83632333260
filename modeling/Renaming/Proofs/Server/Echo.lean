import Renaming.Proofs.Answer.Name
import Renaming.Proofs.Server.Client

/-!
# Echoes

A server may answer with the name it was asked about. The answer is read before it is compared with
that name, and reading takes backticks, blanks at the ends and all lines but the first away. So an
echo counts as no suggestion only for names that reading leaves alone, or of which it leaves
nothing. Any other name is suggested to be renamed to what is left of it.
-/

namespace Renaming

/-! ## Echoes of a server -/

namespace Server

def Target.ask (t : Target) (s : Settings) (q : Question) : Http.Post :=
  ⟨t.url, t.credentials,
    requestBody s.model (Prompt.rename q.excerpt q.name q.kind q.context) (renameSampling s)⟩

variable {σ : Type} {transport : Http.Transport σ} {s : Settings} {q : Question} {state : σ}

theorem suggest_of_reply {t : Target} (htarget : target s.server = .ok t) {status : Nat}
    {body : String} (hreply : ((transport (t.ask s q)).run state).1 = .reply status body) :
    ((suggest transport s q).run state).1 = (readReply status body).bind (nameOf q.name) := by
  rw [run_suggest]
  unfold respond readName
  rw [run_generate transport s htarget]
  change (received t.url ((transport (t.ask s q)).run state).1).bind _ = _
  rw [hreply]
  rfl

theorem readReply_of_response {status : Nat} {body : String} {response : Option String}
    (hsuccess : Http.isSuccess status = true)
    (hbody : Json.decode? response? body = some response) :
    readReply status body = .ok response := by
  unfold readReply
  rw [hsuccess, hbody]
  rfl

theorem nameOf_echo {current : String} {response : Option String}
    (h : response = none ∨ response = some current) :
    let unchanged := Answer.Plain current.toList ∨ Answer.Hollow current.toList
    (nameOf current response = .error .noSuggestion ↔ unchanged) ∧
      (¬unchanged → nameOf current response = .ok (Answer.name current) ∧
        Answer.name current ≠ current) := by
  intro unchanged
  have hcurrent : response.getD current = current := by
    rcases h with rfl | rfl <;> rfl
  have hunchanged : Answer.name current = "" ∨ Answer.name current = current ↔ unchanged := by
    rw [← String.isEmpty_iff, Answer.isEmpty_name_iff, Answer.name_eq_self_iff, or_comm]
  constructor
  · rw [nameOf_eq_error_iff, hcurrent, hunchanged, and_iff_right rfl]
  · intro hchanged
    rw [← hunchanged, not_or] at hchanged
    rw [nameOf_eq_ok_iff, hcurrent]
    exact ⟨⟨rfl, hchanged⟩, hchanged.2⟩

/-- What becomes of an echo depends on the name alone. It is no suggestion if the name is plain or
hollow, and otherwise it renames the entity to what reading leaves of its own name. -/
theorem echo_is_no_suggestion_iff {t : Target} (htarget : target s.server = .ok t) {status : Nat}
    {body : String} {response : Option String}
    (hreply : ((transport (t.ask s q)).run state).1 = .reply status body)
    (hsuccess : Http.isSuccess status = true) (hbody : Json.decode? response? body = some response)
    (hecho : response = none ∨ response = some q.name) :
    let answer := ((suggest transport s q).run state).1
    let unchanged := Answer.Plain q.name.toList ∨ Answer.Hollow q.name.toList
    (answer = .error .noSuggestion ↔ unchanged) ∧
      (¬unchanged → answer = .ok (Answer.name q.name) ∧ Answer.name q.name ≠ q.name) := by
  intro answer unchanged
  have hanswer : answer = (readReply status body).bind (nameOf q.name) :=
    suggest_of_reply htarget hreply
  rw [hanswer, readReply_of_response hsuccess hbody, Except.bind]
  exact nameOf_echo hecho

/-! ### A plain name and a name with an arity -/

def echo (name : String) : String := "\x7b\"response\":\"" ++ name ++ "\"\x7d"

def askEcho (name : String) : Except OracleError String :=
  ((suggest .scripted Planning.localSettings ⟨"", name, .type, ""⟩).run
    ⟨[.reply 200 (echo name)], none⟩).1

theorem echo_of_plain_name : askEcho "List" = .error .noSuggestion := by
  have htarget : (target Planning.localSettings.server).toOption.isSome = true := by decide +kernel
  obtain ⟨t, ht⟩ := Option.isSome_iff_exists.mp htarget
  have hplain : Answer.Plain "List".toList := Answer.nameChars_eq_self_iff.mp (by decide +kernel)
  have hbody : Json.decode? response? (echo "List") = some (some "List") := by decide +kernel
  have hanswer := @echo_is_no_suggestion_iff _ .scripted Planning.localSettings
    ⟨"", "List", .type, ""⟩ ⟨[.reply 200 (echo "List")], none⟩ _ (Planning.eq_ok_of_toOption ht) _ _
    _ rfl (by decide) hbody (.inr rfl)
  exact hanswer.1.mpr (.inl hplain)

/-- The name of a generic class in metadata has its arity after a backtick. -/
theorem echo_of_generic_class :
    Json.decode? response? (echo "List\x601") = some (some "List\x601") ∧
      askEcho "List\x601" = .ok "List1" := by
  constructor
  · decide +kernel
  · decide +kernel

end Server

end Renaming
