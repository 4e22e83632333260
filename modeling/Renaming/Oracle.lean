import Renaming.Analysis
import Renaming.Http.Status
import Renaming.Request

/-!
# Oracles

An oracle proposes names and reviews modules, or fails. It may remember what it was asked, so its
answers depend on a state of its own.
-/

namespace Renaming

/-- Why no answer came back from a server. -/
inductive TransportError where
  /-- The address is not a URL. -/
  | malformedUrl
  /-- The URL cannot be posted to. -/
  | unusableUrl (url : String)
  /-- The server was not reached. -/
  | undelivered (url : String)
  /-- The body of the answer is not what was agreed on. -/
  | undecodable
deriving DecidableEq, Repr

def TransportError.message : TransportError → String
  | malformedUrl => "builder error"
  | unusableUrl url => "builder error for url (" ++ url ++ ")"
  | undelivered url => "error sending request for url (" ++ url ++ ")"
  | undecodable => "error decoding response body"

/-- Why a question was not answered. -/
inductive OracleError where
  | transport (cause : TransportError)
  | http (status : Nat) (body : String)
  /-- The answer is empty or repeats the current name. -/
  | noSuggestion
  /-- There is no way to ask at all. -/
  | unavailable (details : String)
deriving DecidableEq, Repr

namespace OracleError

def message : OracleError → String
  | transport cause => "Ollama request failed: " ++ cause.message
  | http status body => "Ollama returned HTTP " ++ Http.statusText status ++ ": " ++ body
  | noSuggestion => "No suitable name suggestion received"
  | unavailable details => "Failed to create HTTP client: " ++ details

/-- There is nothing to do, which is no failure. -/
def isNoChange (e : OracleError) : Bool := e == noSuggestion

/-- The request or its answer went wrong on the way. -/
def isTransport : OracleError → Bool
  | transport _ | http _ _ => true
  | _ => false

end OracleError

structure Oracle (σ : Type) where
  suggest : Question → StateM σ (Except OracleError String)
  /-- Reviews the code of a module. -/
  analyze : String → StateM σ (Warned (Except OracleError Analysis))

end Renaming
