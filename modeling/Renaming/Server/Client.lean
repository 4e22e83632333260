import Renaming.Answer.Name
import Renaming.Http.Transport
import Renaming.Json.Decode
import Renaming.Server.Address
import Renaming.Settings.Basic

/-!
# The client

The oracle that asks a language model on a server. Every question is one request, made with the
settings in force.
-/

namespace Renaming.Server

open Json

variable [Url.DomainRules]

/-! ## Requests and replies -/

/-- How freely the model may choose its words. -/
structure Sampling where
  temperature : Float
  topP : Float
deriving Repr

def requestBody (model prompt : String) (sampling : Sampling) : Json :=
  record [("model", text model), ("prompt", text prompt), ("stream", .bool false),
    ("options",
      record [("temperature", .float sampling.temperature), ("top_p", .float sampling.topP)])]

/-- What a reply says, if it says anything. -/
def response? (value : Json) : Option (Option String) :=
  match record? ["response", "done"] value with
  | some [response, done] => do
    let _ ← done.withDefault false bool?
    response.optional text?
  | _ => none

def readReply (status : Nat) (body : String) : Except OracleError (Option String) :=
  if !Http.isSuccess status then .error (.http status body)
  else match decode? response? body with
    | some response => .ok response
    | none => .error (.transport .undecodable)

/-- One request and its reply. -/
def generate (transport : Http.Transport σ) (s : Settings) (prompt : String)
    (sampling : Sampling) : StateM σ (Except OracleError (Option String)) :=
  match target s.server with
  | .error e => return .error (.transport e)
  | .ok ⟨url, credentials⟩ => do
    match ← transport ⟨url, credentials, requestBody s.model prompt sampling⟩ with
    | .undelivered => return .error (.transport (.undelivered url.text))
    | .reply status body => return readReply status body

/-! ## Questions -/

def renameSampling (s : Settings) : Sampling := ⟨s.temperature, 0.9⟩

def analysisSampling : Sampling := ⟨0.2, 0.8⟩

/-- The name in a response. Without a response the name stays. -/
def nameOf (current : String) (response : Option String) : Except OracleError String :=
  let name := Answer.name (response.getD current)
  if name.isEmpty || name == current then .error .noSuggestion else .ok name

def suggest (transport : Http.Transport σ) (s : Settings) (q : Question) :
    StateM σ (Except OracleError String) := do
  let prompt := Prompt.rename q.excerpt q.name q.kind q.context
  return (← generate transport s prompt (renameSampling s)).bind (nameOf q.name)

/-- The analysis in a response. Without a response there is nothing to say. -/
def analysisOf (response : Option String) : Warned Analysis :=
  Analysis.ofAnswer (response.getD "\x7b\x7d")

def analyze (transport : Http.Transport σ) (s : Settings) (source : String) :
    StateM σ (Warned (Except OracleError Analysis)) := do
  match ← generate transport s (Prompt.analysis source) analysisSampling with
  | .ok response => return (analysisOf response).map .ok
  | .error e => return .silent (.error e)

def oracle (transport : Http.Transport σ) (s : Settings) : Oracle σ where
  suggest := suggest transport s
  analyze := analyze transport s

end Renaming.Server
