import Renaming.Oracle
import Renaming.Text.Blank
import Renaming.Url.Reader

/-!
# The address of the server

The setting for the server is a text. What is posted to is made from it as a text, too, so it may
turn out not to be an address at all.
-/

namespace Renaming.Server

variable [Url.DomainRules]

/-! ## Locality -/

/-- Nothing sent to the server leaves this machine. A text that is no address is not sent to. -/
def isLocal (server : String) : Bool :=
  match (Url.ofText? server).bind Url.host? with
  | some host => host.isLoopback
  | none => true

def localityWarning (server : String) : String :=
  "Ollama server '" ++ server ++ "' is not a local address; code excerpts will leave this machine"

/-- What there is to say before the first request. -/
def warnings (server : String) : List String :=
  if isLocal server then [] else [localityWarning server]

/-! ## The address for requests -/

/-- Version of the interface that some servers have in their address. -/
def versionPart : List Char := "/v1".toList

def dropVersion (cs : List Char) : List Char :=
  if versionPart.isSuffixOf cs then cs.take (cs.length - versionPart.length) else cs

/-- The text without blanks around it, slashes at its end and then a version. -/
def base (server : String) : String :=
  String.ofList (dropVersion ((Text.trimBoth server.toList).reverse.dropWhile (· == '/')).reverse)

def endpoint (server : String) : String := base server ++ "/api/generate"

/-- The user and the password of an address, if they are text and not both missing. They travel
beside the address and not in it. -/
def credentials? (url : Url) : Option (String × String) := do
  let a ← url.authority
  let user ← Url.percentDecode? a.username.toList
  let password := (Url.percentDecode? a.password.toList).getD []
  if user.isEmpty && password.isEmpty then none
  else return (String.ofList user, String.ofList password)

def withoutCredentials (url : Url) : Url :=
  if (credentials? url).isSome then url.withoutCredentials else url

def lengthLimit : Nat := 65534

/-- The address can be written into a request. -/
def isSendable (url : Url) : Bool :=
  url.isHttp && url.text.utf8ByteSize ≤ lengthLimit &&
    !url.host?.any fun host => host.text.toList.any ("\"\x60\x7b\x7d".toList.contains ·)

/-- What requests are posted to. -/
structure Target where
  url : Url
  credentials : Option (String × String)
deriving DecidableEq, Repr, Inhabited

def target (server : String) : Except TransportError Target :=
  match Url.ofText? (endpoint server) with
  | none => .error .malformedUrl
  | some url =>
    if url.host?.isNone then .error (.unusableUrl url.text)
    else if isSendable (withoutCredentials url) then .ok ⟨withoutCredentials url, credentials? url⟩
    else .error (.unusableUrl (withoutCredentials url).text)

end Renaming.Server
