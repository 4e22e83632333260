import Renaming.Url.Host

/-!
# Addresses

An address of a resource, in the parts that the URL standard has for it. Each part is kept in the
form in which it is written.
-/

namespace Renaming

namespace Url

/-- What comes between `//` and the path. There is no password without text. -/
structure Authority where
  username : String
  password : String
  host : Option Host
  port : Option Nat
deriving DecidableEq, Repr, Inhabited

inductive Path where
  /-- A text without structure, as in `mailto:`. -/
  | plain (text : String)
  | segments (segments : List String)
deriving DecidableEq, Repr, Inhabited

end Url

structure Url where
  scheme : String
  authority : Option Url.Authority
  path : Url.Path
  query : Option String
  fragment : Option String
deriving DecidableEq, Repr, Inhabited

namespace Url

/-! ## Schemes -/

def isSpecialScheme (scheme : String) : Bool :=
  ["http", "https", "ws", "wss", "ftp", "file"].contains scheme

def defaultPort? : String → Option Nat
  | "http" | "ws" => some 80
  | "https" | "wss" => some 443
  | "ftp" => some 21
  | _ => none

/-- Requests can be sent to the address. -/
def isHttp (url : Url) : Bool := url.scheme == "http" || url.scheme == "https"

/-! ## Authorities -/

def host? (url : Url) : Option Host := url.authority.bind (·.host)

def Authority.hasCredentials (a : Authority) : Bool := a.username != "" || a.password != ""

def withoutCredentials (url : Url) : Url :=
  { url with authority := url.authority.map fun a => { a with username := "", password := "" } }

/-! ## Writing -/

def Authority.text (a : Authority) : String :=
  a.username ++ (if a.password == "" then "" else ":" ++ a.password) ++
    (if a.hasCredentials then "@" else "") ++ (a.host.map Host.text).getD "" ++
    (a.port.map fun port => s!":{port}").getD ""

/-- Without an authority a path must not look like one. -/
def Path.text (hasAuthority : Bool) : Path → String
  | plain text => text
  | .segments parts =>
    (if !hasAuthority && parts.head? == some "" && 1 < parts.length then "/." else "") ++
      String.join (parts.map ("/" ++ ·))

def text (url : Url) : String :=
  url.scheme ++ ":" ++ (url.authority.map fun a => "//" ++ a.text).getD "" ++
    url.path.text url.authority.isSome ++ (url.query.map ("?" ++ ·)).getD "" ++
    (url.fragment.map ("#" ++ ·)).getD ""

end Url

end Renaming
