import Renaming.Url.Basic
import Renaming.Url.Path

/-!
# Reading addresses

Addresses are read by the rules of the URL standard, without one that they could be relative to. The
special schemes take any number of slashes in either direction before the authority, and a host they
must have, except for files.
-/

namespace Renaming

namespace Url

variable [DomainRules]

/-! ## Preparing -/

/-- A space or a control character. -/
def isEdge (c : Char) : Bool := c.toNat ≤ 0x20

def isLineMark (c : Char) : Bool := c == '\t' || c == '\n' || c == '\r'

/-- The text without spaces and controls at its ends, and without tabs and line breaks anywhere. -/
def tidy (cs : List Char) : List Char :=
  let cs := cs.dropWhile isEdge
  (cs.reverse.dropWhile isEdge).reverse.filter fun c => !isLineMark c

def isSchemeChar (c : Char) : Bool := c.isAlphanum || c == '+' || c == '-' || c == '.'

/-- The scheme in small letters, and what follows its colon. -/
def scheme? (cs : List Char) : Option (String × List Char) :=
  match cs.span isSchemeChar with
  | (scheme, ':' :: rest) =>
    if scheme.head?.any Char.isAlpha then some (String.ofList (scheme.map Char.toLower), rest)
    else none
  | _ => none

/-- The text before the first mark, and the text after it if there is one. -/
def cut (mark : Char) (cs : List Char) : List Char × Option (List Char) :=
  match cs.span (· != mark) with
  | (before, _ :: after) => (before, some after)
  | (before, []) => (before, none)

/-- A scheme and the three parts after it. -/
structure Parts where
  scheme : String
  /-- Authority and path. -/
  body : List Char
  query : Option (List Char)
  fragment : Option (List Char)

def Parts.of (scheme : String) (cs : List Char) : Parts :=
  let (cs, fragment) := cut '#' cs
  let (body, query) := cut '?' cs
  ⟨scheme, body, query, fragment⟩

def Parts.isSpecial (p : Parts) : Bool := isSpecialScheme p.scheme

/-- The address with the query and the fragment of the parts. -/
def Parts.url (p : Parts) (authority : Option Authority) (path : Path) : Url where
  scheme := p.scheme
  authority
  path
  query := p.query.map fun cs => String.ofList (percentEncode (encodedInQuery p.isSpecial) cs)
  fragment := p.fragment.map fun cs => String.ofList (percentEncode encodedInFragment cs)

/-! ## Authorities -/

/-- A slash, or a backslash where that is the same. -/
def isSlash (special : Bool) (c : Char) : Bool := c == '/' || (special && c == '\\')

/-- The text up to the last mark and the text after it. -/
def cutLast? (mark : Char) (cs : List Char) : Option (List Char × List Char) :=
  match cs.reverse.span (· != mark) with
  | (after, _ :: before) => some (before.reverse, after.reverse)
  | (_, []) => none

def userinfoText (cs : List Char) : String := String.ofList (percentEncode encodedInUserinfo cs)

/-- The length of the host. Colons between brackets belong to it. -/
def hostLength (bracketed : Bool) : List Char → Nat
  | [] => 0
  | c :: cs =>
    if c == ':' && !bracketed then 0
    else hostLength (if c == '[' then true else if c == ']' then false else bracketed) cs + 1

def portLimit : Nat := 65536

/-- The port after a host, and what follows it. A backslash may start a path. The default port of
the scheme is left out. -/
def port? (scheme : String) : List Char → Option (Option Nat × List Char)
  | ':' :: cs =>
    let digits := cs.takeWhile Char.isDigit
    let rest := cs.drop digits.length
    let port := numberIn 10 digits
    if portLimit ≤ port || !(rest.isEmpty || rest.head? == some '\\') then none
    else if digits.isEmpty || some port == defaultPort? scheme then some (none, rest)
    else some (some port, rest)
  | cs => some (none, cs)

/-- The host and the port, and what follows them. Without a host there is no port, and special
schemes need a host. -/
def hostAndPort? (p : Parts) (cs : List Char) :
    Option (Option Host × Option Nat × List Char) := do
  let length := hostLength false cs
  let rest := cs.drop length
  if length == 0 then
    if p.isSpecial || !rest.isEmpty then none else some (none, none, rest)
  else
    let host ←
      if p.isSpecial then Host.ofSpecial? (cs.take length) else Host.ofOther? (cs.take length)
    let (port, rest) ← port? p.scheme rest
    return (some host, port, rest)

/-- The authority that a text starts with, and the path after it. Credentials need a host, and so
does an empty user before more text. -/
def authority? (p : Parts) (cs : List Char) : Option (Authority × List Char) := do
  let (inside, path) := cs.span fun c => !isSlash p.isSpecial c
  let (userinfo, inside) := match cutLast? '@' inside with
    | some (userinfo, inside) => (some userinfo, inside)
    | none => (none, inside)
  let (username, password) := cut ':' (userinfo.getD [])
  let (host, port, rest) ← hostAndPort? p inside
  let authority : Authority := ⟨userinfoText username, userinfoText (password.getD []), host, port⟩
  let endsHere := path.isEmpty && p.query.isNone && p.fragment.isNone
  if host.isNone && (authority.hasCredentials || (userinfo == some [] && !endsHere)) then none
  else some (authority, rest ++ path)

/-! ## Paths -/

/-- The segments of a path that starts after its first slash. -/
def segmentsOf (isFile special : Bool) (cs : List Char) : Path :=
  let segments := addSegments isFile [] (Text.splitAt (isSlash special) cs)
  .segments (if isFile then dropEmpty segments else segments)

/-- The path after an authority. Special schemes always have one. -/
def pathAfter (special : Bool) : List Char → Path
  | [] => .segments (if special then [""] else [])
  | c :: cs => segmentsOf false special (if isSlash special c then cs else c :: cs)

/-! ## Schemes -/

def withAuthority? (p : Parts) (cs : List Char) : Option Url := do
  let (authority, path) ← authority? p cs
  return p.url (some authority) (pathAfter p.isSpecial path)

/-- The authority of a file on this machine. -/
def thisMachine : Authority := ⟨"", "", none, none⟩

/-- The host of a file, none for this machine. -/
def fileHost? (cs : List Char) : Option (Option Host) :=
  if cs.isEmpty then some none
  else (Host.ofSpecial? cs).map fun host => if host == .domain "localhost" then none else some host

/-- A path that starts with a drive letter belongs to this machine. -/
def startsWithDrive : Path → Bool
  | .segments (drive :: _) => isDriveLetter drive.toList
  | _ => false

/-- A file, with a host only after two slashes. A drive letter is no host. -/
def file? (p : Parts) : Option Url :=
  match p.body with
  | a :: b :: cs =>
    if isSlash true a && isSlash true b then do
      let (name, rest) := cs.span fun c => !isSlash true c
      if isDriveLetter name then return p.url (some thisMachine) (segmentsOf true true cs)
      else
        let host ← fileHost? name
        let path := segmentsOf true true (rest.drop 1)
        let host := if startsWithDrive path then none else host
        return p.url (some { thisMachine with host }) path
    else
      let body := if isSlash true a then b :: cs else p.body
      some (p.url (some thisMachine) (segmentsOf true true body))
  | [c] =>
    some (p.url (some thisMachine) (segmentsOf true true (if isSlash true c then [] else [c])))
  | [] => some (p.url (some thisMachine) (segmentsOf true true []))

/-- An address with a scheme that is not special. -/
def other? (p : Parts) : Option Url :=
  match p.body with
  | '/' :: '/' :: cs => withAuthority? p cs
  | '/' :: cs => some (p.url none (segmentsOf false false cs))
  | cs => some (p.url none (.plain (String.ofList (percentEncode isUnprintable cs))))

def ofParts? (p : Parts) : Option Url :=
  if p.scheme == "file" then file? p
  else if p.isSpecial then withAuthority? p (p.body.dropWhile (isSlash true))
  else other? p

/-- The address that a text stands for. -/
def ofText? (text : String) : Option Url := do
  let (scheme, rest) ← scheme? (tidy text.toList)
  ofParts? (.of scheme rest)

end Url

end Renaming
