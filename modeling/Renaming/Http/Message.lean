import Renaming.Http.Transport
import Renaming.Json.Printer

/-!
# HTTP messages

The bytes of a request and of its reply. A connection serves one request, so a reply ends where the
connection does, unless it says its own length.
-/

namespace Renaming.Http

/-! ## Requests -/

def base64Digit (n : Nat) : Char :=
  Char.ofNat (if n < 26 then 'A'.toNat + n else if n < 52 then 'a'.toNat + (n - 26)
    else if n < 62 then '0'.toNat + (n - 52) else if n == 62 then '+'.toNat else '/'.toNat)

/-- Three bytes are four digits of six bits. What is missing at the end is filled up with `=`. -/
def base64 : List UInt8 → List Char
  | [] => []
  | [a] => [base64Digit (a.toNat / 4), base64Digit (a.toNat % 4 * 16), '=', '=']
  | [a, b] =>
    [base64Digit (a.toNat / 4), base64Digit (a.toNat % 4 * 16 + b.toNat / 16),
      base64Digit (b.toNat % 16 * 4), '=']
  | a :: b :: c :: bytes =>
    base64Digit (a.toNat / 4) :: base64Digit (a.toNat % 4 * 16 + b.toNat / 16) ::
      base64Digit (b.toNat % 16 * 4 + c.toNat / 64) :: base64Digit (c.toNat % 64) :: base64 bytes

def header (name value : String) : String := name ++ ": " ++ value ++ "\r\n"

def authorization (user password : String) : String :=
  header "Authorization"
    ("Basic " ++ String.ofList (base64 (user ++ ":" ++ password).toUTF8.toList))

/-- The host and, unless it is the usual one, the port. -/
def hostText (url : Url) : String :=
  ((url.host?.map (·.text)).getD "") ++
    ((url.authority.bind (·.port)).map fun port => ":" ++ toString port).getD ""

/-- What is asked for at the host. -/
def requestTarget (url : Url) : String :=
  url.path.text true ++ (url.query.map ("?" ++ ·)).getD ""

def requestText (post : Post) : String :=
  let body := post.body.compact
  "POST " ++ requestTarget post.url ++ " HTTP/1.1\r\n" ++ header "Host" (hostText post.url) ++
    ((post.credentials.map fun (user, password) => authorization user password).getD "") ++
    header "Content-Type" "application/json" ++
    header "Content-Length" (toString body.utf8ByteSize) ++
    header "Connection" "close" ++ "\r\n" ++ body

/-! ## Replies -/

/-- The bytes before the first end of a line, and those after it. -/
def splitLine? : List UInt8 → Option (List UInt8 × List UInt8)
  | 13 :: 10 :: bytes => some ([], bytes)
  | b :: bytes => (splitLine? bytes).map fun (line, rest) => (b :: line, rest)
  | [] => none

def asciiText (bytes : List UInt8) : String := String.ofList (bytes.map fun b => Char.ofNat b.toNat)

/-- The lines up to the first empty one, at most `limit` of them, and what follows. -/
def headLines? (limit : Nat) (bytes : List UInt8) : Option (List String × List UInt8) :=
  match limit, splitLine? bytes with
  | _, none => none
  | 0, _ => none
  | _, some ([], rest) => some ([], rest)
  | limit + 1, some (line, rest) =>
    (headLines? limit rest).map fun (lines, rest) => (asciiText line :: lines, rest)

/-- The value of a header. Its name may be written in any case. -/
def headerValue? (name : String) (lines : List String) : Option String :=
  lines.findSome? fun line =>
    let key := line.toList.takeWhile (· != ':')
    if key.map Char.toLower == name.toList then
      some (String.ofList ((line.toList.drop (key.length + 1)).filter (· != ' ')))
    else none

def hexNumber (cs : List Char) : Nat :=
  (cs.takeWhile fun c => c.isDigit || ('a' ≤ c.toLower && c.toLower ≤ 'f')).foldl
    (fun n c =>
      16 * n + (if c.isDigit then c.toNat - '0'.toNat else c.toLower.toNat - 'a'.toNat + 10)) 0

/-- The contents of at most `limit` chunks, each with its size in front. -/
def chunks (limit : Nat) (bytes : List UInt8) : List UInt8 :=
  match limit, splitLine? bytes with
  | limit + 1, some (size, rest) =>
    let size := hexNumber (asciiText size).toList
    if size == 0 then [] else rest.take size ++ chunks limit (rest.drop (size + 2))
  | _, _ => []

def statusOf? (line : String) : Option Nat :=
  match line.splitOn " " with
  | _ :: status :: _ => status.toNat?
  | _ => none

/-- What a reply says, none if it is no reply. -/
def delivery? (reply : ByteArray) : Option Delivery := do
  let bytes := reply.toList
  let (lines, rest) ← headLines? bytes.length bytes
  let status ← lines.head?.bind statusOf?
  let lines := lines.drop 1
  let body :=
    if (headerValue? "transfer-encoding" lines).any (·.toLower == "chunked") then
      chunks rest.length rest
    else match (headerValue? "content-length" lines).bind (·.toNat?) with
      | some length => rest.take length
      | none => rest
  return .reply status ((String.fromUTF8? ⟨body.toArray⟩).getD "")

end Renaming.Http
