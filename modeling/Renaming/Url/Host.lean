import Renaming.Url.Address
import Renaming.Url.Percent

/-!
# Hosts

The host of an address is a domain name or a numeric address. In addresses with a scheme that is not
special a name is kept as it is, apart from characters that have to be encoded.
-/

namespace Renaming.Url

inductive Host where
  | domain (name : String)
  | ipv4 (address : Nat)
  /-- Eight pieces of 16 bits. -/
  | ipv6 (pieces : List Nat)
deriving DecidableEq, Repr, Inhabited

namespace Host

def text : Host → String
  | domain name => name
  | ipv4 address => ipv4Text address
  | ipv6 pieces => "[" ++ ipv6Text pieces ++ "]"

/-- The name for this machine or an address that never leaves it. -/
def isLoopback : Host → Bool
  | domain name => name == "localhost"
  | ipv4 address => address / Nat.pow 256 3 == 127
  | ipv6 pieces => pieces == [0, 0, 0, 0, 0, 0, 0, 1]

/-! ## Reading -/

/-- An IPv6 address between brackets. -/
def ofBrackets? (cs : List Char) : Option Host :=
  if cs.getLast? == some ']' then (ipv6? cs.dropLast).map ipv6 else none

/-- A name that ends in a number has to be an IPv4 address. -/
def ofDomain? (name : List Char) : Option Host :=
  if name.isEmpty then none
  else if endsInNumber name then (ipv4? name).map ipv4
  else some (domain (String.ofList name))

/-- A host after a special scheme. -/
def ofSpecial? [DomainRules] : List Char → Option Host
  | '[' :: cs => ofBrackets? cs
  | cs => percentDecode? cs >>= DomainRules.toASCII? >>= ofDomain?

def isForbidden (c : Char) : Bool := "\x00\t\n\r #/:<>?@[\\]^|".toList.contains c

/-- A host after any other scheme. -/
def ofOther? : List Char → Option Host
  | '[' :: cs => ofBrackets? cs
  | cs =>
    if cs.any isForbidden then none
    else some (domain (String.ofList (percentEncode isUnprintable cs)))

end Host

end Renaming.Url
