import Renaming.Json.Basic
import Renaming.Url.Basic

/-!
# Transport

How requests travel. What comes back may depend on all that was sent before.
-/

namespace Renaming.Http

structure Post where
  url : Url
  /-- A user and a password, which travel beside the address. -/
  credentials : Option (String × String)
  body : Json
deriving Inhabited

inductive Delivery where
  | reply (status : Nat) (body : String)
  /-- No server answered. -/
  | undelivered
deriving DecidableEq, Repr, Inhabited

abbrev Transport (σ : Type) := Post → StateM σ Delivery

namespace Transport

/-- A transport without a network. -/
def none : Transport σ := fun _ => pure .undelivered

/-! ## Replies known beforehand -/

/-- Replies for the first requests, and the first request beyond them. -/
structure Script where
  replies : List Delivery
  open? : Option Post
deriving Inhabited

def scripted : Transport Script := fun post => do
  let s ← get
  match s.replies with
  | reply :: replies =>
    set { s with replies }
    return reply
  | [] =>
    set { s with open? := s.open?.or (some post) }
    return .undelivered

end Transport

end Renaming.Http
