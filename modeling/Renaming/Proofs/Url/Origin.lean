import Renaming.Proofs.Url.Reader

/-!
# Where an address leads

The origin of an address is its scheme, its host and its port. With the special schemes that
requests are sent by it depends on nothing but the scheme and the text of the authority
(`map_origin_ofParts?`): two addresses with the same ones of these lead to the same server.
-/

namespace Renaming.Url

variable [DomainRules]

structure Origin where
  scheme : String
  host : Option Host
  port : Option Nat
deriving DecidableEq, Repr, Inhabited

def origin (url : Url) : Origin := ⟨url.scheme, url.host?, url.authority.bind (·.port)⟩

/-! ## Reading an authority -/

/-- The host and the port in an authority of a special scheme. -/
def siteIn? (scheme : String) (cs : List Char) : Option (Host × Option Nat) := do
  let inside := afterLast '@' cs
  let length := hostLength false inside
  if length == 0 then none
  else
    let host ← Host.ofSpecial? (inside.take length)
    let (port, _) ← port? scheme (inside.drop length)
    return (host, port)

theorem map_fst_siteIn? (scheme : String) (cs : List Char) :
    (siteIn? scheme cs).map Prod.fst = hostIn? scheme cs := by
  unfold siteIn? hostIn?
  simp only
  split
  · rfl
  · cases Host.ofSpecial? _ with
    | none => rfl
    | some host => cases port? scheme _ <;> rfl

section

variable {p : Parts} (hspecial : p.isSpecial = true)

include hspecial

/-- Without a host there is no authority. -/
theorem map_hostAndPort? (cs : List Char) :
    (hostAndPort? p cs).map (fun read => (read.1, read.2.1)) =
      (do
        if hostLength false cs == 0 then none
        else
          let host ← Host.ofSpecial? (cs.take (hostLength false cs))
          let (port, _) ← port? p.scheme (cs.drop (hostLength false cs))
          return (some host, port)) := by
  unfold hostAndPort?
  simp only [hspecial, Bool.true_or, if_true]
  split
  · rfl
  · cases Host.ofSpecial? _ with
    | none => rfl
    | some host => cases port? p.scheme _ <;> rfl

theorem map_authority? (cs : List Char) :
    (authority? p cs).map (fun a => (a.1.host, a.1.port)) =
      (siteIn? p.scheme (cs.takeWhile fun c => !isSlash true c)).map
        fun site => (some site.1, site.2) := by
  generalize hinside : (cs.takeWhile fun c => !isSlash true c) = inside
  have hread : (authority? p cs).map (fun a => (a.1.host, a.1.port)) =
      (hostAndPort? p (afterLast '@' inside)).map fun read => (read.1, read.2.1) := by
    unfold authority? afterLast
    rw [hspecial, List.span_eq_takeWhile_dropWhile, hinside]
    cases hcut : cutLast? '@' inside
    all_goals
      simp only [hcut, Option.map_none, Option.map_some, Option.getD_none, Option.getD_some]
      generalize hhost : hostAndPort? p _ = read
      cases read with
      | none => rfl
      | some read =>
        -- Special schemes have a host, so the user and the password do no harm.
        obtain ⟨name, hname, -⟩ := hostAndPort?_eq_some hspecial hhost
        simp [hname]
  rw [hread, map_hostAndPort? hspecial]
  unfold siteIn?
  simp only
  split
  · rfl
  · cases Host.ofSpecial? _ with
    | none => rfl
    | some host => cases port? p.scheme _ <;> rfl

end

theorem siteIn?_eq_some {scheme : String} {cs rest' : List Char} (name rest : List Char)
    {host : Host} {port : Option Nat} (hinside : afterLast '@' cs = name ++ rest)
    (hlength : hostLength false (name ++ rest) = name.length) (hsome : name ≠ [])
    (hhost : Host.ofSpecial? name = some host) (hport : port? scheme rest = some (port, rest')) :
    siteIn? scheme cs = some (host, port) := by
  have hne : (name.length == 0) = false := by simpa using hsome
  unfold siteIn?
  simp only [hinside, hlength, hne, List.take_left, hhost, List.drop_left, hport]
  rfl

/-- The origin of an address that requests are sent to. -/
theorem map_origin_ofParts? {scheme : String} (hscheme : scheme = "http" ∨ scheme = "https")
    (rest : List Char) :
    (ofParts? (.of scheme rest)).map origin =
      (siteIn? scheme (authorityIn rest)).map fun site => ⟨scheme, some site.1, site.2⟩ := by
  have hspecial : (Parts.of scheme rest).isSpecial = true := by
    rcases hscheme with rfl | rfl <;> rfl
  have hfile : ¬((Parts.of scheme rest).scheme == "file") = true := by
    change ¬(scheme == "file") = true
    rcases hscheme with rfl | rfl <;> decide
  have hauthority := map_authority? hspecial ((Parts.of scheme rest).body.dropWhile (isSlash true))
  rw [takeWhile_body] at hauthority
  change _ = Option.map _ (siteIn? scheme (authorityIn rest)) at hauthority
  unfold ofParts?
  rw [if_neg hfile, if_pos hspecial]
  unfold withAuthority?
  cases hread : authority? (.of scheme rest) ((Parts.of scheme rest).body.dropWhile (isSlash true))
    with
  | none =>
    rw [hread] at hauthority
    rw [Option.map_eq_none_iff.mp hauthority.symm]
    rfl
  | some read =>
    rw [hread] at hauthority
    obtain ⟨site, hsite, hsame⟩ := Option.map_eq_some_iff.mp hauthority.symm
    obtain ⟨hhost, hport⟩ := Prod.mk.inj hsame
    rw [hsite, Option.map_some, hhost, hport]
    rfl

theorem map_origin_ofText? {scheme text : String} {rest : List Char}
    (htext : scheme? (tidy text.toList) = some (scheme, rest))
    (hscheme : scheme = "http" ∨ scheme = "https") :
    (ofText? text).map origin =
      (siteIn? scheme (authorityIn rest)).map fun site => ⟨scheme, some site.1, site.2⟩ := by
  unfold ofText?
  rw [htext]
  exact map_origin_ofParts? hscheme rest

end Renaming.Url
