import Mathlib.Data.List.TakeDrop
import Mathlib.Data.List.TakeWhile
import Renaming.Proofs.Url.Domain
import Renaming.Proofs.Url.Percent
import Renaming.Url.Reader

/-!
# Hosts of addresses

For the special schemes the host depends on nothing but the text between the first slashes and the
end of the authority (`host?_of_ofParts?`). No such text ends in a blank or a control character
(`hostIn?_of_gap`).
-/

namespace Renaming.Url

variable {c : Char}

/-! ## Gaps -/

theorem Gap.toNat (h : Gap c) : c.toNat ≤ 0x20 ∨ 0x80 ≤ c.toNat := by
  rcases h with h | h
  · exact .inl h
  · simp only [Text.isBlank, Bool.or_eq_true, Bool.and_eq_true, decide_eq_true_eq, beq_iff_eq] at h
    omega

theorem Gap.ne (h : Gap c) {d : Char} (hd : 0x20 < d.toNat ∧ d.toNat < 0x80) : c ≠ d := by
  rintro rfl
  have := h.toNat
  omega

theorem Gap.isDigit (h : Gap c) : c.isDigit = false := by
  rw [Bool.eq_false_iff]
  intro hdigit
  have hrange : 0x30 ≤ c.toNat ∧ c.toNat ≤ 0x39 := by
    simpa [Char.isDigit, UInt32.le_iff_toNat_le] using hdigit
  have := h.toNat
  omega

theorem Gap.unescaped (h : Gap c) : Unescaped c where
  noMark := h.ne (by decide)
  noDigit := by
    have hletter : ∀ {first last : Char}, 0x20 < first.toNat → last.toNat < 0x80 →
        ¬(decide (first ≤ c) && decide (c ≤ last)) = true := by
      intro first last hfirst hlast
      have := h.toNat
      simp only [Bool.and_eq_true, decide_eq_true_eq, Char.le_def, UInt32.le_iff_toNat_le]
      change ¬(first.toNat ≤ c.toNat ∧ c.toNat ≤ last.toNat)
      omega
    unfold hexValue?
    rw [h.isDigit, if_neg Bool.false_ne_true, if_neg (hletter (by decide) (by decide)),
      if_neg (hletter (by decide) (by decide))]

/-! ## The end of a host -/

section

variable [DomainRules]

theorem Host.ofSpecial?_cons (hc : c ≠ '[') (cs : List Char) :
    ofSpecial? (c :: cs) = (percentDecode? (c :: cs) >>= DomainRules.toASCII? >>= ofDomain?) := by
  unfold ofSpecial?
  split
  · rename_i heq
    exact absurd (List.cons.inj heq).1 hc
  · rfl

variable [LawfulDomainRules]

theorem Host.ofSpecial?_of_plain {cs : List Char} {host : Host} (hcs : cs ≠ [])
    (hall : (cs.all fun c => decide (IsPlain c)) = true) (hdecode : percentDecode? cs = some cs)
    (hhost : ofDomain? cs = some host) : ofSpecial? cs = some host := by
  have hplain : ∀ c ∈ cs, IsPlain c := by
    simpa only [List.all_eq_true, decide_eq_true_eq] using hall
  obtain ⟨c, rest, rfl⟩ := List.exists_cons_of_ne_nil hcs
  have hc : c ≠ '[' := by
    rintro rfl
    exact absurd (hplain '[' (List.mem_cons_self ..)) (by decide)
  have hname := LawfulDomainRules.toASCII?_of_plain hcs hplain
  rw [ofSpecial?_cons hc, hdecode, Option.bind_eq_bind, Option.bind_eq_bind, Option.bind_some,
    hname, Option.bind_some, hhost]

theorem Host.ofSpecial?_of_gap (h : Gap c) (cs : List Char) : ofSpecial? (cs ++ [c]) = none := by
  generalize hall : cs ++ [c] = all
  fun_cases ofSpecial? all with
  | case1 rest =>
    have hlast : rest.getLast? ≠ some ']' := by
      intro hbracket
      have hend : ('[' :: rest).getLast? = some ']' := by
        rw [List.getLast?_cons, hbracket, Option.getD_some]
      rw [← hall, List.getLast?_concat] at hend
      exact h.ne (by decide) (Option.some.inj hend)
    unfold ofBrackets?
    rw [if_neg]
    simpa using hlast
  | case2 all _ =>
    rw [Option.eq_none_iff_forall_ne_some]
    intro host hhost
    obtain ⟨name, hname, hhost⟩ := Option.bind_eq_some_iff.mp hhost
    obtain ⟨decoded, hdecoded, hname⟩ := Option.bind_eq_some_iff.mp hname
    rw [← hall] at hdecoded
    rw [LawfulDomainRules.toASCII?_of_gap (mem_of_percentDecode? h.unescaped hdecoded) h] at hname
    cases hname

end

theorem port?_of_gap (h : Gap c) {cs : List Char} (hcs : '\\' ∉ cs) (scheme : String) :
    port? scheme (':' :: (cs ++ [c])) = none := by
  -- The digits do not reach to the end, and what follows them is no backslash.
  have hne : (cs ++ [c]).drop ((cs ++ [c]).takeWhile Char.isDigit).length ≠ [] := by
    intro hnil
    have hdigits := (List.takeWhile_sublist Char.isDigit).eq_of_length_le
      (List.drop_eq_nil_iff.mp hnil)
    have hdigit := List.takeWhile_eq_self_iff.mp hdigits c (by simp)
    rw [h.isDigit] at hdigit
    cases hdigit
  obtain ⟨d, rest, hrest⟩ := List.exists_cons_of_ne_nil hne
  have hd : d ≠ '\\' := by
    rintro rfl
    have hmem : '\\' ∈ cs ++ [c] := List.mem_of_mem_drop (hrest ▸ List.mem_cons_self ..)
    rcases List.mem_append.mp hmem with hmem | hmem
    · exact hcs hmem
    · exact h.ne (by decide) (List.mem_singleton.mp hmem).symm
  simp only [port?, hrest]
  rw [if_pos]
  simp [hd]

theorem drop_hostLength (bracketed : Bool) (cs : List Char) :
    cs.drop (hostLength bracketed cs) = [] ∨
      ∃ rest, cs.drop (hostLength bracketed cs) = ':' :: rest := by
  induction cs generalizing bracketed with
  | nil => exact .inl rfl
  | cons c cs ih =>
    unfold hostLength
    split
    · rename_i hcolon
      rw [Bool.and_eq_true, beq_iff_eq] at hcolon
      exact .inr ⟨cs, by rw [List.drop_zero, hcolon.1]⟩
    · exact ih _

/-- What follows the last mark, or all of the text if there is none. -/
def afterLast (mark : Char) (cs : List Char) : List Char :=
  ((cutLast? mark cs).map (·.2)).getD cs

theorem afterLast_append {mark : Char} (hc : c ≠ mark) (cs : List Char) :
    ∃ rest, afterLast mark (cs ++ [c]) = rest ++ [c] ∧ rest ⊆ cs := by
  have hspan : (cs ++ [c]).reverse.span (· != mark) =
      (c :: cs.reverse.takeWhile (· != mark), cs.reverse.dropWhile (· != mark)) := by
    have hkept : (c != mark) = true := bne_iff_ne.mpr hc
    rw [List.reverse_append, List.span_eq_takeWhile_dropWhile]
    simp [hkept]
  unfold afterLast cutLast?
  rw [hspan]
  cases cs.reverse.dropWhile (· != mark) with
  | nil => exact ⟨cs, rfl, List.Subset.refl cs⟩
  | cons d before =>
    refine ⟨(cs.reverse.takeWhile (· != mark)).reverse, by simp, fun x hx => ?_⟩
    have := (List.takeWhile_sublist _).subset (List.mem_reverse.mp hx)
    exact List.mem_reverse.mp this

/-- The host in an authority of a special scheme. -/
def hostIn? [DomainRules] (scheme : String) (cs : List Char) : Option Host := do
  let inside := afterLast '@' cs
  let length := hostLength false inside
  if length == 0 then none
  else
    let host ← Host.ofSpecial? (inside.take length)
    let _ ← port? scheme (inside.drop length)
    return host

theorem hostIn?_of_gap [DomainRules] [LawfulDomainRules] (h : Gap c) {cs : List Char}
    (hcs : '\\' ∉ cs) (scheme : String) : hostIn? scheme (cs ++ [c]) = none := by
  have hat : c ≠ '@' := h.ne (by decide)
  obtain ⟨rest, hrest, hsub⟩ := afterLast_append hat cs
  unfold hostIn?
  rw [hrest]
  have hbackslash : '\\' ∉ rest := fun hmem => hcs (hsub hmem)
  rcases drop_hostLength false (rest ++ [c]) with hdrop | ⟨after, hdrop⟩
  · have htake : (rest ++ [c]).take (hostLength false (rest ++ [c])) = rest ++ [c] :=
      List.take_of_length_le (List.drop_eq_nil_iff.mp hdrop)
    simp only [htake, Host.ofSpecial?_of_gap h]
    exact ite_self none
  · have hall : rest ++ [c] =
        (rest ++ [c]).take (hostLength false (rest ++ [c])) ++ ':' :: after := by
      rw [← hdrop, List.take_append_drop]
    have hafter : ∃ cs', after = cs' ++ [c] ∧ '\\' ∉ cs' := by
      rcases List.eq_nil_or_concat' after with rfl | ⟨cs', d, rfl⟩
      · have hc := congrArg List.getLast? hall
        rw [List.getLast?_concat, List.getLast?_concat] at hc
        exact absurd (Option.some.inj hc) (h.ne (by decide))
      · rw [← List.cons_append, ← List.append_assoc] at hall
        obtain ⟨hinit, hlast⟩ := List.append_inj' hall rfl
        cases hlast
        refine ⟨cs', rfl, fun hmem => hbackslash ?_⟩
        rw [hinit]
        exact List.mem_append_right _ (List.mem_cons_of_mem _ hmem)
    obtain ⟨cs', rfl, hcs'⟩ := hafter
    simp only [hdrop, port?_of_gap h hcs']
    split
    · rfl
    · cases Host.ofSpecial? _ <;> rfl

/-! ## The place of the host -/

def isEnd (c : Char) : Bool := isSlash true c || c == '?' || c == '#'

/-- The authority in what follows the colon of a special scheme. -/
def authorityIn (cs : List Char) : List Char :=
  (cs.dropWhile (isSlash true)).takeWhile fun c => !isEnd c

theorem dropWhile_takeWhile {p q : Char → Bool} (h : ∀ c, p c = true → q c = true)
    (cs : List Char) : (cs.takeWhile q).dropWhile p = (cs.dropWhile p).takeWhile q := by
  induction cs with
  | nil => rfl
  | cons c cs ih =>
    cases hp : p c with
    | false => cases hq : q c <;> simp [hp, hq]
    | true => simp [hp, h c hp, ih]

theorem fst_cut (mark : Char) (cs : List Char) : (cut mark cs).1 = cs.takeWhile (· != mark) := by
  unfold cut
  rw [List.span_eq_takeWhile_dropWhile]
  cases cs.dropWhile (· != mark) <;> rfl

/-- Neither the query nor the fragment has anything to do with the authority. -/
theorem takeWhile_body (scheme : String) (rest : List Char) :
    (((Parts.of scheme rest).body.dropWhile (isSlash true)).takeWhile fun c => !isSlash true c) =
      authorityIn rest := by
  have hbody : (Parts.of scheme rest).body =
      (rest.takeWhile (· != '#')).takeWhile (· != '?') := by
    rw [← fst_cut, ← fst_cut]
    rfl
  have hslash : ∀ c, isSlash true c = true →
      decide ((c != '?') = true ∧ (c != '#') = true) = true := by
    intro c hc
    simp only [isSlash, Bool.true_and, Bool.or_eq_true, beq_iff_eq] at hc
    rcases hc with rfl | rfl <;> rfl
  rw [hbody, List.takeWhile_takeWhile, dropWhile_takeWhile hslash, List.takeWhile_takeWhile,
    authorityIn]
  congr 1
  funext c
  rw [Bool.eq_iff_iff]
  simp [isEnd, and_assoc]

section

variable [DomainRules]

theorem hostAndPort?_eq_some {p : Parts} (hspecial : p.isSpecial = true) {cs rest : List Char}
    {host : Option Host} {port : Option Nat} (h : hostAndPort? p cs = some (host, port, rest)) :
    ∃ name, host = some name ∧ hostLength false cs ≠ 0 ∧
      Host.ofSpecial? (cs.take (hostLength false cs)) = some name ∧
      (port? p.scheme (cs.drop (hostLength false cs))).isSome = true := by
  unfold hostAndPort? at h
  simp only [hspecial, Bool.true_or, if_true] at h
  split at h
  · cases h
  · rename_i hlength
    obtain ⟨name, hname, h⟩ := Option.bind_eq_some_iff.mp h
    obtain ⟨⟨port', rest'⟩, hport, h⟩ := Option.bind_eq_some_iff.mp h
    cases h
    refine ⟨name, rfl, ?_, hname, ?_⟩
    · simpa using hlength
    · rw [hport]
      rfl

theorem hostIn?_of_authority? {p : Parts} (hspecial : p.isSpecial = true) {cs path : List Char}
    {a : Authority} (h : authority? p cs = some (a, path)) :
    ∃ host, a.host = some host ∧
      hostIn? p.scheme (cs.takeWhile fun c => !isSlash true c) = some host := by
  unfold authority? at h
  rw [hspecial, List.span_eq_takeWhile_dropWhile] at h
  generalize cs.takeWhile (fun c => !isSlash true c) = inside at h ⊢
  have hread : ∃ port rest, hostAndPort? p (afterLast '@' inside) = some (a.host, port, rest) := by
    unfold afterLast
    cases hcut : cutLast? '@' inside
    all_goals
      simp only [hcut] at h
      obtain ⟨⟨host, port, rest⟩, hhost, h⟩ := Option.bind_eq_some_iff.mp h
      simp only at h
      split at h
      · cases h
      · cases h
        exact ⟨port, rest, hhost⟩
  obtain ⟨port, rest, hread⟩ := hread
  obtain ⟨name, hname, hlength, hspecialHost, hport⟩ := hostAndPort?_eq_some hspecial hread
  obtain ⟨portRest, hport⟩ := Option.isSome_iff_exists.mp hport
  refine ⟨name, hname, ?_⟩
  unfold hostIn?
  simp only [beq_eq_false_iff_ne.mpr hlength, Bool.false_eq_true, if_false, hspecialHost, hport]
  rfl

theorem host?_of_ofParts? {scheme : String} (hscheme : scheme = "http" ∨ scheme = "https")
    {rest : List Char} {url : Url} (h : ofParts? (.of scheme rest) = some url) :
    ∃ host, url.host? = some host ∧ hostIn? scheme (authorityIn rest) = some host := by
  have hspecial : (Parts.of scheme rest).isSpecial = true := by
    rcases hscheme with rfl | rfl <;> rfl
  have hfile : ¬((Parts.of scheme rest).scheme == "file") = true := by
    change ¬(scheme == "file") = true
    rcases hscheme with rfl | rfl <;> decide
  unfold ofParts? at h
  rw [if_neg hfile, if_pos hspecial] at h
  obtain ⟨⟨a, path⟩, ha, h⟩ := Option.bind_eq_some_iff.mp h
  cases h
  obtain ⟨host, hhost, hin⟩ := hostIn?_of_authority? hspecial ha
  rw [takeWhile_body] at hin
  exact ⟨host, hhost, hin⟩

end

end Renaming.Url
