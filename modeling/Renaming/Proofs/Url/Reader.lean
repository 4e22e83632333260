import Renaming.Proofs.Url.Host

/-!
# Addresses with more text behind them

Reading takes spaces and controls away at the ends (`exists_tidy`). The scheme is found in the same
place when there is more text (`scheme?_append`), and the authority stays as it is when the text
goes on after its end (`authorityIn_append_end`). Blanks and controls behind a text can only spoil
its host, never change it (`hostIn?_append_gaps`).
-/

namespace Renaming.Url

/-! ## Preparing -/

/-- The text without tabs and line breaks. -/
def onOneLine (cs : List Char) : List Char := cs.filter fun c => !isLineMark c

theorem isEdge_of_isLineMark {c : Char} (h : isLineMark c = true) : isEdge c = true := by
  simp only [isLineMark, Bool.or_eq_true, beq_iff_eq] at h
  rcases h with (rfl | rfl) | rfl <;> decide

theorem onOneLine_dropWhile_isEdge (cs : List Char) :
    onOneLine (cs.dropWhile isEdge) = (onOneLine cs).dropWhile isEdge := by
  induction cs with
  | nil => rfl
  | cons c cs ih =>
    cases hedge : isEdge c with
    | true =>
      rw [List.dropWhile_cons_of_pos hedge, ih]
      unfold onOneLine
      rw [List.filter_cons]
      split
      · rw [List.dropWhile_cons_of_pos hedge]
      · rfl
    | false =>
      have hkept : (!isLineMark c) = true := by
        rw [Bool.not_eq_true']
        exact Bool.eq_false_iff.mpr fun hmark => by
          rw [isEdge_of_isLineMark hmark] at hedge
          cases hedge
      unfold onOneLine
      rw [List.dropWhile_cons_of_neg (by simp [hedge]), List.filter_cons, if_pos hkept,
        List.dropWhile_cons_of_neg (by simp [hedge])]

/-- What is left of a text once the spaces and controls at its ends are gone. -/
theorem exists_tidy (cs : List Char) : ∃ after,
    (onOneLine cs).dropWhile isEdge = tidy cs ++ after ∧ ∀ c ∈ after, isEdge c = true := by
  let start := cs.dropWhile isEdge
  refine ⟨onOneLine (start.reverse.takeWhile isEdge).reverse, ?_, ?_⟩
  · have hstart : start = (start.reverse.dropWhile isEdge).reverse ++
        (start.reverse.takeWhile isEdge).reverse := by
      rw [← List.reverse_append, List.takeWhile_append_dropWhile, List.reverse_reverse]
    rw [← onOneLine_dropWhile_isEdge]
    change onOneLine start = _
    conv => lhs; rw [hstart]
    exact List.filter_append ..
  · intro c hc
    exact List.mem_takeWhile_imp (List.mem_reverse.mp (List.mem_of_mem_filter hc))

/-! ## Schemes -/

theorem scheme?_eq_some_iff {cs rest : List Char} {scheme : String} :
    scheme? cs = some (scheme, rest) ↔ ∃ name, cs = name ++ ':' :: rest ∧
      (∀ c ∈ name, isSchemeChar c = true) ∧ name.head?.any Char.isAlpha = true ∧
      scheme = String.ofList (name.map Char.toLower) := by
  unfold scheme?
  rw [List.span_eq_takeWhile_dropWhile]
  constructor
  · intro h
    split at h
    · rename_i name rest' hspan
      obtain ⟨hname, hrest⟩ := Prod.mk.inj hspan
      split at h
      · rename_i hhead
        cases h
        refine ⟨name, ?_, ?_, hhead, rfl⟩
        · rw [← hname, ← hrest, List.takeWhile_append_dropWhile]
        · exact fun c hc => List.mem_takeWhile_imp (hname ▸ hc)
      · cases h
    · cases h
  · rintro ⟨name, rfl, hname, hhead, rfl⟩
    have hcolon : ¬isSchemeChar ':' = true := by decide
    rw [List.takeWhile_append_of_pos hname, List.dropWhile_append_of_pos hname,
      List.takeWhile_cons_of_neg hcolon, List.dropWhile_cons_of_neg hcolon, List.append_nil]
    exact if_pos hhead

theorem scheme?_append {cs rest : List Char} {scheme : String}
    (h : scheme? cs = some (scheme, rest)) (after : List Char) :
    scheme? (cs ++ after) = some (scheme, rest ++ after) := by
  obtain ⟨name, rfl, hname⟩ := scheme?_eq_some_iff.mp h
  exact scheme?_eq_some_iff.mpr ⟨name, by simp, hname⟩

theorem scheme?_of_append {cs after rest : List Char} {scheme : String}
    (h : scheme? (cs ++ after) = some (scheme, rest)) (hcolon : ':' ∉ after) :
    ∃ rest', scheme? cs = some (scheme, rest') ∧ rest = rest' ++ after := by
  obtain ⟨name, hsplit, hname⟩ := scheme?_eq_some_iff.mp h
  rcases List.append_eq_append_iff.mp hsplit with ⟨ds, -, hafter⟩ | ⟨ds, hcs, hrest⟩
  · exact absurd (hafter ▸ List.mem_append_cons_self) hcolon
  · cases ds with
    | nil =>
      rw [List.nil_append] at hrest
      exact absurd (hrest ▸ List.mem_cons_self ..) hcolon
    | cons d ds =>
      obtain ⟨rfl, htail⟩ := List.cons.inj hrest
      exact ⟨ds, scheme?_eq_some_iff.mpr ⟨name, hcs, hname⟩, htail⟩

theorem scheme?_of_gap {c : Char} (h : Gap c) (cs : List Char) : scheme? (c :: cs) = none := by
  rw [Option.eq_none_iff_forall_ne_some]
  rintro ⟨scheme, rest⟩ hscheme
  obtain ⟨name, hname, -, hhead, -⟩ := scheme?_eq_some_iff.mp hscheme
  cases name with
  | nil => cases hhead
  | cons d name =>
    obtain ⟨rfl, -⟩ := List.cons.inj hname
    have hletter : (65 ≤ c.toNat ∧ c.toNat ≤ 90) ∨ (97 ≤ c.toNat ∧ c.toNat ≤ 122) := by
      unfold Char.isAlpha Char.isUpper Char.isLower at hhead
      simpa [UInt32.le_iff_toNat_le] using hhead
    have := h.toNat
    omega

section

variable [DomainRules]

theorem ofText?_eq_some {text : String} {url : Url} (h : ofText? text = some url) :
    ∃ scheme rest, scheme? (tidy text.toList) = some (scheme, rest) ∧
      ofParts? (.of scheme rest) = some url := by
  unfold ofText? at h
  obtain ⟨⟨scheme, rest⟩, hscheme, hparts⟩ := Option.bind_eq_some_iff.mp h
  exact ⟨scheme, rest, hscheme, hparts⟩

theorem scheme_of_withAuthority? {p : Parts} {cs : List Char} {url : Url}
    (h : withAuthority? p cs = some url) : url.scheme = p.scheme := by
  obtain ⟨_, -, h⟩ := Option.bind_eq_some_iff.mp h
  cases h
  rfl

theorem scheme_of_file? {p : Parts} {url : Url} (h : file? p = some url) :
    url.scheme = p.scheme := by
  unfold file? at h
  split at h
  · split at h
    · dsimp only at h
      split at h
      · cases h
        rfl
      · obtain ⟨_, -, h⟩ := Option.bind_eq_some_iff.mp h
        cases h
        rfl
    · cases h
      rfl
  · cases h
    rfl
  · cases h
    rfl

theorem scheme_of_ofParts? {p : Parts} {url : Url} (h : ofParts? p = some url) :
    url.scheme = p.scheme := by
  unfold ofParts? at h
  split at h
  · exact scheme_of_file? h
  · split at h
    · exact scheme_of_withAuthority? h
    · unfold other? at h
      split at h
      · exact scheme_of_withAuthority? h
      · cases h
        rfl
      · cases h
        rfl

end

/-! ## Authorities -/

theorem Gap.isEnd {c : Char} (h : Gap c) : isEnd c = false := by
  simp only [Url.isEnd, isSlash, Bool.true_and, Bool.or_eq_false_iff, beq_eq_false_iff_ne]
  exact ⟨⟨⟨h.ne (by decide), h.ne (by decide)⟩, h.ne (by decide)⟩, h.ne (by decide)⟩

theorem isSlash_of_not_isEnd {c : Char} (h : isEnd c = false) : isSlash true c = false := by
  simp only [isEnd, Bool.or_eq_false_iff] at h
  exact h.1.1

theorem isEnd_of_mem_authorityIn {c : Char} {cs : List Char} (h : c ∈ authorityIn cs) :
    isEnd c = false := by
  simpa using List.mem_takeWhile_imp h

theorem dropWhile_of_open {cs : List Char} (h : ∀ c ∈ cs, isEnd c = false) :
    cs.dropWhile (isSlash true) = cs :=
  List.dropWhile_eq_self_iff.mpr fun hpos => by
    simp [isSlash_of_not_isEnd (h _ (List.getElem_mem hpos))]

theorem takeWhile_of_open {cs : List Char} (h : ∀ c ∈ cs, isEnd c = false) :
    cs.takeWhile (fun c => !isEnd c) = cs :=
  List.takeWhile_eq_self_iff.mpr fun c hc => by simp [h c hc]

theorem authorityIn_of_open {slashes authority : List Char}
    (hslashes : ∀ c ∈ slashes, isSlash true c = true)
    (hopen : ∀ c ∈ authority, isEnd c = false) :
    authorityIn (slashes ++ authority) = authority := by
  unfold authorityIn
  rw [List.dropWhile_append_of_pos hslashes, dropWhile_of_open hopen, takeWhile_of_open hopen]

theorem authorityIn_append_end {cs after : List Char} {c d : Char} (hc : c ∈ cs)
    (hslash : isSlash true c = false) (hd : isEnd d = true) :
    authorityIn (cs ++ d :: after) = authorityIn cs := by
  have hne : ¬(cs.dropWhile (isSlash true)).isEmpty = true := by
    rw [List.isEmpty_iff, List.dropWhile_eq_nil_iff]
    intro hall
    rw [hall c hc] at hslash
    cases hslash
  unfold authorityIn
  rw [List.dropWhile_append, if_neg hne, List.takeWhile_append,
    List.takeWhile_cons_of_neg (by simp [hd])]
  split
  · rename_i hall
    rw [List.append_nil, (List.takeWhile_sublist _).eq_of_length_le hall.ge]
  · rfl

theorem authorityIn_append_gaps (cs : List Char) {gaps : List Char} (h : ∀ c ∈ gaps, Gap c) :
    authorityIn (cs ++ gaps) = authorityIn cs ∨
      authorityIn (cs ++ gaps) = authorityIn cs ++ gaps := by
  have hopen : ∀ c ∈ gaps, isEnd c = false := fun c hc => (h c hc).isEnd
  unfold authorityIn
  rw [List.dropWhile_append]
  split
  · rename_i hempty
    rw [dropWhile_of_open hopen, takeWhile_of_open hopen, List.isEmpty_iff.mp hempty]
    exact .inr rfl
  · rw [List.takeWhile_append, takeWhile_of_open hopen]
    split
    · rename_i hall
      rw [(List.takeWhile_sublist _).eq_of_length_le hall.ge]
      exact .inr rfl
    · exact .inl rfl

/-- An authority that has its end in a text does not depend on what follows the text. -/
theorem authorityIn_append_of_end {cs : List Char} {c : Char}
    (hc : c ∈ cs.dropWhile (isSlash true)) (hend : isEnd c = true) (more : List Char) :
    authorityIn (cs ++ more) = authorityIn cs := by
  have hne : ¬(cs.dropWhile (isSlash true)).isEmpty = true := by
    rw [List.isEmpty_iff]
    exact List.ne_nil_of_mem hc
  unfold authorityIn
  rw [List.dropWhile_append, if_neg hne, List.takeWhile_append, if_neg]
  intro hlength
  have hall := (List.takeWhile_prefix _).eq_of_length hlength
  have := List.takeWhile_eq_self_iff.mp hall c hc
  rw [hend] at this
  cases this

section

variable [DomainRules] [LawfulDomainRules]

/-- No authority with a host ends in a gap. -/
theorem authorityIn_eq_of_hostIn? {scheme : String} {cs gaps : List Char} {host : Host}
    (h : ∀ c ∈ gaps, Gap c) (hhost : hostIn? scheme (authorityIn (cs ++ gaps)) = some host) :
    authorityIn (cs ++ gaps) = authorityIn cs := by
  rcases authorityIn_append_gaps cs h with hsame | hmore
  · exact hsame
  · rcases List.eq_nil_or_concat' gaps with rfl | ⟨gaps, c, rfl⟩
    · rw [List.append_nil]
    · have hbackslash : '\\' ∉ authorityIn cs ++ gaps := by
        intro hmem
        have hmem' : '\\' ∈ authorityIn (cs ++ (gaps ++ [c])) := by
          rw [hmore, ← List.append_assoc]
          exact List.mem_append_left _ hmem
        have hend := isEnd_of_mem_authorityIn hmem'
        revert hend
        decide
      rw [hmore, ← List.append_assoc, hostIn?_of_gap (h c (by simp)) hbackslash] at hhost
      cases hhost

theorem hostIn?_append_gaps {scheme : String} {cs gaps : List Char} {host : Host}
    (h : ∀ c ∈ gaps, Gap c) (hhost : hostIn? scheme (authorityIn (cs ++ gaps)) = some host) :
    hostIn? scheme (authorityIn cs) = some host := by
  rwa [authorityIn_eq_of_hostIn? h hhost] at hhost

end

end Renaming.Url
