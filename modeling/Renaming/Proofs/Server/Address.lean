import Renaming.Proofs.Text.Blank
import Renaming.Proofs.Url.Origin
import Renaming.Server.Client

/-!
# Where questions go

Whether the server is on this machine is told from the setting as it stands, and questions go to an
address that is made from it: trimmed, without slashes at the end and a version, and with a path. If
the setting is an address by itself, the two have the same host (`host_of_endpoint`), so without a
warning nothing leaves this machine. If it is not, what is made from it may still be one.
-/

namespace Renaming.Server

open Url Text

/-! ## What is cut off -/

/-- Slashes, maybe after a version. -/
def CutOff (cs : List Char) : Prop :=
  ∃ slashes, (∀ c ∈ slashes, c = '/') ∧ (cs = slashes ∨ cs = versionPart ++ slashes)

theorem CutOff.mem {cs : List Char} (h : CutOff cs) {c : Char} (hc : c ∈ cs) :
    c = '/' ∨ c ∈ versionPart := by
  obtain ⟨slashes, hslashes, rfl | rfl⟩ := h
  · exact .inl (hslashes c hc)
  · exact (List.mem_append.mp hc).symm.imp_left (hslashes c)

theorem CutOff.toNat {cs : List Char} (h : CutOff cs) {c : Char} (hc : c ∈ cs) :
    0x20 < c.toNat ∧ c.toNat < 0x80 := by
  have hmarks : ∀ c ∈ '/' :: versionPart, 0x20 < c.toNat ∧ c.toNat < 0x80 := by
    simp [versionPart]
  exact hmarks c (List.mem_cons.mpr (h.mem hc))

theorem CutOff.eq_nil_or_cons {cs : List Char} (h : CutOff cs) :
    cs = [] ∨ ∃ rest, cs = '/' :: rest := by
  obtain ⟨slashes, hslashes, rfl | rfl⟩ := h
  · cases cs with
    | nil => exact .inl rfl
    | cons c rest => exact .inr ⟨rest, by rw [hslashes c (List.mem_cons_self ..)]⟩
  · exact .inr ⟨_, rfl⟩

theorem exists_dropVersion (cs : List Char) :
    ∃ version, cs = dropVersion cs ++ version ∧ (version = [] ∨ version = versionPart) := by
  unfold dropVersion
  split
  · rename_i hsuffix
    obtain ⟨before, rfl⟩ := List.isSuffixOf_iff_suffix.mp hsuffix
    exact ⟨versionPart, by simp, .inr rfl⟩
  · exact ⟨[], by simp, .inl rfl⟩

/-- What is left of the trimmed setting when something is cut off at its end. -/
theorem exists_cut (server : String) : ∃ cut,
    trimBoth server.toList = (base server).toList ++ cut ∧ CutOff cut := by
  let slashes := ((trimBoth server.toList).reverse.takeWhile (· == '/')).reverse
  obtain ⟨version, hversion, hcut⟩ :=
    exists_dropVersion ((trimBoth server.toList).reverse.dropWhile (· == '/')).reverse
  have htrimmed : trimBoth server.toList = (base server).toList ++ (version ++ slashes) := by
    unfold base
    rw [String.toList_ofList, ← List.append_assoc, ← hversion, ← List.reverse_append,
      List.takeWhile_append_dropWhile, List.reverse_reverse]
  have hslashes : ∀ c ∈ slashes, c = '/' := by
    intro c hc
    have := List.mem_takeWhile_imp (List.mem_reverse.mp hc)
    exact beq_iff_eq.mp this
  refine ⟨version ++ slashes, htrimmed, slashes, hslashes, ?_⟩
  exact hcut.imp (fun h => by rw [h, List.nil_append]) (fun h => by rw [h])

/-! ## The setting and the address -/

theorem onOneLine_append (cs cs' : List Char) :
    onOneLine (cs ++ cs') = onOneLine cs ++ onOneLine cs' :=
  List.filter_append ..

def requestPath : List Char := "/api/generate".toList

theorem dropWhile_isEdge_append {cs : List Char} (after : List Char)
    (h : cs.dropWhile isEdge ≠ []) :
    (cs ++ after).dropWhile isEdge = cs.dropWhile isEdge ++ after := by
  rw [List.dropWhile_append, if_neg (by simpa using h)]

theorem scheme?_dropWhile_isEdge {cs rest : List Char} {scheme : String}
    (h : scheme? (tidy cs) = some (scheme, rest)) :
    ∃ gaps, scheme? ((onOneLine cs).dropWhile isEdge) = some (scheme, rest ++ gaps) ∧
      ∀ c ∈ gaps, isEdge c = true := by
  obtain ⟨gaps, htidy, hgaps⟩ := exists_tidy cs
  exact ⟨gaps, htidy ▸ scheme?_append h gaps, hgaps⟩

theorem toList_endpoint (server : String) :
    (endpoint server).toList = (base server).toList ++ requestPath :=
  String.toList_append ..

/-- The path starts with a slash and ends in a letter, so nothing of it is taken away. -/
theorem tidy_endpoint (server : String) : tidy (endpoint server).toList =
    (onOneLine (base server).toList).dropWhile isEdge ++ requestPath := by
  obtain ⟨gaps, htidy, hgaps⟩ := exists_tidy (endpoint server).toList
  have hpath : onOneLine requestPath = requestPath := by decide
  have hkept : (onOneLine (base server).toList ++ requestPath).dropWhile isEdge =
      (onOneLine (base server).toList).dropWhile isEdge ++ requestPath :=
    dropWhile_append_cons (by decide) ..
  rw [toList_endpoint, onOneLine_append, hpath, hkept, ← toList_endpoint] at htidy
  rcases List.eq_nil_or_concat' gaps with rfl | ⟨gaps, c, rfl⟩
  · rw [htidy, List.append_nil]
  · have hlast := congrArg List.getLast? htidy
    have hpathLast : ((onOneLine (base server).toList).dropWhile isEdge ++
        requestPath).getLast? = some 'e' := by
      rw [List.getLast?_append]
      rfl
    rw [← List.append_assoc, List.getLast?_concat, hpathLast] at hlast
    have := hgaps c (by simp)
    rw [← Option.some.inj hlast] at this
    cases this

/-- The scheme of the address stands in what it is made from, since the path by itself has none. -/
theorem scheme?_base {server scheme : String} {rest : List Char}
    (h : scheme? (tidy (endpoint server).toList) = some (scheme, rest)) :
    ∃ shared, rest = shared ++ requestPath ∧
      scheme? ((onOneLine (base server).toList).dropWhile isEdge) = some (scheme, shared) := by
  rw [tidy_endpoint] at h
  obtain ⟨shared, hshared, hrest⟩ := scheme?_of_append h (by decide)
  exact ⟨shared, hrest, hshared⟩

theorem dropWhile_isEdge_before {before cs : List Char} {scheme : String} {rest : List Char}
    (hbefore : ∀ c ∈ before, isBlank c = true)
    (h : scheme? ((onOneLine before ++ cs).dropWhile isEdge) = some (scheme, rest)) :
    (onOneLine before ++ cs).dropWhile isEdge = cs.dropWhile isEdge := by
  suffices hstart : (onOneLine before).dropWhile isEdge = [] by
    rw [List.dropWhile_append, if_pos (by simpa using hstart)]
  -- A wide blank would be kept, and no scheme starts with one.
  by_contra hsome
  obtain ⟨c, cs', hc⟩ := List.exists_cons_of_ne_nil hsome
  have hmem : c ∈ before := by
    have : c ∈ (onOneLine before).dropWhile isEdge := hc ▸ List.mem_cons_self ..
    exact List.mem_of_mem_filter ((List.dropWhile_sublist _).subset this)
  rw [dropWhile_isEdge_append _ hsome, hc, List.cons_append,
    scheme?_of_gap (.inr (hbefore c hmem))] at h
  cases h

theorem CutOff.onOneLine {cut : List Char} (h : CutOff cut) : onOneLine cut = cut := by
  apply List.filter_eq_self.mpr
  intro c hc
  rw [Bool.not_eq_true', Bool.eq_false_iff]
  intro hmark
  have hedge : c.toNat ≤ 0x20 := by simpa [isEdge] using isEdge_of_isLineMark hmark
  have := (h.toNat hc).1
  omega

theorem CutOff.colon_notMem {cut : List Char} (h : CutOff cut) : ':' ∉ cut := by
  intro hcolon
  rcases h.mem hcolon with hslash | hversion
  · cases hslash
  · exact absurd hversion (by decide)

/-- The scheme of the setting stands in what the address is made from. What follows it there is
what follows it in the setting up to what is cut off. -/
theorem scheme?_base_of_setting {server scheme : String} {rest : List Char}
    (h : scheme? (tidy server.toList) = some (scheme, rest)) :
    ∃ shared cut gaps gaps',
      scheme? ((onOneLine (base server).toList).dropWhile isEdge) = some (scheme, shared) ∧
      trimBoth server.toList = (base server).toList ++ cut ∧
      rest ++ gaps = shared ++ cut ++ gaps' ∧ CutOff cut ∧ (∀ c ∈ gaps, Gap c) ∧
      ∀ c ∈ gaps', Gap c := by
  obtain ⟨before, after, hserver, hbefore, hafter⟩ := exists_trimBoth server.toList
  obtain ⟨cut, htrimmed, hcut⟩ := exists_cut server
  obtain ⟨gaps, hsetting, hgaps⟩ := scheme?_dropWhile_isEdge h
  have hcolon : ':' ∉ cut ++ Url.onOneLine after := by
    intro hmem
    rcases List.mem_append.mp hmem with hmem | hmem
    · exact hcut.colon_notMem hmem
    · exact absurd (hafter _ (List.mem_of_mem_filter hmem)) (by decide)
  rw [hserver, htrimmed, List.append_assoc, onOneLine_append, onOneLine_append, onOneLine_append,
    hcut.onOneLine] at hsetting
  rw [dropWhile_isEdge_before hbefore hsetting] at hsetting
  have hbase : (Url.onOneLine (base server).toList).dropWhile isEdge ≠ [] := by
    intro hempty
    rw [List.dropWhile_append, if_pos (by simpa using hempty)] at hsetting
    obtain ⟨name, hname, -⟩ := scheme?_eq_some_iff.mp hsetting
    exact hcolon ((List.dropWhile_sublist _).subset (hname ▸ List.mem_append_cons_self))
  rw [dropWhile_isEdge_append _ hbase] at hsetting
  obtain ⟨shared, hshared, hrest⟩ := scheme?_of_append hsetting hcolon
  refine ⟨shared, cut, gaps, Url.onOneLine after, hshared, htrimmed, ?_, hcut, fun c hc => .inl ?_,
    fun c hc => .inr (hafter c (List.mem_of_mem_filter hc))⟩
  · rw [hrest, List.append_assoc]
  · simpa [isEdge] using hgaps c hc

/-- What follows the scheme is the same in both up to what is cut off. -/
theorem exists_shared {server scheme scheme' : String} {rest rest' : List Char}
    (h : scheme? (tidy (endpoint server).toList) = some (scheme, rest))
    (h' : scheme? (tidy server.toList) = some (scheme', rest')) :
    scheme' = scheme ∧ ∃ shared cut gaps gaps', rest = shared ++ requestPath ∧
      rest' ++ gaps = shared ++ cut ++ gaps' ∧ CutOff cut ∧ (∀ c ∈ gaps, Gap c) ∧
      ∀ c ∈ gaps', Gap c := by
  obtain ⟨shared, cut, gaps, gaps', hbase', -, hrest'⟩ := scheme?_base_of_setting h'
  obtain ⟨shared', rfl, hbase⟩ := scheme?_base h
  obtain ⟨rfl, rfl⟩ := Prod.mk.inj (Option.some.inj (hbase'.symm.trans hbase))
  exact ⟨rfl, shared, cut, gaps, gaps', rfl, hrest'⟩

/-! ## The host -/

section

variable [DomainRules] [LawfulDomainRules]

theorem hostIn?_eq_of_append_gaps {scheme : String} {cs cs' gaps gaps' : List Char}
    {host host' : Host} (hcs : cs' ++ gaps = cs ++ gaps') (hgaps : ∀ c ∈ gaps, Gap c)
    (hgaps' : ∀ c ∈ gaps', Gap c) (h : hostIn? scheme (authorityIn cs) = some host)
    (h' : hostIn? scheme (authorityIn cs') = some host') : host' = host := by
  rcases List.append_eq_append_iff.mp hcs with ⟨more, rfl, rfl⟩ | ⟨more, rfl, rfl⟩
  · have := hostIn?_append_gaps (fun c hc => hgaps c (List.mem_append_left _ hc)) h
    rw [h'] at this
    exact Option.some.inj this
  · have := hostIn?_append_gaps (fun c hc => hgaps' c (List.mem_append_left _ hc)) h'
    rw [h] at this
    exact (Option.some.inj this).symm

theorem siteIn?_version (scheme : String) :
    siteIn? scheme ['v', '1'] = some (.domain "v1", none) := by
  have hhost : Host.ofSpecial? ['v', '1'] = some (.domain "v1") :=
    Host.ofSpecial?_of_plain (by simp) (by decide) (by decide +kernel) (by decide +kernel)
  exact siteIn?_eq_some ['v', '1'] [] (by decide) (by decide) (by simp) hhost rfl

theorem hostIn?_version (scheme : String) :
    hostIn? scheme ['v', '1'] = some (.domain "v1") := by
  rw [← map_fst_siteIn?, siteIn?_version]
  rfl

/-- After nothing but slashes, what is cut off is a version and the host. Without a version there
would be no host. -/
theorem host_of_cutOff {scheme : String} {shared cut : List Char} {host : Host}
    (hshared : ∀ c ∈ shared, isSlash true c = true) (hcut : CutOff cut)
    (h : hostIn? scheme (authorityIn (shared ++ cut)) = some host) :
    (∃ slashes, (∀ c ∈ slashes, c = '/') ∧ cut = versionPart ++ slashes) ∧
      host = .domain "v1" := by
  have hslash : isSlash true '/' = true := by decide
  have hend : isEnd '/' = true := by decide
  unfold authorityIn at h
  rw [List.dropWhile_append_of_pos hshared] at h
  obtain ⟨slashes, hslashes, rfl | rfl⟩ := hcut
  · have hdrop : cut.dropWhile (isSlash true) = [] :=
      List.dropWhile_eq_nil_iff.mpr fun c hc => by rw [hslashes c hc, hslash]
    rw [hdrop] at h
    cases h
  · have htake : slashes.takeWhile (fun c => !isEnd c) = [] := by
      cases slashes with
      | nil => rfl
      | cons c rest =>
        rw [hslashes c (List.mem_cons_self ..), List.takeWhile_cons_of_neg (by simp [hend])]
    have hversion : ((versionPart ++ slashes).dropWhile (isSlash true)).takeWhile
        (fun c => !isEnd c) = ['v', '1'] := by
      have hletters : (['v', '1'] ++ slashes).takeWhile (fun c => !isEnd c) =
          ['v', '1'] ++ slashes.takeWhile (fun c => !isEnd c) :=
        List.takeWhile_append_of_pos (List.all_eq_true.mp (by decide))
      rw [htake, List.append_nil] at hletters
      exact hletters
    rw [hversion, hostIn?_version] at h
    exact ⟨⟨slashes, hslashes, rfl⟩, (Option.some.inj h).symm⟩

end

section

variable {scheme : String} {shared cut rest gaps gaps' : List Char} {host host' : Host}
  (hrest : rest ++ gaps = shared ++ cut ++ gaps') (hcut : CutOff cut) (hgaps : ∀ c ∈ gaps, Gap c)
  (hgaps' : ∀ c ∈ gaps', Gap c)

/-- In the base and in the address the authority is the same, unless there is none in the base. -/
theorem authorityIn_shared {c : Char} (hc : c ∈ shared) (hslash : isSlash true c = false)
    (hcut : CutOff cut) :
    authorityIn (shared ++ requestPath) = authorityIn shared ∧
      authorityIn (shared ++ cut) = authorityIn shared := by
  refine ⟨authorityIn_append_end hc hslash (by decide), ?_⟩
  rcases hcut.eq_nil_or_cons with rfl | ⟨after, rfl⟩
  · rw [List.append_nil]
  · exact authorityIn_append_end hc hslash (by decide)

variable [DomainRules] [LawfulDomainRules]

include hrest hcut hgaps hgaps'

/-- With nothing but slashes in the base, the host of the setting was cut off. -/
theorem hostIn?_cutOff (hshared : ∀ c ∈ shared, isSlash true c = true)
    (h : hostIn? scheme (authorityIn rest) = some host) :
    hostIn? scheme (authorityIn (shared ++ cut)) = some host := by
  have hplain : ∀ c ∈ shared ++ cut, ¬Gap c := by
    intro c hc hgap
    rcases List.mem_append.mp hc with hc | hc
    · have := isSlash_of_not_isEnd hgap.isEnd
      rw [hshared c hc] at this
      cases this
    · exact hgap.ne (hcut.toNat hc) rfl
  rcases List.append_eq_append_iff.mp hrest with ⟨more, hmore, rfl⟩ | ⟨more, rfl, rfl⟩
  · cases more with
    | nil =>
      rw [hmore, List.append_nil]
      exact h
    | cons c more =>
      exact absurd (hgaps c (by simp)) (hplain c (by simp [hmore]))
  · exact hostIn?_append_gaps (fun c hc => hgaps' c (List.mem_append_left _ hc)) h

/-- The address has the host of the setting, except that the setting may have nothing but a version
where the host should be. -/
theorem host_of_endpoint (h : hostIn? scheme (authorityIn (shared ++ requestPath)) = some host)
    (h' : hostIn? scheme (authorityIn rest) = some host') :
    host' = host ∨ host' = .domain "v1" := by
  by_cases hname : ∃ c ∈ shared, isSlash true c = false
  · obtain ⟨c, hc, hslash⟩ := hname
    obtain ⟨hpath, hend⟩ := authorityIn_shared hc hslash hcut
    rw [hpath, ← hend] at h
    exact .inl (hostIn?_eq_of_append_gaps hrest hgaps hgaps' h h')
  · have hshared : ∀ c ∈ shared, isSlash true c = true := fun c hc =>
      Bool.not_eq_false _ ▸ fun hslash => hname ⟨c, hc, hslash⟩
    exact .inr (host_of_cutOff hshared hcut (hostIn?_cutOff hrest hcut hgaps hgaps' hshared h')).2

end

theorem isHttp_withoutCredentials (url : Url) : (withoutCredentials url).isHttp = url.isHttp := by
  unfold withoutCredentials
  split <;> rfl

theorem host?_withoutCredentials (url : Url) : (withoutCredentials url).host? = url.host? := by
  unfold withoutCredentials
  split
  · unfold Url.withoutCredentials host?
    cases url.authority <;> rfl
  · rfl

theorem target_eq_ok [DomainRules] {server : String} {t : Target} (h : target server = .ok t) :
    ∃ url, Url.ofText? (endpoint server) = some url ∧ url.isHttp = true ∧
      t.url = withoutCredentials url := by
  unfold target at h
  cases hurl : Url.ofText? (endpoint server) with
  | none =>
    rw [hurl] at h
    cases h
  | some url =>
    rw [hurl] at h
    dsimp only at h
    split at h
    · cases h
    · split at h
      · rename_i hsendable
        cases h
        refine ⟨url, rfl, ?_, rfl⟩
        rw [← isHttp_withoutCredentials]
        simp only [isSendable, Bool.and_eq_true] at hsendable
        exact hsendable.1.1
      · cases h

theorem isLoopback_of_silent [DomainRules] {server : String} {url : Url} {host : Host}
    (hsilent : warnings server = []) (haddress : Url.ofText? server = some url)
    (hhost : url.host? = some host) : host.isLoopback = true := by
  have hlocal : isLocal server = host.isLoopback := by
    unfold isLocal
    rw [haddress, Option.bind_some, hhost]
  unfold warnings at hsilent
  split at hsilent
  · rename_i h
    rw [← hlocal, h]
  · cases hsilent

/-- Without a warning an address that is made from an address is on this machine. -/
theorem target_isLoopback [DomainRules] [LawfulDomainRules] {server : String} {url : Url}
    {t : Target} (hsilent : warnings server = []) (haddress : Url.ofText? server = some url)
    (htarget : target server = .ok t) :
    ∃ host, t.url.host? = some host ∧ host.isLoopback = true := by
  obtain ⟨sent, hsent, hhttp, hurl⟩ := target_eq_ok htarget
  have hhost : t.url.host? = sent.host? := by rw [hurl, host?_withoutCredentials]
  obtain ⟨scheme, rest, hscheme, hparts⟩ := ofText?_eq_some hsent
  obtain ⟨scheme', rest', hscheme', hparts'⟩ := ofText?_eq_some haddress
  obtain ⟨rfl, shared, cut, gaps, gaps', rfl, hrest, hcut, hgaps, hgaps'⟩ :=
    exists_shared hscheme hscheme'
  have hspecial : scheme' = "http" ∨ scheme' = "https" := by
    have hsame : sent.scheme = scheme' := scheme_of_ofParts? hparts
    rw [← hsame]
    simpa [isHttp] using hhttp
  obtain ⟨host, hsenthost, hin⟩ := host?_of_ofParts? hspecial hparts
  obtain ⟨host', hserverhost, hin'⟩ := host?_of_ofParts? hspecial hparts'
  have hloopback : host'.isLoopback = true := isLoopback_of_silent hsilent haddress hserverhost
  refine ⟨host, hhost.trans hsenthost, ?_⟩
  rcases host_of_endpoint hrest hcut hgaps hgaps' hin hin' with rfl | rfl
  · exact hloopback
  · cases hloopback

end Renaming.Server
