import Renaming.Proofs.Server.Address

/-!
# The server that is asked

The address for requests is made from the setting as a text. It leads to the same server as the
setting, with two exceptions (`requests_go_to_server_iff`): a version is cut off that was the host,
and a control character behind the authority, which the setting may end in, is no longer at an end.
-/

namespace Renaming.Server

open Url Text

/-! ## What follows the scheme -/

/-- Before `rest` stand the first colon and slashes, maybe with line marks among them. -/
def LeadsTo (cs rest : List Char) : Prop :=
  ∃ name slashes, cs = name ++ ':' :: (slashes ++ rest) ∧ ':' ∉ name ∧
    ∀ c ∈ slashes, isSlash true c = true ∨ isLineMark c = true

/-- Nothing but a version stands where the host should be. -/
def VersionForHost (server : String) : Prop :=
  ∃ slashes, (∀ c ∈ slashes, c = '/') ∧
    LeadsTo (trimBoth server.toList) (versionPart ++ slashes)

/-- The authority is the last part, and the setting ends in a control character behind it that is no
blank. -/
def ControlBehindHost (server : String) : Prop :=
  ∃ authority c, LeadsTo (trimBoth server.toList) (authority ++ [c]) ∧
    (∀ d ∈ authority, isEnd d = false) ∧ isEdge c = true

variable {server scheme : String} {shared cut rest : List Char}

theorem onOneLine_cons {c : Char} (hc : isLineMark c = false) (cs : List Char) :
    onOneLine (c :: cs) = c :: onOneLine cs :=
  List.filter_cons_of_pos (by simp [hc])

theorem dropWhile_ne_append {mark : Char} {cs : List Char} (h : mark ∉ cs) (after : List Char) :
    (cs ++ mark :: after).dropWhile (· != mark) = mark :: after := by
  have hbefore : ∀ c ∈ cs, (c != mark) = true := fun c hc =>
    bne_iff_ne.mpr (ne_of_mem_of_not_mem hc h)
  rw [List.dropWhile_append_of_pos hbefore, List.dropWhile_cons_of_neg (by simp)]

theorem rest_of_scheme? {name raw : List Char} (hname : ':' ∉ name)
    (h : scheme? ((onOneLine (name ++ ':' :: raw)).dropWhile isEdge) = some (scheme, rest)) :
    rest = onOneLine raw := by
  rw [onOneLine_append, onOneLine_cons (by decide), dropWhile_append_cons (by decide)] at h
  obtain ⟨name', hsplit, hchars, -⟩ := scheme?_eq_some_iff.mp h
  have hcolon : ':' ∉ (onOneLine name).dropWhile isEdge := fun hmem =>
    hname (List.mem_of_mem_filter ((List.dropWhile_sublist _).subset hmem))
  have hcolon' : ':' ∉ name' := fun hmem => absurd (hchars _ hmem) (by decide)
  have hafter := congrArg (List.dropWhile (· != ':')) hsplit
  rw [dropWhile_ne_append hcolon, dropWhile_ne_append hcolon'] at hafter
  exact (List.cons.inj hafter).2.symm

theorem exists_colon {cs : List Char}
    (h : scheme? ((onOneLine cs).dropWhile isEdge) = some (scheme, rest)) :
    ∃ name raw, cs = name ++ ':' :: raw ∧ ':' ∉ name ∧ rest = onOneLine raw := by
  obtain ⟨name', hsplit, -⟩ := scheme?_eq_some_iff.mp h
  have hcolon : ':' ∈ cs := List.mem_of_mem_filter
    ((List.dropWhile_sublist isEdge).subset (hsplit ▸ List.mem_append_cons_self))
  obtain ⟨name, raw, rfl, hname⟩ := List.eq_append_cons_of_mem hcolon
  exact ⟨name, raw, rfl, hname, rest_of_scheme? hname h⟩

theorem isSlash_of_mem_onOneLine {gaps : List Char}
    (h : ∀ c ∈ gaps, isSlash true c = true ∨ isLineMark c = true) :
    ∀ c ∈ onOneLine gaps, isSlash true c = true := by
  intro c hc
  obtain ⟨hmem, hkept⟩ := List.mem_filter.mp hc
  refine (h c hmem).resolve_right fun hmark => ?_
  rw [hmark] at hkept
  cases hkept

theorem map_origin_endpoint [DomainRules]
    (hbase : scheme? ((onOneLine (base server).toList).dropWhile isEdge) = some (scheme, shared))
    (hscheme : scheme = "http" ∨ scheme = "https") :
    (Url.ofText? (endpoint server)).map origin =
      (siteIn? scheme (authorityIn (shared ++ requestPath))).map
        fun site => ⟨scheme, some site.1, site.2⟩ := by
  refine map_origin_ofText? ?_ hscheme
  rw [tidy_endpoint]
  exact scheme?_append hbase _

/-! ## The version as the host -/

theorem base_of_version {before slashes : List Char} (hslashes : ∀ c ∈ slashes, c = '/')
    (htrimmed : trimBoth server.toList = before ++ (versionPart ++ slashes)) :
    (base server).toList = before := by
  have hkept : (versionPart.reverse ++ before.reverse).dropWhile (· == '/') =
      versionPart.reverse ++ before.reverse := List.dropWhile_cons_of_neg (by decide)
  have hcut : ((before ++ (versionPart ++ slashes)).reverse.dropWhile (· == '/')).reverse =
      before ++ versionPart := by
    rw [← List.append_assoc, List.reverse_append,
      List.dropWhile_append_of_pos fun c hc => beq_iff_eq.mpr (hslashes c (List.mem_reverse.mp hc)),
      List.reverse_append, hkept, ← List.reverse_append, List.reverse_reverse]
  unfold base dropVersion
  rw [String.toList_ofList, htrimmed, hcut,
    if_pos (List.isSuffixOf_iff_suffix.mpr (List.suffix_append ..))]
  simp

theorem slashes_of_version
    (hbase : scheme? ((onOneLine (base server).toList).dropWhile isEdge) = some (scheme, shared))
    (h : VersionForHost server) : ∀ c ∈ shared, isSlash true c = true := by
  obtain ⟨slashes, hslashes, name, gaps, htrimmed, hname, hgaps⟩ := h
  have hsplit : name ++ ':' :: (gaps ++ (versionPart ++ slashes)) =
      (name ++ ':' :: gaps) ++ (versionPart ++ slashes) := by simp
  rw [base_of_version hslashes (htrimmed.trans hsplit)] at hbase
  rw [rest_of_scheme? hname hbase]
  exact isSlash_of_mem_onOneLine hgaps

theorem version_of_slashes
    (hbase : scheme? ((onOneLine (base server).toList).dropWhile isEdge) = some (scheme, shared))
    (htrimmed : trimBoth server.toList = (base server).toList ++ cut)
    (hcut : ∃ slashes, (∀ c ∈ slashes, c = '/') ∧ cut = versionPart ++ slashes)
    (hshared : ∀ c ∈ shared, isSlash true c = true) : VersionForHost server := by
  obtain ⟨slashes, hslashes, rfl⟩ := hcut
  obtain ⟨name, raw, hraw, hname, rfl⟩ := exists_colon hbase
  refine ⟨slashes, hslashes, name, raw, ?_, hname, fun c hc => ?_⟩
  · rw [htrimmed, hraw]
    simp
  · rw [or_iff_not_imp_right]
    intro hmark
    exact hshared c (List.mem_filter.mpr ⟨hc, by simpa using hmark⟩)

/-! ## A control character behind the host -/

theorem isBlank_of_isLineMark {c : Char} (h : isLineMark c = true) : isBlank c = true := by
  simp only [isLineMark, Bool.or_eq_true, beq_iff_eq] at h
  rcases h with (rfl | rfl) | rfl <;> decide

theorem isLineMark_of_not_isBlank {c : Char} (h : isBlank c = false) : isLineMark c = false := by
  rw [Bool.eq_false_iff]
  intro hmark
  rw [isBlank_of_isLineMark hmark] at h
  cases h

theorem base_of_control {before : List Char} {c : Char} (hslash : c ≠ '/') (hone : c ≠ '1')
    (htrimmed : trimBoth server.toList = before ++ [c]) :
    (base server).toList = before ++ [c] := by
  have hkept : ((before ++ [c]).reverse.dropWhile (· == '/')).reverse = before ++ [c] := by
    rw [List.reverse_append, List.reverse_singleton, List.singleton_append,
      List.dropWhile_cons_of_neg (by simpa using hslash)]
    simp
  have hversion : ¬versionPart.isSuffixOf (before ++ [c]) = true := by
    rw [List.isSuffixOf_iff_suffix]
    rintro ⟨start, hstart⟩
    have hlast := congrArg List.getLast? hstart
    rw [List.getLast?_concat, List.getLast?_append] at hlast
    exact hone (Option.some.inj hlast).symm
  unfold base dropVersion
  rw [String.toList_ofList, htrimmed, hkept, if_neg hversion]

/-- The authority of the address would end in the control character. -/
theorem siteIn?_of_control [DomainRules] [LawfulDomainRules]
    (hbase : scheme? ((onOneLine (base server).toList).dropWhile isEdge) = some (scheme, shared))
    (h : ControlBehindHost server) :
    siteIn? scheme (authorityIn (shared ++ requestPath)) = none := by
  obtain ⟨authority, c, ⟨name, gaps, htrimmed, hname, hgaps⟩, hopen, hedge⟩ := h
  have hgap : Gap c := .inl (by simpa [isEdge] using hedge)
  have hsplit : name ++ ':' :: (gaps ++ (authority ++ [c])) =
      (name ++ ':' :: (gaps ++ authority)) ++ [c] := by simp
  have hblank : isBlank c = false := by
    refine (trimmed_trimBoth server.toList).last c ?_
    rw [htrimmed, hsplit, List.getLast?_concat]
  have hmark := isLineMark_of_not_isBlank hblank
  rw [base_of_control (hgap.ne (by decide)) (hgap.ne (by decide)) (htrimmed.trans hsplit),
    ← hsplit] at hbase
  have hshared : shared = onOneLine gaps ++ (onOneLine authority ++ [c]) := by
    rw [rest_of_scheme? hname hbase, onOneLine_append, onOneLine_append, onOneLine_cons hmark]
    rfl
  have hopen' : ∀ d ∈ onOneLine authority ++ [c], isEnd d = false := by
    intro d hd
    rcases List.mem_append.mp hd with hd | hd
    · exact hopen d (List.mem_of_mem_filter hd)
    · rw [List.mem_singleton.mp hd]
      exact hgap.isEnd
  have hbackslash : '\\' ∉ onOneLine authority := fun hmem =>
    absurd (hopen _ (List.mem_of_mem_filter hmem)) (by decide)
  have hnone := hostIn?_of_gap hgap hbackslash scheme
  have hpath : authorityIn (shared ++ requestPath) = authorityIn shared :=
    authorityIn_append_end (c := c) (by simp [hshared]) (isSlash_of_not_isEnd hgap.isEnd)
      (by decide)
  rw [hpath, hshared, authorityIn_of_open (isSlash_of_mem_onOneLine hgaps) hopen']
  rwa [← map_fst_siteIn?, Option.map_eq_none_iff] at hnone

/-- What is passed over in front of an authority. -/
def isSkipped (c : Char) : Bool := isSlash true c || isLineMark c

theorem onOneLine_dropWhile_isSkipped (cs : List Char) :
    onOneLine (cs.dropWhile isSkipped) = (onOneLine cs).dropWhile (isSlash true) := by
  induction cs with
  | nil => rfl
  | cons c cs ih =>
    cases hmark : isLineMark c with
    | true =>
      have hgone : onOneLine (c :: cs) = onOneLine cs := List.filter_cons_of_neg (by simp [hmark])
      rw [List.dropWhile_cons_of_pos (by simp [isSkipped, hmark]), ih, hgone]
    | false =>
      rw [onOneLine_cons hmark]
      cases hslash : isSlash true c with
      | true =>
        rw [List.dropWhile_cons_of_pos (by simp [isSkipped, hslash]), ih,
          List.dropWhile_cons_of_pos hslash]
      | false =>
        rw [List.dropWhile_cons_of_neg (by simp [isSkipped, hslash, hmark]),
          List.dropWhile_cons_of_neg (by simp [hslash]), onOneLine_cons hmark]

theorem exists_of_onOneLine_concat {cs line : List Char} {c : Char}
    (hline : onOneLine cs = line ++ [c])
    (hlast : ∀ d, cs.getLast? = some d → isLineMark d = false) :
    ∃ cs', cs = cs' ++ [c] ∧ onOneLine cs' = line := by
  rcases List.eq_nil_or_concat' cs with rfl | ⟨cs', d, rfl⟩
  · exact absurd hline (List.append_ne_nil_of_right_ne_nil _ (List.cons_ne_nil _ _)).symm
  · rw [onOneLine_append, onOneLine_cons (hlast d List.getLast?_concat)] at hline
    obtain ⟨hbefore, hc⟩ := List.append_inj' hline rfl
    obtain rfl := (List.cons.inj hc).1
    exact ⟨cs', rfl, hbefore⟩

/-- Where line marks and gaps were left out of an authority, no other part begins. -/
theorem open_of_onOneLine {cs gaps : List Char} (hline : onOneLine cs = rest ++ gaps)
    (hgaps : ∀ c ∈ gaps, Gap c) (hopen : ∀ c ∈ rest.dropWhile (isSlash true), isEnd c = false) :
    ∀ c ∈ cs.dropWhile isSkipped, isEnd c = false := by
  intro c hc
  cases hmark : isLineMark c with
  | true => exact Gap.isEnd (.inr (isBlank_of_isLineMark hmark))
  | false =>
    have hmem : c ∈ onOneLine (cs.dropWhile isSkipped) :=
      List.mem_filter.mpr ⟨hc, by simp [hmark]⟩
    rw [onOneLine_dropWhile_isSkipped, hline, List.dropWhile_append] at hmem
    split at hmem
    · exact (hgaps c ((List.dropWhile_sublist _).subset hmem)).isEnd
    · exact (List.mem_append.mp hmem).elim (hopen c) fun hgap => (hgaps c hgap).isEnd

/-- If gaps follow the authority of the setting in the base, the last of them is a control. -/
theorem control_of_gaps {gaps : List Char}
    (hbase : scheme? ((onOneLine (base server).toList).dropWhile isEdge) = some (scheme, shared))
    (htrimmed : trimBoth server.toList = (base server).toList ++ cut) (hcut : CutOff cut)
    (hshared : shared ++ cut = rest ++ gaps) (hgaps : ∀ c ∈ gaps, Gap c) (hsome : gaps ≠ [])
    (hopen : ∀ c ∈ rest.dropWhile (isSlash true), isEnd c = false) :
    ControlBehindHost server := by
  obtain ⟨gaps, c, rfl⟩ := (List.eq_nil_or_concat' gaps).resolve_left hsome
  have hgap : Gap c := hgaps c (by simp)
  -- Nothing is cut off behind a gap.
  have hnil : cut = [] := by
    rcases List.eq_nil_or_concat' cut with hnil | ⟨cut, d, rfl⟩
    · exact hnil
    · have hlast := congrArg List.getLast? hshared
      rw [← List.append_assoc, ← List.append_assoc, List.getLast?_concat,
        List.getLast?_concat] at hlast
      exact absurd (Option.some.inj hlast).symm (hgap.ne (hcut.toNat (by simp)))
  subst hnil
  rw [List.append_nil] at hshared htrimmed
  obtain ⟨name, raw, hraw, hname, hline⟩ := exists_colon hbase
  have hlast (d : Char) (hd : raw.getLast? = some d) : isBlank d = false := by
    refine (trimmed_trimBoth server.toList).last d ?_
    rw [htrimmed, hraw, List.getLast?_append, List.getLast?_cons, hd]
    rfl
  rw [hshared, ← List.append_assoc] at hline
  obtain ⟨raw, rfl, hinside⟩ := exists_of_onOneLine_concat hline.symm fun d hd =>
    isLineMark_of_not_isBlank (hlast d hd)
  refine ⟨raw.dropWhile isSkipped, c, ⟨name, raw.takeWhile isSkipped, ?_, hname, ?_⟩,
    open_of_onOneLine hinside (fun d hd => hgaps d (List.mem_append_left _ hd)) hopen, ?_⟩
  · rw [htrimmed, hraw, ← List.append_assoc, List.takeWhile_append_dropWhile]
  · intro e he
    simpa [isSkipped] using List.mem_takeWhile_imp he
  · rcases hgap with hedge | hwide
    · simpa [isEdge] using hedge
    · rw [hlast c List.getLast?_concat] at hwide
      cases hwide

/-! ## The server -/

/-- What becomes of the authority of the setting. It stays, or it was the version, or a control
character behind it comes to stand in it. -/
theorem fate_of_authority [DomainRules] [LawfulDomainRules] {gaps gaps' : List Char} {host : Host}
    (hbase : scheme? ((onOneLine (base server).toList).dropWhile isEdge) = some (scheme, shared))
    (htrimmed : trimBoth server.toList = (base server).toList ++ cut)
    (hrest : rest ++ gaps = shared ++ cut ++ gaps') (hcut : CutOff cut)
    (hgaps : ∀ c ∈ gaps, Gap c) (hgaps' : ∀ c ∈ gaps', Gap c)
    (hhost : hostIn? scheme (authorityIn rest) = some host) :
    authorityIn (shared ++ requestPath) = authorityIn rest ∧ ¬VersionForHost server ∨
      VersionForHost server ∧ host = .domain "v1" ∧
        authorityIn (shared ++ requestPath) = "api".toList ∨
      ControlBehindHost server ∧ ¬VersionForHost server := by
  by_cases hname : ∃ c ∈ shared, isSlash true c = false
  · obtain ⟨c, hc, hslash⟩ := hname
    have hnoVersion : ¬VersionForHost server := by
      intro hversion
      rw [slashes_of_version hbase hversion c hc] at hslash
      cases hslash
    obtain ⟨hpath, hend⟩ := authorityIn_shared hc hslash hcut
    rw [hpath, ← hend]
    rcases List.append_eq_append_iff.mp hrest with ⟨more, hmore, rfl⟩ | ⟨more, rfl, rfl⟩
    · have hgapsMore : ∀ c ∈ more, Gap c := fun c hc => hgaps c (List.mem_append_left _ hc)
      by_cases hclosed : ∃ d ∈ rest.dropWhile (isSlash true), isEnd d = true
      · obtain ⟨d, hd, hdend⟩ := hclosed
        rw [hmore, authorityIn_append_of_end hd hdend]
        exact .inl ⟨rfl, hnoVersion⟩
      by_cases hnil : more = []
      · rw [hmore, hnil, List.append_nil]
        exact .inl ⟨rfl, hnoVersion⟩
      · have hopen : ∀ d ∈ rest.dropWhile (isSlash true), isEnd d = false := fun d hd =>
          Bool.eq_false_iff.mpr fun hdend => hclosed ⟨d, hd, hdend⟩
        exact .inr (.inr ⟨control_of_gaps hbase htrimmed hcut hmore hgapsMore hnil hopen,
          hnoVersion⟩)
    · have hgapsMore : ∀ c ∈ more, Gap c := fun c hc => hgaps' c (List.mem_append_left _ hc)
      exact .inl ⟨(authorityIn_eq_of_hostIn? hgapsMore hhost).symm, hnoVersion⟩
  · have hshared : ∀ c ∈ shared, isSlash true c = true := fun c hc =>
      Bool.not_eq_false _ ▸ fun hslash => hname ⟨c, hc, hslash⟩
    obtain ⟨hversion, rfl⟩ :=
      host_of_cutOff hshared hcut (hostIn?_cutOff hrest hcut hgaps hgaps' hshared hhost)
    refine .inr (.inl ⟨version_of_slashes hbase htrimmed hversion hshared, rfl, ?_⟩)
    unfold authorityIn
    rw [List.dropWhile_append_of_pos hshared]
    decide

theorem siteIn?_path [DomainRules] [LawfulDomainRules] (scheme : String) :
    siteIn? scheme "api".toList = some (.domain "api", none) := by
  have hhost : Host.ofSpecial? ['a', 'p', 'i'] = some (.domain "api") :=
    Host.ofSpecial?_of_plain (by simp) (by decide) (by decide +kernel) (by decide +kernel)
  exact siteIn?_eq_some ['a', 'p', 'i'] [] (by decide) (by decide) (by simp) hhost rfl

theorem origin_withoutCredentials (url : Url) : (withoutCredentials url).origin = url.origin := by
  unfold withoutCredentials
  split
  · unfold Url.withoutCredentials origin host?
    cases url.authority <;> rfl
  · rfl

/-- What becomes of the address when a path is put behind the setting. -/
theorem fate_of_endpoint [DomainRules] [LawfulDomainRules] {url : Url}
    (haddress : Url.ofText? server = some url) (hhttp : url.isHttp = true) :
    (∃ sent, Url.ofText? (endpoint server) = some sent ∧ sent.origin = url.origin ∧
        ¬VersionForHost server ∧ ¬ControlBehindHost server) ∨
      (∃ sent, Url.ofText? (endpoint server) = some sent ∧ VersionForHost server ∧
        ¬ControlBehindHost server ∧ url.host? = some (.domain "v1") ∧
        sent.host? = some (.domain "api")) ∨
      Url.ofText? (endpoint server) = none ∧ ControlBehindHost server ∧
        ¬VersionForHost server := by
  obtain ⟨scheme, rest, hscheme, hparts⟩ := ofText?_eq_some haddress
  have hspecial : scheme = "http" ∨ scheme = "https" := by
    have hsame : url.scheme = scheme := scheme_of_ofParts? hparts
    rw [← hsame]
    simpa [isHttp] using hhttp
  have horigin := map_origin_ofText? hscheme hspecial
  rw [haddress] at horigin
  obtain ⟨site, hsite, hurl⟩ := Option.map_eq_some_iff.mp horigin.symm
  have hhost : hostIn? scheme (authorityIn rest) = some site.1 := by
    rw [← map_fst_siteIn?, hsite]
    rfl
  obtain ⟨shared, cut, gaps, gaps', hbase, htrimmed, hrest, hcut, hgaps, hgaps'⟩ :=
    scheme?_base_of_setting hscheme
  have hendpoint := map_origin_endpoint hbase hspecial
  have hcontrol (h : ControlBehindHost server) : Url.ofText? (endpoint server) = none := by
    rw [siteIn?_of_control hbase h] at hendpoint
    exact Option.map_eq_none_iff.mp hendpoint
  rcases fate_of_authority hbase htrimmed hrest hcut hgaps hgaps' hhost with
    ⟨hsame, hnoVersion⟩ | ⟨hversion, hname, hpath⟩ | ⟨hcontrolled, hnoVersion⟩
  · rw [hsame, hsite] at hendpoint
    obtain ⟨sent, hsent, hsite'⟩ := Option.map_eq_some_iff.mp hendpoint
    exact .inl ⟨sent, hsent, hsite'.trans hurl, hnoVersion,
      fun h => Option.some_ne_none sent (hsent.symm.trans (hcontrol h))⟩
  · rw [hpath, siteIn?_path] at hendpoint
    obtain ⟨sent, hsent, hsite'⟩ := Option.map_eq_some_iff.mp hendpoint
    have hnoControl (h : ControlBehindHost server) : False :=
      Option.some_ne_none sent (hsent.symm.trans (hcontrol h))
    refine .inr (.inl ⟨sent, hsent, hversion, hnoControl, ?_, congrArg Origin.host hsite'⟩)
    rw [← hname]
    exact (congrArg Origin.host hurl).symm
  · exact .inr (.inr ⟨hcontrol hcontrolled, hcontrolled, hnoVersion⟩)

/-- If the setting is an address that requests can be sent to, then they are sent to its scheme,
host and port unless its host is nothing but a version or it ends in a control character behind its
authority. In the first case they are sent to a host that the path is taken for. In the second case
they are sent nowhere. -/
theorem requests_go_to_server_iff [DomainRules] [LawfulDomainRules] {server : String} {url : Url}
    (haddress : Url.ofText? server = some url) (hhttp : url.isHttp = true) :
    ((∃ sent, Url.ofText? (endpoint server) = some sent ∧ sent.origin = url.origin) ↔
      ¬VersionForHost server ∧ ¬ControlBehindHost server) ∧
    (∀ t sent, target server = .ok t → Url.ofText? (endpoint server) = some sent →
      t.url.origin = sent.origin) ∧
    (VersionForHost server → url.host? = some (.domain "v1") ∧
      ∃ sent, Url.ofText? (endpoint server) = some sent ∧ sent.host? = some (.domain "api")) ∧
    (ControlBehindHost server → Url.ofText? (endpoint server) = none) := by
  have htarget (t : Target) (sent : Url) (ht : target server = .ok t)
      (hsent : Url.ofText? (endpoint server) = some sent) : t.url.origin = sent.origin := by
    obtain ⟨sent', hsent', -, hurl⟩ := target_eq_ok ht
    obtain rfl := Option.some.inj (hsent.symm.trans hsent')
    rw [hurl, origin_withoutCredentials]
  rcases fate_of_endpoint haddress hhttp with
    ⟨sent, hsent, horigin, hnoVersion, hnoControl⟩ |
    ⟨sent, hsent, hversion, hnoControl, hhost, hpath⟩ | ⟨hnone, hcontrol, hnoVersion⟩
  · exact ⟨⟨fun _ => ⟨hnoVersion, hnoControl⟩, fun _ => ⟨sent, hsent, horigin⟩⟩, htarget,
      fun h => absurd h hnoVersion, fun h => absurd h hnoControl⟩
  · refine ⟨⟨?_, fun h => absurd hversion h.1⟩, htarget, fun _ => ⟨hhost, sent, hsent, hpath⟩,
      fun h => absurd h hnoControl⟩
    rintro ⟨sent', hsent', horigin⟩
    obtain rfl := Option.some.inj (hsent.symm.trans hsent')
    have hsame : sent.host? = url.host? := congrArg Origin.host horigin
    rw [hpath, hhost] at hsame
    exact absurd hsame (by decide)
  · refine ⟨⟨?_, fun h => absurd hcontrol h.2⟩, htarget, fun h => absurd h hnoVersion,
      fun _ => hnone⟩
    rintro ⟨sent, hsent, -⟩
    cases hsent.symm.trans hnone

/-! ### Settings that keep their server and settings that do not -/

theorem requests_go_to_port_behind_user :
    let server := " HTTP:\\me:pw@[::1]:8080/v1/ "
    let here : Origin := ⟨"http", some (.ipv6 [0, 0, 0, 0, 0, 0, 0, 1]), some 8080⟩
    (Url.ofText? server).map origin = some here ∧
      (Url.ofText? (endpoint server)).map origin = some here ∧
      ¬VersionForHost server ∧ ¬ControlBehindHost server := by
  intro server here
  have haddress : (Url.ofText? server).map (fun url => (url.isHttp, url.origin)) =
      some (true, here) := by decide +kernel
  have hendpoint : (Url.ofText? (endpoint server)).map origin = some here := by decide +kernel
  obtain ⟨url, hurl, hread⟩ := Option.map_eq_some_iff.mp haddress
  obtain ⟨hhttp, horigin⟩ := Prod.mk.inj hread
  obtain ⟨sent, hsent, hsame⟩ := Option.map_eq_some_iff.mp hendpoint
  refine ⟨?_, hendpoint,
    (requests_go_to_server_iff hurl hhttp).1.mp ⟨sent, hsent, hsame.trans horigin.symm⟩⟩
  rw [hurl, Option.map_some, horigin]

/-- A server with the name of the version, and a control character behind an address. -/
theorem requests_leave_server :
    (Url.ofText? "http://v1").map origin = some ⟨"http", some (.domain "v1"), none⟩ ∧
    (Url.ofText? (endpoint "http://v1")).map origin = some ⟨"http", some (.domain "api"), none⟩ ∧
    (Url.ofText? "http://[::1]\x01").map origin =
      some ⟨"http", some (.ipv6 [0, 0, 0, 0, 0, 0, 0, 1]), none⟩ ∧
    Url.ofText? (endpoint "http://[::1]\x01") = none := by
  have hsetting : scheme? (tidy "http://v1".toList) = some ("http", "//v1".toList) := by
    decide +kernel
  have haddress : scheme? (tidy (endpoint "http://v1").toList) =
      some ("http", "//api/generate".toList) := by decide +kernel
  have hversion : authorityIn "//v1".toList = ['v', '1'] := by decide
  have hpath : authorityIn "//api/generate".toList = "api".toList := by decide
  refine ⟨?_, ?_, by decide +kernel, by decide +kernel⟩
  · rw [map_origin_ofText? hsetting (.inl rfl), hversion, siteIn?_version]
    rfl
  · rw [map_origin_ofText? haddress (.inl rfl), hpath, siteIn?_path]
    rfl

end Renaming.Server
