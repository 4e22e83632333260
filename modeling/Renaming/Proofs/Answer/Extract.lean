import Renaming.Proofs.Answer.Scan
import Renaming.Proofs.Json.Trim

/-!
# Finding the JSON in an answer

A document in a fence is what is left when the fence is taken away. An object with something around
it stays in one piece through trimming and through taking away a fence, and the scan finds it
afterwards.
-/

namespace Renaming.Answer

open Json Text

/-! ## Fences -/

theorem afterFence?_append {cs inside rest : List Char} {c : Char} (hc : c ≠ '\x60')
    (h : afterFence? (cs ++ c :: rest) = some inside) :
    ∃ cs', cs = fence ++ cs' ∧ inside = cs' ++ c :: rest := by
  unfold afterFence? at h
  split at h
  · rename_i after hcs
    cases h
    rcases cs with _ | ⟨c₁, _ | ⟨c₂, _ | ⟨c₃, cs⟩⟩⟩
    · exact absurd (List.cons.inj hcs).1 hc
    · exact absurd (List.cons.inj (List.cons.inj hcs).2).1 hc
    · exact absurd (List.cons.inj (List.cons.inj (List.cons.inj hcs).2).2).1 hc
    · simp only [List.cons_append, List.cons.injEq] at hcs
      obtain ⟨rfl, rfl, rfl, rfl⟩ := hcs
      exact ⟨cs, rfl, rfl⟩
  · cases h

theorem beforeFence_append_fence (cs : List Char) : beforeFence (cs ++ fence) = cs := by
  have htrim : trimEnd (cs ++ fence) = cs ++ fence := by
    apply trimEnd_of_last
    intro c hc
    rw [List.getLast?_append] at hc
    cases hc
    decide
  have hreverse : (cs ++ fence).reverse = '\x60' :: '\x60' :: '\x60' :: cs.reverse := by
    simp [fence]
  unfold beforeFence
  rw [htrim, hreverse]
  simp [afterFence?]

/-! ## The line behind a fence -/

theorem ne_newline {line : List Char} (h : '\n' ∉ line) : ∀ c ∈ line, (c != '\n') = true := by
  intro c hc
  simp only [bne_iff_ne]
  rintro rfl
  exact h hc

/-- A line with a character that belongs to no word stays. -/
theorem withoutInfo_of_mem {cs : List Char} {c : Char} (h : c ∈ cs.takeWhile (· != '\n'))
    (hblank : isBlank c = false) (hword : c.isAlphanum = false) : withoutInfo cs = cs := by
  have hnot : (trimBoth (cs.takeWhile (· != '\n'))).all Char.isAlphanum = false :=
    List.all_eq_false.mpr ⟨c, mem_trimBoth h hblank, by simp [hword]⟩
  unfold withoutInfo
  rw [hnot]
  split <;> rfl

theorem withoutInfo_append {line : List Char} (h : '\n' ∉ line) (rest : List Char) :
    withoutInfo (line ++ '\n' :: rest) =
      if (trimBoth line).all Char.isAlphanum then rest else line ++ '\n' :: rest := by
  unfold withoutInfo
  rw [List.dropWhile_append_of_pos (ne_newline h), List.takeWhile_append_of_pos (ne_newline h),
    List.dropWhile_cons_of_neg (by decide), List.takeWhile_cons_of_neg (by decide),
    List.append_nil]

/-! ## Documents in fences -/

/-- A fence around some lines, with a word behind its opening. -/
def fenced (info lines : List Char) : List Char :=
  fence ++ (info ++ '\n' :: (lines ++ '\n' :: fence))

theorem trimmed_fenced (info lines : List Char) : Trimmed (fenced info lines) where
  first c hc := by
    cases hc
    decide
  last c hc := by
    have hlast : (fenced info lines).getLast? = some '\x60' := by
      simp [fenced, fence, List.getLast?_append, List.getLast?_cons]
    rw [hlast] at hc
    cases hc
    decide

/-- An opening fence is no document. -/
theorem parse_fenced (info lines : List Char) : parse (fenced info lines) = none := by
  simp [fenced, fence, parse, skipSpaces, isSpace, readValue, readNumber, readUnsigned, readWhole,
    digits]

theorem unfenced_fenced {info : List Char} (hinfo : ∀ c ∈ info, c.isAlphanum = true)
    (lines : List Char) : unfenced (fenced info lines) = trimBoth lines := by
  have hline : '\n' ∉ info := fun h => absurd (hinfo _ h) (by decide)
  have hword : (trimBoth info).all Char.isAlphanum = true :=
    List.all_eq_true.mpr fun c hc => hinfo c (mem_of_mem_trimBoth hc)
  have hopen : afterFence? (fenced info lines) =
      some (info ++ '\n' :: (lines ++ '\n' :: fence)) := rfl
  have hclose : lines ++ '\n' :: fence = (lines ++ ['\n']) ++ fence := by simp
  unfold unfenced
  rw [hopen]
  simp only
  rw [withoutInfo_append hline, if_pos hword, hclose, beforeFence_append_fence]
  exact trimBoth_append_blanks (List.forall_mem_nil _) (List.forall_mem_singleton.mpr rfl)

/-! ## Objects with something around them -/

/-- The text holds an object, and no brace before it. -/
def Holds (object cs : List Char) : Prop :=
  ∃ before after, '\x7b' ∉ before ∧ cs = before ++ (object ++ after)

section

variable {inside cs : List Char}

theorem holds_trimBoth (h : Holds ('\x7b' :: (inside ++ ['\x7d'])) cs) :
    Holds ('\x7b' :: (inside ++ ['\x7d'])) (trimBoth cs) := by
  obtain ⟨before, after, hbefore, rfl⟩ := h
  refine ⟨trimStart before, trimEnd after, ?_, ?_⟩
  · exact fun h => hbefore ((List.dropWhile_sublist _).subset h)
  · have hopen : isBlank '\x7b' = false := by decide
    have hclose : isBlank '\x7d' = false := by decide
    have hsplit : trimStart before ++ '\x7b' :: (inside ++ ['\x7d'] ++ after) =
        (trimStart before ++ '\x7b' :: inside) ++ '\x7d' :: after := by simp
    unfold trimBoth
    rw [List.cons_append, trimStart_append before hopen, hsplit, trimEnd_append _ hclose]
    simp

theorem holds_of_afterFence? {rest : List Char} (hrest : afterFence? cs = some rest)
    (h : Holds ('\x7b' :: (inside ++ ['\x7d'])) cs) :
    Holds ('\x7b' :: (inside ++ ['\x7d'])) rest := by
  obtain ⟨before, after, hbefore, rfl⟩ := h
  obtain ⟨before', rfl, rfl⟩ := afterFence?_append (by decide) hrest
  exact ⟨before', after, fun h => hbefore (List.mem_append_right _ h), rfl⟩

/-- The line on which the object starts is no word, so it stays. -/
theorem holds_withoutInfo (h : Holds ('\x7b' :: (inside ++ ['\x7d'])) cs) :
    Holds ('\x7b' :: (inside ++ ['\x7d'])) (withoutInfo cs) := by
  obtain ⟨before, after, hbefore, rfl⟩ := h
  by_cases hline : '\n' ∈ before
  · -- The first line ends before the object, so it does not matter whether it goes.
    obtain ⟨line, rest, rfl, hfirst⟩ := List.eq_append_cons_of_mem hline
    have hrest : '\x7b' ∉ rest :=
      fun h => hbefore (List.mem_append_right _ (List.mem_cons_of_mem _ h))
    rw [List.append_assoc, List.cons_append, withoutInfo_append hfirst]
    split
    · exact ⟨rest, after, hrest, rfl⟩
    · exact ⟨line ++ '\n' :: rest, after, hbefore, by simp⟩
  · -- The brace of the object is on the first line.
    have hopen : '\x7b' ∈
        (before ++ ('\x7b' :: (inside ++ ['\x7d']) ++ after)).takeWhile (· != '\n') := by
      rw [List.takeWhile_append_of_pos (ne_newline hline), List.cons_append,
        List.takeWhile_cons_of_pos (by decide)]
      exact List.mem_append_right _ (List.mem_cons_self ..)
    rw [withoutInfo_of_mem hopen (by decide) (by decide)]
    exact ⟨before, after, hbefore, rfl⟩

/-- A closing fence is behind the brace that closes the object. -/
theorem holds_beforeFence (h : Holds ('\x7b' :: (inside ++ ['\x7d'])) cs) :
    Holds ('\x7b' :: (inside ++ ['\x7d'])) (beforeFence cs) := by
  obtain ⟨before, after, hbefore, rfl⟩ := h
  have hclose : isBlank '\x7d' = false := by decide
  have hsplit : before ++ ('\x7b' :: (inside ++ ['\x7d']) ++ after) =
      (before ++ '\x7b' :: inside) ++ '\x7d' :: after := by simp
  have hreverse : ((before ++ '\x7b' :: inside) ++ '\x7d' :: trimEnd after).reverse =
      (trimEnd after).reverse ++ '\x7d' :: (before ++ '\x7b' :: inside).reverse := by simp
  unfold beforeFence
  rw [hsplit, trimEnd_append _ hclose, hreverse]
  split
  · rename_i hfence
    obtain ⟨rest, -, rfl⟩ := afterFence?_append (by decide) hfence
    exact ⟨before, rest.reverse, hbefore, by simp⟩
  · exact ⟨before, after, hbefore, by simp⟩

theorem holds_unfenced (h : Holds ('\x7b' :: (inside ++ ['\x7d'])) cs) :
    Holds ('\x7b' :: (inside ++ ['\x7d'])) (unfenced cs) := by
  unfold unfenced
  split
  · exact h
  · rename_i hrest
    exact holds_trimBoth (holds_beforeFence (holds_withoutInfo (holds_of_afterFence? hrest h)))

end

/-! ## The readings -/

section

variable {α : Type} (value? : Json → Option α)

theorem extract_eq (answer : String) :
    extract value? answer =
      let whole := trimBoth answer.toList
      let inside := unfenced whole
      let reading := fun cs => (parse cs).bind value?
      match reading whole <|> reading inside <|> (findObject inside).bind reading <|>
          (findObject whole).bind reading with
      | some value => .ok value
      | none => .error ⟨String.ofList (whole.take 200)⟩ := rfl

theorem bind_parse_trimBoth {cs : List Char} {v : α} (h : (parse cs).bind value? = some v) :
    (parse (trimBoth cs)).bind value? = some v := by
  obtain ⟨document, hparse, hv⟩ := Option.bind_eq_some_iff.mp h
  rw [parse_trimBoth hparse]
  exact hv

theorem extract_document {x : String} {v : α} (h : decode? value? x = some v)
    {before after : String} (hbefore : ∀ c ∈ before.toList, isBlank c = true)
    (hafter : ∀ c ∈ after.toList, isBlank c = true) :
    extract value? (before ++ x ++ after) = .ok v := by
  have hwhole : trimBoth (before ++ x ++ after).toList = trimBoth x.toList := by
    rw [String.toList_append, String.toList_append, List.append_assoc,
      trimBoth_append_blanks hbefore hafter]
  rw [extract_eq, hwhole]
  simp only [bind_parse_trimBoth value? h]
  rfl

theorem extract_fenced {x : String} {v : α} (h : decode? value? x = some v)
    {before after : String} (hbefore : ∀ c ∈ before.toList, isBlank c = true)
    (hafter : ∀ c ∈ after.toList, isBlank c = true) {info : String}
    (hinfo : ∀ c ∈ info.toList, c.isAlphanum = true) :
    extract value? (before ++ ("```" ++ info ++ "\n" ++ x ++ "\n```") ++ after) = .ok v := by
  have hwhole : trimBoth (before ++ ("```" ++ info ++ "\n" ++ x ++ "\n```") ++ after).toList =
      fenced info.toList x.toList := by
    have htext : ("```" ++ info ++ "\n" ++ x ++ "\n```").toList = fenced info.toList x.toList := by
      simp [fenced, fence]
    rw [String.toList_append, String.toList_append, List.append_assoc,
      trimBoth_append_blanks hbefore hafter, htext, trimBoth_of_trimmed (trimmed_fenced _ _)]
  rw [extract_eq, hwhole]
  simp only [parse_fenced, unfenced_fenced hinfo, Option.bind_none, bind_parse_trimBoth value? h]
  rfl

theorem extract_object {p o s : String} {ms : List (Option String × Json)}
    (hp : '\x7b' ∉ p.toList) (ho : Spells o.toList (.value (.object ms)))
    (hwhole : (parse (trimBoth (p ++ o ++ s).toList)).bind value? = none)
    (hinside : (parse (unfenced (trimBoth (p ++ o ++ s).toList))).bind value? = none) :
    extract value? (p ++ o ++ s) = match decode? value? o with
      | some v => .ok v
      | none => .error ⟨String.ofList ((trimBoth (p ++ o ++ s).toList).take 200)⟩ := by
  have hfind : ∀ cs, Holds o.toList cs → findObject cs = some o.toList := by
    rintro cs ⟨before, after, hbefore, rfl⟩
    exact findObject_append hbefore ho after
  obtain ⟨inside, ho', -⟩ := exists_inside ho
  have hholds : Holds o.toList (trimBoth (p ++ o ++ s).toList) := by
    have hall : Holds o.toList (p ++ o ++ s).toList := ⟨p.toList, s.toList, hp, by simp⟩
    rw [ho'] at hall ⊢
    exact holds_trimBoth hall
  have hholds' : Holds o.toList (unfenced (trimBoth (p ++ o ++ s).toList)) := by
    rw [ho'] at hholds ⊢
    exact holds_unfenced hholds
  -- The object in the fence and the object in the whole text are the same one.
  rw [extract_eq]
  simp only [hwhole, hinside, hfind _ hholds, hfind _ hholds', Option.bind_some]
  unfold decode?
  cases (parse o.toList).bind value? <;> rfl

end

/-! ## What is found -/

/-- A document is found under blanks and in a fence. An object is found in any text without a brace
before it, whatever comes after it. If neither the text nor the inside of its fence can be decoded,
then the answer is what the object decodes to, and without that an error. -/
theorem extract_finds_json {α : Type} (value? : Json → Option α) :
    (∀ (x : String) (v : α), decode? value? x = some v → ∀ before after : String,
      (∀ c ∈ before.toList, isBlank c = true) → (∀ c ∈ after.toList, isBlank c = true) →
      extract value? (before ++ x ++ after) = .ok v ∧
      ∀ info : String, (∀ c ∈ info.toList, c.isAlphanum = true) →
        extract value? (before ++ ("```" ++ info ++ "\n" ++ x ++ "\n```") ++ after) = .ok v) ∧
    (∀ (p o s : String) (ms : List (Option String × Json)), '\x7b' ∉ p.toList →
      Spells o.toList (.value (.object ms)) →
      findObject (p ++ o ++ s).toList = some o.toList ∧
      let whole := trimBoth (p ++ o ++ s).toList
      ((parse whole).bind value? = none → (parse (unfenced whole)).bind value? = none →
        (∀ v, extract value? (p ++ o ++ s) = .ok v ↔ decode? value? o = some v) ∧
        (decode? value? o = none →
          extract value? (p ++ o ++ s) = .error ⟨String.ofList (whole.take 200)⟩))) := by
  constructor
  · intro x v h before after hbefore hafter
    refine ⟨extract_document value? h hbefore hafter, ?_⟩
    intro info hinfo
    exact extract_fenced value? h hbefore hafter hinfo
  · intro p o s ms hp ho
    constructor
    · rw [String.toList_append, String.toList_append, List.append_assoc]
      exact findObject_append hp ho s.toList
    · intro whole hwhole hinside
      rw [extract_object value? hp ho hwhole hinside]
      cases decode? value? o <;> simp [whole]

/-- The text of the member `a`. -/
def memberA? (document : Json) : Option String :=
  (record? ["a"] document).bind fun slots => slots.head?.bind (Slot.required text?)

/-- A brace in a string, escaped quotes, and braces behind the object. -/
theorem extract_finds_json_with_braces :
    extract memberA?
      ("\n" ++ ("```" ++ "json" ++ "\n" ++ "\x7b\"a\": \"b\"\x7d" ++ "\n```") ++ " ") = .ok "b" ∧
    findObject ("Sure: " ++ "\x7b\"a\":\"\\\"\x7d\"\x7d" ++ " or \x7b\x7d").toList =
      some "\x7b\"a\":\"\\\"\x7d\"\x7d".toList ∧
    extract memberA? ("Sure: " ++ "\x7b\"a\":\"\\\"\x7d\"\x7d" ++ " or \x7b\x7d") =
      .ok "\"\x7d" := by
  have hspaces : Spaces [] := fun c hc => by cases hc
  have hkey : BodyText ['a'] [.char 'a'] := .char (by decide) (by decide) (by decide) .nil
  have hbody : BodyText ['\\', '"', '\x7d'] [.char '"', .char '\x7d'] :=
    .short rfl (.char (by decide) (by decide) (by decide) .nil)
  have hobject : Spells "\x7b\"a\":\"\\\"\x7d\"\x7d".toList (.value (.object _)) :=
    .object hspaces (.lastMember (.member hkey hspaces hspaces (.string hbody)) hspaces)
  obtain ⟨hfind, hextract⟩ := (extract_finds_json memberA?).2 "Sure: " _ " or \x7b\x7d" _
    (by decide) hobject
  refine ⟨?_, hfind, ((hextract (by decide +kernel) (by decide +kernel)).1 _).mpr
    (by decide +kernel)⟩
  have hbefore : ∀ c ∈ "\n".toList, isBlank c = true := List.forall_mem_singleton.mpr rfl
  have hafter : ∀ c ∈ " ".toList, isBlank c = true := List.forall_mem_singleton.mpr rfl
  have hinfo : ∀ c ∈ "json".toList, c.isAlphanum = true := List.all_eq_true.mp rfl
  exact ((extract_finds_json memberA?).1 "\x7b\"a\": \"b\"\x7d" "b" (by decide +kernel)
    "\n" " " hbefore hafter).2 "json" hinfo

end Renaming.Answer
