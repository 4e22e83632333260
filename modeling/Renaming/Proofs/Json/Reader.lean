import Renaming.Proofs.Json.Number
import Renaming.Proofs.Json.Quoted

/-!
# The reader reads the grammar

Every text of the grammar is read as what it is written for (`readValue_append`), and nothing else
is read (`readValue_sound`). So a document is a value with blanks around it (`parse_eq_some_iff`).
-/

namespace Renaming.Json

/-! ## Blanks between tokens -/

theorem skipSpaces_append {s : List Char} (hs : Spaces s) (rest : List Char) :
    skipSpaces (s ++ rest) = skipSpaces rest :=
  List.dropWhile_append_of_pos hs

theorem skipSpaces_cons {c : Char} (h : isSpace c = false) (cs : List Char) :
    skipSpaces (c :: cs) = c :: cs := by
  simp [skipSpaces, h]

theorem exists_skipSpaces (cs : List Char) : ∃ s, cs = s ++ skipSpaces cs ∧ Spaces s :=
  ⟨cs.takeWhile isSpace, List.takeWhile_append_dropWhile.symm,
    fun _ hc => List.mem_takeWhile_imp hc⟩

theorem eq_of_isSpace {c : Char} (h : isSpace c = true) :
    c = ' ' ∨ c = '\t' ∨ c = '\n' ∨ c = '\r' := by
  simpa [isSpace, or_assoc] using h

theorem isSpace_of_isDigit {c : Char} (h : c.isDigit = true) : isSpace c = false := by
  by_contra hspace
  rcases eq_of_isSpace (Bool.not_eq_false _ ▸ hspace) with rfl | rfl | rfl | rfl <;>
    exact absurd h (by decide)

theorem stops_nil : Stops [] := fun c hc => by cases hc

theorem stops_cons {c : Char} (h : c.isDigit = false ∧ c ≠ '.' ∧ c ≠ 'e' ∧ c ≠ 'E')
    (rest : List Char) : Stops (c :: rest) := by
  intro d hd
  cases hd
  exact h

theorem stops_append {s rest : List Char} (hs : Spaces s) (hrest : Stops rest) :
    Stops (s ++ rest) := by
  cases s with
  | nil => exact hrest
  | cons c s =>
    apply stops_cons
    rcases eq_of_isSpace (hs c (List.mem_cons_self ..)) with rfl | rfl | rfl | rfl <;> decide

/-! ## How a phrase starts -/

/-- The first character is no blank and closes nothing. -/
def Starts (cs : List Char) : Prop :=
  ∃ c rest, cs = c :: rest ∧ isSpace c = false ∧ c ≠ ']' ∧ c ≠ '\x7d'

theorem Starts.append {cs : List Char} (h : Starts cs) (rest : List Char) :
    Starts (cs ++ rest) := by
  obtain ⟨c, cs, rfl, hc⟩ := h
  exact ⟨c, cs ++ rest, rfl, hc⟩

theorem Starts.skipSpaces {cs : List Char} (h : Starts cs) : skipSpaces cs = cs := by
  obtain ⟨c, cs, rfl, hc, -⟩ := h
  exact skipSpaces_cons hc cs

theorem NumberText.head {cs : List Char} {n : Number} (h : NumberText cs n) :
    ∃ c rest, cs = c :: rest ∧ (c.isDigit = true ∨ c = '-') := by
  cases h with
  | negative h => exact ⟨'-', _, rfl, .inr rfl⟩
  | positive h =>
    obtain ⟨c, rest, rfl, hc⟩ := h.head
    exact ⟨c, rest, rfl, .inl hc⟩

theorem NumberText.starts {cs : List Char} {n : Number} (h : NumberText cs n) : Starts cs := by
  obtain ⟨c, rest, rfl, hc | rfl⟩ := h.head
  · refine ⟨c, rest, rfl, isSpace_of_isDigit hc, ?_, ?_⟩
    · rintro rfl
      exact absurd hc (by decide)
    · rintro rfl
      exact absurd hc (by decide)
  · exact ⟨'-', rest, rfl, by decide⟩

theorem Spells.starts {cs : List Char} {ph : Phrase} (h : Spells cs ph) : Starts cs := by
  induction h with
  | null => exact ⟨'n', _, rfl, by decide⟩
  | yes => exact ⟨'t', _, rfl, by decide⟩
  | no => exact ⟨'f', _, rfl, by decide⟩
  | number hn => exact hn.starts
  | string _ => exact ⟨'"', _, rfl, by decide⟩
  | noItems _ => exact ⟨'[', _, rfl, by decide⟩
  | array _ _ _ => exact ⟨'[', _, rfl, by decide⟩
  | noMembers _ => exact ⟨'\x7b', _, rfl, by decide⟩
  | object _ _ _ => exact ⟨'\x7b', _, rfl, by decide⟩
  | lastItem _ _ ih => exact ih.append _
  | nextItem _ _ _ _ ih _ => exact ih.append _
  | member _ _ _ _ _ => exact ⟨'"', _, rfl, by decide⟩
  | lastMember _ _ ih => exact ih.append _
  | nextMember _ _ _ _ ih _ => exact ih.append _

/-! ## One step of the reader

What the reader does at a quote or a bracket is said here once, for both directions below. -/

/-- What comes after an opening bracket: the end of the array or its first item. -/
def firstItem (fuel : Nat) : List Char → Option (Json × List Char)
  | ']' :: rest => some (.array [], rest)
  | cs => readItems fuel [] cs

/-- What comes after an opening brace: the end of the object or its first member. -/
def firstMember (fuel : Nat) : List Char → Option (Json × List Char)
  | '\x7d' :: rest => some (.object [], rest)
  | cs => readMembers fuel [] cs

/-- What comes after an item: the next one or the end of the array. -/
def afterItem (fuel : Nat) (items : List Json) : List Char → Option (Json × List Char)
  | ',' :: rest => readItems fuel items (skipSpaces rest)
  | ']' :: rest => some (.array items.reverse, rest)
  | _ => none

/-- What comes after a member: the next one or the end of the object. -/
def afterMember (fuel : Nat) (members : List (Option String × Json)) :
    List Char → Option (Json × List Char)
  | ',' :: rest => readMembers fuel members (skipSpaces rest)
  | '\x7d' :: rest => some (.object members.reverse, rest)
  | _ => none

/-- What comes after a key: a colon, the value and what comes after the member. -/
def afterKey (fuel : Nat) (members : List (Option String × Json)) (key : Option String) :
    List Char → Option (Json × List Char)
  | ':' :: rest =>
    match readValue fuel (skipSpaces rest) with
    | none => none
    | some (value, rest) => afterMember fuel ((key, value) :: members) (skipSpaces rest)
  | _ => none

theorem readValue_quote (fuel : Nat) (cs : List Char) :
    readValue (fuel + 1) ('"' :: cs) = (readString cs).map fun x => (.string x.1, x.2) :=
  rfl

theorem readValue_bracket (fuel : Nat) (cs : List Char) :
    readValue (fuel + 1) ('[' :: cs) = firstItem fuel (skipSpaces cs) :=
  rfl

theorem readValue_brace (fuel : Nat) (cs : List Char) :
    readValue (fuel + 1) ('\x7b' :: cs) = firstMember fuel (skipSpaces cs) :=
  rfl

theorem readValue_number (fuel : Nat) {c : Char} (h : c.isDigit = true ∨ c = '-')
    (rest : List Char) :
    readValue (fuel + 1) (c :: rest) =
      (readNumber (c :: rest)).map fun x => (.number x.1, x.2) := by
  rcases h with h | rfl
  · simp only [readValue]
    -- No other document starts with a digit.
    split <;> simp_all
  · rfl

theorem readValue_array (fuel : Nat) {s cs : List Char} (hs : Spaces s) (hcs : Starts cs) :
    readValue (fuel + 1) ('[' :: (s ++ cs)) = readItems fuel [] cs := by
  obtain ⟨c, rest, rfl, hspace, hclose, -⟩ := hcs
  rw [readValue_bracket, skipSpaces_append hs, skipSpaces_cons hspace]
  unfold firstItem
  split
  · rename_i hcons
    exact absurd (List.cons.inj hcons).1 hclose
  · rfl

theorem readValue_object (fuel : Nat) {s cs : List Char} (hs : Spaces s) (hcs : Starts cs) :
    readValue (fuel + 1) ('\x7b' :: (s ++ cs)) = readMembers fuel [] cs := by
  obtain ⟨c, rest, rfl, hspace, -, hclose⟩ := hcs
  rw [readValue_brace, skipSpaces_append hs, skipSpaces_cons hspace]
  unfold firstMember
  split
  · rename_i hcons
    exact absurd (List.cons.inj hcons).1 hclose
  · rfl

theorem readValue_noItems (fuel : Nat) {s : List Char} (hs : Spaces s) (rest : List Char) :
    readValue (fuel + 1) ('[' :: (s ++ ']' :: rest)) = some (.array [], rest) := by
  have hclose : isSpace ']' = false := by decide
  rw [readValue_bracket, skipSpaces_append hs, skipSpaces_cons hclose]
  rfl

theorem readValue_noMembers (fuel : Nat) {s : List Char} (hs : Spaces s) (rest : List Char) :
    readValue (fuel + 1) ('\x7b' :: (s ++ '\x7d' :: rest)) = some (.object [], rest) := by
  have hclose : isSpace '\x7d' = false := by decide
  rw [readValue_brace, skipSpaces_append hs, skipSpaces_cons hclose]
  rfl

theorem readItems_succ (fuel : Nat) (items : List Json) (cs : List Char) :
    readItems (fuel + 1) items cs =
      (readValue fuel cs).bind fun x => afterItem fuel (x.1 :: items) (skipSpaces x.2) := by
  rw [readItems]
  rcases readValue fuel cs with _ | ⟨v, rest⟩ <;> rfl

theorem readItems_value {fuel : Nat} {cs rest : List Char} {v : Json} (items : List Json)
    (h : readValue fuel cs = some (v, rest)) :
    readItems (fuel + 1) items cs = afterItem fuel (v :: items) (skipSpaces rest) := by
  rw [readItems_succ, h, Option.bind_some]

theorem afterItem_close (fuel : Nat) (items : List Json) {s : List Char} (hs : Spaces s)
    (rest : List Char) :
    afterItem fuel items (skipSpaces (s ++ ']' :: rest)) = some (.array items.reverse, rest) := by
  have hclose : isSpace ']' = false := by decide
  rw [skipSpaces_append hs, skipSpaces_cons hclose]
  rfl

theorem afterItem_comma (fuel : Nat) (items : List Json) {s s' cs : List Char} (hs : Spaces s)
    (hs' : Spaces s') (hcs : Starts cs) :
    afterItem fuel items (skipSpaces (s ++ ',' :: (s' ++ cs))) = readItems fuel items cs := by
  have hcomma : isSpace ',' = false := by decide
  rw [skipSpaces_append hs, skipSpaces_cons hcomma]
  simp only [afterItem, skipSpaces_append hs', hcs.skipSpaces]

theorem readMembers_quote (fuel : Nat) (members : List (Option String × Json)) (cs : List Char) :
    readMembers (fuel + 1) members ('"' :: cs) =
      (readString cs).bind fun x => afterKey fuel members x.1 (skipSpaces x.2) := by
  rw [readMembers]
  rcases readString cs with _ | ⟨key, rest⟩ <;> rfl

theorem readMembers_value {fuel : Nat} {key s s' cs rest : List Char} {ps : List Piece} {v : Json}
    (members : List (Option String × Json)) (hkey : BodyText key ps) (hs : Spaces s)
    (hs' : Spaces s') (hcs : Starts cs) (h : readValue fuel cs = some (v, rest)) :
    readMembers (fuel + 1) members ('"' :: (key ++ '"' :: (s ++ ':' :: (s' ++ cs)))) =
      afterMember fuel ((joined ps, v) :: members) (skipSpaces rest) := by
  have hcolon : isSpace ':' = false := by decide
  rw [readMembers_quote, readString_append hkey, Option.bind_some, skipSpaces_append hs,
    skipSpaces_cons hcolon, afterKey, skipSpaces_append hs', hcs.skipSpaces, h]

theorem afterMember_close (fuel : Nat) (members : List (Option String × Json)) {s : List Char}
    (hs : Spaces s) (rest : List Char) :
    afterMember fuel members (skipSpaces (s ++ '\x7d' :: rest)) =
      some (.object members.reverse, rest) := by
  have hclose : isSpace '\x7d' = false := by decide
  rw [skipSpaces_append hs, skipSpaces_cons hclose]
  rfl

theorem afterMember_comma (fuel : Nat) (members : List (Option String × Json))
    {s s' cs : List Char} (hs : Spaces s) (hs' : Spaces s') (hcs : Starts cs) :
    afterMember fuel members (skipSpaces (s ++ ',' :: (s' ++ cs))) =
      readMembers fuel members cs := by
  have hcomma : isSpace ',' = false := by decide
  rw [skipSpaces_append hs, skipSpaces_cons hcomma]
  simp only [afterMember, skipSpaces_append hs', hcs.skipSpaces]

/-! ## The grammar is read -/

/-- The reader takes the characters for the phrase and stops behind them. Each item or member needs
one more step than its characters. -/
def ReadAs (cs : List Char) : Phrase → Prop
  | .value v => ∀ fuel rest, cs.length ≤ fuel → Stops rest →
      readValue fuel (cs ++ rest) = some (v, rest)
  | .items vs => ∀ fuel items rest, cs.length < fuel →
      readItems fuel items (cs ++ ']' :: rest) = some (.array (items.reverse ++ vs), rest)
  | .member m => ∀ fuel members rest, cs.length ≤ fuel → Stops rest →
      readMembers (fuel + 1) members (cs ++ rest) =
        afterMember fuel (m :: members) (skipSpaces rest)
  | .members ms => ∀ fuel members rest, cs.length < fuel →
      readMembers fuel members (cs ++ '\x7d' :: rest) =
        some (.object (members.reverse ++ ms), rest)

/-- A value has a character, so there is a step for it. -/
theorem exists_fuel {c : Char} {cs : List Char} {fuel : Nat} (h : (c :: cs).length ≤ fuel) :
    ∃ n, fuel = n + 1 ∧ cs.length ≤ n := by
  cases fuel with
  | zero => simp at h
  | succ n => exact ⟨n, rfl, Nat.le_of_succ_le_succ h⟩

theorem readAs_lastItem {cs s : List Char} {v : Json} (ih : ReadAs cs (.value v)) (hs : Spaces s) :
    ReadAs (cs ++ s) (.items [v]) := by
  intro fuel items rest hfuel
  cases fuel with
  | zero => simp at hfuel
  | succ fuel =>
    have hstop : Stops (s ++ ']' :: rest) := stops_append hs (stops_cons (by decide) rest)
    rw [List.length_append] at hfuel
    rw [List.append_assoc, readItems_value items (ih fuel _ (by omega) hstop),
      afterItem_close fuel _ hs, List.reverse_cons]

theorem readAs_nextItem {cs s s' next : List Char} {v : Json} {vs : List Json}
    (ih : ReadAs cs (.value v)) (hs : Spaces s) (hs' : Spaces s') (hnext : Starts next)
    (ihnext : ReadAs next (.items vs)) :
    ReadAs (cs ++ (s ++ ',' :: (s' ++ next))) (.items (v :: vs)) := by
  intro fuel items rest hfuel
  cases fuel with
  | zero => simp at hfuel
  | succ fuel =>
    have hstop : Stops (s ++ ',' :: (s' ++ (next ++ ']' :: rest))) :=
      stops_append hs (stops_cons (by decide) _)
    simp only [List.length_append, List.length_cons] at hfuel
    simp only [List.append_assoc, List.cons_append]
    rw [readItems_value items (ih fuel _ (by omega) hstop),
      afterItem_comma fuel _ hs hs' (hnext.append _), ihnext fuel (v :: items) rest (by omega)]
    simp

theorem readAs_lastMember {cs s : List Char} {m : Option String × Json}
    (ih : ReadAs cs (.member m)) (hs : Spaces s) : ReadAs (cs ++ s) (.members [m]) := by
  intro fuel members rest hfuel
  cases fuel with
  | zero => simp at hfuel
  | succ fuel =>
    have hstop : Stops (s ++ '\x7d' :: rest) := stops_append hs (stops_cons (by decide) rest)
    rw [List.length_append] at hfuel
    rw [List.append_assoc, ih fuel members _ (by omega) hstop, afterMember_close fuel _ hs,
      List.reverse_cons]

theorem readAs_nextMember {cs s s' next : List Char} {m : Option String × Json}
    {ms : List (Option String × Json)} (ih : ReadAs cs (.member m)) (hs : Spaces s)
    (hs' : Spaces s') (hnext : Starts next) (ihnext : ReadAs next (.members ms)) :
    ReadAs (cs ++ (s ++ ',' :: (s' ++ next))) (.members (m :: ms)) := by
  intro fuel members rest hfuel
  cases fuel with
  | zero => simp at hfuel
  | succ fuel =>
    have hstop : Stops (s ++ ',' :: (s' ++ (next ++ '\x7d' :: rest))) :=
      stops_append hs (stops_cons (by decide) _)
    simp only [List.length_append, List.length_cons] at hfuel
    simp only [List.append_assoc, List.cons_append]
    rw [ih fuel members _ (by omega) hstop, afterMember_comma fuel _ hs hs' (hnext.append _),
      ihnext fuel (m :: members) rest (by omega)]
    simp

theorem Spells.readAs {cs : List Char} {ph : Phrase} (h : Spells cs ph) : ReadAs cs ph := by
  induction h with
  | null =>
    intro fuel rest hfuel _
    obtain ⟨fuel, rfl, -⟩ := exists_fuel hfuel
    rfl
  | yes =>
    intro fuel rest hfuel _
    obtain ⟨fuel, rfl, -⟩ := exists_fuel hfuel
    rfl
  | no =>
    intro fuel rest hfuel _
    obtain ⟨fuel, rfl, -⟩ := exists_fuel hfuel
    rfl
  | number hn =>
    intro fuel rest hfuel hrest
    have hread := readNumber_append hn hrest
    obtain ⟨c, cs, rfl, hc⟩ := hn.head
    obtain ⟨fuel, rfl, -⟩ := exists_fuel hfuel
    rw [List.cons_append] at hread ⊢
    rw [readValue_number fuel hc, hread]
    rfl
  | string hbody =>
    intro fuel rest hfuel _
    obtain ⟨fuel, rfl, -⟩ := exists_fuel hfuel
    rw [List.cons_append, List.append_assoc, List.singleton_append]
    rw [readValue_quote, readString_append hbody]
    rfl
  | noItems hs =>
    intro fuel rest hfuel _
    obtain ⟨fuel, rfl, -⟩ := exists_fuel hfuel
    rw [List.cons_append, List.append_assoc, List.singleton_append, readValue_noItems fuel hs]
  | array hs hcs ih =>
    intro fuel rest hfuel _
    obtain ⟨fuel, rfl, hfuel⟩ := exists_fuel hfuel
    simp only [List.length_append, List.length_cons, List.length_nil] at hfuel
    rw [List.cons_append, List.append_assoc, List.append_assoc, List.singleton_append,
      readValue_array fuel hs (hcs.starts.append _)]
    exact ih fuel [] rest (by omega)
  | noMembers hs =>
    intro fuel rest hfuel _
    obtain ⟨fuel, rfl, -⟩ := exists_fuel hfuel
    rw [List.cons_append, List.append_assoc, List.singleton_append, readValue_noMembers fuel hs]
  | object hs hcs ih =>
    intro fuel rest hfuel _
    obtain ⟨fuel, rfl, hfuel⟩ := exists_fuel hfuel
    simp only [List.length_append, List.length_cons, List.length_nil] at hfuel
    rw [List.cons_append, List.append_assoc, List.append_assoc, List.singleton_append,
      readValue_object fuel hs (hcs.starts.append _)]
    exact ih fuel [] rest (by omega)
  | lastItem _ hs ih => exact readAs_lastItem ih hs
  | nextItem _ hs hs' hnext ih ihnext => exact readAs_nextItem ih hs hs' hnext.starts ihnext
  | member hkey hs hs' hcs ih =>
    intro fuel members rest hfuel hrest
    simp only [List.length_cons, List.length_append] at hfuel
    simp only [List.cons_append, List.append_assoc]
    exact readMembers_value members hkey hs hs' (hcs.starts.append _)
      (ih fuel rest (by omega) hrest)
  | lastMember _ hs ih => exact readAs_lastMember ih hs
  | nextMember _ hs hs' hnext ih ihnext => exact readAs_nextMember ih hs hs' hnext.starts ihnext

theorem readValue_append {cs rest : List Char} {v : Json} (h : Spells cs (.value v))
    (hrest : Stops rest) {fuel : Nat} (hfuel : cs.length ≤ fuel) :
    readValue fuel (cs ++ rest) = some (v, rest) :=
  h.readAs fuel rest hfuel hrest

/-! ## What is read is in the grammar

Each function of the reader calls the others with one step less. So one induction on the steps
carries what is said about all three. -/

def ValueSound (fuel : Nat) : Prop :=
  ∀ cs v rest, readValue fuel cs = some (v, rest) →
    ∃ text, cs = text ++ rest ∧ Spells text (.value v)

def ItemsSound (fuel : Nat) : Prop :=
  ∀ items cs v rest, readItems fuel items cs = some (v, rest) →
    ∃ text vs, cs = text ++ ']' :: rest ∧ v = .array (items.reverse ++ vs) ∧
      Spells text (.items vs)

def MembersSound (fuel : Nat) : Prop :=
  ∀ members cs v rest, readMembers fuel members cs = some (v, rest) →
    ∃ text ms, cs = text ++ '\x7d' :: rest ∧ v = .object (members.reverse ++ ms) ∧
      Spells text (.members ms)

theorem firstItem_sound {fuel : Nat} (hitems : ItemsSound fuel) {cs rest : List Char} {v : Json}
    (h : firstItem fuel (skipSpaces cs) = some (v, rest)) :
    ∃ inside, cs = inside ++ rest ∧ Spells ('[' :: inside) (.value v) := by
  obtain ⟨s, hcs, hs⟩ := exists_skipSpaces cs
  generalize skipSpaces cs = after at h hcs
  subst hcs
  unfold firstItem at h
  split at h
  · cases h
    exact ⟨s ++ [']'], by simp, .noItems hs⟩
  · obtain ⟨text, vs, rfl, rfl, hvs⟩ := hitems _ _ _ _ h
    exact ⟨s ++ (text ++ [']']), by simp, .array hs hvs⟩

theorem firstMember_sound {fuel : Nat} (hmembers : MembersSound fuel) {cs rest : List Char}
    {v : Json} (h : firstMember fuel (skipSpaces cs) = some (v, rest)) :
    ∃ inside, cs = inside ++ rest ∧ Spells ('\x7b' :: inside) (.value v) := by
  obtain ⟨s, hcs, hs⟩ := exists_skipSpaces cs
  generalize skipSpaces cs = after at h hcs
  subst hcs
  unfold firstMember at h
  split at h
  · cases h
    exact ⟨s ++ ['\x7d'], by simp, .noMembers hs⟩
  · obtain ⟨text, ms, rfl, rfl, hms⟩ := hmembers _ _ _ _ h
    exact ⟨s ++ (text ++ ['\x7d']), by simp, .object hs hms⟩

theorem afterItem_sound {fuel : Nat} (hitems : ItemsSound fuel) {items : List Json}
    {text cs rest : List Char} {item v : Json} (hitem : Spells text (.value item))
    (h : afterItem fuel (item :: items) (skipSpaces cs) = some (v, rest)) :
    ∃ more vs, cs = more ++ ']' :: rest ∧ v = .array (items.reverse ++ vs) ∧
      Spells (text ++ more) (.items vs) := by
  obtain ⟨s, hcs, hs⟩ := exists_skipSpaces cs
  generalize skipSpaces cs = after at h hcs
  subst hcs
  unfold afterItem at h
  split at h
  · rename_i after
    obtain ⟨s', hafter, hs'⟩ := exists_skipSpaces after
    obtain ⟨next, vs, hnext, rfl, hvs⟩ := hitems _ _ _ _ h
    refine ⟨s ++ ',' :: (s' ++ next), item :: vs, ?_, by simp, .nextItem hitem hs hs' hvs⟩
    rw [hafter, hnext]
    simp
  · cases h
    exact ⟨s, [item], rfl, by simp, .lastItem hitem hs⟩
  · cases h

theorem afterMember_sound {fuel : Nat} (hmembers : MembersSound fuel)
    {members : List (Option String × Json)} {text cs rest : List Char}
    {m : Option String × Json} {v : Json} (hm : Spells text (.member m))
    (h : afterMember fuel (m :: members) (skipSpaces cs) = some (v, rest)) :
    ∃ more ms, cs = more ++ '\x7d' :: rest ∧ v = .object (members.reverse ++ ms) ∧
      Spells (text ++ more) (.members ms) := by
  obtain ⟨s, hcs, hs⟩ := exists_skipSpaces cs
  generalize skipSpaces cs = after at h hcs
  subst hcs
  unfold afterMember at h
  split at h
  · rename_i after
    obtain ⟨s', hafter, hs'⟩ := exists_skipSpaces after
    obtain ⟨next, ms, hnext, rfl, hms⟩ := hmembers _ _ _ _ h
    refine ⟨s ++ ',' :: (s' ++ next), m :: ms, ?_, by simp, .nextMember hm hs hs' hms⟩
    rw [hafter, hnext]
    simp
  · cases h
    exact ⟨s, [m], rfl, by simp, .lastMember hm hs⟩
  · cases h

theorem afterKey_sound {fuel : Nat} (hvalue : ValueSound fuel) (hmembers : MembersSound fuel)
    {members : List (Option String × Json)} {body cs rest : List Char} {ps : List Piece}
    {v : Json} (hbody : BodyText body ps)
    (h : afterKey fuel members (joined ps) (skipSpaces cs) = some (v, rest)) :
    ∃ more ms, cs = more ++ '\x7d' :: rest ∧ v = .object (members.reverse ++ ms) ∧
      Spells ('"' :: (body ++ '"' :: more)) (.members ms) := by
  obtain ⟨s, hcs, hs⟩ := exists_skipSpaces cs
  generalize skipSpaces cs = after at h hcs
  subst hcs
  unfold afterKey at h
  split at h
  · rename_i afterColon
    obtain ⟨s', hafter, hs'⟩ := exists_skipSpaces afterColon
    split at h
    · cases h
    · rename_i hread
      obtain ⟨text, htext, hspells⟩ := hvalue _ _ _ hread
      have hmember := Spells.member hbody hs hs' hspells
      obtain ⟨more, ms, rfl, hv, hms⟩ := afterMember_sound hmembers hmember h
      refine ⟨s ++ ':' :: (s' ++ (text ++ more)), ms, ?_, hv, by simpa using hms⟩
      rw [hafter, htext]
      simp
  · cases h

theorem itemsSound_succ {fuel : Nat} (hvalue : ValueSound fuel) (hitems : ItemsSound fuel) :
    ItemsSound (fuel + 1) := by
  intro items cs v rest h
  rw [readItems_succ, Option.bind_eq_some_iff] at h
  obtain ⟨⟨item, after⟩, hread, h⟩ := h
  obtain ⟨text, rfl, htext⟩ := hvalue _ _ _ hread
  obtain ⟨more, vs, rfl, hv, hvs⟩ := afterItem_sound hitems htext h
  exact ⟨text ++ more, vs, by simp, hv, hvs⟩

/-- A member starts with the quote of its key. -/
theorem exists_quote {fuel : Nat} {members : List (Option String × Json)} {cs : List Char}
    {x : Json × List Char} (h : readMembers (fuel + 1) members cs = some x) :
    ∃ rest, cs = '"' :: rest := by
  simp only [readMembers] at h
  split at h
  · exact ⟨_, rfl⟩
  · cases h

theorem membersSound_succ {fuel : Nat} (hvalue : ValueSound fuel) (hmembers : MembersSound fuel) :
    MembersSound (fuel + 1) := by
  intro members cs v rest h
  obtain ⟨afterQuote, rfl⟩ := exists_quote h
  rw [readMembers_quote, Option.bind_eq_some_iff] at h
  obtain ⟨⟨key, after⟩, hkey, h⟩ := h
  obtain ⟨body, ps, rfl, hbody, rfl⟩ := readString_sound hkey
  obtain ⟨more, ms, rfl, hv, hms⟩ := afterKey_sound hvalue hmembers hbody h
  exact ⟨_, ms, by simp, hv, hms⟩

theorem valueSound_succ {fuel : Nat} (hitems : ItemsSound fuel) (hmembers : MembersSound fuel) :
    ValueSound (fuel + 1) := by
  intro cs v rest h
  simp only [readValue] at h
  split at h
  · cases h
    exact ⟨_, rfl, .null⟩
  · cases h
    exact ⟨_, rfl, .yes⟩
  · cases h
    exact ⟨_, rfl, .no⟩
  · obtain ⟨⟨text, rest'⟩, hread, hv⟩ := Option.map_eq_some_iff.mp h
    cases hv
    obtain ⟨body, ps, rfl, hbody, rfl⟩ := readString_sound hread
    exact ⟨'"' :: (body ++ ['"']), by simp, .string hbody⟩
  · obtain ⟨inside, rfl, hspells⟩ := firstItem_sound hitems h
    exact ⟨_, rfl, hspells⟩
  · obtain ⟨inside, rfl, hspells⟩ := firstMember_sound hmembers h
    exact ⟨_, rfl, hspells⟩
  · obtain ⟨⟨n, rest'⟩, hread, hv⟩ := Option.map_eq_some_iff.mp h
    cases hv
    obtain ⟨text, rfl, hn⟩ := readNumber_sound hread
    exact ⟨text, rfl, .number hn⟩

theorem sound (fuel : Nat) : ValueSound fuel ∧ ItemsSound fuel ∧ MembersSound fuel := by
  induction fuel with
  | zero =>
    refine ⟨?_, ?_, ?_⟩
    · intro cs v rest h
      exact nomatch h
    · intro items cs v rest h
      exact nomatch h
    · intro members cs v rest h
      exact nomatch h
  | succ fuel ih =>
    obtain ⟨hvalue, hitems, hmembers⟩ := ih
    exact ⟨valueSound_succ hitems hmembers, itemsSound_succ hvalue hitems,
      membersSound_succ hvalue hmembers⟩

theorem readValue_sound {fuel : Nat} {cs rest : List Char} {v : Json}
    (h : readValue fuel cs = some (v, rest)) : ∃ text, cs = text ++ rest ∧ Spells text (.value v) :=
  (sound fuel).1 cs v rest h

/-! ## Documents -/

theorem Spaces.eq_nil {cs : List Char} (h : Spaces cs) : skipSpaces cs = [] := by
  unfold skipSpaces
  rw [List.dropWhile_eq_nil_iff]
  exact h

/-- A document is a value with blanks around it. -/
theorem parse_eq_some_iff (cs : List Char) (v : Json) :
    parse cs = some v ↔ ∃ s text s', cs = s ++ (text ++ s') ∧ Spaces s ∧ Spaces s' ∧
      Spells text (.value v) := by
  constructor
  · intro h
    unfold parse at h
    split at h
    · rename_i value rest hread
      split at h
      · rename_i hempty
        cases h
        obtain ⟨s, hcs, hs⟩ := exists_skipSpaces cs
        obtain ⟨text, htext, hspells⟩ := readValue_sound hread
        obtain ⟨s', hrest, hs'⟩ := exists_skipSpaces rest
        rw [List.isEmpty_iff.mp hempty, List.append_nil] at hrest
        subst hrest
        exact ⟨s, text, rest, by rw [hcs, htext], hs, hs', hspells⟩
      · cases h
    · cases h
  · rintro ⟨s, text, s', rfl, hs, hs', hspells⟩
    have hlength : text.length ≤ (s ++ (text ++ s')).length + 1 := by
      simp only [List.length_append]
      omega
    have hstop : Stops s' := by
      simpa using stops_append hs' stops_nil
    have hread := readValue_append hspells hstop hlength
    unfold parse
    rw [skipSpaces_append hs, (hspells.starts.append s').skipSpaces, hread]
    simp [hs'.eq_nil]

end Renaming.Json
