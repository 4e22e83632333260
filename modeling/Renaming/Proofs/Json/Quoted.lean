import Renaming.Proofs.Json.Grammar

/-!
# Reading strings

A string is read in two steps, up to its closing quote and then escape by escape. Together they read
exactly the strings of the grammar.
-/

namespace Renaming.Json

/-! ## Escapes -/

/-- A character that is neither a quote nor a backslash. -/
def Plain (c : Char) : Prop := c ≠ '"' ∧ c ≠ '\\'

theorem plain_of_hexValue {c : Char} {n : Nat} (h : hexValue c = some n) : Plain c := by
  constructor
  · rintro rfl
    simp [hexValue] at h
  · rintro rfl
    simp [hexValue] at h

theorem plain_of_hexFour {a b c d : Char} {u : Nat} (h : hexFour a b c d = some u) :
    Plain a ∧ Plain b ∧ Plain c ∧ Plain d := by
  simp only [hexFour, Option.bind_eq_bind, Option.bind_eq_some_iff] at h
  obtain ⟨_, ha, _, hb, _, hc, _, hd, -⟩ := h
  exact ⟨plain_of_hexValue ha, plain_of_hexValue hb, plain_of_hexValue hc, plain_of_hexValue hd⟩

/-! ## Up to the closing quote -/

theorem splitQuoted_plain (body rest : List Char) {c : Char} (h : Plain c) :
    splitQuoted body (c :: rest) = splitQuoted (c :: body) rest := by
  obtain ⟨hquote, hslash⟩ := h
  rw [splitQuoted.eq_def]
  split <;> simp_all

theorem splitQuoted_escape (body rest : List Char) (c : Char) :
    splitQuoted body ('\\' :: c :: rest) = splitQuoted (c :: '\\' :: body) rest := by
  rw [splitQuoted.eq_def]
  rfl

theorem splitQuoted_append {cs : List Char} {ps : List Piece} (h : BodyText cs ps)
    (body rest : List Char) :
    splitQuoted body (cs ++ '"' :: rest) = some (body.reverse ++ cs, rest) := by
  induction h generalizing body with
  | nil => simp [splitQuoted]
  | char hquote hslash _ _ ih =>
    rw [List.cons_append, splitQuoted_plain _ _ ⟨hquote, hslash⟩, ih]
    simp
  | short _ _ ih =>
    rw [List.cons_append, List.cons_append, splitQuoted_escape, ih]
    simp
  | unit hunit _ ih =>
    obtain ⟨ha, hb, hc, hd⟩ := plain_of_hexFour hunit
    simp only [List.cons_append]
    rw [splitQuoted_escape, splitQuoted_plain _ _ ha, splitQuoted_plain _ _ hb,
      splitQuoted_plain _ _ hc, splitQuoted_plain _ _ hd, ih]
    simp

/-! ## Escape by escape -/

theorem piecesAfter_append {cs : List Char} {ps : List Piece} (h : BodyText cs ps)
    (pieces : List Piece) : piecesAfter pieces cs = some (pieces.reverse ++ ps) := by
  induction h generalizing pieces with
  | nil => simp [piecesAfter]
  | @char c cs ps _ hslash hprintable _ ih =>
    have hstep : piecesAfter pieces (c :: cs) = piecesAfter (.char c :: pieces) cs := by
      rw [piecesAfter.eq_def]
      split <;> simp_all
    rw [hstep, ih]
    simp
  | @short e c cs ps hshort _ ih =>
    -- No short escape is read as the start of a unit.
    have hu : e ≠ 'u' := by
      rintro rfl
      simp [shortEscape] at hshort
    have hstep : piecesAfter pieces ('\\' :: e :: cs) = piecesAfter (.char c :: pieces) cs := by
      rw [piecesAfter.eq_3 pieces e cs fun _ _ _ _ _ h _ => hu h, hshort]
    rw [hstep, ih]
    simp
  | @unit a b c d u cs ps hunit _ ih =>
    have hstep : piecesAfter pieces ('\\' :: 'u' :: a :: b :: c :: d :: cs) =
        piecesAfter (pieceOfUnit u :: pieces) cs := by
      rw [piecesAfter.eq_2, hunit]
    rw [hstep, ih]
    simp

theorem readString_append {cs : List Char} {ps : List Piece} (h : BodyText cs ps)
    (rest : List Char) : readString (cs ++ '"' :: rest) = some (joined ps, rest) := by
  simp only [readString, splitQuoted_append h, piecesAfter_append h, Option.bind_eq_bind,
    Option.bind_some, List.reverse_nil, List.nil_append]
  rfl

/-! ## What is read is a string -/

/-- No quote but behind a backslash, and no backslash at the end. -/
inductive Unquoted : List Char → Prop
  | nil : Unquoted []
  | plain {c : Char} {cs : List Char} : Plain c → Unquoted cs → Unquoted (c :: cs)
  | escape (c : Char) {cs : List Char} : Unquoted cs → Unquoted ('\\' :: c :: cs)

theorem Unquoted.tail {c : Char} {cs : List Char} (h : Unquoted (c :: cs)) (hc : Plain c) :
    Unquoted cs := by
  cases h with
  | plain _ hcs => exact hcs
  | escape _ _ => exact absurd rfl hc.2

theorem splitQuoted_sound {body cs b rest : List Char} (h : splitQuoted body cs = some (b, rest)) :
    ∃ text, b = body.reverse ++ text ∧ cs = text ++ '"' :: rest ∧ Unquoted text := by
  induction body, cs using splitQuoted.induct with
  | case1 body => simp [splitQuoted] at h
  | case2 body cs =>
    simp only [splitQuoted, Option.some.injEq, Prod.mk.injEq] at h
    obtain ⟨rfl, rfl⟩ := h
    exact ⟨[], by simp, rfl, .nil⟩
  | case3 body => simp [splitQuoted] at h
  | case4 body c cs ih =>
    rw [splitQuoted_escape] at h
    obtain ⟨text, rfl, rfl, htext⟩ := ih h
    exact ⟨'\\' :: c :: text, by simp, rfl, .escape c htext⟩
  | case5 body c cs hquote hend hescape ih =>
    have hc : Plain c := by
      refine ⟨hquote, ?_⟩
      rintro rfl
      cases cs with
      | nil => exact hend rfl rfl
      | cons d cs => exact hescape d cs rfl rfl
    rw [splitQuoted_plain _ _ hc] at h
    obtain ⟨text, rfl, rfl, htext⟩ := ih h
    exact ⟨c :: text, by simp, rfl, .plain hc htext⟩

theorem piecesAfter_sound {pieces all : List Piece} {cs : List Char} (hcs : Unquoted cs)
    (h : piecesAfter pieces cs = some all) :
    ∃ ps, all = pieces.reverse ++ ps ∧ BodyText cs ps := by
  induction pieces, cs using piecesAfter.induct with
  | case1 pieces =>
    simp only [piecesAfter, Option.some.injEq] at h
    exact ⟨[], by simp [h], .nil⟩
  | case2 pieces a b c d cs u hunit ih =>
    rw [piecesAfter.eq_2, hunit] at h
    obtain ⟨ha, hb, hc, hd⟩ := plain_of_hexFour hunit
    have hrest : Unquoted cs := by
      cases hcs with
      | plain hslash _ => exact absurd rfl hslash.2
      | escape _ hcs => exact (((hcs.tail ha).tail hb).tail hc).tail hd
    obtain ⟨ps, rfl, hps⟩ := ih hrest h
    exact ⟨pieceOfUnit u :: ps, by simp, .unit hunit hps⟩
  | case3 pieces a b c d cs hunit =>
    rw [piecesAfter.eq_2, hunit] at h
    cases h
  | case4 pieces e cs hu c hshort ih =>
    rw [piecesAfter.eq_3 _ _ _ hu, hshort] at h
    have hrest : Unquoted cs := by
      cases hcs with
      | plain hslash _ => exact absurd rfl hslash.2
      | escape _ hcs => exact hcs
    obtain ⟨ps, rfl, hps⟩ := ih hrest h
    exact ⟨.char c :: ps, by simp, .short hshort hps⟩
  | case5 pieces e cs hu hshort =>
    rw [piecesAfter.eq_3 _ _ _ hu, hshort] at h
    cases h
  | case6 pieces => simp [piecesAfter] at h
  | case7 pieces c cs hunit hescape hend hcontrol =>
    rw [piecesAfter.eq_5 _ _ _ hunit hescape hend, if_pos hcontrol] at h
    cases h
  | case8 pieces c cs hunit hescape hend hprintable ih =>
    rw [piecesAfter.eq_5 _ _ _ hunit hescape hend, if_neg hprintable] at h
    cases hcs with
    | plain hc hcs =>
      obtain ⟨ps, rfl, hps⟩ := ih hcs h
      exact ⟨.char c :: ps, by simp, .char hc.1 hc.2 hprintable hps⟩
    | escape d _ => exact absurd rfl (hescape d _ rfl)

theorem readString_sound {cs rest : List Char} {text : Option String}
    (h : readString cs = some (text, rest)) :
    ∃ body ps, cs = body ++ '"' :: rest ∧ BodyText body ps ∧ text = joined ps := by
  simp only [readString, Option.bind_eq_bind, Option.bind_eq_some_iff, Prod.exists] at h
  obtain ⟨body, rest', hbody, pieces, hpieces, htext⟩ := h
  cases htext
  obtain ⟨inside, hinside, rfl, hunquoted⟩ := splitQuoted_sound hbody
  rw [List.reverse_nil, List.nil_append] at hinside
  subst hinside
  obtain ⟨ps, hpieces', hps⟩ := piecesAfter_sound hunquoted hpieces
  rw [List.reverse_nil, List.nil_append] at hpieces'
  subst hpieces'
  exact ⟨body, pieces, rfl, hps, rfl⟩

end Renaming.Json
