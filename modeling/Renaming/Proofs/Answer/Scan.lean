import Renaming.Answer.Extract
import Renaming.Proofs.Json.Reader

/-!
# Scanning for an object

The scanner knows strings and braces and nothing else of JSON. Over the text of a document it ends
where it began (`Spells.neutral`), so it closes an object with the brace that the grammar closes it
with (`findObject_append`).
-/

namespace Renaming.Answer

open Json

/-- Inside an object the scan passes over these characters and stands as before. -/
def Neutral (cs : List Char) : Prop :=
  ∀ object depth rest, 1 ≤ depth →
    closeObject object depth .code (cs ++ rest) =
      closeObject (cs.reverse ++ object) depth .code rest

namespace Neutral

theorem nil : Neutral [] := fun _ _ _ _ => rfl

theorem append {cs cs' : List Char} (h : Neutral cs) (h' : Neutral cs') : Neutral (cs ++ cs') := by
  intro object depth rest hdepth
  rw [List.append_assoc, h object depth _ hdepth, h' _ depth rest hdepth]
  simp

/-- A character that the scan takes no notice of. -/
def Inert (c : Char) : Prop := c ≠ '"' ∧ c ≠ '\x7b' ∧ c ≠ '\x7d'

instance (c : Char) : Decidable (Inert c) := inferInstanceAs (Decidable (_ ∧ _ ∧ _))

theorem cons {c : Char} {cs : List Char} (hc : Inert c) (h : Neutral cs) : Neutral (c :: cs) := by
  intro object depth rest hdepth
  obtain ⟨hquote, hopen, hclose⟩ := hc
  have hstep : closeObject object depth .code (c :: (cs ++ rest)) =
      closeObject (c :: object) depth .code (cs ++ rest) := by
    simp [closeObject, hquote, hopen, hclose]
  rw [List.cons_append, hstep, h _ depth rest hdepth]
  simp

theorem of_inert {cs : List Char} (h : ∀ c ∈ cs, Inert c) : Neutral cs := by
  induction cs with
  | nil => exact nil
  | cons c cs ih =>
    obtain ⟨hc, hcs⟩ := List.forall_mem_cons.mp h
    exact cons hc (ih hcs)

/-! ## Strings -/

theorem closeObject_quoted {cs : List Char} {ps : List Piece} (h : BodyText cs ps)
    (object : List Char) (depth : Nat) (rest : List Char) :
    closeObject object depth .quoted (cs ++ '"' :: rest) =
      closeObject ('"' :: (cs.reverse ++ object)) depth .code rest := by
  have hplain : ∀ (object rest : List Char) {c : Char}, Plain c →
      closeObject object depth .quoted (c :: rest) =
        closeObject (c :: object) depth .quoted rest := by
    intro object rest c hc
    simp [closeObject, hc.1, hc.2]
  have hescape : ∀ (object rest : List Char) (c : Char),
      closeObject object depth .quoted ('\\' :: c :: rest) =
        closeObject (c :: '\\' :: object) depth .quoted rest := by
    intro object rest c
    simp [closeObject]
  induction h generalizing object with
  | nil => simp [closeObject]
  | char hquote hslash _ _ ih =>
    rw [List.cons_append, hplain _ _ ⟨hquote, hslash⟩, ih]
    simp
  | short _ _ ih =>
    rw [List.cons_append, List.cons_append, hescape, ih]
    simp
  | unit hunit _ ih =>
    obtain ⟨ha, hb, hc, hd⟩ := plain_of_hexFour hunit
    simp only [List.cons_append]
    rw [hescape, hplain _ _ ha, hplain _ _ hb, hplain _ _ hc, hplain _ _ hd, ih]
    simp

theorem string {cs : List Char} {ps : List Piece} (h : BodyText cs ps) :
    Neutral ('"' :: (cs ++ ['"'])) := by
  intro object depth rest _
  have hopen : closeObject object depth .code ('"' :: (cs ++ '"' :: rest)) =
      closeObject ('"' :: object) depth .quoted (cs ++ '"' :: rest) := by
    simp [closeObject]
  rw [List.cons_append, List.append_assoc, List.singleton_append, hopen, closeObject_quoted h]
  simp

/-! ## Objects -/

/-- An object within an object opens one brace more, and its own brace closes it. -/
theorem object {cs : List Char} (h : Neutral cs) : Neutral ('\x7b' :: (cs ++ ['\x7d'])) := by
  intro object depth rest hdepth
  have hopen : closeObject object depth .code ('\x7b' :: (cs ++ '\x7d' :: rest)) =
      closeObject ('\x7b' :: object) (depth + 1) .code (cs ++ '\x7d' :: rest) := by
    simp [closeObject]
  have hclose : ∀ object, closeObject object (depth + 1) .code ('\x7d' :: rest) =
      closeObject ('\x7d' :: object) depth .code rest := by
    intro object
    have hmore : ¬ depth + 1 ≤ 1 := by omega
    simp [closeObject, hmore]
  rw [List.cons_append, List.append_assoc, List.singleton_append, hopen,
    h _ (depth + 1) _ (by omega), hclose]
  simp

/-! ## Numbers and blanks -/

theorem inert_of_isDigit {c : Char} (h : c.isDigit = true) : Inert c := by
  refine ⟨?_, ?_, ?_⟩ <;>
    (rintro rfl
     exact absurd h (by decide))

theorem digits {cs : List Char} (h : Digits cs) : Neutral cs :=
  of_inert fun c hc => inert_of_isDigit (h c hc)

theorem spaces {cs : List Char} (h : Spaces cs) : Neutral cs := by
  refine of_inert fun c hc => ?_
  rcases eq_of_isSpace (h c hc) with rfl | rfl | rfl | rfl <;> decide

theorem unsigned {negative : Bool} {cs : List Char} {n : Number}
    (h : UnsignedText negative cs n) : Neutral cs := by
  cases h with
  | mk hw hf he =>
    refine append ?_ (append ?_ ?_)
    · cases hw with
      | zero => exact cons (by decide) nil
      | positive hc _ hcs => exact cons (inert_of_isDigit hc) (digits hcs)
    · cases hf with
      | absent => exact nil
      | digits hds => exact cons (by decide) (digits hds)
    · cases he with
      | absent => exact nil
      | @digits mark _ _ _ _ hmark hsign hds =>
        have hinert : Inert mark := by
          rcases hmark with rfl | rfl <;> decide
        refine cons hinert (append ?_ (digits hds))
        cases hsign with
        | absent => exact nil
        | plus => exact cons (by decide) nil
        | minus => exact cons (by decide) nil

theorem number {cs : List Char} {n : Number} (h : NumberText cs n) : Neutral cs := by
  cases h with
  | positive h => exact unsigned h
  | negative h => exact cons (by decide) (unsigned h)

end Neutral

/-! ## Documents -/

open Neutral in
/-- The scan passes over every phrase of the grammar. -/
theorem neutral_of_spells {cs : List Char} {ph : Phrase} (h : Spells cs ph) : Neutral cs := by
  induction h with
  | null => exact of_inert (by simp [Inert])
  | yes => exact of_inert (by simp [Inert])
  | no => exact of_inert (by simp [Inert])
  | number hn => exact number hn
  | string hbody => exact string hbody
  | noItems hs => exact cons (by decide) ((spaces hs).append (cons (by decide) nil))
  | array hs _ ih => exact cons (by decide) ((spaces hs).append (ih.append (cons (by decide) nil)))
  | noMembers hs => exact object (spaces hs)
  | object hs _ ih =>
    rw [← List.append_assoc]
    exact object ((spaces hs).append ih)
  | lastItem _ hs ih => exact ih.append (spaces hs)
  | nextItem _ hs hs' _ ih ihnext =>
    exact ih.append ((spaces hs).append (cons (by decide) ((spaces hs').append ihnext)))
  | member hkey hs hs' _ ih =>
    have hcolon : Inert ':' := by decide
    have hrest := (spaces hs).append (cons hcolon ((spaces hs').append ih))
    simpa using (string hkey).append hrest
  | lastMember _ hs ih => exact ih.append (spaces hs)
  | nextMember _ hs hs' _ ih ihnext =>
    exact ih.append ((spaces hs).append (cons (by decide) ((spaces hs').append ihnext)))

/-- The text of an object, from its opening to its closing brace. -/
theorem exists_inside {cs : List Char} {ms : List (Option String × Json)}
    (h : Spells cs (.value (.object ms))) :
    ∃ inside, cs = '\x7b' :: (inside ++ ['\x7d']) ∧ Neutral inside := by
  cases h with
  | noMembers hs => exact ⟨_, rfl, .spaces hs⟩
  | object hs hms =>
    refine ⟨_, ?_, (Neutral.spaces hs).append (neutral_of_spells hms)⟩
    rw [List.append_assoc]

/-- The scan finds an object that nothing with a brace stands before, and all of it. -/
theorem findObject_append {before cs : List Char} {ms : List (Option String × Json)}
    (hbefore : '\x7b' ∉ before) (h : Spells cs (.value (.object ms))) (after : List Char) :
    findObject (before ++ (cs ++ after)) = some cs := by
  obtain ⟨inside, rfl, hinside⟩ := exists_inside h
  have hskip : ∀ c ∈ before, (c != '\x7b') = true := by
    intro c hc
    simp only [bne_iff_ne]
    rintro rfl
    exact hbefore hc
  have hclose : closeObject (inside.reverse ++ ['\x7b']) 1 .code ('\x7d' :: after) =
      some ('\x7b' :: (inside ++ ['\x7d'])) := by
    simp [closeObject]
  unfold findObject
  rw [List.dropWhile_append_of_pos hskip, List.cons_append, List.append_assoc,
    List.singleton_append, List.dropWhile_cons_of_neg (by decide)]
  simp only
  rw [hinside _ 1 _ (Nat.le_refl 1), hclose]

end Renaming.Answer
