import Mathlib.Data.List.Infix
import Renaming.Proofs.Render.Views

/-!
# Braces in rendered code

Indenting and splitting into lines leave the braces of a text alone, so the braces of a method are
those of its body between two of its own (`braces_method`). What braces keep when they are put one
after the other and between braces (`Kept`), a type keeps if the bodies of its methods have it.
-/

namespace Renaming

open Text

/-- Neither brace is in the text. -/
def Braceless (text : String) : Prop := ∀ c ∈ text.toList, c ≠ '\x7b' ∧ c ≠ '\x7d'

/-- No beginning closes more braces than it opens. -/
def Rises (cs : List Char) : Prop :=
  ∀ front, front <+: cs → front.count '\x7d' ≤ front.count '\x7b'

def Nested (text : String) : Prop := Rises text.toList

/-- Every brace that is opened is closed, and none is closed before. -/
structure Balanced (text : String) : Prop where
  nested : Nested text
  closed : text.toList.count '\x7b' = text.toList.count '\x7d'

instance (text : String) : Decidable (Braceless text) :=
  List.decidableBAll (fun c => c ≠ '\x7b' ∧ c ≠ '\x7d') text.toList

instance (cs : List Char) : Decidable (Rises cs) :=
  decidable_of_iff (∀ front ∈ cs.inits, front.count '\x7d' ≤ front.count '\x7b')
    (by simp only [List.mem_inits, Rises])

instance (text : String) : Decidable (Nested text) := inferInstanceAs (Decidable (Rises _))

instance (text : String) : Decidable (Balanced text) :=
  decidable_of_iff (Nested text ∧ text.toList.count '\x7b' = text.toList.count '\x7d')
    ⟨fun h => ⟨h.1, h.2⟩, fun h => ⟨h.nested, h.closed⟩⟩

/-! ## Texts of declarations -/

def TypeDecl.words (d : TypeDecl) : List String :=
  d.space :: d.name :: (d.baseType.toList ++ d.fields.flatMap (fun f => [f.fieldType, f.name]) ++
    d.properties.flatMap (fun p => [p.propertyType, p.name]) ++ d.methods.flatMap (·.headWords))

/-- All texts that rendered code has from the model, but the bodies of methods. -/
def Assembly.words (a : Assembly) : List String := a.name :: a.types.flatMap (·.words)

namespace Render

/-! ## The braces of a text -/

def braces (text : String) : List Char := text.toList.filter fun c => c == '\x7b' || c == '\x7d'

variable {x y text : String}

@[simp] theorem braces_append (x y : String) : braces (x ++ y) = braces x ++ braces y := by
  simp [braces]

theorem braces_join (xs : List String) : braces (String.join xs) = xs.flatMap braces := by
  induction xs with
  | nil => rfl
  | cons x xs ih => rw [String.join_cons, braces_append, ih, List.flatMap_cons]

theorem braces_of_braceless (h : Braceless text) : braces text = [] := by
  unfold braces
  rw [List.filter_eq_nil_iff]
  intro c hc
  obtain ⟨hopen, hclose⟩ := h c hc
  simp [hopen, hclose]

/-- A break is no brace, so all braces are in the lines. -/
theorem filter_linesAfter {p : Char → Bool} (hbreak : p '\n' = false) (hreturn : p '\r' = false)
    (found cs : List Char) :
    (linesAfter found cs).flatMap (List.filter p) = (found.reverse ++ cs).filter p := by
  fun_induction linesAfter found cs with
  | case1 found hempty => simp [List.isEmpty_iff.mp hempty]
  | case2 found => simp
  | case3 found rest ih =>
    have hend : (endLine found).filter p = found.reverse.filter p := by
      unfold endLine
      split
      · simp [hreturn]
      · rfl
    simp [ih, hend, hbreak]
  | case4 found c rest _ ih => simp [ih]

theorem braces_lines (text : String) : (lines text).flatMap braces = braces text := by
  have hlines := filter_linesAfter (p := fun c => c == '\x7b' || c == '\x7d') rfl rfl [] text.toList
  unfold lines linesOf braces
  rw [List.flatMap_map]
  simpa only [String.toList_ofList, List.reverse_nil, List.nil_append] using hlines

theorem braceless_spaces (n : Nat) : Braceless (spaces n) := by
  intro c hc
  have hspace : c = ' ' := by
    rw [spaces, String.toList_ofList] at hc
    exact List.eq_of_mem_replicate hc
  rw [hspace]
  decide

theorem braces_shift (n : Nat) (text : String) : braces (shift n text) = braces text := by
  unfold shift
  rw [braces_join, List.flatMap_map, ← braces_lines text]
  congr 1
  funext line
  have hnewline : braces "\n" = [] := rfl
  unfold shiftLine
  split
  · rename_i hempty
    rw [hempty]
    rfl
  · rw [braces_append, braces_append, braces_of_braceless (braceless_spaces n), hnewline,
      List.nil_append, List.append_nil]

theorem braces_bodyLine {margin : String} (hmargin : Braceless margin) (line : String) :
    braces (bodyLine margin line) = braces line := by
  have hnewline : braces "\n" = [] := rfl
  have hindent : braces indent = [] := rfl
  unfold bodyLine
  split
  · rename_i hblank
    have hnone : Braceless line := by
      intro c hc
      have hc' := trimBoth_eq_nil_iff.mp (List.isEmpty_iff.mp hblank) c hc
      constructor
      · rintro rfl
        exact absurd hc' (by decide)
      · rintro rfl
        exact absurd hc' (by decide)
    rw [braces_of_braceless hnone, hnewline]
  · simp [braces_of_braceless hmargin, hindent, hnewline]

theorem braceless_head {m : MethodDecl} (h : ∀ word ∈ m.headWords, Braceless word) :
    Braceless (head m) := by
  have hplain : Braceless "public (), " := by decide
  intro c hc
  rcases of_mem_head hc with hc | ⟨word, hword, hc⟩
  · exact hplain c hc
  · exact h word hword c hc

/-- The braces of a method are its own and between them those of its body. -/
theorem braces_method {m : MethodDecl} (h : ∀ word ∈ m.headWords, Braceless word)
    {margin : String} (hmargin : Braceless margin) :
    braces (method m margin) = '\x7b' :: (braces m.body ++ ['\x7d']) := by
  have hbody : braces (String.join ((lines m.body).map (bodyLine margin))) = braces m.body := by
    rw [braces_join, List.flatMap_map, ← braces_lines m.body]
    exact congrArg (List.flatMap · _) (funext (braces_bodyLine hmargin))
  have hnewline : braces "\n" = [] := rfl
  have hopen : braces "\x7b" = ['\x7b'] := rfl
  have hclose : braces "\x7d" = ['\x7d'] := rfl
  rw [method_eq]
  simp [braces_of_braceless hmargin, braces_of_braceless (braceless_head h), hbody, hnewline,
    hopen, hclose]

theorem braces_field {f : FieldDecl} (h : ∀ word ∈ [f.fieldType, f.name], Braceless word) :
    braces (field f indent) = [] := by
  have htype := braces_of_braceless (h f.fieldType (by simp))
  have hname := braces_of_braceless (h f.name (by simp))
  have hprivate : braces (indent ++ "private ") = [] := rfl
  have hspace : braces " " = [] := rfl
  have hend : braces ";\n" = [] := rfl
  simp only [field, braces_append (_ ++ _), hprivate, htype, hspace, hname, hend, List.append_nil]

theorem braces_property {p : PropertyDecl}
    (h : ∀ word ∈ [p.propertyType, p.name], Braceless word) :
    braces (property p indent) = ['\x7b', '\x7d'] := by
  have htype := braces_of_braceless (h p.propertyType (by simp))
  have hname := braces_of_braceless (h p.name (by simp))
  have hpublic : braces (indent ++ "public ") = [] := rfl
  have hspace : braces " " = [] := rfl
  have hend : braces " \x7b get; set; \x7d\n" = ['\x7b', '\x7d'] := rfl
  simp only [property, braces_append (_ ++ _), hpublic, htype, hspace, hname, hend, List.nil_append]

theorem braces_baseClause {base : Option String} (h : ∀ word ∈ base.toList, Braceless word) :
    braces (baseClause base) = [] := by
  cases base with
  | none => rfl
  | some base =>
    have hcolon : braces " : " = [] := rfl
    rw [baseClause]
    split
    · rfl
    · rw [braces_append, hcolon, List.nil_append]
      exact braces_of_braceless (h base (by simp))

/-! ## What braces keep -/

/-- What holds of braces one after the other and between braces if it holds of the parts. -/
structure Kept (P : List Char → Prop) : Prop where
  nil : P []
  append : ∀ {xs ys : List Char}, P xs → P ys → P (xs ++ ys)
  wrap : ∀ {cs : List Char}, P cs → P ('\x7b' :: (cs ++ ['\x7d']))

theorem kept_rises : Kept Rises where
  nil := by
    intro front hfront
    rw [List.prefix_nil.mp hfront]
    exact Nat.le_refl _
  append {xs ys} hx hy := by
    intro front hfront
    rcases List.prefix_or_prefix_of_prefix hfront (List.prefix_append xs ys) with h | ⟨rest, rfl⟩
    · exact hx front h
    · have hrest := hy rest ((List.prefix_append_right_inj xs).mp hfront)
      have hwhole := hx xs (List.prefix_refl xs)
      rw [List.count_append, List.count_append]
      exact Nat.add_le_add hwhole hrest
  wrap {cs} h := by
    intro front hfront
    rcases List.prefix_cons_iff.mp hfront with rfl | ⟨rest, rfl, hrest⟩
    · exact Nat.le_refl _
    · rcases List.prefix_concat_iff.mp hrest with rfl | hrest
      · have hwhole := h cs (List.prefix_refl cs)
        simpa using hwhole
      · have hfront := h rest hrest
        simp only [List.count_cons]
        simp
        omega

theorem kept_closed : Kept fun cs => cs.count '\x7b' = cs.count '\x7d' where
  nil := rfl
  append hx hy := by rw [List.count_append, List.count_append, hx, hy]
  wrap h := by simp [h]

theorem nested_iff : Nested text ↔ Rises (braces text) := by
  have hcount (c : Char) (hc : (c == '\x7b' || c == '\x7d') = true) (front : List Char) :
      (front.filter fun c => c == '\x7b' || c == '\x7d').count c = front.count c :=
    List.count_filter hc
  -- A beginning of the braces is what a beginning of the text has of them.
  constructor
  · intro h front hfront
    obtain ⟨front', hfront', rfl⟩ := List.prefix_filter_iff.mp hfront
    rw [hcount _ rfl, hcount _ rfl]
    exact h front' hfront'
  · intro h front hfront
    have hle := h _ (hfront.filter _)
    rwa [hcount _ rfl, hcount _ rfl] at hle

theorem balanced_iff : Balanced text ↔
    Rises (braces text) ∧ (braces text).count '\x7b' = (braces text).count '\x7d' := by
  rw [← nested_iff, braces, List.count_filter rfl, List.count_filter rfl]
  exact ⟨fun h => ⟨h.nested, h.closed⟩, fun ⟨hnested, hclosed⟩ => ⟨hnested, hclosed⟩⟩

/-! ## Types -/

namespace Kept

variable {P : List Char → Prop} (hP : Kept P)

include hP

theorem flatMap {α : Type} {f : α → List Char} {xs : List α} (h : ∀ x ∈ xs, P (f x)) :
    P (xs.flatMap f) := by
  induction xs with
  | nil => exact hP.nil
  | cons x xs ih =>
    obtain ⟨hx, hxs⟩ := List.forall_mem_cons.mp h
    exact hP.append hx (ih hxs)

theorem methods {ms : List MethodDecl}
    (hwords : ∀ m ∈ ms, ∀ word ∈ m.headWords, Braceless word)
    (hbody : ∀ m ∈ ms, P (braces m.body)) (hasOthers : Bool) :
    P (braces (Render.methods hasOthers ms)) := by
  induction ms generalizing hasOthers with
  | nil => exact hP.nil
  | cons m ms ih =>
    obtain ⟨hhead, hwords⟩ := List.forall_mem_cons.mp hwords
    obtain ⟨hm, hbody⟩ := List.forall_mem_cons.mp hbody
    have hblank : braces (if hasOthers = true then "\n" else "") = [] := by
      split
      · rfl
      · rfl
    have hm' := hP.wrap hm
    rw [← braces_method hhead (braceless_spaces 4)] at hm'
    rw [Render.methods, braces_append, braces_append, hblank, List.nil_append]
    exact hP.append hm' (ih hwords hbody true)

theorem type {d : TypeDecl} (hwords : ∀ word ∈ d.words, Braceless word)
    (hbody : ∀ m ∈ d.methods, P (braces m.body)) : P (braces (Render.type d)) := by
  obtain ⟨-, hwords⟩ := List.forall_mem_cons.mp hwords
  obtain ⟨hname, hwords⟩ := List.forall_mem_cons.mp hwords
  simp only [List.forall_mem_append, List.forall_mem_flatMap] at hwords
  obtain ⟨⟨⟨hbase, hfields⟩, hproperties⟩, hheads⟩ := hwords
  have hnone : braces (String.join (d.fields.map (field · indent))) = [] := by
    rw [braces_join, List.flatMap_map, List.flatMap_eq_nil_iff]
    exact fun f hf => braces_field (hfields f hf)
  have hpairs : P (braces (String.join (d.properties.map (property · indent)))) := by
    rw [braces_join, List.flatMap_map]
    refine hP.flatMap fun p hp => ?_
    rw [braces_property (hproperties p hp)]
    exact hP.wrap hP.nil
  have hopen : braces "\n\x7b\n" = ['\x7b'] := rfl
  have hclose : braces "\x7d\n" = ['\x7d'] := rfl
  have hclass : braces "public class " = [] := rfl
  have hmembers := hP.append hpairs
    (hP.methods hheads hbody (!d.fields.isEmpty || !d.properties.isEmpty))
  have hall : braces (Render.type d) = '\x7b' ::
      (braces (String.join (d.properties.map (property · indent))) ++
        braces (Render.methods (!d.fields.isEmpty || !d.properties.isEmpty) d.methods) ++
        ['\x7d']) := by
    unfold Render.type
    simp only [braces_append, hclass, braces_of_braceless hname, braces_baseClause hbase, hopen,
      hnone, hclose, List.append_nil, List.nil_append, List.cons_append]
  rw [hall]
  exact hP.wrap hmembers

end Kept

end Render

end Renaming
