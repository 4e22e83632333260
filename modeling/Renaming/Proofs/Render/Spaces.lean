import Mathlib.Data.List.SplitBy
import Renaming.Proofs.Render.Braces

/-!
# Namespaces in the code of a module

The module writes its types one by one and opens and closes blocks as the namespace changes. Read as
a whole, the types of one namespace that follow each other stand together in one block, and every
block is closed.
-/

namespace Renaming.Render

/-- Types of one namespace that follow each other, as they stand in the module. -/
def block : List TypeDecl → String
  | [] => ""
  | d :: ds =>
    if d.space = "" then String.join ((d :: ds).map fun d => "\n" ++ type d)
    else "\nnamespace " ++ d.space ++ "\n\x7b\n" ++
      String.join ((d :: ds).map fun d => "\n" ++ shift 4 (type d)) ++ "\x7d\n"

/-- The types in order, cut wherever the namespace changes. -/
def runs (ds : List TypeDecl) : List (List TypeDecl) := ds.splitBy fun d d' => d.space == d'.space

/-! ## Blocks -/

theorem runs_cons (d : TypeDecl) (ds : List TypeDecl) :
    runs (d :: ds) = (d :: ds.takeWhile (·.space == d.space)) ::
      runs (ds.dropWhile (·.space == d.space)) := by
  have hsame : ∀ x ∈ d :: ds.takeWhile (·.space == d.space), x.space = d.space := by
    refine List.forall_mem_cons.mpr ⟨rfl, fun x hx => ?_⟩
    have hx' := List.mem_takeWhile_imp hx
    exact eq_of_beq hx'
  have hchain : (d :: ds.takeWhile (·.space == d.space)).IsChain fun x y => x.space == y.space :=
    (List.pairwise_of_forall_mem_list fun x hx y hy =>
      beq_iff_eq.mpr ((hsame x hx).trans (hsame y hy).symm)).isChain
  have hcut : ∀ x ∈ (d :: ds.takeWhile (·.space == d.space)).getLast?,
      ∀ y ∈ (ds.dropWhile (·.space == d.space)).head?, (x.space == y.space) = false := by
    intro x hx y hy
    have hother := List.head?_dropWhile_not (·.space == d.space) ds
    rw [hy] at hother
    rw [hsame x (List.mem_of_getLast? hx), beq_eq_false_iff_ne]
    exact (beq_eq_false_iff_ne.mp hother).symm
  have hsplit : d :: ds = d :: ds.takeWhile (·.space == d.space) ++
      ds.dropWhile (·.space == d.space) := by
    rw [List.cons_append, List.takeWhile_append_dropWhile]
  rw [runs, hsplit, List.splitBy_append hcut, List.splitBy_of_isChain (List.cons_ne_nil _ _) hchain]
  rfl

theorem block_cons (d : TypeDecl) (ds : List TypeDecl) :
    block (d :: ds) = openSpace d.space ++ typeIn d.space d ++
      String.join (ds.map (typeIn d.space)) ++ closeSpace d.space := by
  have htypes := funext (typeIn_eq d.space)
  rw [htypes, block, openSpace, closeSpace]
  by_cases hspace : d.space = ""
  · simp [hspace]
  · simp [hspace, String.append_assoc]

/-- What follows in the block of a namespace is the rest of its types and then the other blocks. -/
theorem typesAfter_eq (space : String) (ds : List TypeDecl) :
    typesAfter space ds = String.join ((ds.takeWhile (·.space == space)).map (typeIn space)) ++
      closeSpace space ++ String.join ((runs (ds.dropWhile (·.space == space))).map block) := by
  -- Whatever block is open, the types that still belong to it come first.
  induction ds generalizing space with
  | nil => simp [typesAfter, runs]
  | cons d ds ih =>
    rw [typesAfter, List.takeWhile_cons, List.dropWhile_cons]
    by_cases hspace : (d.space == space) = true
    · rw [if_pos hspace, if_pos hspace, if_pos hspace, ih, List.map_cons, String.join_cons]
      simp only [String.append_assoc]
    · rw [if_neg hspace, if_neg hspace, if_neg hspace, ih, runs_cons, List.map_cons,
        String.join_cons, block_cons, List.map_nil, String.join_nil]
      simp only [String.append_assoc, String.empty_append]

theorem code_eq (a : Assembly) :
    a.code = "// " ++ a.name ++ "\n" ++ String.join ((runs a.types).map block) := by
  unfold Assembly.code module
  rw [typesAfter_eq]
  congr 1
  cases a.types with
  | nil => rfl
  | cons d ds =>
    rw [List.takeWhile_cons, List.dropWhile_cons]
    by_cases hspace : d.space = ""
    · rw [hspace, beq_self_eq_true, if_pos rfl, if_pos rfl, runs_cons, List.map_cons, List.map_cons,
        String.join_cons, String.join_cons, block_cons, hspace]
      rfl
    · have hother : (d.space == "") = false := beq_eq_false_iff_ne.mpr hspace
      rw [hother]
      rfl

/-! ## Braces -/

/-- All words of a type are words of the model. -/
theorem braceless_type {a : Assembly} (h : ∀ word ∈ a.words, Braceless word) {d : TypeDecl}
    (hd : d ∈ a.types) : ∀ word ∈ d.words, Braceless word :=
  fun word hword => h word (List.mem_cons_of_mem _ (List.mem_flatMap.mpr ⟨d, hd, hword⟩))

theorem Kept.block {P : List Char → Prop} (hP : Kept P) {ds : List TypeDecl}
    (hspace : ∀ d ∈ ds, Braceless d.space) (htype : ∀ d ∈ ds, P (braces (Render.type d))) :
    P (braces (Render.block ds)) := by
  cases ds with
  | nil => exact hP.nil
  | cons d ds =>
    have hnewline : braces "\n" = [] := rfl
    have hnamespace : braces "\nnamespace " = [] := rfl
    have hopen : braces "\n\x7b\n" = ['\x7b'] := rfl
    have hclose : braces "\x7d\n" = ['\x7d'] := rfl
    have htypes := hP.flatMap htype
    rw [Render.block]
    split
    · rw [braces_join, List.flatMap_map]
      simpa only [braces_append, hnewline, List.nil_append] using htypes
    · have hname := braces_of_braceless (hspace d List.mem_cons_self)
      have hall := hP.wrap htypes
      simpa only [braces_append, braces_join, List.flatMap_map, braces_shift, hnamespace, hname,
        hopen, hclose, hnewline, List.nil_append, List.cons_append] using hall

theorem Kept.code {P : List Char → Prop} (hP : Kept P) {a : Assembly}
    (hwords : ∀ word ∈ a.words, Braceless word)
    (hbody : ∀ d ∈ a.types, ∀ m ∈ d.methods, P (braces m.body)) : P (braces a.code) := by
  have hname : braces a.name = [] := braces_of_braceless (hwords _ List.mem_cons_self)
  have hslashes : braces "// " = [] := rfl
  have hnewline : braces "\n" = [] := rfl
  have hruns : P (((runs a.types).map Render.block).flatMap braces) := by
    rw [List.flatMap_map]
    refine hP.flatMap fun ds hds => ?_
    have hmem : ∀ d ∈ ds, d ∈ a.types := by
      intro d hd
      rw [← List.flatten_splitBy (fun d d' => d.space == d'.space) a.types]
      exact List.mem_flatten_of_mem hds hd
    exact hP.block (fun d hd => braceless_type hwords (hmem d hd) _ List.mem_cons_self)
      fun d hd => hP.type (braceless_type hwords (hmem d hd)) (hbody d (hmem d hd))
  rw [code_eq, braces_append, braces_join]
  have hheader : braces ("// " ++ a.name ++ "\n") = [] := by
    simp only [braces_append, hslashes, hname, hnewline, List.append_nil]
  rw [hheader]
  exact hruns

/-- A module is its header and then one block for each run of types in one namespace. If no word of
it has a brace, its braces are as those of the bodies: where no body closes more than it opens,
neither does the module, and where every body closes what it opens, so does the module. -/
theorem module_groups_by_namespace (a : Assembly) :
    a.code = "// " ++ a.name ++ "\n" ++ String.join ((runs a.types).map block) ∧
    ((∀ word ∈ a.words, Braceless word) →
      ((∀ d ∈ a.types, ∀ m ∈ d.methods, Nested m.body) → Nested a.code) ∧
      ((∀ d ∈ a.types, ∀ m ∈ d.methods, Balanced m.body) → Balanced a.code)) := by
  refine ⟨code_eq a, fun hwords => ⟨fun hbody => ?_, fun hbody => ?_⟩⟩
  · exact nested_iff.mpr (kept_rises.code hwords fun d hd m hm => nested_iff.mp (hbody d hd m hm))
  · exact balanced_iff.mpr
      ⟨kept_rises.code hwords fun d hd m hm => (balanced_iff.mp (hbody d hd m hm)).1,
        kept_closed.code hwords fun d hd m hm => (balanced_iff.mp (hbody d hd m hm)).2⟩

/-! ### A namespace that comes back -/

/-- Between two types of a namespace and a third one stands a type without a namespace. -/
def returningSpace : Assembly :=
  ⟨"m", [⟨"", "c0", none, [], [], []⟩,
    ⟨"N", "c1", some "c0", [⟨"f", "int"⟩], [],
      [⟨"a", "void", [], [], "if (f > 0) \x7b\n    f = 0;\n\x7d"⟩]⟩,
    ⟨"N", "c2", none, [], [⟨"p", "int"⟩], []⟩,
    ⟨"", "c3", none, [], [], []⟩,
    ⟨"N", "c4", none, [], [], [⟨"b", "int", [⟨"x", "int"⟩], [], "return x;"⟩]⟩]⟩

theorem module_with_returning_space :
    (runs returningSpace.types).map (·.map (·.name)) = [["c0"], ["c1", "c2"], ["c3"], ["c4"]] ∧
      returningSpace.code = "// m\n" ++ String.join ((runs returningSpace.types).map block) ∧
      (∀ word ∈ returningSpace.words, Braceless word) ∧
      (∀ d ∈ returningSpace.types, ∀ m ∈ d.methods, Balanced m.body) ∧
      Nested returningSpace.code ∧ Balanced returningSpace.code := by
  have hwords : ∀ word ∈ returningSpace.words, Braceless word := by decide
  have hbodies : ∀ d ∈ returningSpace.types, ∀ m ∈ d.methods, Balanced m.body := by
    decide +kernel
  obtain ⟨hcode, hbraces⟩ := module_groups_by_namespace returningSpace
  obtain ⟨hnested, hbalanced⟩ := hbraces hwords
  exact ⟨by decide, hcode, hwords, hbodies, hnested fun d hd m hm => (hbodies d hd m hm).nested,
    hbalanced hbodies⟩

end Renaming.Render
