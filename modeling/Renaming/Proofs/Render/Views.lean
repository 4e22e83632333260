import Renaming.Proofs.Render.Basic

/-!
# A method in its type and in its module

A text is indented by writing spaces before every line that is not empty (`shift`). A method is
rendered at an indent as its code is indented, and so its code stands, line by line, in the code of
its type and in the code of the module (`StandsIn`).
-/

namespace Renaming

open Text

/-- The texts of a method keep to their lines: its words are unbroken, and a carriage return in its
body belongs to a line feed. -/
structure MethodDecl.Lined (m : MethodDecl) : Prop where
  head : ∀ word ∈ m.headWords, '\n' ∉ word.toList
  body : PairedReturns m.body.toList

namespace Render

/-! ## Indenting -/

def spaces (n : Nat) : String := String.ofList (List.replicate n ' ')

theorem indent_eq : indent = spaces 4 := rfl

def shiftLine (n : Nat) (line : String) : String := if line = "" then "" else spaces n ++ line

/-- The lines of a text, those that are not empty behind some spaces. -/
def shift (n : Nat) (text : String) : String :=
  String.join ((lines text).map fun line => shiftLine n line ++ "\n")

variable {n : Nat} {line x y text : String}

theorem isLine_spaces (n : Nat) : IsLine (spaces n) where
  unbroken := by simp [spaces]
  ends := by simp [spaces, List.getLast?_replicate]

theorem wholeLines_shift (n : Nat) (text : String) : WholeLines (shift n text) := by
  refine .join fun x hx => ?_
  obtain ⟨line, -, rfl⟩ := List.mem_map.mp hx
  exact wholeLines_newline _

theorem shift_append (h : WholeLines x) (y : String) :
    shift n (x ++ y) = shift n x ++ shift n y := by
  unfold shift
  rw [lines_append h, List.map_append, String.join_append]

theorem shift_line (h : IsLine line) : shift n (line ++ "\n") = shiftLine n line ++ "\n" := by
  unfold shift
  rw [lines_line h, List.map_singleton, String.join_cons, String.join_nil, String.append_empty]

theorem shift_join {xs : List String} (h : ∀ x ∈ xs, WholeLines x) :
    shift n (String.join xs) = String.join (xs.map (shift n)) := by
  induction xs with
  | nil => rfl
  | cons x xs ih =>
    obtain ⟨hx, hxs⟩ := List.forall_mem_cons.mp h
    rw [String.join_cons, shift_append hx, ih hxs, List.map_cons, String.join_cons]

theorem indentBlock_eq (block : String) : indentBlock block = shift 4 block := by
  unfold indentBlock shift
  congr 2
  funext line
  unfold shiftLine
  by_cases hempty : line = ""
  · rw [if_pos hempty, if_pos (by simp [hempty])]
    rfl
  · rw [if_neg hempty, if_neg (by simpa using hempty)]
    rfl

/-! ## Methods -/

theorem isLine_head {m : MethodDecl} (h : m.Lined) : IsLine (head m) where
  unbroken hc := by
    rcases of_mem_head hc with hc | ⟨word, hword, hc⟩
    · exact absurd hc (by decide)
    · exact h.head word hword hc
  ends := by
    rw [head, String.toList_append, List.getLast?_append_of_ne_nil _ (by decide)]
    decide

theorem spaces_add (n k : Nat) : spaces (n + k) = spaces n ++ spaces k := by
  rw [spaces, ← List.replicate_append_replicate, String.ofList_append, spaces, spaces]

theorem shift_spaces (h : IsLine line) (hsome : line ≠ "") (n k : Nat) :
    shift n (spaces k ++ line ++ "\n") = spaces (n + k) ++ line ++ "\n" := by
  have hne : spaces k ++ line ≠ "" := by simp [hsome]
  rw [shift_line ((isLine_spaces k).prepend h), shiftLine, if_neg hne, spaces_add]
  simp only [String.append_assoc]

theorem shift_bodyLine (h : IsLine line) (n k : Nat) :
    shift n (bodyLine (spaces k) line) = bodyLine (spaces (n + k)) line := by
  unfold bodyLine
  split
  · exact shift_line isLine_empty
  · have hline := shift_spaces ((isLine_spaces 4).prepend h) (by simp [spaces]) n k
    rw [indent_eq]
    simpa only [String.append_assoc] using hline

/-- Indenting the code of a method is rendering it at a deeper indent. -/
theorem shift_method {m : MethodDecl} (h : m.Lined) (n k : Nat) :
    shift n (method m (spaces k)) = method m (spaces (n + k)) := by
  have hhead := shift_spaces (isLine_head h) (by simp [head]) n k
  have hbraces : IsLine "\x7b" ∧ IsLine "\x7d" := ⟨⟨by decide, by decide⟩, by decide, by decide⟩
  have hopen := shift_spaces hbraces.1 (by decide) n k
  have hclose := shift_spaces hbraces.2 (by decide) n k
  have hbody : shift n (String.join ((lines m.body).map (bodyLine (spaces k)))) =
      String.join ((lines m.body).map (bodyLine (spaces (n + k)))) := by
    rw [shift_join (wholeLines_of_mem_body _ _), List.map_map]
    refine congrArg String.join (List.map_congr_left fun line hmem => ?_)
    rw [Function.comp_apply]
    exact shift_bodyLine (isLine_of_mem_lines h.body hmem) n k
  rw [method_eq m (spaces k), shift_append (wholeLines_newline _),
    shift_append (wholeLines_newline _), shift_append (wholeLines_body _ _), hhead, hopen, hbody,
    hclose, method_eq]

theorem method_indent {m : MethodDecl} (h : m.Lined) : method m indent = shift 4 (method m "") :=
  (shift_method h 4 0).symm

/-! ## Blocks of lines -/

/-- The lines of the block stand in the text, one after the other. -/
def StandsIn (block text : String) : Prop :=
  ∃ before after, text = before ++ block ++ after ∧ WholeLines before ∧ WholeLines block

theorem StandsIn.of_part {block : String} (h : StandsIn block x) (hbefore : WholeLines text)
    (after : String) : StandsIn block (text ++ x ++ after) := by
  obtain ⟨before, rest, rfl, hlines, hblock⟩ := h
  exact ⟨text ++ before, rest ++ after, by simp [String.append_assoc], hbefore.append hlines,
    hblock⟩

theorem standsIn_self (h : WholeLines x) : StandsIn x x :=
  ⟨"", "", by simp, wholeLines_empty, h⟩

theorem StandsIn.trans (h : StandsIn x y) (h' : StandsIn y text) : StandsIn x text := by
  obtain ⟨before, after, rfl, hbefore, -⟩ := h'
  exact h.of_part hbefore after

theorem StandsIn.shift (h : StandsIn x y) (n : Nat) : StandsIn (shift n x) (shift n y) := by
  obtain ⟨before, after, rfl, hbefore, hblock⟩ := h
  rw [shift_append (hbefore.append hblock), shift_append hbefore]
  exact ⟨_, _, rfl, wholeLines_shift n before, wholeLines_shift n x⟩

/-! ## The code of a method -/

theorem method_standsIn_methods {m : MethodDecl} {ms : List MethodDecl} (hm : m ∈ ms)
    (hasOthers : Bool) : StandsIn (method m indent) (methods hasOthers ms) := by
  induction ms generalizing hasOthers with
  | nil => cases hm
  | cons first ms ih =>
    have hblank : WholeLines (if hasOthers = true then "\n" else "") := by
      split
      · exact wholeLines_newline ""
      · exact wholeLines_empty
    rw [methods]
    rcases List.mem_cons.mp hm with rfl | hm
    · exact (standsIn_self (wholeLines_method m indent)).of_part hblank _
    · have hrest := (ih hm true).of_part (hblank.append (wholeLines_method first indent)) ""
      rwa [String.append_empty] at hrest

theorem method_standsIn_type {m : MethodDecl} {d : TypeDecl} (hm : m ∈ d.methods) :
    StandsIn (method m indent) (type d) := by
  have hopen : WholeLines ("public class " ++ d.name ++ baseClause d.baseType ++ "\n\x7b\n") :=
    .prepend (wholeLines_newline "\n\x7b") (by decide) _
  have hfields : WholeLines (String.join (d.fields.map (field · indent))) := by
    refine .join fun x hx => ?_
    obtain ⟨f, -, rfl⟩ := List.mem_map.mp hx
    exact .prepend (wholeLines_newline ";") (by decide) _
  have hproperties : WholeLines (String.join (d.properties.map (property · indent))) := by
    refine .join fun x hx => ?_
    obtain ⟨p, -, rfl⟩ := List.mem_map.mp hx
    exact .prepend (wholeLines_newline " \x7b get; set; \x7d") (by decide) _
  exact (method_standsIn_methods hm _).of_part ((hopen.append hfields).append hproperties) _

theorem typeIn_eq (space : String) (d : TypeDecl) :
    typeIn space d = "\n" ++ if space = "" then type d else shift 4 (type d) := by
  unfold typeIn
  rw [indentBlock_eq]
  by_cases hspace : space = ""
  · simp [hspace]
  · simp [hspace]

theorem wholeLines_openSpace (space : String) : WholeLines (openSpace space) := by
  unfold openSpace
  split
  · exact wholeLines_empty
  · exact .prepend (wholeLines_newline "\n\x7b") (by decide) _

theorem wholeLines_closeSpace (space : String) : WholeLines (closeSpace space) := by
  unfold closeSpace
  split
  · exact wholeLines_empty
  · exact wholeLines_newline "\x7d"

theorem wholeLines_typeIn (space : String) (d : TypeDecl) : WholeLines (typeIn space d) := by
  refine (wholeLines_newline "").append ?_
  split
  · exact wholeLines_type d
  · rw [indentBlock_eq]
    exact wholeLines_shift 4 _

theorem typeIn_standsIn_typesAfter {d : TypeDecl} {ds : List TypeDecl} (hd : d ∈ ds)
    (space : String) : StandsIn (typeIn d.space d) (typesAfter space ds) := by
  induction ds generalizing space with
  | nil => cases hd
  | cons first ds ih =>
    have hswitch : typesAfter space (first :: ds) =
        (if first.space = space then "" else closeSpace space ++ openSpace first.space) ++
          typeIn first.space first ++ typesAfter first.space ds := by
      rw [typesAfter]
      by_cases hspace : first.space = space
      · simp [hspace]
      · simp [hspace]
    have hbefore : WholeLines (if first.space = space then ""
        else closeSpace space ++ openSpace first.space) := by
      split
      · exact wholeLines_empty
      · exact (wholeLines_closeSpace space).append (wholeLines_openSpace first.space)
    rw [hswitch]
    rcases List.mem_cons.mp hd with rfl | hd
    · exact (standsIn_self (wholeLines_typeIn d.space d)).of_part hbefore _
    · have hrest := (ih hd first.space).of_part
        (hbefore.append (wholeLines_typeIn first.space first)) ""
      rwa [String.append_empty] at hrest

/-- A method is rendered in its type as its code is indented by four spaces. So in the code of the
type its code stands line by line behind four spaces, and in the code of the module behind four if
the type is in no namespace and behind eight if it is in one. -/
theorem views_of_a_method_agree :
    (∀ m : MethodDecl, m.Lined → method m indent = shift 4 (method m "")) ∧
    ∀ (a : Assembly) (t i : Nat) (d : TypeDecl) (m : MethodDecl), a.type? t = some d →
      d.methods[i]? = some m → m.Lined →
      ∃ code typeCode, a.code? (.method t i) = some code ∧ a.code? (.type t) = some typeCode ∧
        StandsIn (shift 4 code) typeCode ∧
        StandsIn (shift (if d.space = "" then 4 else 8) code) a.code := by
  refine ⟨fun m => method_indent, fun a t i d m hd hm hlined => ?_⟩
  have hmethod : a.method? t i = some m := by
    rw [Assembly.method?, hd, Option.bind_some, hm]
  have htype := method_standsIn_type (List.mem_of_getElem? hm)
  refine ⟨method m "", type d, by rw [Assembly.code?, hmethod, Option.map_some],
    by rw [Assembly.code?, hd, Option.map_some], method_indent hlined ▸ htype, ?_⟩
  have hin : StandsIn (shift (if d.space = "" then 4 else 8) (method m "")) (typeIn d.space d) := by
    have hcode : StandsIn (shift (if d.space = "" then 4 else 8) (method m ""))
        (if d.space = "" then type d else shift 4 (type d)) := by
      split
      · rwa [← method_indent hlined]
      · have hdeep : shift 8 (method m "") = shift 4 (method m indent) :=
          (shift_method hlined 8 0).trans (shift_method hlined 4 4).symm
        rw [hdeep]
        exact htype.shift 4
    have hblank : WholeLines "\n" := wholeLines_newline ""
    rw [typeIn_eq]
    simpa only [String.append_empty] using hcode.of_part hblank ""
  have hmodule := (typeIn_standsIn_typesAfter (List.mem_of_getElem? hd) "").of_part
    (.prepend (wholeLines_newline a.name) (by simp) "// ") ""
  rw [String.append_empty] at hmodule
  exact hin.trans hmodule

/-! ### A method with a blank line -/

/-- The body has a line of blanks and a carriage return before one of its line feeds. -/
def blankLineMethod : MethodDecl :=
  ⟨"a", "int", [⟨"x", "int"⟩, ⟨"y", "int"⟩], [], "int t = x;\r\n \t\nreturn t;"⟩

/-- A type in a namespace, with the method behind another one. -/
def blankLineType : TypeDecl :=
  ⟨"N", "c1", some "object", [], [⟨"p", "int"⟩], [⟨"b", "void", [], [], ""⟩, blankLineMethod]⟩

def twoSpaces : Assembly := ⟨"m", [⟨"", "c0", none, [⟨"f", "int"⟩], [], []⟩, blankLineType]⟩

theorem views_of_method_with_blank_line :
    blankLineMethod.Lined ∧
      method blankLineMethod indent = shift 4 (method blankLineMethod "") ∧
      ∃ code typeCode, twoSpaces.code? (.method 1 1) = some code ∧
        twoSpaces.code? (.type 1) = some typeCode ∧ StandsIn (shift 4 code) typeCode ∧
        StandsIn (shift 8 code) twoSpaces.code := by
  have hlined : blankLineMethod.Lined := ⟨by decide, ⟨by decide, by decide⟩⟩
  obtain ⟨hindent, hviews⟩ := views_of_a_method_agree
  have hview := hviews twoSpaces 1 1 blankLineType blankLineMethod rfl rfl hlined
  rw [if_neg (by decide)] at hview
  exact ⟨hlined, hindent _ hlined, hview⟩

end Render

end Renaming
