import Renaming.Model.Render
import Renaming.Proofs.Text.Blank
import Renaming.Proofs.Text.Lines

/-!
# The parts of rendered code

A method is its head, its body in braces and nothing else (`method_eq`), and its head has the
characters of its words and a few more (`of_mem_head`). All code is made of whole lines.
-/

namespace Renaming

/-- What the head of a method says. -/
def MethodDecl.headWords (m : MethodDecl) : List String :=
  m.returnType :: m.name :: m.parameters.flatMap fun p => [p.parameterType, p.name]

namespace Render

open Text

/-! ## Methods -/

def head (m : MethodDecl) : String :=
  "public " ++ m.returnType ++ " " ++ m.name ++ "(" ++ parameters m.parameters ++ ")"

theorem method_eq (m : MethodDecl) (margin : String) :
    method m margin = (margin ++ head m ++ "\n") ++ ((margin ++ "\x7b" ++ "\n") ++
      (String.join ((lines m.body).map (bodyLine margin)) ++ (margin ++ "\x7d" ++ "\n"))) := by
  have hopen : "\x7b\n" = "\x7b" ++ "\n" := rfl
  have hclose : "\x7d\n" = "\x7d" ++ "\n" := rfl
  have hhead : ")\n" = ")" ++ "\n" := rfl
  unfold method head
  simp only [hopen, hclose, hhead, String.append_assoc]

theorem of_mem_parameters {ps : List ParameterDecl} {c : Char}
    (h : c ∈ (parameters ps).toList) :
    c = ',' ∨ c = ' ' ∨ ∃ p ∈ ps, c ∈ p.parameterType.toList ∨ c ∈ p.name.toList := by
  unfold parameters at h
  induction ps with
  | nil => cases h
  | cons p ps ih =>
    have hone (hc : c ∈ (p.parameterType ++ " " ++ p.name).toList) :
        c = ',' ∨ c = ' ' ∨ ∃ q ∈ p :: ps, c ∈ q.parameterType.toList ∨ c ∈ q.name.toList := by
      simp only [String.toList_append, List.mem_append] at hc
      rcases hc with (hc | hc) | hc
      · exact .inr (.inr ⟨p, List.mem_cons_self, .inl hc⟩)
      · exact .inr (.inl (by simpa using hc))
      · exact .inr (.inr ⟨p, List.mem_cons_self, .inr hc⟩)
    cases ps with
    | nil => exact hone (by simpa using h)
    | cons q ps =>
      rw [List.map_cons, List.map_cons, String.intercalate_cons_cons, String.toList_append,
        String.toList_append, List.append_assoc, List.mem_append, List.mem_append] at h
      rcases h with h | h | h
      · exact hone h
      · have hmark : c = ',' ∨ c = ' ' := by simpa using h
        exact hmark.imp_right .inl
      · rcases ih h with hc | hc | ⟨r, hr, hc⟩
        · exact .inl hc
        · exact .inr (.inl hc)
        · exact .inr (.inr ⟨r, List.mem_cons_of_mem _ hr, hc⟩)

/-- The head of a method adds no other characters to its words. -/
theorem of_mem_head {m : MethodDecl} {c : Char} (h : c ∈ (head m).toList) :
    c ∈ "public (), ".toList ∨ ∃ word ∈ m.headWords, c ∈ word.toList := by
  have hpart (text : String) (htext : text.toList ⊆ "public (), ".toList)
      (hc : c ∈ text.toList) : c ∈ "public (), ".toList ∨ ∃ word ∈ m.headWords, c ∈ word.toList :=
    .inl (htext hc)
  unfold head at h
  simp only [String.toList_append, List.mem_append] at h
  rcases h with (((((h | h) | h) | h) | h) | h) | h
  · exact hpart _ (by decide) h
  · exact .inr ⟨m.returnType, by simp [MethodDecl.headWords], h⟩
  · exact hpart _ (by decide) h
  · exact .inr ⟨m.name, by simp [MethodDecl.headWords], h⟩
  · exact hpart _ (by decide) h
  · rcases of_mem_parameters h with rfl | rfl | ⟨p, hp, h | h⟩
    · exact .inl (by decide)
    · exact .inl (by decide)
    · exact .inr ⟨p.parameterType, by
        simpa [MethodDecl.headWords] using .inr (.inr ⟨p, hp, .inl rfl⟩), h⟩
    · exact .inr ⟨p.name, by
        simpa [MethodDecl.headWords] using .inr (.inr ⟨p, hp, .inr rfl⟩), h⟩
  · exact hpart _ (by decide) h

theorem wholeLines_bodyLine (margin line : String) : WholeLines (bodyLine margin line) := by
  unfold bodyLine
  split
  · exact wholeLines_newline ""
  · exact wholeLines_newline _

theorem wholeLines_of_mem_body (ls : List String) (margin : String) :
    ∀ x ∈ ls.map (bodyLine margin), WholeLines x := by
  intro x hx
  obtain ⟨line, -, rfl⟩ := List.mem_map.mp hx
  exact wholeLines_bodyLine margin line

theorem wholeLines_body (ls : List String) (margin : String) :
    WholeLines (String.join (ls.map (bodyLine margin))) := .join (wholeLines_of_mem_body ls margin)

theorem wholeLines_method (m : MethodDecl) (margin : String) : WholeLines (method m margin) := by
  rw [method_eq]
  exact (wholeLines_newline _).append ((wholeLines_newline _).append
    ((wholeLines_body _ margin).append (wholeLines_newline _)))

/-! ## Types -/

theorem wholeLines_type (d : TypeDecl) : WholeLines (type d) :=
  .prepend (wholeLines_newline "\x7d") (by decide) _

end Render

end Renaming
