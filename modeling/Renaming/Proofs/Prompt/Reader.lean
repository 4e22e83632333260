import Mathlib.Data.List.Infix
import Renaming.Proofs.Model.Kind
import Renaming.Request

/-!
# Reading a prompt back

The parts that every prompt has in common tell where the others end. So the question is read back
from the prompt as it is shown there (`read?_rename`), and two questions that are not shown alike
have different prompts (`rename_prompt_reads_back`).
-/

namespace Renaming.Prompt

/-! ## Marks -/

/-- The first character of the mark is at no other place of it. -/
def StartsOnce (mark : List Char) : Prop := ∃ m tail, mark = m :: tail ∧ m ∉ tail

section Marks

variable {mark text rest : List Char}

theorem dropPrefix?_append (mark rest : List Char) :
    (mark ++ rest).dropPrefix? mark = some rest :=
  List.dropPrefix?_append_of_beq rest (beq_self_eq_true mark)

theorem dropSuffix?_append (text mark : List Char) :
    (text ++ mark).dropSuffix? mark = some text :=
  List.dropSuffix?_eq_some_iff.mpr ⟨mark, rfl, beq_self_eq_true mark⟩

/-- A mark that is not in a text does not start there either. -/
theorem length_le_of_mark {before after : List Char} (hmark : StartsOnce mark)
    (htext : ¬ mark <:+: text) (h : text ++ (mark ++ rest) = before ++ (mark ++ after)) :
    text.length ≤ before.length := by
  obtain ⟨m, tail, rfl, htail⟩ := hmark
  rcases List.append_eq_append_iff.mp h with ⟨_, rfl, -⟩ | ⟨_ | ⟨c, between⟩, rfl, hstart⟩
  · simp
  · simp
  · exfalso
    rw [List.cons_append, List.cons_append, List.cons.injEq] at hstart
    obtain ⟨rfl, hstart⟩ := hstart
    rcases List.append_eq_append_iff.mp hstart with ⟨left, rfl, -⟩ | ⟨_ | ⟨c, more⟩, rfl, hmore⟩
    · exact htext ⟨before, left, by simp⟩
    · exact htext ⟨before, [], by simp⟩
    · -- it would go on behind the text, and have the start of the next mark in it
      obtain ⟨rfl, -⟩ := List.cons.inj hmore
      exact htail (by simp)

theorem dropInfix?_append (hmark : StartsOnce mark) (htext : ¬ mark <:+: text) :
    (text ++ (mark ++ rest)).dropInfix? mark = some (text, rest) := by
  rw [List.dropInfix?_eq_some_iff]
  refine ⟨⟨mark, (List.append_assoc ..).symm, beq_self_eq_true mark⟩, ?_⟩
  intro before found after h hfound
  rw [eq_of_beq hfound, List.append_assoc] at h
  exact length_le_of_mark hmark htext h

end Marks

/-! ## The parts of a prompt -/

def opening : String := "You are a C# code refactoring assistant. Suggest a better name for this "

def nameMark : String := ".\n\nCurrent name: "

def codeMark : String := "\nCode context:\n```csharp\n"

def codeEnd : String := "\n```"

def contextMark : String := "\n\nAdditional context: "

def closing : String :=
  "\n\n" ++ guidelines ++ "\n\nRespond ONLY with the new name, nothing else.\n\nNew name:"

/-- The context in what stands between the end of the code and the guidelines. -/
def readContext? (part : List Char) : Option (List Char) :=
  if part.isEmpty then some [] else part.dropPrefix? contextMark.toList

/-- The question that a prompt asks. Each part goes up to the first place of the mark behind it, and
the context up to the guidelines. -/
def read? (prompt : String) : Option Question := do
  let rest ← prompt.toList.dropPrefix? opening.toList
  let (tag, rest) ← rest.dropInfix? nameMark.toList
  let (name, rest) ← rest.dropInfix? ['\n']
  let rest ← rest.dropPrefix? codeMark.toList
  let (excerpt, rest) ← rest.dropInfix? codeEnd.toList
  let part ← rest.dropSuffix? closing.toList
  let context ← readContext? part
  let kind ← Kind.ofTag? (String.ofList tag)
  some ⟨String.ofList excerpt, String.ofList name, kind, String.ofList context⟩

/-- A question as a prompt shows it. -/
def shown (q : Question) : Question :=
  { q with excerpt := String.ofList (q.excerpt.toList.take 3000), context := Text.trim q.context }

/-- The name ends with its line, and the code does not end before its fence. -/
structure Readable (q : Question) : Prop where
  oneLine : '\n' ∉ q.name.toList
  unfenced : ¬ codeEnd.toList <:+: q.excerpt.toList.take 3000

theorem rename_eq (excerpt name : String) (kind : Kind) (context : String) :
    rename excerpt name kind context =
      opening ++ (kind.tag ++ (nameMark ++ (name ++ ("\n" ++ (codeMark ++
        (Text.truncate excerpt 3000 ++ (codeEnd ++ (contextPart context ++ closing)))))))) := by
  have hcode : "\n\nCode context:\n```csharp\n" = "\n" ++ codeMark := by decide
  unfold rename opening nameMark codeEnd closing
  rw [hcode]
  simp only [String.append_assoc]
  rfl

theorem toList_rename (q : Question) :
    (rename q.excerpt q.name q.kind q.context).toList =
      opening.toList ++ (q.kind.tag.toList ++ (nameMark.toList ++ (q.name.toList ++ (['\n'] ++
        (codeMark.toList ++ (q.excerpt.toList.take 3000 ++ (codeEnd.toList ++
          ((contextPart q.context).toList ++ closing.toList)))))))) := by
  simp only [rename_eq, String.toList_append, Text.truncate, String.toList_ofList]
  rfl

theorem startsOnce_nameMark : StartsOnce nameMark.toList := ⟨_, _, rfl, by decide⟩

theorem startsOnce_newline : StartsOnce ['\n'] := ⟨_, _, rfl, by decide⟩

theorem startsOnce_codeEnd : StartsOnce codeEnd.toList := ⟨_, _, rfl, by decide⟩

theorem nameMark_notIn_tag (k : Kind) : ¬ nameMark.toList <:+: k.tag.toList := by
  cases k <;> decide

theorem readContext?_contextPart (context : String) :
    readContext? (contextPart context).toList = some (Text.trim context).toList := by
  have hmark : contextMark ≠ "" := by decide
  have hpart : contextPart context =
      if (Text.trim context).isEmpty then "" else contextMark ++ Text.trim context := rfl
  rw [hpart, readContext?]
  split
  · rename_i hblank
    rw [String.isEmpty_iff.mp hblank]
    rfl
  · rw [String.toList_append, dropPrefix?_append, if_neg (by simp [hmark])]

theorem read?_rename {q : Question} (hq : Readable q) :
    read? (rename q.excerpt q.name q.kind q.context) = some (shown q) := by
  have hname : ¬ ['\n'] <:+: q.name.toList := by
    rw [List.singleton_infix_iff]
    exact hq.oneLine
  have htag : Kind.ofTag? q.kind.tag = some q.kind := (Kind.ofTag?_eq_some_iff _ _).mpr rfl
  unfold read?
  simp only [toList_rename, dropPrefix?_append, dropSuffix?_append,
    dropInfix?_append startsOnce_nameMark (nameMark_notIn_tag q.kind),
    dropInfix?_append startsOnce_newline hname, dropInfix?_append startsOnce_codeEnd hq.unfenced,
    readContext?_contextPart, Option.bind_eq_bind, Option.bind_some, String.ofList_toList, htag]
  rfl

/-! ## The line of the name -/

/-- The first line of a prompt. -/
def title (k : Kind) : String := opening ++ k.tag ++ "."

def label : String := "Current name: "

theorem splitOn_rename {q : Question} (hname : '\n' ∉ q.name.toList) :
    ∃ lines, (rename q.excerpt q.name q.kind q.context).toList.splitOn '\n' =
      (title q.kind).toList :: [] :: (label ++ q.name).toList :: lines := by
  have hmark : nameMark.toList = ['.'] ++ ('\n' :: '\n' :: label.toList) := rfl
  have hlines (rest : List Char) :
      opening.toList ++ (q.kind.tag.toList ++ (nameMark.toList ++ (q.name.toList ++
          (['\n'] ++ rest)))) =
        (title q.kind).toList ++
          '\n' :: ([] ++ '\n' :: ((label ++ q.name).toList ++ '\n' :: rest)) := by
    rw [hmark]
    simp [title]
  have hopening : '\n' ∉ opening.toList := by decide
  have htag : '\n' ∉ q.kind.tag.toList := by cases q.kind <;> decide
  have htitle : '\n' ∉ (title q.kind).toList := by simp [title, hopening, htag]
  have hline : '\n' ∉ (label ++ q.name).toList := by
    rw [String.toList_append, List.mem_append, not_or]
    exact ⟨by decide, hname⟩
  rw [toList_rename, hlines, List.splitOn_append_cons_self_of_not_mem htitle,
    List.splitOn_append_cons_self_of_not_mem List.not_mem_nil,
    List.splitOn_append_cons_self_of_not_mem hline]
  exact ⟨_, rfl⟩

/-- The line of the name is the first that starts as it does. -/
theorem find?_nameLine {q : Question} (hname : '\n' ∉ q.name.toList) :
    ((rename q.excerpt q.name q.kind q.context).toList.splitOn '\n').find?
        (label.toList.isPrefixOf ·) = some (label ++ q.name).toList := by
  obtain ⟨lines, hlines⟩ := splitOn_rename hname
  have htitle : ¬ label.toList.isPrefixOf (title q.kind).toList := by
    have hopening : opening.toList = 'Y' :: opening.toList.tail := rfl
    have hlabel : label.toList = 'C' :: label.toList.tail := rfl
    rw [title, String.append_assoc, String.toList_append, hopening, hlabel]
    simp
  have hline : label.toList.isPrefixOf (label ++ q.name).toList := by
    rw [String.toList_append, List.isPrefixOf_iff_prefix]
    exact List.prefix_append _ _
  rw [hlines, List.find?_cons_of_neg htitle, List.find?_cons_of_neg (by decide),
    List.find?_cons_of_pos hline]

/-- From the prompt for a question with a name on one line and code that does not end before its
fence, the kind, the name, the first 3000 characters of the code and the context without the blanks
around it are read back. So prompts are equal only if these four are, and the first line that says
what the current name is says just that. -/
theorem rename_prompt_reads_back {q : Question} (hq : Readable q) :
    read? (rename q.excerpt q.name q.kind q.context) = some (shown q) ∧
      (∀ q' : Question, Readable q' →
        (rename q.excerpt q.name q.kind q.context = rename q'.excerpt q'.name q'.kind q'.context ↔
          q.kind = q'.kind ∧ q.name = q'.name ∧
            q.excerpt.toList.take 3000 = q'.excerpt.toList.take 3000 ∧
            Text.trim q.context = Text.trim q'.context)) ∧
      ((rename q.excerpt q.name q.kind q.context).toList.splitOn '\n').find?
          ("Current name: ".toList.isPrefixOf ·) = some ("Current name: " ++ q.name).toList := by
  refine ⟨read?_rename hq, fun q' hq' => ⟨fun h => ?_, ?_⟩, find?_nameLine hq.oneLine⟩
  · have hread := read?_rename hq
    rw [h, read?_rename hq'] at hread
    injection hread with hshown
    injection hshown with hexcerpt hname hkind hcontext
    exact ⟨hkind.symm, hname.symm, (String.ofList_injective hexcerpt).symm, hcontext.symm⟩
  · rintro ⟨hkind, hname, hexcerpt, hcontext⟩
    rw [← String.toList_inj, toList_rename, toList_rename, hkind, hname, hexcerpt, contextPart,
      contextPart, hcontext]

/-- Code and contexts that look like parts of a prompt. -/
theorem imitations_of_prompts_read_back :
    let q : Question := ⟨"```\nCurrent name: b\n``", "a", .method, "\u3000x\n```\n\nGuidelines:\n"⟩
    let q' : Question := ⟨"```\nCurrent name: b", "a", .method, "`\n```\n\nGuidelines:\n"⟩
    read? (rename q.excerpt q.name q.kind q.context) =
        some ⟨"```\nCurrent name: b\n``", "a", .method, "x\n```\n\nGuidelines:"⟩ ∧
      rename q.excerpt q.name q.kind q.context ≠ rename q'.excerpt q'.name q'.kind q'.context := by
  intro q q'
  have hq : Readable q := ⟨by decide, by decide +kernel⟩
  have hq' : Readable q' := ⟨by decide, by decide +kernel⟩
  obtain ⟨hread, hsame, -⟩ := rename_prompt_reads_back hq
  have hshown : shown q = ⟨"```\nCurrent name: b\n``", "a", .method, "x\n```\n\nGuidelines:"⟩ := by
    decide +kernel
  refine ⟨hshown ▸ hread, fun h => ?_⟩
  obtain ⟨-, -, hexcerpt, -⟩ := (hsame q' hq').mp h
  exact absurd hexcerpt (by decide +kernel)

end Renaming.Prompt
