import Renaming.Files.Path

/-!
# Steps of a path

A path that does not end in a slash is what comes before its last step and the name of that step
(`Named`). The backup of a file and the file that is written beside it have names of their own.
-/

namespace Renaming

namespace Text

theorem splitAt_eq_splitOn (mark : Char) (cs : List Char) :
    splitAt (· == mark) cs = cs.splitOn mark := by
  induction cs with
  | nil => rfl
  | cons c cs ih =>
    rw [splitAt, ih, List.splitOn_cons_eq_if_modifyHead]
    cases hsplit : cs.splitOn mark with
    | nil => exact absurd hsplit (List.splitOn_ne_nil _ _)
    | cons part parts => rfl

theorem notMem_of_mem_splitAt {mark : Char} {cs part : List Char}
    (h : part ∈ splitAt (· == mark) cs) : mark ∉ part := by
  induction cs generalizing part with
  | nil =>
    rw [List.mem_singleton.mp h]
    exact List.not_mem_nil
  | cons c cs ih =>
    rw [splitAt] at h
    split at h
    · rcases List.mem_cons.mp h with rfl | h
      · exact List.not_mem_nil
      · exact ih h
    · rename_i hc
      have hne : mark ≠ c := by
        rintro rfl
        exact hc (beq_self_eq_true mark)
      split at h
      · rename_i first rest hsplit
        rcases List.mem_cons.mp h with rfl | h
        · have hfirst : mark ∉ first := ih (hsplit ▸ List.mem_cons_self ..)
          exact fun hmem => (List.mem_cons.mp hmem).elim hne hfirst
        · exact ih (hsplit ▸ List.mem_cons_of_mem _ h)
      · rw [List.mem_singleton.mp h]
        exact fun hmem => hne (List.mem_singleton.mp hmem)

end Text

namespace Files

/-! ## Steps -/

/-- A text that is one step: neither empty nor with a slash in it. -/
def Component (name : String) : Prop := name ≠ "" ∧ '/' ∉ name.toList

theorem steps_eq (path : String) :
    steps path =
      ((path.toList.splitOn '/').filter fun piece => !piece.isEmpty).map String.ofList := by
  rw [steps, Text.splitAt_eq_splitOn]

theorem component_of_mem_steps {path name : String} (h : name ∈ steps path) : Component name := by
  obtain ⟨piece, hpiece, rfl⟩ := List.mem_map.mp h
  obtain ⟨hmem, hne⟩ := List.mem_filter.mp hpiece
  constructor
  · rintro hempty
    simp [String.ofList_eq_empty_iff.mp hempty] at hne
  · rw [String.toList_ofList]
    exact Text.notMem_of_mem_splitAt hmem

theorem steps_slash (directory rest : String) :
    steps (directory ++ "/" ++ rest) = steps directory ++ steps rest := by
  have htext : (directory ++ "/" ++ rest).toList = directory.toList ++ '/' :: rest.toList := by
    simp
  simp only [steps_eq, htext, List.splitOn_append_cons_self, List.filter_append, List.map_append]

theorem steps_empty : steps "" = [] := by decide

theorem steps_component {name : String} (h : Component name) : steps name = [name] := by
  rw [steps_eq, List.splitOn_eq_singleton h.2]
  simp [h.1]

theorem steps_intercalate {names : List String} (h : ∀ name ∈ names, Component name) :
    steps ("/".intercalate names) = names := by
  cases names with
  | nil => exact steps_empty
  | cons name names =>
    have hpieces : ∀ piece ∈ (name :: names).map String.toList, '/' ∉ piece := by
      intro piece hpiece
      obtain ⟨name', hname', rfl⟩ := List.mem_map.mp hpiece
      exact (h name' hname').2
    have hkept : ((name :: names).map String.toList).filter (fun piece => !piece.isEmpty) =
        (name :: names).map String.toList := by
      rw [List.filter_eq_self]
      intro piece hpiece
      obtain ⟨name', hname', rfl⟩ := List.mem_map.mp hpiece
      simpa using (h name' hname').1
    have hslash : "/".toList = ['/'] := rfl
    rw [steps_eq, String.toList_intercalate, hslash, List.splitOn_intercalate _ hpieces (by simp),
      hkept, List.map_map]
    simp

/-! ## The last step -/

/-- The path is `front` and, as its last step, a name. -/
structure Named (path front name : String) : Prop where
  text : path = front ++ name
  opened : front = "" ∨ ∃ directory, front = directory ++ "/"
  component : Component name

theorem exists_last {cs : List Char} (hcs : cs ≠ []) (hlast : cs.getLast? ≠ some '/') :
    ∃ before last, cs = before ++ last ∧ (before = [] ∨ ∃ ds, before = ds ++ ['/']) ∧ last ≠ [] ∧
      '/' ∉ last := by
  induction cs with
  | nil => exact absurd rfl hcs
  | cons c cs ih =>
    cases cs with
    | nil =>
      refine ⟨[], [c], rfl, .inl rfl, by simp, fun hmem => hlast ?_⟩
      rw [List.mem_singleton.mp hmem]
      rfl
    | cons c' cs =>
      rw [List.getLast?_cons_cons] at hlast
      obtain ⟨before, last, heq, hbefore, hne, hslash⟩ := ih (List.cons_ne_nil _ _) hlast
      rw [heq]
      rcases hbefore with rfl | ⟨ds, rfl⟩
      · by_cases hc : c = '/'
        · exact ⟨['/'], last, by simp [hc], .inr ⟨[], rfl⟩, hne, hslash⟩
        · refine ⟨[], c :: last, rfl, .inl rfl, List.cons_ne_nil _ _, fun hmem => ?_⟩
          exact (List.mem_cons.mp hmem).elim (fun h => hc h.symm) hslash
      · exact ⟨c :: (ds ++ ['/']), last, rfl, .inr ⟨c :: ds, rfl⟩, hne, hslash⟩

theorem exists_named {path : String} (hpath : path ≠ "") (hslash : endsInSlash path = false) :
    ∃ front name, Named path front name := by
  have hlast : path.toList.getLast? ≠ some '/' := by simpa [endsInSlash] using hslash
  obtain ⟨before, last, heq, hbefore, hne, hmem⟩ := exists_last (by simpa using hpath) hlast
  refine ⟨String.ofList before, String.ofList last, ?_, ?_, ?_, ?_⟩
  · rw [← String.ofList_append, ← heq, String.ofList_toList]
  · rcases hbefore with rfl | ⟨ds, rfl⟩
    · exact .inl rfl
    · exact .inr ⟨String.ofList ds, String.ofList_append⟩
  · simpa [String.ofList_eq_empty_iff] using hne
  · rwa [String.toList_ofList]

theorem Component.append {name extension : String} (h : Component name)
    (hslash : '/' ∉ extension.toList) : Component (name ++ extension) := by
  constructor
  · intro hempty
    exact h.1 (String.append_eq_empty_iff.mp hempty).1
  · simpa using ⟨h.2, hslash⟩

theorem Component.head {name : String} (h : Component name) (rest : List Char) :
    (name.toList ++ rest).head? ≠ some '/' := by
  cases hname : name.toList with
  | nil => exact absurd (String.toList_eq_nil_iff.mp hname) h.1
  | cons c cs =>
    intro hhead
    rw [List.cons_append, List.head?_cons, Option.some.injEq] at hhead
    exact h.2 (by simp [hname, hhead])

namespace Named

variable {path front name : String} (h : Named path front name)

include h

theorem steps : steps path = Files.steps front ++ [name] := by
  rw [h.text]
  rcases h.opened with rfl | ⟨directory, rfl⟩
  · rw [steps_empty, String.empty_append, steps_component h.component, List.nil_append]
  · have hfront := steps_slash directory ""
    rw [String.append_empty, steps_empty, List.append_nil] at hfront
    rw [steps_slash, hfront, steps_component h.component]

/-- A path has one name only. -/
theorem name_eq {front' name' : String} (h' : Named path front' name') : name' = name := by
  have hsteps := h'.steps.symm.trans h.steps
  exact List.singleton_inj.mp (List.append_inj' hsteps rfl).2

theorem endsInSlash : endsInSlash path = false := by
  cases hlast : name.toList.getLast? with
  | none =>
    have hempty := String.toList_eq_nil_iff.mp (List.getLast?_eq_none_iff.mp hlast)
    exact absurd hempty h.component.1
  | some c =>
    have hne : c ≠ '/' := by
      rintro rfl
      exact h.component.2 (List.mem_of_getLast? hlast)
    rw [Files.endsInSlash, h.text, String.toList_append, List.getLast?_append, hlast]
    simpa using hne

theorem backup : Named (backupPath path) front (name ++ ".bak") where
  text := by rw [backupPath, h.text, String.append_assoc]
  opened := h.opened
  component := h.component.append (by decide)

theorem isAbsolute_backupPath : isAbsolute (backupPath path) = isAbsolute path := by
  have hpath : path.toList ≠ [] := by
    rw [h.text]
    simp [h.component.1]
  obtain ⟨c, cs, hcs⟩ := List.exists_cons_of_ne_nil hpath
  rw [isAbsolute, isAbsolute, backupPath, String.toList_append, hcs]
  rfl

end Named

/-! ## The directory of a file -/

/-- The steps but for dots, which lead nowhere. -/
def undotted (steps : List String) : List String := steps.filter (· != ".")

theorem parts_eq (path : String) :
    ∃ lead, (lead = [] ∨ lead = ["."]) ∧ parts path = lead ++ undotted (steps path) := by
  unfold parts
  split
  · rename_i rest _ hsteps
    exact ⟨["."], .inr rfl, by simp [hsteps, undotted]⟩
  · exact ⟨[], .inl rfl, rfl⟩

theorem isAbsolute_intercalate {names : List String} (h : ∀ name ∈ names, Component name) :
    isAbsolute ("/".intercalate names) = false := by
  cases names with
  | nil => rfl
  | cons name names =>
    have hrest : ∃ rest, ("/".intercalate (name :: names)).toList = name.toList ++ rest := by
      rw [String.toList_intercalate]
      cases names with
      | nil => exact ⟨[], by simp [List.intercalate]⟩
      | cons next names => exact ⟨_, rfl⟩
    obtain ⟨rest, hrest⟩ := hrest
    rw [isAbsolute, hrest]
    exact beq_eq_false_iff_ne.mpr ((h name (List.mem_cons_self ..)).head rest)

/-- A name can be put after a directory. -/
theorem exists_named_join (directory : String) {name : String} (h : Component name) :
    ∃ front, Named (join directory name) front name := by
  unfold join
  split
  · rename_i hlast
    have hlast : directory.toList.getLast? = some '/' := by simpa [endsInSlash] using hlast
    obtain ⟨ds, hds⟩ := List.getLast?_eq_some_iff.mp hlast
    have hdirectory : directory = String.ofList ds ++ "/" := by
      rw [← String.toList_inj, hds]
      simp
    exact ⟨directory, rfl, .inr ⟨_, hdirectory⟩, h⟩
  · exact ⟨directory ++ "/", rfl, .inr ⟨directory, rfl⟩, h⟩

theorem undotted_cons {step : String} (hdot : step ≠ ".") (steps : List String) :
    undotted (step :: steps) = step :: undotted steps := by
  simp [undotted, hdot]

theorem undotted_concat (before : List String) {last : String} (hdot : last ≠ ".") :
    undotted (before ++ [last]) = undotted before ++ [last] := by
  simp [undotted, hdot]

theorem name?_of_steps {path last : String} {before : List String}
    (h : steps path = before ++ [last]) (hdot : last ≠ ".") (hdots : last ≠ "..") :
    name? path = some last := by
  obtain ⟨lead, -, hparts⟩ := parts_eq path
  unfold name?
  rw [hparts, h, undotted_concat before hdot, ← List.append_assoc, List.getLast?_concat]
  split <;> simp_all

theorem component_of_mem_parts {path part : String} (h : part ∈ parts path) : Component part := by
  obtain ⟨lead, hlead, hparts⟩ := parts_eq path
  rw [hparts] at h
  rcases List.mem_append.mp h with h | h
  · rcases hlead with rfl | rfl
    · exact nomatch h
    · rw [List.mem_singleton.mp h]
      exact ⟨by decide, by decide⟩
  · exact component_of_mem_steps (List.mem_filter.mp h).1

theorem undotted_dropLast_parts (path : String) :
    undotted (parts path).dropLast = (undotted (steps path)).dropLast := by
  obtain ⟨lead, hlead, hparts⟩ := parts_eq path
  have htwice : undotted (undotted (steps path)).dropLast = (undotted (steps path)).dropLast := by
    unfold undotted
    rw [List.filter_eq_self]
    exact fun part hpart => (List.mem_filter.mp (List.dropLast_subset _ hpart)).2
  rw [hparts]
  cases hsteps : undotted (steps path) with
  | nil => rcases hlead with rfl | rfl <;> rfl
  | cons part rest =>
    rw [hsteps] at htwice
    rw [List.dropLast_append_of_ne_nil (List.cons_ne_nil _ _)]
    rcases hlead with rfl | rfl <;> exact htwice

theorem component_of_mem_dropLast_parts {path part : String} (h : part ∈ (parts path).dropLast) :
    Component part := component_of_mem_parts (List.dropLast_subset _ h)

/-- The directory of a file is reached by the steps before the last. -/
theorem undotted_steps_parent (path : String) :
    undotted (steps (parent path)) = (undotted (steps path)).dropLast := by
  rw [← undotted_dropLast_parts]
  have hsteps : steps ("/".intercalate (parts path).dropLast) = (parts path).dropLast :=
    steps_intercalate fun _ => component_of_mem_dropLast_parts
  have hroot := steps_slash "" ("/".intercalate (parts path).dropLast)
  rw [String.empty_append, steps_empty, List.nil_append, hsteps] at hroot
  unfold parent
  simp only
  split
  · rw [hroot]
  · split
    · rename_i hempty
      rw [← hsteps, String.isEmpty_iff.mp hempty]
      decide
    · rw [hsteps]

theorem isAbsolute_parent {path : String} (h : undotted (steps path) ≠ []) :
    isAbsolute (parent path) = isAbsolute path := by
  have hsome : (parts path).isEmpty = false := by
    obtain ⟨lead, -, hparts⟩ := parts_eq path
    rw [hparts, List.isEmpty_eq_false_iff]
    exact List.append_ne_nil_of_right_ne_nil _ h
  have hrelative : isAbsolute ("/".intercalate (parts path).dropLast) = false :=
    isAbsolute_intercalate fun _ => component_of_mem_dropLast_parts
  unfold parent
  simp only [hsome, Bool.not_false, Bool.and_true]
  cases hpath : isAbsolute path with
  | true => simp [isAbsolute]
  | false =>
    simp only [Bool.false_eq_true, if_false]
    split
    · decide
    · exact hrelative

theorem component_of_name? {path name : String} (h : name? path = some name) : Component name := by
  have hlast : (parts path).getLast? = some name := by
    unfold name? at h
    split at h <;> simp_all
  exact component_of_mem_parts (List.mem_of_getLast? hlast)

/-- The name of the file that is written first. -/
def temporaryName (path : String) (run : Nat) : String :=
  "." ++ (name? path).getD "file" ++ ".tmp." ++ toString run

theorem exists_named_temporary (path : String) (run : Nat) :
    ∃ front, Named (temporaryPath path run) front (temporaryName path run) := by
  have hdigits : '/' ∉ Nat.toDigits 10 run := by
    intro hmem
    exact absurd (Nat.isDigit_of_mem_toDigits (by decide) (by decide) hmem) (by decide)
  have hname : '/' ∉ ((name? path).getD "file").toList := by
    cases h : name? path with
    | none => decide
    | some name => exact (component_of_name? h).2
  have hcomponent : Component (temporaryName path run) := by
    constructor
    · simp [temporaryName]
    · simpa [temporaryName] using ⟨hname, hdigits⟩
  exact exists_named_join (parent path) hcomponent

theorem backup_ne_dots (name : String) : name ++ ".bak" ≠ "." ∧ name ++ ".bak" ≠ ".." := by
  constructor
  all_goals
    intro h
    have hlast := congrArg (fun text => text.toList.getLast?) h
    simp at hlast

theorem backup_ne (name : String) : name ++ ".bak" ≠ name := by
  intro h
  have hlength := congrArg String.length h
  simp at hlength

/-- The file that is written first is another one, and not the backup either. -/
theorem temporaryName_ne {path name : String} (h : name? path = some name) (run : Nat) :
    temporaryName path run ≠ name ∧ temporaryName path run ≠ name ++ ".bak" := by
  have hbak : ".bak".length = 4 := rfl
  have htmp : ".tmp.".length = 5 := rfl
  have hdot : ".".length = 1 := rfl
  unfold temporaryName
  rw [h, Option.getD_some]
  constructor
  all_goals
    intro heq
    have hlength := congrArg String.length heq
    simp only [String.length_append, hbak, htmp, hdot] at hlength
    omega

end Files

end Renaming
