import Renaming.Files.Disk
import Renaming.Proofs.Files.Path

/-!
# Where paths lead

A path is followed through directories only. So it leads to the same place as long as directories
stay directories and nothing else becomes one (`Changes`).
-/

namespace Renaming.Disk

open Files

variable {d d' d'' : Disk}

theorem bind_eq_ok {ε α β : Type} {x : Except ε α} {next : α → Except ε β} {b : β}
    (h : x >>= next = .ok b) : ∃ a, x = .ok a ∧ next a = .ok b := by
  cases x with
  | error e => cases h
  | ok a => exact ⟨a, rfl, h⟩

/-! ## Entries -/

theorem find?_entries_ne (place place' : List String) (entries : List (List String × Node)) :
    (entries.filter (·.1 != place)).find? (·.1 == place') =
      if place' = place then none else entries.find? (·.1 == place') := by
  rw [List.find?_filter]
  split
  · rename_i heq
    rw [List.find?_eq_none]
    rintro entry -
    simp [heq]
  · rename_i hne
    congr 1
    funext entry
    by_cases hentry : entry.1 = place'
    · simp [hentry, hne]
    · simp [hentry]

theorem get?_of_ne_nil {place : List String} (hplace : place ≠ []) :
    d.get? place = (d.entries.find? (·.1 == place)).map (·.2) := by
  rw [get?, if_neg (by simpa using hplace)]

theorem get?_erase {place : List String} (hplace : place ≠ []) (place' : List String) :
    (d.erase place).get? place' = if place' = place then none else d.get? place' := by
  by_cases hroot : place' = []
  · simp [hroot, get?, hplace.symm]
  · rw [get?_of_ne_nil hroot, get?_of_ne_nil hroot, erase, find?_entries_ne]
    split <;> rfl

theorem get?_put {place : List String} (hplace : place ≠ []) (node : Node) (place' : List String) :
    (d.put place node).get? place' = if place' = place then some node else d.get? place' := by
  by_cases hroot : place' = []
  · simp [hroot, get?, hplace.symm]
  · rw [get?_of_ne_nil hroot, get?_of_ne_nil hroot, put]
    by_cases heq : place' = place
    · simp [heq]
    · rw [List.find?_cons_of_neg (by simpa using Ne.symm heq), find?_entries_ne, if_neg heq,
        if_neg heq]

/-! ## Following steps -/

/-- One step from a directory. -/
def advance (d : Disk) (place : List String) (step : String) : Except FileError (List String) :=
  if step = "." then .ok place
  else if step = ".." then .ok place.dropLast
  else if nameLimit < step.utf8ByteSize then .error .nameTooLong
  else match d.get? (place ++ [step]) with
    | some .directory => .ok (place ++ [step])
    | some (.file _) => .error .notADirectory
    | none => .error .notFound

/-- What a step can do. -/
theorem advance_eq_ok {place next : List String} {step : String}
    (h : d.advance place step = .ok next) :
    (step = "." ∧ next = place) ∨ (step = ".." ∧ next = place.dropLast) ∨
      (step ≠ "." ∧ step ≠ ".." ∧ step.utf8ByteSize ≤ nameLimit ∧ next = place ++ [step] ∧
        d.get? next = some .directory) := by
  unfold advance at h
  split at h
  · rename_i hdot
    exact .inl ⟨hdot, (Except.ok.inj h).symm⟩
  · rename_i hdot
    split at h
    · rename_i hdots
      exact .inr (.inl ⟨hdots, (Except.ok.inj h).symm⟩)
    · rename_i hdots
      split at h
      · cases h
      · rename_i hlong
        split at h
        · rename_i hget
          cases h
          exact .inr (.inr ⟨hdot, hdots, Nat.le_of_not_lt hlong, rfl, hget⟩)
        · cases h
        · cases h

theorem advance_name {place : List String} {step : String} (hdot : step ≠ ".")
    (hdots : step ≠ "..") (hlong : step.utf8ByteSize ≤ nameLimit)
    (hget : d.get? (place ++ [step]) = some .directory) :
    d.advance place step = .ok (place ++ [step]) := by
  rw [advance, if_neg hdot, if_neg hdots, if_neg (Nat.not_lt.mpr hlong), hget]

theorem enter_cons (place : List String) (step : String) (steps : List String) :
    d.enter place (step :: steps) =
      (d.advance place step).bind fun place => d.enter place steps := by
  by_cases hdot : step = "."
  · simp [hdot, enter, advance, Except.bind]
  · by_cases hdots : step = ".."
    · simp [hdots, enter, advance, Except.bind]
    · rw [enter.eq_4 _ _ _ _ hdot hdots, advance, if_neg hdot, if_neg hdots]
      split
      · rfl
      · cases d.get? (place ++ [step]) with
        | none => rfl
        | some node => cases node <;> rfl

theorem enter_append (place : List String) (xs ys : List String) :
    d.enter place (xs ++ ys) = (d.enter place xs).bind fun place => d.enter place ys := by
  induction xs generalizing place with
  | nil => rfl
  | cons x xs ih =>
    rw [List.cons_append, enter_cons, enter_cons]
    cases d.advance place x with
    | error => rfl
    | ok place => exact ih place

theorem enter_undotted (place : List String) (steps : List String) :
    d.enter place (undotted steps) = d.enter place steps := by
  induction steps generalizing place with
  | nil => rfl
  | cons step steps ih =>
    unfold undotted at ih ⊢
    by_cases hdot : step = "."
    · subst hdot
      simpa [enter_cons, advance, Except.bind] using ih place
    · rw [List.filter_cons_of_pos (by simpa using hdot), enter_cons, enter_cons]
      cases d.advance place step with
      | error => rfl
      | ok place => exact ih place

/-! ## Where a path leads -/

/-- Where the steps of a path start. -/
def start (d : Disk) (path : String) : List String := if isAbsolute path then [] else d.here

/-- The last step of the path is a name, in the directory that the other steps lead to. -/
structure Leads (d : Disk) (path front name : String) (directory : List String) : Prop where
  named : Named path front name
  dot : name ≠ "."
  dots : name ≠ ".."
  enter : d.enter (d.start path) (steps front) = .ok directory

variable {path front name : String} {directory : List String}

theorem target_concat {before : List String} {last : String} (hrefusal : refusal? path = none)
    (hsteps : steps path = before ++ [last])
    (henter : d.enter (d.start path) before = .ok directory) :
    d.target path =
      if last = "." then .ok ⟨directory, none, false⟩
      else if last = ".." then .ok ⟨directory.dropLast, none, false⟩
      else if nameLimit < last.utf8ByteSize then .error .nameTooLong
      else .ok ⟨directory, some last, endsInSlash path⟩ := by
  unfold start at henter
  unfold target
  simp only [hrefusal, hsteps, List.dropLast_concat, List.getLast?_concat, henter]
  by_cases hdot : last = "."
  · subst hdot
    rfl
  · by_cases hdots : last = ".."
    · subst hdots
      rfl
    · rw [if_neg hdot, if_neg hdots]
      split
      · contradiction
      · exact absurd (Option.some.inj ‹_›) hdot
      · exact absurd (Option.some.inj ‹_›) hdots
      · rename_i hlast
        cases hlast
        rfl

theorem Leads.target (h : d.Leads path front name directory) :
    d.target path =
      match refusal? path with
      | some e => .error e
      | none => if nameLimit < name.utf8ByteSize then .error .nameTooLong
        else .ok ⟨directory, some name, false⟩ := by
  cases hrefusal : refusal? path with
  | some e =>
    rw [Disk.target, hrefusal]
  | none =>
    rw [target_concat hrefusal h.named.steps h.enter, if_neg h.dot, if_neg h.dots,
      h.named.endsInSlash]

/-- A path leads to one place only. -/
theorem Leads.of_target (h : d.Leads path front name directory) {t : Target}
    (ht : d.target path = .ok t) : t = ⟨directory, some name, false⟩ := by
  rw [h.target] at ht
  split at ht
  · cases ht
  · split at ht
    · cases ht
    · exact (Except.ok.inj ht).symm

/-- What a path leads to says how its steps were taken. -/
theorem target_eq_ok {t : Target} (h : d.target path = .ok t) :
    refusal? path = none ∧
      ∃ directory, d.enter (d.start path) (steps path).dropLast = .ok directory ∧
        ∀ name, t.name = some name → (steps path).getLast? = some name ∧ name ≠ "." ∧ name ≠ ".." ∧
          t = ⟨directory, some name, endsInSlash path⟩ := by
  unfold target at h
  cases hrefusal : refusal? path with
  | some e =>
    rw [hrefusal] at h
    cases h
  | none =>
    simp only [hrefusal] at h
    obtain ⟨directory, henter, h⟩ := bind_eq_ok h
    refine ⟨rfl, directory, henter, ?_⟩
    split at h
    · cases h
      exact fun _ hname => nomatch hname
    · cases h
      exact fun _ hname => nomatch hname
    · cases h
      exact fun _ hname => nomatch hname
    · rename_i last hdot hdots hlast
      split at h
      · cases h
      · cases h
        rintro name ⟨⟩
        refine ⟨hlast, ?_, ?_, rfl⟩
        · rintro rfl
          exact hdot rfl
        · rintro rfl
          exact hdots rfl

theorem name?_of_target {slash : Bool} (h : d.target path = .ok ⟨directory, some name, slash⟩) :
    name? path = some name := by
  obtain ⟨-, _, -, hname⟩ := target_eq_ok h
  obtain ⟨hlast, hdot, hdots, -⟩ := hname name rfl
  obtain ⟨before, hsteps⟩ := List.getLast?_eq_some_iff.mp hlast
  exact name?_of_steps hsteps hdot hdots

theorem exists_leads (h : d.target path = .ok ⟨directory, some name, false⟩) :
    ∃ front, d.Leads path front name directory := by
  obtain ⟨hrefusal, directory', henter, hname⟩ := target_eq_ok h
  obtain ⟨hlast, hdot, hdots, ht⟩ := hname name rfl
  obtain ⟨rfl, -, hslash⟩ := Target.mk.inj ht
  have hpath : path ≠ "" := by
    rintro rfl
    exact absurd hrefusal (by decide)
  obtain ⟨front, name', hnamed⟩ := exists_named hpath hslash.symm
  rw [hnamed.steps, List.getLast?_concat, Option.some.injEq] at hlast
  subst hlast
  rw [hnamed.steps, List.dropLast_concat] at henter
  exact ⟨front, hnamed, hdot, hdots, henter⟩

theorem exists?_iff : d.exists? path = true ↔ ∃ node, d.node path = .ok node := by
  unfold exists?
  cases d.node path with
  | error e => simp [Except.toBool]
  | ok node => simp [Except.toBool]

theorem exists_target (h : d.exists? path = true) : ∃ t, d.target path = .ok t := by
  cases htarget : d.target path with
  | ok t => exact ⟨t, rfl⟩
  | error e =>
    rw [exists?, node, htarget] at h
    cases h

theorem node_of_target {slash : Bool} (h : d.target path = .ok ⟨directory, some name, slash⟩) :
    d.node path =
      match d.get? (directory ++ [name]) with
      | none => .error .notFound
      | some (.file content) => if slash then .error .notADirectory else .ok (.file content)
      | some .directory => .ok .directory := by
  unfold node
  rw [h]
  rfl

theorem target_of_file {content : ByteArray} (h : d.node path = .ok (.file content)) :
    ∃ directory name, d.target path = .ok ⟨directory, some name, false⟩ ∧
      d.get? (directory ++ [name]) = some (.file content) := by
  obtain ⟨⟨directory, _ | name, slash⟩, htarget, h'⟩ := bind_eq_ok h
  · cases h'
  · rw [node_of_target htarget] at h
    cases hget : d.get? (directory ++ [name]) with
    | none => simp [hget] at h
    | some node =>
      rw [hget] at h
      cases node with
      | directory => cases h
      | file found =>
        cases slash with
        | true => cases h
        | false =>
          cases h
          exact ⟨directory, name, htarget, hget⟩

theorem node_of_read {content : ByteArray} (h : d.read path = .ok content) :
    d.node path = .ok (.file content) := by
  obtain ⟨node, hnode, h⟩ := bind_eq_ok h
  cases node with
  | directory => cases h
  | file found => rw [hnode, Except.ok.inj h]

theorem read_of_node {content : ByteArray} (h : d.node path = .ok (.file content)) :
    d.read path = .ok content := by
  rw [read, h]
  rfl

theorem read_of_get? {content : ByteArray} (h : d.target path = .ok ⟨directory, some name, false⟩)
    (hget : d.get? (directory ++ [name]) = some (.file content)) : d.read path = .ok content := by
  apply read_of_node
  rw [node_of_target h, hget]
  rfl

theorem fromUTF8?_toUTF8 (text : String) : String.fromUTF8? text.toUTF8 = some text := by
  have hvalid : text.toUTF8.IsValidUTF8 := text.isValidUTF8
  rw [String.fromUTF8?, dif_pos hvalid]
  rfl

theorem readText_of_read {text : String} (h : d.read path = .ok text.toUTF8) :
    d.readText path = .ok text := by
  rw [readText, h]
  simp only [bind, Except.bind, fromUTF8?_toUTF8]
  rfl

/-- A place to write to is where the path leads, and no directory. -/
theorem of_placeToOpen {place : List String} (h : d.placeToOpen path = .ok place) :
    ∃ directory name, d.target path = .ok ⟨directory, some name, false⟩ ∧
      place = directory ++ [name] ∧ d.get? place ≠ some .directory := by
  obtain ⟨⟨directory, _ | name, slash⟩, htarget, h⟩ := bind_eq_ok h
  · cases h
  · dsimp only at h
    split at h
    · cases h
    · rename_i hplace
      cases h
      obtain ⟨hslash, hget⟩ : slash = false ∧ d.get? (directory ++ [name]) ≠ some .directory := by
        simpa using hplace
      exact ⟨directory, name, hslash ▸ htarget, rfl, hget⟩

theorem of_placeToReplace {place : List String} (h : d.placeToReplace path = .ok place) :
    ∃ directory name, d.target path = .ok ⟨directory, some name, false⟩ ∧
      place = directory ++ [name] ∧ d.get? place ≠ some .directory := by
  obtain ⟨⟨directory, _ | name, slash⟩, htarget, h⟩ := bind_eq_ok h
  · cases h
  · dsimp only at h
    split at h
    · cases h
    · rename_i hslash
      split at h
      · cases h
      · rename_i hget
        cases h
        exact ⟨directory, name, by simpa [hslash] using htarget, rfl, by simpa using hget⟩

/-- A path whose steps can all be taken leads to a directory. -/
theorem node_of_enter {place : List String} (hrefusal : refusal? path = none)
    (henter : d.enter (d.start path) (steps path) = .ok place) :
    d.node path = .ok .directory := by
  unfold start at henter
  rcases List.eq_nil_or_concat (steps path) with hsteps | ⟨before, last, hsteps⟩
  · have htarget : ∃ start, d.target path = .ok ⟨start, none, false⟩ := by
      unfold target
      simp only [hrefusal, hsteps]
      exact ⟨_, rfl⟩
    obtain ⟨start, htarget⟩ := htarget
    rw [node, htarget]
    rfl
  · rw [List.concat_eq_append] at hsteps
    rw [hsteps, enter_append] at henter
    obtain ⟨directory, hbefore, henter⟩ := bind_eq_ok henter
    have htarget := target_concat hrefusal hsteps hbefore
    rw [enter_cons] at henter
    obtain ⟨next, hstep, -⟩ := bind_eq_ok henter
    rcases advance_eq_ok hstep with ⟨hdot, -⟩ | ⟨hdots, -⟩ | ⟨hdot, hdots, hlong, rfl, hget⟩
    · rw [if_pos hdot] at htarget
      rw [node, htarget]
      rfl
    · rw [if_neg (by rw [hdots]; decide), if_pos hdots] at htarget
      rw [node, htarget]
      rfl
    · rw [if_neg hdot, if_neg hdots, if_neg (Nat.not_lt.mpr hlong)] at htarget
      rw [node_of_target htarget, hget]

/-- The directory of a file can be entered. -/
theorem Leads.enter_parent (h : d.Leads path front name directory) :
    d.enter (d.start (parent path)) (steps (parent path)) = .ok directory := by
  have hsteps : undotted (steps path) = undotted (steps front) ++ [name] := by
    rw [h.named.steps, undotted_concat _ h.dot]
  have hstart : d.start (parent path) = d.start path := by
    rw [start, isAbsolute_parent (hsteps ▸ List.concat_ne_nil _ _), start]
  rw [hstart, ← enter_undotted, undotted_steps_parent, hsteps, List.dropLast_concat, enter_undotted]
  exact h.enter

/-- Nothing is missing along steps that can be taken. -/
theorem missing_of_enter {place place' : List String} {steps : List String}
    (h : d.enter place steps = .ok place') : d.missing place steps = ([], none) := by
  induction steps generalizing place with
  | nil => rfl
  | cons step steps ih =>
    rw [enter_cons] at h
    obtain ⟨next, hstep, h⟩ := bind_eq_ok h
    rcases advance_eq_ok hstep with ⟨rfl, rfl⟩ | ⟨rfl, rfl⟩ | ⟨hdot, hdots, hlong, rfl, hget⟩
    · exact ih h
    · exact ih h
    · rw [missing.eq_4 _ _ _ _ hdot hdots, if_neg (Nat.not_lt.mpr hlong), hget]
      exact ih h

theorem Leads.backup (h : d.Leads path front name directory) :
    d.Leads (backupPath path) front (name ++ ".bak") directory where
  named := h.named.backup
  dot := (backup_ne_dots name).1
  dots := (backup_ne_dots name).2
  enter := by
    rw [start, h.named.isAbsolute_backupPath]
    exact h.enter

/-! ## Changes -/

/-- One disk comes from another by changing files at some places. -/
structure Changes (d d' : Disk) (places : List (List String)) : Prop where
  same : d' = { d with entries := d'.entries }
  get? : ∀ place ∉ places, d'.get? place = d.get? place
  directory : ∀ place, d'.get? place = some .directory ↔ d.get? place = some .directory

namespace Changes

variable {places : List (List String)}

theorem refl : d.Changes d places := ⟨rfl, fun _ _ => rfl, fun _ => Iff.rfl⟩

theorem trans (h : d.Changes d' places) (h' : d'.Changes d'' places) : d.Changes d'' places where
  same := by rw [h'.same, h.same]
  get? place hplace := (h'.get? place hplace).trans (h.get? place hplace)
  directory place := (h'.directory place).trans (h.directory place)

theorem symm (h : d.Changes d' places) : d'.Changes d places where
  same := by rw [h.same]
  get? place hplace := (h.get? place hplace).symm
  directory place := (h.directory place).symm

theorem subset (h : d.Changes d' places) {places' : List (List String)} (hsub : places ⊆ places') :
    d.Changes d' places' where
  same := h.same
  get? place hplace := h.get? place fun hmem => hplace (hsub hmem)
  directory := h.directory

theorem put {place : List String} (hplace : place ∈ places) (h : d.get? place ≠ some .directory)
    (content : ByteArray) : d.Changes (d.put place (.file content)) places := by
  have hroot : place ≠ [] := by
    rintro rfl
    exact h rfl
  refine ⟨rfl, fun place' hplace' => ?_, fun place' => ?_⟩
  · rw [get?_put hroot, if_neg]
    rintro rfl
    exact hplace' hplace
  · rw [get?_put hroot]
    split
    · rename_i heq
      simp [heq, h]
    · rfl

theorem erase {place : List String} (hplace : place ∈ places)
    (h : d.get? place ≠ some .directory) : d.Changes (d.erase place) places := by
  have hroot : place ≠ [] := by
    rintro rfl
    exact h rfl
  refine ⟨rfl, fun place' hplace' => ?_, fun place' => ?_⟩
  · rw [get?_erase hroot, if_neg]
    rintro rfl
    exact hplace' hplace
  · rw [get?_erase hroot]
    split
    · rename_i heq
      simp [heq, h]
    · rfl

end Changes

/-- Steps that can be taken can still be taken with more directories. -/
theorem enter_mono (h : ∀ place, d.get? place = some .directory → d'.get? place = some .directory)
    {place place' : List String} {steps : List String} (henter : d.enter place steps = .ok place') :
    d'.enter place steps = .ok place' := by
  induction steps generalizing place with
  | nil => exact henter
  | cons step steps ih =>
    rw [enter_cons] at henter ⊢
    cases hstep : d.advance place step with
    | error e =>
      rw [hstep] at henter
      cases henter
    | ok next =>
      have hstep' : d'.advance place step = .ok next := by
        rcases advance_eq_ok hstep with ⟨rfl, rfl⟩ | ⟨rfl, rfl⟩ | ⟨hdot, hdots, hlong, rfl, hget⟩
        · rfl
        · rfl
        · exact advance_name hdot hdots hlong (h _ hget)
      rw [hstep] at henter
      rw [hstep']
      exact ih henter

theorem Changes.leads {places : List (List String)} (hd : d.Changes d' places)
    (h : d.Leads path front name directory) : d'.Leads path front name directory where
  named := h.named
  dot := h.dot
  dots := h.dots
  enter := by
    have hstart : d'.start path = d.start path := by rw [start, hd.same, start]
    rw [hstart]
    exact enter_mono (fun place => (hd.directory place).mpr) h.enter

theorem Changes.target {places : List (List String)} (hd : d.Changes d' places)
    (h : d.Leads path front name directory) : d'.target path = d.target path := by
  rw [(hd.leads h).target, h.target]

/-- What a path leads to stays if nothing is changed at its place. -/
theorem Changes.node {places : List (List String)} (hd : d.Changes d' places)
    (h : d.Leads path front name directory) (hplace : directory ++ [name] ∉ places) :
    d'.node path = d.node path := by
  have htarget := hd.target h
  cases hd' : d.target path with
  | error e =>
    rw [Disk.node, Disk.node, htarget, hd']
    rfl
  | ok t =>
    obtain rfl := h.of_target hd'
    rw [node_of_target hd', node_of_target (htarget.trans hd'), hd.get? _ hplace]

/-! ## Processes -/

/-- What a disk does not keep from one process to the next. -/
structure Process where
  run : Nat
  incident? : Step → Option Incident

/-- The disk as another process finds it. -/
def under (d : Disk) (p : Process) : Disk := { d with run := p.run, incident? := p.incident? }

section

variable (d : Disk) (p : Process)

@[simp] theorem get?_under (place : List String) : (d.under p).get? place = d.get? place := rfl

@[simp] theorem enter_under (place steps : List String) :
    (d.under p).enter place steps = d.enter place steps := by
  induction steps generalizing place with
  | nil => rfl
  | cons step steps ih =>
    simp only [enter_cons, ih]
    rfl

@[simp] theorem target_under (path : String) : (d.under p).target path = d.target path := by
  unfold target
  simp only [enter_under]
  rfl

@[simp] theorem node_under (path : String) : (d.under p).node path = d.node path := by
  rw [node, target_under]
  rfl

@[simp] theorem exists?_under (path : String) : (d.under p).exists? path = d.exists? path := by
  rw [exists?, node_under, exists?]

@[simp] theorem read_under (path : String) : (d.under p).read path = d.read path := by
  rw [read, node_under]
  rfl

end

end Renaming.Disk
