import Renaming.Proofs.Files.Write

/-!
# Work above and beside a file

Before a file is moved to its place, directories above it may be made (`Grows`) and the temporary
file beside it is worked on (`Alters`). Neither changes any other file, wherever it stops.
-/

namespace Renaming.Disk

open Files

variable {d d' d'' : Disk} {path name : String} {data : ByteArray}

/-! ## What a path leads to -/

theorem target_mono (hhere : d'.here = d.here)
    (hdirectory : ∀ place, d.get? place = some .directory → d'.get? place = some .directory)
    {t : Target} (h : d.target path = .ok t) : d'.target path = .ok t := by
  unfold target at h ⊢
  cases hrefusal : refusal? path with
  | some e =>
    rw [hrefusal] at h
    cases h
  | none =>
    simp only [hrefusal] at h ⊢
    obtain ⟨directory, henter, h⟩ := bind_eq_ok h
    rw [hhere, enter_mono hdirectory henter]
    exact h

/-- What a path leads to stays if directories do and the file of that name does. -/
theorem node_mono (hhere : d'.here = d.here)
    (hdirectory : ∀ place, d.get? place = some .directory → d'.get? place = some .directory)
    (hfile : ∀ place content, place.getLast? = name? path → d.get? place = some (.file content) →
      d'.get? place = some (.file content))
    {node : Node} (h : d.node path = .ok node) : d'.node path = .ok node := by
  obtain ⟨⟨directory, _ | name, slash⟩, htarget, hnode⟩ := bind_eq_ok h
  · have htarget' := target_mono hhere hdirectory htarget
    rw [Disk.node, htarget']
    exact hnode
  · rw [node_of_target htarget] at h
    rw [node_of_target (target_mono hhere hdirectory htarget)]
    have hlast : (directory ++ [name]).getLast? = name? path := by
      rw [List.getLast?_concat, name?_of_target htarget]
    cases hget : d.get? (directory ++ [name]) with
    | none =>
      rw [hget] at h
      cases h
    | some found =>
      rw [hget] at h
      cases found with
      | file content => rwa [hfile _ content hlast hget]
      | directory => rwa [hdirectory _ hget]

/-! ## Directories that are made -/

/-- Nothing was changed, only directories were made. -/
structure Grows (d d' : Disk) : Prop where
  same : d' = { d with entries := d'.entries }
  kept : ∀ place node, d.get? place = some node → d'.get? place = some node
  file : ∀ place content, d'.get? place = some (.file content) →
    d.get? place = some (.file content)

namespace Grows

theorem refl : d.Grows d := ⟨rfl, fun _ _ h => h, fun _ _ h => h⟩

theorem trans (h : d.Grows d') (h' : d'.Grows d'') : d.Grows d'' where
  same := by rw [h'.same, h.same]
  kept place node hget := h'.kept place node (h.kept place node hget)
  file place content hget := h.file place content (h'.file place content hget)

theorem put {place : List String} (hroot : place ≠ [])
    (hfile : ∀ content, d.get? place ≠ some (.file content)) :
    d.Grows (d.put place .directory) := by
  refine ⟨rfl, fun place' node hget => ?_, fun place' content hget => ?_⟩
  · rw [get?_put hroot]
    split
    · rename_i heq
      cases node with
      | file content => exact absurd (heq ▸ hget) (hfile content)
      | directory => rfl
    · exact hget
  · rw [get?_put hroot] at hget
    split at hget
    · cases hget
    · exact hget

theorem putDirectories {places : List (List String)}
    (h : ∀ place ∈ places, place ≠ [] ∧ ∀ content, d.get? place ≠ some (.file content)) :
    d.Grows (d.putDirectories places) := by
  induction places generalizing d with
  | nil => exact refl
  | cons place places ih =>
    obtain ⟨⟨hroot, hfile⟩, hplaces⟩ := List.forall_mem_cons.mp h
    have hput := Grows.put hroot hfile
    refine hput.trans (ih fun place' hplace' => ?_)
    obtain ⟨hroot', hfile'⟩ := hplaces place' hplace'
    exact ⟨hroot', fun content hget => hfile' content (hput.file _ _ hget)⟩

end Grows

theorem get?_of_mem_missing {place : List String} {steps : List String} {made : List String}
    (h : made ∈ (d.missing place steps).1) : d.get? made = none := by
  fun_induction missing d place steps with
  | case1 => exact nomatch h
  | case2 place steps ih | case3 place steps ih => exact ih h
  | case4 => exact nomatch h
  | case5 place name steps _ _ _ _ ih => exact ih h
  | case6 => exact nomatch h
  | case7 place name steps _ _ _ hget places e hmissing ih =>
    rcases List.mem_cons.mp h with rfl | h
    · exact hget
    · exact ih (by simpa [hmissing] using h)

/-- What is missing along some steps is not deeper than they are long, for steps up do not lead
deeper. -/
theorem length_of_mem_missing {place : List String} {steps : List String} {made : List String}
    (h : made ∈ (d.missing place steps).1) :
    made.length ≤ place.length + (undotted steps).length := by
  fun_induction missing d place steps with
  | case1 => exact nomatch h
  | case2 place steps ih => exact ih h
  | case3 place steps ih =>
    have hmade := ih h
    rw [List.length_dropLast] at hmade
    rw [undotted_cons (by decide), List.length_cons]
    omega
  | case4 => exact nomatch h
  | case5 place name steps hdot _ _ _ ih =>
    have hmade := ih h
    rw [List.length_append, List.length_singleton] at hmade
    rw [undotted_cons hdot, List.length_cons]
    omega
  | case6 => exact nomatch h
  | case7 place name steps hdot _ _ _ places e hmissing ih =>
    rw [undotted_cons hdot, List.length_cons]
    rcases List.mem_cons.mp h with rfl | h
    · rw [List.length_append, List.length_singleton]
      omega
    · have hmade := ih (by simpa [hmissing] using h)
      rw [List.length_append, List.length_singleton] at hmade
      omega

theorem get?_putDirectories {places : List (List String)} {place : List String}
    (hroot : [] ∉ places) (hplace : place ∉ places) :
    (d.putDirectories places).get? place = d.get? place := by
  induction places generalizing d with
  | nil => rfl
  | cons first places ih =>
    simp only [List.mem_cons, not_or] at hroot hplace
    obtain ⟨hfirst, hroot⟩ := hroot
    obtain ⟨hne, hplace⟩ := hplace
    calc ((d.put first .directory).putDirectories places).get? place
      _ = (d.put first .directory).get? place := ih hroot hplace
      _ = d.get? place := by rw [get?_put (Ne.symm hfirst), if_neg hne]

/-- What is missing is not there, and it stands above the file. -/
theorem of_mem_missingFor {made : List String} (h : made ∈ (d.missingFor path).1) :
    d.get? made = none ∧ made.length ≤ (d.start path ++ undotted (steps path)).length := by
  unfold missingFor at h
  split at h
  · exact nomatch h
  · rw [List.length_append]
    exact ⟨get?_of_mem_missing h, length_of_mem_missing h⟩

theorem root_notMem_missingFor : [] ∉ (d.missingFor path).1 :=
  fun h => nomatch (of_mem_missingFor h).1

theorem grows_missingFor (path : String) (amount : Nat) :
    d.Grows (d.putDirectories ((d.missingFor path).1.take amount)) := by
  apply Grows.putDirectories
  intro place hplace
  have hmem := List.mem_of_mem_take hplace
  refine ⟨fun hroot => root_notMem_missingFor (hroot ▸ hmem), fun content hget => ?_⟩
  exact nomatch (of_mem_missingFor hmem).1.symm.trans hget

theorem get?_missingFor (path : String) (amount : Nat) {place : List String}
    (hdeep : (d.start path ++ undotted (steps path)).length < place.length) :
    (d.putDirectories ((d.missingFor path).1.take amount)).get? place = d.get? place := by
  apply get?_putDirectories
  · exact fun hroot => root_notMem_missingFor (List.mem_of_mem_take hroot)
  · intro hplace
    exact absurd (of_mem_missingFor (List.mem_of_mem_take hplace)).2 (Nat.not_le.mpr hdeep)

/-- Making directories makes some of those that are missing, and nothing else. -/
theorem exists_made (path : String) :
    ∃ amount, ((createParent path).run d).2 =
      d.putDirectories ((d.missingFor path).1.take amount) := by
  unfold createParent
  rw [run_get_bind]
  generalize d.missingFor path = missing
  obtain ⟨places, e⟩ := missing
  simp only
  rw [run_bind, run_step]
  cases d.incident? .createParent with
  | some incident => exact ⟨incident.amount, rfl⟩
  | none =>
    refine ⟨places.length, ?_⟩
    rw [List.take_length]
    cases e <;> rfl

/-! ## Work on one file -/

/-- The path leads to the place of a file, whether there is one or not. -/
def LeadsTo (d : Disk) (path : String) (place : List String) : Prop :=
  ∃ directory name, d.target path = .ok ⟨directory, some name, false⟩ ∧ place = directory ++ [name]

variable {place place' : List String}

theorem LeadsTo.unique (h : d.LeadsTo path place) (h' : d.LeadsTo path place') :
    place' = place := by
  obtain ⟨directory, name, htarget, rfl⟩ := h
  obtain ⟨directory', name', htarget', rfl⟩ := h'
  cases htarget.symm.trans htarget'
  rfl

theorem leadsTo_of_placeToOpen (h : d.placeToOpen path = .ok place) :
    d.LeadsTo path place ∧ d.get? place ≠ some .directory := by
  obtain ⟨directory, name, htarget, hplace, hget⟩ := of_placeToOpen h
  exact ⟨⟨directory, name, htarget, hplace⟩, hget⟩

theorem Changes.leadsTo_iff {places : List (List String)} (h : d.Changes d' places) :
    d'.LeadsTo path place ↔ d.LeadsTo path place := by
  constructor
  · rintro ⟨directory, name, htarget, hplace⟩
    obtain ⟨front, hleads⟩ := exists_leads htarget
    exact ⟨directory, name, (h.symm.target hleads).trans htarget, hplace⟩
  · rintro ⟨directory, name, htarget, hplace⟩
    obtain ⟨front, hleads⟩ := exists_leads htarget
    exact ⟨directory, name, (h.target hleads).trans htarget, hplace⟩

/-- Only the file that the path leads to was changed. -/
def Alters (d d' : Disk) (path : String) : Prop :=
  ∃ places, (∀ place ∈ places, d.LeadsTo path place) ∧ d.Changes d' places

namespace Alters

theorem refl : d.Alters d path := ⟨[], List.forall_mem_nil _, .refl⟩

theorem trans (h : d.Alters d' path) (h' : d'.Alters d'' path) : d.Alters d'' path := by
  obtain ⟨places, hplaces, hchanges⟩ := h
  obtain ⟨places', hplaces', hchanges'⟩ := h'
  refine ⟨places ++ places', fun place hplace => ?_, ?_⟩
  · exact (List.mem_append.mp hplace).elim (hplaces place) fun hplace =>
      hchanges.leadsTo_iff.mp (hplaces' place hplace)
  · exact (hchanges.subset (List.subset_append_left ..)).trans
      (hchanges'.subset (List.subset_append_right ..))

theorem leadsTo_iff (h : d.Alters d' path) {path' : String} :
    d'.LeadsTo path' place ↔ d.LeadsTo path' place := by
  obtain ⟨places, -, hchanges⟩ := h
  exact hchanges.leadsTo_iff

theorem get? (h : d.Alters d' path) (hplace : ¬d.LeadsTo path place) :
    d'.get? place = d.get? place := by
  obtain ⟨places, hplaces, hchanges⟩ := h
  exact hchanges.get? place fun hmem => hplace (hplaces place hmem)

theorem put (hplace : d.placeToOpen path = .ok place) (content : ByteArray) :
    d.Alters (d.put place (.file content)) path := by
  obtain ⟨hleads, hget⟩ := leadsTo_of_placeToOpen hplace
  exact ⟨[place], fun _ hmem => List.mem_singleton.mp hmem ▸ hleads,
    .put (List.mem_singleton_self _) hget content⟩

theorem erase (hplace : d.placeToOpen path = .ok place) : d.Alters (d.erase place) path := by
  obtain ⟨hleads, hget⟩ := leadsTo_of_placeToOpen hplace
  exact ⟨[place], fun _ hmem => List.mem_singleton.mp hmem ▸ hleads,
    .erase (List.mem_singleton_self _) hget⟩

/-- A step alters a file if an incident and its success do. -/
theorem step {s : Step} {partly : Nat → Disk → Disk} {whole : Disk → Except FileError Disk}
    (hpartly : ∀ amount, d.Alters (partly amount d) path)
    (hwhole : ∀ d', whole d = .ok d' → d.Alters d' path) :
    d.Alters ((Disk.step s partly whole).run d).2 path := by
  rw [run_step]
  split
  · exact hpartly _
  · rename_i h
    exact hwhole _ h
  · exact .refl

theorem bind {α β : Type} {work : DiskM α} {next : α → DiskM β}
    (hwork : d.Alters (work.run d).2 path)
    (hnext : ∀ a (d₁ : Disk), d₁.Alters ((next a).run d₁).2 path) :
    d.Alters ((work >>= next).run d).2 path := by
  rw [run_bind]
  generalize work.run d = ran at hwork ⊢
  obtain ⟨e | a, d₁⟩ := ran
  · exact hwork
  · exact hwork.trans (hnext a d₁)

end Alters

theorem alters_fill (h : d.fill path data = .ok d') : d.Alters d' path := by
  obtain ⟨place, hplace, rfl⟩ := of_fill h
  exact .put hplace data

theorem alters_openTemporary : d.Alters ((openTemporary path).run d).2 path :=
  .step (fun _ => .refl) fun _ => alters_fill

theorem alters_writeData : d.Alters ((writeData path data).run d).2 path := by
  refine .step (fun amount => ?_) fun _ => alters_fill
  cases h : d.fill path (data.extract 0 amount) with
  | error e => exact .refl
  | ok d' => exact alters_fill h

theorem alters_remove : d.Alters ((remove path).run d).2 path := by
  refine .step (fun _ => .refl) fun d' h => ?_
  obtain ⟨place, hplace, h⟩ := bind_eq_ok h
  obtain rfl := Except.ok.inj h
  exact .erase hplace

/-! ## Work on files of one name -/

/-- Only files of this name were changed. -/
def Touches (d d' : Disk) (name : String) : Prop :=
  ∃ places, (∀ place ∈ places, place.getLast? = some name) ∧ d.Changes d' places

/-- The file that a path leads to has the last name of the path. -/
theorem Alters.touches {front : String} (h : d.Alters d' path) (hnamed : Named path front name) :
    d.Touches d' name := by
  obtain ⟨places, hplaces, hchanges⟩ := h
  refine ⟨places, fun place hplace => ?_, hchanges⟩
  obtain ⟨directory, name', htarget, rfl⟩ := hplaces place hplace
  obtain ⟨front', hleads⟩ := exists_leads htarget
  rw [List.getLast?_concat, hnamed.name_eq hleads.named]

namespace Touches

theorem symm (h : d.Touches d' name) : d'.Touches d name := by
  obtain ⟨places, hplaces, hchanges⟩ := h
  exact ⟨places, hplaces, hchanges.symm⟩

theorem get? (h : d.Touches d' name) (hplace : place.getLast? ≠ some name) :
    d'.get? place = d.get? place := by
  obtain ⟨places, hplaces, hchanges⟩ := h
  exact hchanges.get? place fun hmem => hplace (hplaces place hmem)

theorem node (h : d.Touches d' name) (hname : name? path ≠ some name) {node : Node}
    (hnode : d.node path = .ok node) : d'.node path = .ok node := by
  obtain ⟨places, hplaces, hchanges⟩ := h
  refine node_mono (by rw [hchanges.same]) (fun place => (hchanges.directory place).mpr) ?_ hnode
  intro place content hlast hget
  rw [hchanges.get? place fun hmem => hname (hlast.symm.trans (hplaces place hmem)), hget]

end Touches

end Renaming.Disk
