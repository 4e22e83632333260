import Renaming.Proofs.Files.Rooted
import Renaming.Proofs.Files.Touch

/-!
# Writing that succeeds or fails

A write that fails before the file is moved to its place leaves all files but the temporary one as
they were (`Unreplaced`). One that gets past that leaves the data in the place of the file
(`Replaced`), and its backup as it was (`SameBackup`).
-/

namespace Renaming.Disk

open Files

variable {d d' : Disk} {path name : String} {data : ByteArray}

/-! ## Writing -/

/-- The directory of a file is made unless it is there. -/
def prepare (d : Disk) (path : String) : DiskM Unit :=
  unless d.exists? (parent path) do createParent (parent path)

/-- Writes a file that is to be moved elsewhere. -/
def fillTemporary (path : String) (data : ByteArray) : DiskM Unit :=
  removingTemporary path do
    openTemporary path
    writeData path data
    step .sync unchanged .ok

/-- Writing a file up to the move to its place. -/
def replaceFile (path : String) (data : ByteArray) : DiskM Unit := do
  let d ← get
  d.prepare path
  fillTemporary (temporaryPath path d.run) data
  removingTemporary (temporaryPath path d.run) (rename (temporaryPath path d.run) path)

theorem atomicWrite_eq (path : String) (data : ByteArray) :
    atomicWrite path data = (do replaceFile path data; step .syncParent unchanged .ok) := by
  unfold atomicWrite replaceFile
  rw [bind_assoc]
  congr
  funext d
  simp only [bind_assoc]
  unfold prepare fillTemporary
  split
  · rw [pure_bind]
  · rfl

/-- Once the file is at its place, an error can only come from the last step. -/
theorem run_atomicWrite (path : String) (data : ByteArray) :
    (atomicWrite path data).run d =
      match (replaceFile path data).run d with
      | (.error e, d') => (.error e, d')
      | (.ok (), d') =>
        match d'.incident? .syncParent with
        | some incident => (.error incident.error, d')
        | none => (.ok (), d') := by
  rw [atomicWrite_eq, run_bind]
  generalize (replaceFile path data).run d = ran
  obtain ⟨e | _, d'⟩ := ran
  · rfl
  · simp only [run_step]
    cases d'.incident? .syncParent <;> rfl

/-- Directories are made for a file, but none if it has one. -/
structure Prepared (d d' : Disk) (path : String) : Prop where
  grows : d.Grows d'
  same : d.exists? (parent path) = true → d' = d
  same_of_leads : ∀ front name directory, d.Leads path front name directory → d' = d
  deep : ∀ place, (d.start (parent path) ++ undotted (steps (parent path))).length < place.length →
    d'.get? place = d.get? place

theorem Prepared.refl : d.Prepared d path :=
  ⟨.refl, fun _ => rfl, fun _ _ _ _ => rfl, fun _ _ => rfl⟩

theorem prepared_prepare (path : String) : d.Prepared ((prepare d path).run d).2 path := by
  unfold prepare
  split
  · exact .refl
  · rename_i hparent
    obtain ⟨amount, hmade⟩ := d.exists_made (parent path)
    rw [hmade]
    constructor
    case grows => exact grows_missingFor _ _
    case same => exact fun h => absurd h hparent
    case same_of_leads =>
      intro front name directory h
      have hmissing : (d.missingFor (parent path)).1 = [] := by
        have hsteps := missing_of_enter h.enter_parent
        unfold start at hsteps
        unfold missingFor
        split
        · rfl
        · rw [hsteps]
      rw [hmissing, List.take_nil]
      rfl
    case deep => exact fun place => get?_missingFor _ _

/-- The work that `fillTemporary` carries out. -/
theorem alters_filling (path : String) (data : ByteArray) (d : Disk) : d.Alters (((do
    openTemporary path
    writeData path data
    step .sync unchanged .ok) : DiskM Unit).run d).2 path := by
  refine .bind alters_openTemporary fun _ d₁ => .bind alters_writeData fun _ d₂ => ?_
  refine .step (fun _ => .refl) fun d₃ h => ?_
  cases h
  exact .refl

theorem run_rename_eq_error {source : String} {e : FileError}
    (h : (rename source path).run d = (.error e, d')) : d' = d := by
  unfold rename at h
  rw [run_step] at h
  split at h
  · exact (Prod.mk.inj h).2.symm
  · cases h
  · exact (Prod.mk.inj h).2.symm

theorem alters_cleaned (path : String) (e : FileError) (d : Disk) :
    d.Alters (d.cleaned path e) path := by
  unfold cleaned
  split
  · exact .refl
  · exact alters_remove

/-- A write fails before the temporary file is opened, or after some work on that file, which is
then removed if the run goes on. -/
theorem replaceFile_error_cases {e : FileError}
    (h : (replaceFile path data).run d = (.error e, d')) :
    (prepare d path).run d = (.error e, d') ∨
      ∃ d₁ d₂, (prepare d path).run d = (.ok (), d₁) ∧
        d₁.Alters d₂ (temporaryPath path d.run) ∧ d' = d₂.cleaned (temporaryPath path d.run) e := by
  unfold replaceFile at h
  rw [run_get_bind, run_bind] at h
  generalize (prepare d path).run d = prepared at h ⊢
  obtain ⟨e' | _, d₁⟩ := prepared
  · exact .inl h
  -- Either the work on the temporary file fails, or the move of the whole file does.
  · simp only [run_bind] at h
    cases hfill : (fillTemporary (temporaryPath path d.run) data).run d₁ with
    | mk result d₂ =>
      rw [hfill] at h
      cases result with
      | error e' =>
        obtain ⟨d₃, hwork, rfl⟩ := run_removingTemporary_eq_error hfill
        cases h
        have hfilled := alters_filling (temporaryPath path d.run) data d₁
        rw [hwork] at hfilled
        exact .inr ⟨d₁, d₃, rfl, hfilled, rfl⟩
      | ok =>
        obtain ⟨d₃, hrename, rfl⟩ := run_removingTemporary_eq_error h
        obtain rfl := run_rename_eq_error hrename
        have hwork := run_removingTemporary_eq_ok hfill
        have hfilled := alters_filling (temporaryPath path d.run) data d₁
        rw [hwork] at hfilled
        exact .inr ⟨d₁, d₃, rfl, hfilled, rfl⟩

/-- A write that fails leaves the file as it was: of all files only the temporary one changed. -/
theorem of_replaceFile_error {e : FileError} (h : (replaceFile path data).run d = (.error e, d')) :
    ∃ d₁, d.Prepared d₁ path ∧ d₁.Alters d' (temporaryPath path d.run) := by
  have hprepared := d.prepared_prepare path
  rcases replaceFile_error_cases h with hprepare | ⟨d₁, d₂, hprepare, hwork, rfl⟩
  · rw [hprepare] at hprepared
    exact ⟨d', hprepared, .refl⟩
  · rw [hprepare] at hprepared
    exact ⟨d₁, hprepared, hwork.trans (alters_cleaned _ e d₂)⟩

/-- The file at a path holds the data, and of all other files only the temporary one changed. -/
structure Replaced (d d' : Disk) (path : String) (data : ByteArray) (directory : List String)
    (name : String) : Prop where
  target : d.target path = .ok ⟨directory, some name, false⟩
  changes : ∃ temporary, temporary.getLast? = some (temporaryName path d.run) ∧
    d.Changes d' [temporary, directory ++ [name]]
  get? : d'.get? (directory ++ [name]) = some (.file data)

theorem of_fillTemporary (h : (fillTemporary path data).run d = (.ok (), d')) :
    ∃ directory name front, d.Leads path front name directory ∧
      d.Changes d' [directory ++ [name]] ∧ d'.get? (directory ++ [name]) = some (.file data) := by
  have hwork := run_removingTemporary_eq_ok h
  obtain ⟨_, d₁, hopen, hwork⟩ := run_bind_eq_ok hwork
  obtain ⟨_, d₂, hdata, hsync⟩ := run_bind_eq_ok hwork
  have hopened := run_step_eq_ok hopen
  have hfilled := run_step_eq_ok hdata
  cases run_step_eq_ok hsync
  obtain ⟨place, hplace, -⟩ := of_fill hopened
  obtain ⟨directory, name, htarget, -, -⟩ := of_placeToOpen hplace
  obtain ⟨front, hleads⟩ := exists_leads htarget
  obtain ⟨hchanges, -⟩ := hleads.filled hopened
  obtain ⟨hchanges', hget⟩ := (hchanges.leads hleads).filled hfilled
  exact ⟨directory, name, front, hleads, hchanges.trans hchanges', hget⟩

/-- A write that succeeds fills the temporary file and moves it. -/
theorem replaceFile_ok_cases (h : (replaceFile path data).run d = (.ok (), d')) :
    ∃ d₁ d₂, d.Prepared d₁ path ∧
      (fillTemporary (temporaryPath path d.run) data).run d₁ = (.ok (), d₂) ∧
      move (temporaryPath path d.run) path d₂ = .ok d' := by
  unfold replaceFile at h
  rw [run_get_bind] at h
  obtain ⟨_, d₁, hprepare, h⟩ := run_bind_eq_ok h
  obtain ⟨_, d₂, hfill, h⟩ := run_bind_eq_ok h
  have hprepared : d.Prepared d₁ path := by simpa only [hprepare] using d.prepared_prepare path
  exact ⟨d₁, d₂, hprepared, hfill, run_step_eq_ok (run_removingTemporary_eq_ok h)⟩

/-- After a write that succeeds the file holds the data. -/
theorem of_replaceFile_ok (h : (replaceFile path data).run d = (.ok (), d')) :
    ∃ d₁ directory name, d.Prepared d₁ path ∧ d₁.Replaced d' path data directory name := by
  obtain ⟨front, hnamed⟩ := exists_named_temporary path d.run
  obtain ⟨d₁, d₂, hprepared, hfill, hmove⟩ := replaceFile_ok_cases h
  obtain ⟨directory', name', front', hsource, hfilled, hdata⟩ := of_fillTemporary hfill
  obtain ⟨place, -, -, hplace, -⟩ := of_move hmove
  obtain ⟨directory, name, htarget, -⟩ := of_placeToReplace hplace
  obtain ⟨front'', hleads⟩ := exists_leads htarget
  obtain ⟨hmoved, hget⟩ := (hfilled.leads hsource).moved hleads hdata hmove
  refine ⟨d₁, directory, name, hprepared, ?_, ⟨directory' ++ [name'], ?_, ?_⟩, hget⟩
  · rw [← htarget]
    exact (hfilled.target (hfilled.symm.leads hleads)).symm
  · have hrun : d₁.run = d.run := by rw [hprepared.grows.same]
    rw [List.getLast?_concat, hnamed.name_eq hsource.named, hrun]
  · exact (hfilled.subset (by simp)).trans hmoved

/-! ## What a replacement leaves -/

theorem Grows.node (h : d.Grows d') {node : Node} (hnode : d.node path = .ok node) :
    d'.node path = .ok node :=
  node_mono (by rw [h.same]) (fun place => h.kept place .directory)
    (fun place content _ => h.kept place (.file content)) hnode

/-- For a file that is there no directories are made. -/
theorem Prepared.same_of_exists {directory : List String} (h : d.Prepared d' path)
    (htarget : d'.target path = .ok ⟨directory, some name, false⟩)
    (hexists : d.exists? path = true) : d' = d := by
  obtain ⟨t, ht⟩ := exists_target hexists
  have ht' := target_mono (by rw [h.grows.same]) (fun place => h.grows.kept place .directory) ht
  obtain rfl := Except.ok.inj (ht'.symm.trans htarget)
  obtain ⟨front, hleads⟩ := exists_leads ht
  exact h.same_of_leads _ _ _ hleads

namespace Replaced

variable {directory : List String} (h : d.Replaced d' path data directory name)

include h

theorem read : d'.read path = .ok data := by
  obtain ⟨front, hleads⟩ := exists_leads h.target
  obtain ⟨temporary, -, hchanges⟩ := h.changes
  exact read_of_get? ((hchanges.target hleads).trans h.target) h.get?

/-- The backup of the file is neither the file nor the temporary one. -/
theorem changes_backup : ∃ places, d.Changes d' places ∧
    ∀ place ∈ places, place.getLast? ≠ some (name ++ ".bak") := by
  obtain ⟨temporary, hlast, hchanges⟩ := h.changes
  refine ⟨_, hchanges, fun place hplace => ?_⟩
  rcases List.mem_cons.mp hplace with rfl | hplace
  · rw [hlast]
    exact fun heq => (temporaryName_ne (name?_of_target h.target) d.run).2 (Option.some.inj heq)
  · rw [List.mem_singleton.mp hplace, List.getLast?_concat]
    exact fun heq => backup_ne name (Option.some.inj heq).symm

theorem get?_backup {place : List String} (hplace : place.getLast? = some (name ++ ".bak")) :
    d'.get? place = d.get? place := by
  obtain ⟨places, hchanges, hplaces⟩ := h.changes_backup
  exact hchanges.get? place fun hmem => hplaces place hmem hplace

theorem node_backup : d'.node (backupPath path) = d.node (backupPath path) := by
  obtain ⟨front, hleads⟩ := exists_leads h.target
  obtain ⟨places, hchanges, hplaces⟩ := h.changes_backup
  exact hchanges.node hleads.backup fun hmem => hplaces _ hmem List.getLast?_concat

end Replaced

/-- Where every file stands in a directory, making directories above a file does not make another
path of the same depth lead anywhere. -/
theorem Prepared.exists?_of_rooted (h : d.Prepared d' path) (hrooted : d.Rooted) {path' : String}
    (hdots : ".." ∉ steps path') (habsolute : isAbsolute path' = isAbsolute path)
    (hdepth : (undotted (steps path')).length = (undotted (steps path)).length)
    (hexists : d'.exists? path' = true) : d.exists? path' = true := by
  by_cases hnil : undotted (steps path') = []
  case pos =>
    obtain ⟨t, htarget⟩ := exists_target hexists
    have hempty : d.enter (d.start path') (steps path') = .ok (d.start path') := by
      rw [← enter_undotted, hnil]
      rfl
    rw [exists?_iff]
    exact ⟨_, node_of_enter (target_eq_ok htarget).1 hempty⟩
  case neg =>
    have hsome : undotted (steps path) ≠ [] := by
      rwa [← List.length_pos_iff, ← hdepth, List.length_pos_iff]
    apply hrooted.exists?_of_deep hdots (by rw [h.grows.same]) _ hexists
    apply h.deep
    have hstart : d.start (parent path) = d.start path' := by
      rw [start, isAbsolute_parent hsome, ← habsolute, start]
    rw [hstart, undotted_steps_parent, List.length_append, List.length_append,
      List.length_dropLast, ← hdepth]
    have hpos := List.length_pos_iff.mpr hnil
    omega

/-- No file with the name of the backup was made, changed or removed. If the directory of the file
was not there, directories were made, and a path with double dots may lead through them. -/
structure SameBackup (d d' : Disk) (path : String) : Prop where
  files : ∀ name place content, name? path = some name →
    place.getLast? = some (name ++ ".bak") →
    (d'.get? place = some (.file content) ↔ d.get? place = some (.file content))
  node : d.exists? (parent path) = true ∨ d.exists? path = true →
    d'.node (backupPath path) = d.node (backupPath path)
  missing : d.Rooted → ".." ∉ steps path → d.exists? (backupPath path) = false →
    d'.exists? (backupPath path) = false

theorem Replaced.sameBackup {d₁ : Disk} {directory : List String}
    (h : d₁.Replaced d' path data directory name) (hprepared : d.Prepared d₁ path) :
    d.SameBackup d' path where
  files name' place content hname hplace := by
    obtain rfl := Option.some.inj (hname.symm.trans (name?_of_target h.target))
    rw [h.get?_backup hplace]
    exact ⟨hprepared.grows.file place content, hprepared.grows.kept place (.file content)⟩
  node hthere := by
    have hsame := hthere.elim hprepared.same (hprepared.same_of_exists h.target)
    rw [h.node_backup, hsame]
  missing hrooted hdots hnone := by
    obtain ⟨front, hleads⟩ := exists_leads h.target
    have hpath := hleads.named.steps
    have hbackup := hleads.named.backup.steps
    rw [exists?, h.node_backup, ← exists?]
    rw [← Bool.not_eq_true] at hnone ⊢
    refine fun hexists => hnone (hprepared.exists?_of_rooted hrooted ?_ ?_ ?_ hexists)
    · rw [hpath] at hdots
      rw [hbackup]
      simp only [List.mem_append, List.mem_singleton, not_or] at hdots ⊢
      exact ⟨hdots.1, (backup_ne_dots name).2.symm⟩
    · exact hleads.named.isAbsolute_backupPath
    · rw [hbackup, hpath, undotted_concat _ (backup_ne_dots name).1, undotted_concat _ hleads.dot,
        List.length_append, List.length_append, List.length_singleton, List.length_singleton]

/-- The file at a path is what it was, and of all other files only the temporary one changed. If
there was no file and no directory for it, directories may have been made. -/
structure Unreplaced (d d' : Disk) (path : String) : Prop where
  files : ∀ place content, place.getLast? ≠ some (temporaryName path d.run) →
    (d'.get? place = some (.file content) ↔ d.get? place = some (.file content))
  node : ∀ node, d.node path = .ok node → d'.node path = .ok node
  missing : d.exists? (parent path) = true ∨ d.Rooted ∧ ".." ∉ steps path →
    d.exists? path = false → d'.exists? path = false

theorem Alters.unreplaced {d₁ : Disk} (haltered : d₁.Alters d' (temporaryPath path d.run))
    (hprepared : d.Prepared d₁ path) : d.Unreplaced d' path := by
  obtain ⟨front, hnamed⟩ := exists_named_temporary path d.run
  have h := haltered.touches hnamed
  have hname : name? path ≠ some (temporaryName path d.run) :=
    fun heq => (temporaryName_ne heq d.run).1 rfl
  constructor
  case files =>
    intro place content hplace
    rw [h.get? hplace]
    exact ⟨hprepared.grows.file place content, hprepared.grows.kept place (.file content)⟩
  case node => exact fun node hnode => h.node hname (hprepared.grows.node hnode)
  case missing =>
    intro hthere hnone
    rw [← Bool.not_eq_true] at hnone ⊢
    intro hexists
    obtain ⟨node, hnode⟩ := exists?_iff.mp hexists
    have hexists₁ : d₁.exists? path = true := exists?_iff.mpr ⟨node, h.symm.node hname hnode⟩
    rcases hthere with hparent | ⟨hrooted, hdots⟩
    · exact hnone (hprepared.same hparent ▸ hexists₁)
    · exact hnone (hprepared.exists?_of_rooted hrooted hdots rfl rfl hexists₁)

end Renaming.Disk
