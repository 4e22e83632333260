import Renaming.Files.Write
import Renaming.Proofs.Files.Disk

/-!
# What writing leaves

Work on a disk that succeeds says what each of its steps did. A file that was filled or moved holds
the data (`Leads.filled`, `Leads.moved`), and a backup that was made holds what the file held.
-/

namespace Renaming.Disk

open Files

variable {d d' : Disk}

/-! ## Running -/

theorem run_bind {α β : Type} (work : DiskM α) (next : α → DiskM β) :
    (work >>= next).run d =
      match work.run d with
      | (.ok a, d₁) => (next a).run d₁
      | (.error e, d₁) => (.error e, d₁) := by
  rw [ExceptT.run_bind]
  simp only [bind, StateT.bind]
  cases work.run d with
  | mk result d₁ => cases result <;> rfl

theorem run_get_bind {β : Type} (next : Disk → DiskM β) :
    (get >>= next : DiskM β).run d = (next d).run d := rfl

theorem run_step (s : Step) (partly : Nat → Disk → Disk) (whole : Disk → Except FileError Disk) :
    (step s partly whole).run d =
      match d.incident? s, whole d with
      | some incident, _ => (.error incident.error, partly incident.amount d)
      | none, .ok d' => (.ok (), d')
      | none, .error e => (.error e, d) := by
  unfold step
  rw [run_get_bind]
  cases d.incident? s with
  | some incident => rfl
  | none =>
    simp only
    cases whole d <;> rfl

theorem run_tryCatch {α : Type} (work : DiskM α) (rescue : FileError → DiskM α) :
    (tryCatch work rescue).run d =
      match work.run d with
      | (.ok a, d₁) => (.ok a, d₁)
      | (.error e, d₁) => (rescue e).run d₁ := by
  simp only [tryCatch, tryCatchThe, MonadExceptOf.tryCatch, ExceptT.tryCatch, ExceptT.run,
    ExceptT.mk, bind, StateT.bind]
  obtain ⟨result, d₁⟩ := work d
  cases result <;> rfl

/-- The disk after work on a temporary file that failed: the file is removed, unless the run ended
there. -/
def cleaned (path : String) (e : FileError) (d : Disk) : Disk :=
  if e = .interrupted then d else ((remove path).run d).2

theorem run_removingTemporary (path : String) (work : DiskM Unit) :
    (removingTemporary path work).run d =
      match work.run d with
      | (.ok (), d₁) => (.ok (), d₁)
      | (.error e, d₁) =>
        (.error e, d₁.cleaned path e) := by
  unfold removingTemporary cleaned
  rw [run_tryCatch]
  obtain ⟨e | _, d₁⟩ := work.run d
  · by_cases he : e = .interrupted
    · subst he
      rfl
    · simp only [beq_iff_eq, he, if_false]
      rw [run_bind, run_tryCatch]
      obtain ⟨_ | _, d₂⟩ := (remove path).run d₁ <;> rfl
  · rfl

/-! ## Work that succeeds -/

theorem run_bind_eq_ok {α β : Type} {work : DiskM α} {next : α → DiskM β} {b : β}
    (h : (work >>= next).run d = (.ok b, d')) :
    ∃ a d₁, work.run d = (.ok a, d₁) ∧ (next a).run d₁ = (.ok b, d') := by
  rw [run_bind] at h
  split at h
  · rename_i a d₁ hwork
    exact ⟨a, d₁, hwork, h⟩
  · cases h

theorem run_step_eq_ok {s : Step} {partly : Nat → Disk → Disk}
    {whole : Disk → Except FileError Disk}
    (h : (step s partly whole).run d = (.ok (), d')) : whole d = .ok d' := by
  rw [run_step] at h
  split at h
  · cases h
  · rename_i hwhole
    cases h
    exact hwhole
  · cases h

theorem run_removingTemporary_eq_ok {path : String} {work : DiskM Unit}
    (h : (removingTemporary path work).run d = (.ok (), d')) : work.run d = (.ok (), d') := by
  rw [run_removingTemporary] at h
  split at h
  · rename_i hwork
    exact hwork.trans h
  · cases h

theorem run_removingTemporary_eq_error {path : String} {work : DiskM Unit} {e : FileError}
    (h : (removingTemporary path work).run d = (.error e, d')) :
    ∃ d₁, work.run d = (.error e, d₁) ∧ d' = d₁.cleaned path e := by
  rw [run_removingTemporary] at h
  split at h
  · cases h
  · rename_i d₁ hwork
    cases h
    exact ⟨d₁, hwork, rfl⟩

/-! ## Places -/

variable {path front name : String} {directory : List String}

theorem Leads.placeToOpen (h : d.Leads path front name directory) {place : List String}
    (hplace : d.placeToOpen path = .ok place) :
    d.target path = .ok ⟨directory, some name, false⟩ ∧ place = directory ++ [name] ∧
      d.get? place ≠ some .directory := by
  obtain ⟨directory', name', htarget, rfl, hget⟩ := of_placeToOpen hplace
  cases h.of_target htarget
  exact ⟨htarget, rfl, hget⟩

theorem Leads.placeToReplace (h : d.Leads path front name directory) {place : List String}
    (hplace : d.placeToReplace path = .ok place) :
    place = directory ++ [name] ∧ d.get? place ≠ some .directory := by
  obtain ⟨directory', name', htarget, rfl, hget⟩ := of_placeToReplace hplace
  cases h.of_target htarget
  exact ⟨rfl, hget⟩

theorem Leads.get?_of_read (h : d.Leads path front name directory) {content : ByteArray}
    (hread : d.read path = .ok content) : d.get? (directory ++ [name]) = some (.file content) := by
  obtain ⟨directory', name', htarget, hget⟩ := target_of_file (node_of_read hread)
  cases h.of_target htarget
  exact hget

/-! ## What the steps do -/

theorem of_fill {data : ByteArray} (h : d.fill path data = .ok d') :
    ∃ place, d.placeToOpen path = .ok place ∧ d' = d.put place (.file data) := by
  obtain ⟨place, hplace, h⟩ := bind_eq_ok h
  exact ⟨place, hplace, (Except.ok.inj h).symm⟩

theorem of_move {target : String} (h : move path target d = .ok d') :
    ∃ place old content, d.placeToReplace target = .ok place ∧ d.placeToOpen path = .ok old ∧
      d.read path = .ok content ∧ d' = (d.erase old).put place (.file content) := by
  obtain ⟨place, hplace, h⟩ := bind_eq_ok h
  obtain ⟨old, hold, h⟩ := bind_eq_ok h
  obtain ⟨content, hread, h⟩ := bind_eq_ok h
  exact ⟨place, old, content, hplace, hold, hread, (Except.ok.inj h).symm⟩

/-! ## Writing -/

variable {data : ByteArray}

/-- A file that data was put into holds the data. -/
theorem Leads.filled (h : d.Leads path front name directory) (hfill : d.fill path data = .ok d') :
    d.Changes d' [directory ++ [name]] ∧ d'.get? (directory ++ [name]) = some (.file data) := by
  obtain ⟨place, hplace, rfl⟩ := of_fill hfill
  obtain ⟨-, rfl, hget⟩ := h.placeToOpen hplace
  exact ⟨.put (List.mem_singleton_self _) hget data,
    by rw [get?_put (List.concat_ne_nil _ _), if_pos rfl]⟩

/-- A file that was moved holds what it held. -/
theorem Leads.moved {source before name' : String} {directory' : List String}
    (hsource : d.Leads source before name' directory')
    (h : d.Leads path front name directory)
    (hdata : d.get? (directory' ++ [name']) = some (.file data))
    (hmove : move source path d = .ok d') :
    d.Changes d' [directory' ++ [name'], directory ++ [name]] ∧
      d'.get? (directory ++ [name]) = some (.file data) := by
  obtain ⟨place, old, content, hplace, hold, hread, rfl⟩ := of_move hmove
  obtain ⟨rfl, hnew⟩ := h.placeToReplace hplace
  obtain ⟨-, rfl, hgone⟩ := hsource.placeToOpen hold
  obtain rfl : content = data := by
    have hcontent := hsource.get?_of_read hread
    rw [hdata] at hcontent
    exact (Node.file.inj (Option.some.inj hcontent)).symm
  have herased : d.Changes (d.erase (directory' ++ [name']))
      [directory' ++ [name'], directory ++ [name]] := .erase (by simp) hgone
  have hput := mt (herased.directory _).mp hnew
  exact ⟨herased.trans (.put (by simp) hput content),
    by rw [get?_put (List.concat_ne_nil _ _), if_pos rfl]⟩

/-! ## Backups -/

theorem fill_eq_ok (h : d.fill path data = .ok d') : d'.read path = .ok data := by
  obtain ⟨place, hplace, -⟩ := of_fill h
  obtain ⟨directory, name, htarget, -⟩ := of_placeToOpen hplace
  obtain ⟨front, hleads⟩ := exists_leads htarget
  obtain ⟨hchanges, hget⟩ := hleads.filled h
  exact read_of_get? ((hchanges.target hleads).trans htarget) hget

theorem copy_eq_ok {target : String} (h : (copy path target).run d = (.ok (), d')) :
    ∃ content, d.read path = .ok content ∧ d'.read target = .ok content := by
  unfold copy at h
  rw [run_get_bind] at h
  split at h
  · cases h
  · cases h
  · rename_i content hnode
    exact ⟨content, read_of_node hnode, fill_eq_ok (run_step_eq_ok h)⟩

/-- A backup holds what the file holds. It is made only if there is a file and no backup. -/
theorem backupOnce_eq_ok {made : Bool} (h : (backupOnce path).run d = (.ok made, d')) :
    if d.exists? path = true ∧ d.exists? (backupPath path) = false then
      ∃ content, d.read path = .ok content ∧ d'.read (backupPath path) = .ok content
    else d' = d := by
  unfold backupOnce at h
  rw [run_get_bind] at h
  simp only [Bool.and_eq_true, Bool.not_eq_true'] at h
  split at h
  · rename_i hwanted
    obtain ⟨_, d₁, hcopy, h⟩ := run_bind_eq_ok h
    cases h
    rw [if_pos hwanted]
    exact copy_eq_ok hcopy
  · rename_i hwanted
    cases h
    rw [if_neg hwanted]

end Renaming.Disk
