import Renaming.Proofs.Files.Replace

/-!
# Writing is all or nothing

Whatever goes wrong while a file is written, and wherever the run stops, its place holds what it
held or the data and no other file changes, the temporary one apart. The place is where the path
leads on the disk afterwards, since the directories above it may be missing before.
-/

namespace Renaming.Disk

open Files

variable {d d' : Disk} {path : String} {place : List String} {data : ByteArray}

/-! ## Files at places -/

/-- The content of the file at a place. -/
def file? (d : Disk) (place : List String) : Option ByteArray :=
  match d.get? place with
  | some (.file content) => some content
  | _ => none

theorem file?_eq_some_iff {content : ByteArray} :
    d.file? place = some content ↔ d.get? place = some (.file content) := by
  unfold file?
  split
  · rename_i content' hget
    rw [hget, Option.some.injEq, Option.some.injEq, Node.file.injEq]
  · rename_i hnone
    constructor
    · exact fun h => nomatch h
    · exact fun h => absurd h (hnone content)

theorem file?_congr (h : d'.get? place = d.get? place) : d'.file? place = d.file? place := by
  rw [file?, h, file?]

theorem Grows.file?_eq (h : d.Grows d') (place : List String) : d'.file? place = d.file? place := by
  ext content
  rw [file?_eq_some_iff, file?_eq_some_iff]
  exact ⟨h.file place content, h.kept place (.file content)⟩

theorem Grows.leadsTo (h : d.Grows d') (hleads : d.LeadsTo path place) : d'.LeadsTo path place := by
  obtain ⟨directory, name, htarget, hplace⟩ := hleads
  have htarget' := target_mono (by rw [h.same]) (fun place => h.kept place .directory) htarget
  exact ⟨directory, name, htarget', hplace⟩

theorem LeadsTo.read (h : d.LeadsTo path place) (hfile : d.file? place = some data) :
    d.read path = .ok data := by
  obtain ⟨directory, name, htarget, rfl⟩ := h
  exact read_of_get? htarget (file?_eq_some_iff.mp hfile)

/-- A file is never its own temporary file. -/
theorem LeadsTo.ne_temporary (h : d.LeadsTo path place) (run : Nat) :
    ¬d.LeadsTo (temporaryPath path run) place := by
  rintro ⟨directory', name', htemporary, hplace⟩
  obtain ⟨directory, name, htarget, rfl⟩ := h
  obtain ⟨front, hnamed⟩ := exists_named_temporary path run
  obtain ⟨front', hleads⟩ := exists_leads htemporary
  obtain rfl := hnamed.name_eq hleads.named
  have hlast : some name = some (temporaryName path run) := by
    simpa only [List.getLast?_concat] using congrArg List.getLast? hplace
  exact (temporaryName_ne (name?_of_target htarget) run).1 (Option.some.inj hlast).symm

/-! ## The temporary file -/

theorem LeadsTo.placeToOpen (h : d.LeadsTo path place) :
    d.placeToOpen path =
      if d.get? place = some .directory then .error .isADirectory else .ok place := by
  obtain ⟨directory, name, htarget, rfl⟩ := h
  unfold Disk.placeToOpen
  rw [htarget]
  simp only [bind, Except.bind, Bool.false_or, beq_iff_eq]
  rfl

/-- Unless something goes wrong with the removal, no file is left where the path leads. -/
theorem file?_remove (hremoval : d.incident? .removeTemporary = none) (h : d.LeadsTo path place) :
    ((remove path).run d).2.file? place = none := by
  have hroot : place ≠ [] := by
    obtain ⟨directory, name, -, rfl⟩ := h
    exact List.concat_ne_nil _ _
  unfold remove
  rw [run_step, hremoval, h.placeToOpen]
  by_cases hdirectory : d.get? place = some .directory
  · rw [if_pos hdirectory]
    simp only [bind, Except.bind]
    rw [file?, hdirectory]
  · have hgone : (d.erase place).file? place = none := by
      rw [file?, get?_erase hroot, if_pos rfl]
    rw [if_neg hdirectory]
    exact hgone

/-- A file that was written was moved from its temporary place. -/
theorem replaceFile_moves (h : (replaceFile path data).run d = (.ok (), d')) :
    ∃ d₁ temporary place, d.Prepared d₁ path ∧ d₁.LeadsTo (temporaryPath path d.run) temporary ∧
      d₁.LeadsTo path place ∧ d₁.Changes d' [temporary, place] ∧ d'.file? temporary = none ∧
      d'.file? place = some data := by
  obtain ⟨d₁, d₂, hprepared, hfill, hmove⟩ := replaceFile_ok_cases h
  obtain ⟨directory', name', front', hsource, hfilled, hdata⟩ := of_fillTemporary hfill
  obtain ⟨place, old, content, hplace, hold, hread, hd'⟩ := of_move hmove
  obtain ⟨directory, name, htarget, rfl, -⟩ := of_placeToReplace hplace
  obtain ⟨front, hleads⟩ := exists_leads htarget
  obtain ⟨-, rfl, -⟩ := (hfilled.leads hsource).placeToOpen hold
  obtain ⟨hmoved, hget⟩ := (hfilled.leads hsource).moved hleads hdata hmove
  have htemporary := (leadsTo_of_placeToOpen hold).1
  have hpath : d₂.LeadsTo path (directory ++ [name]) := ⟨directory, name, htarget, rfl⟩
  refine ⟨d₁, _, _, hprepared, hfilled.leadsTo_iff.mp htemporary, hfilled.leadsTo_iff.mp hpath,
    (hfilled.subset (by simp)).trans hmoved, ?_, file?_eq_some_iff.mpr hget⟩
  -- The file was not put back to the place that it was taken from.
  have hne : directory' ++ [name'] ≠ directory ++ [name] := by
    intro heq
    exact hpath.ne_temporary d.run (heq ▸ htemporary)
  rw [hd', file?, get?_put (List.concat_ne_nil _ _), if_neg hne,
    get?_erase (List.concat_ne_nil _ _), if_pos rfl]

/-! ## Whole writes -/

/-- A write that fails changes the temporary file only. If the run goes on and nothing goes wrong
with the removal, that file is gone, unless the write failed before it came to it. -/
theorem replaceFile_fails {e : FileError} (h : (replaceFile path data).run d = (.error e, d')) :
    (∀ place, d.LeadsTo path place → d'.LeadsTo path place) ∧
    (∀ place, ¬d'.LeadsTo (temporaryPath path d.run) place → d'.file? place = d.file? place) ∧
    (e ≠ .interrupted → d.incident? .removeTemporary = none →
      ∀ place, d'.LeadsTo (temporaryPath path d.run) place →
        d'.file? place = none ∨
          (prepare d path).run d = (.error e, d') ∧ d'.file? place = d.file? place) := by
  have hprepared := d.prepared_prepare path
  rcases replaceFile_error_cases h with hprepare | ⟨d₁, d₂, hprepare, hworked, rfl⟩
  · rw [hprepare] at hprepared
    have hgrows := hprepared.grows
    exact ⟨fun _ => hgrows.leadsTo, fun place _ => hgrows.file?_eq place,
      fun _ _ place _ => .inr ⟨hprepare, hgrows.file?_eq place⟩⟩
  · rw [hprepare] at hprepared
    have hgrows : d.Grows d₁ := hprepared.grows
    have hcleaned := alters_cleaned (temporaryPath path d.run) e d₂
    have haltered := hworked.trans hcleaned
    refine ⟨fun place hplace => haltered.leadsTo_iff.mpr (hgrows.leadsTo hplace),
      fun place hplace => ?_, fun hgoes hremoval place hplace => .inl ?_⟩
    · rw [haltered.leadsTo_iff] at hplace
      rw [file?_congr (haltered.get? hplace), hgrows.file?_eq]
    · have hincident : d₂.incident? .removeTemporary = none := by
        obtain ⟨places, -, hchanges⟩ := hworked
        rw [hchanges.same, hgrows.same]
        exact hremoval
      rw [hcleaned.leadsTo_iff] at hplace
      unfold cleaned
      rw [if_neg hgoes]
      exact file?_remove hincident hplace

/-- A write that succeeds leaves the data in its place and no temporary file. -/
theorem replaceFile_succeeds (h : (replaceFile path data).run d = (.ok (), d')) :
    (∀ place, d.LeadsTo path place → d'.LeadsTo path place) ∧
    (∀ place, d'.LeadsTo path place → d'.file? place = some data) ∧
    (∀ place, d'.LeadsTo (temporaryPath path d.run) place → d'.file? place = none) ∧
    (∀ place, ¬d'.LeadsTo path place → ¬d'.LeadsTo (temporaryPath path d.run) place →
      d'.file? place = d.file? place) ∧
    d'.read path = .ok data := by
  obtain ⟨d₁, temporary, target, hprepared, htemporary, htarget, hchanges, hgone, hdata⟩ :=
    replaceFile_moves h
  have htemporary' := hchanges.leadsTo_iff.mpr htemporary
  have htarget' := hchanges.leadsTo_iff.mpr htarget
  refine ⟨fun place hplace => hchanges.leadsTo_iff.mpr (hprepared.grows.leadsTo hplace),
    fun place hplace => ?_, fun place hplace => ?_, fun place hplace hplace' => ?_,
    htarget'.read hdata⟩
  · rw [htarget'.unique hplace, hdata]
  · rw [htemporary'.unique hplace, hgone]
  · have hbeside : place ∉ [temporary, target] := by
      simp only [List.mem_cons, List.not_mem_nil, or_false, not_or]
      exact ⟨fun heq => hplace' (heq ▸ htemporary'), fun heq => hplace (heq ▸ htarget')⟩
    rw [file?_congr (hchanges.get? place hbeside), hprepared.grows.file?_eq]

/-- Wherever a write stops, the file at its path is what it was or holds the data, and of all other
files only the temporary one changed. If the write did not get past the move, the file is what it
was, and unless the run ended there or something goes wrong with the removal, no temporary file is
left; only one that was there before may be, if the directories above could not be made. Past the
move, and so after a success, the file holds the data and no temporary file is left. -/
theorem atomicWrite_all_or_nothing {result : Except FileError Unit}
    (h : (atomicWrite path data).run d = (result, d')) :
    (∀ place, d.LeadsTo path place → d'.LeadsTo path place) ∧
    (∀ place, d'.LeadsTo path place →
      d'.file? place = d.file? place ∨ d'.file? place = some data) ∧
    (∀ place, ¬d'.LeadsTo path place → ¬d'.LeadsTo (temporaryPath path d.run) place →
      d'.file? place = d.file? place) ∧
    (∀ e, (replaceFile path data).run d = (.error e, d') →
      result = .error e ∧
      (∀ place, d'.LeadsTo path place → d'.file? place = d.file? place) ∧
      (e ≠ .interrupted → d.incident? .removeTemporary = none →
        ∀ place, d'.LeadsTo (temporaryPath path d.run) place →
          d'.file? place = none ∨
            (prepare d path).run d = (.error e, d') ∧ d'.file? place = d.file? place)) ∧
    ((replaceFile path data).run d = (.ok (), d') →
      d'.read path = .ok data ∧
      ∀ place, d'.LeadsTo (temporaryPath path d.run) place → d'.file? place = none) ∧
    (result = .ok () → (replaceFile path data).run d = (.ok (), d')) := by
  rw [run_atomicWrite] at h
  cases hrun : (replaceFile path data).run d with
  | mk moved d₁ =>
    rw [hrun] at h
    cases moved with
    | error e =>
      cases h
      obtain ⟨hleads, hfiles, hgone⟩ := replaceFile_fails hrun
      have hsame (place : List String) (hplace : d'.LeadsTo path place) :
          d'.file? place = d.file? place := hfiles place (hplace.ne_temporary d.run)
      refine ⟨hleads, fun place hplace => .inl (hsame place hplace),
        fun place _ hplace => hfiles place hplace, ?_, nofun, nofun⟩
      rintro e' ⟨⟩
      exact ⟨rfl, hsame, hgone⟩
    | ok =>
      obtain rfl : d₁ = d' := by
        simp only at h
        split at h
        · exact (Prod.mk.inj h).2
        · exact (Prod.mk.inj h).2
      obtain ⟨hleads, hdata, hgone, hfiles, hread⟩ := replaceFile_succeeds hrun
      exact ⟨hleads, fun place hplace => .inr (hdata place hplace), hfiles, nofun,
        fun _ => ⟨hread, hgone⟩, fun _ => rfl⟩

/-! ### One file on two disks -/

/-- A disk with one file on which one step goes wrong. -/
def failing (s : Step) (incident : Incident) : Disk :=
  ⟨[(["a"], .directory), (["a", "f"], .file "old".toUTF8)], [], 7, fun s' =>
    if s' = s then some incident else none⟩

/-- There is space for one byte only. -/
def fullDisk : Disk := failing .write ⟨.system "No space left on device (os error 28)", 1⟩

/-- The move cannot be made durable. -/
def unsyncedDisk : Disk := failing .syncParent ⟨.system "Input/output error (os error 5)", 0⟩

theorem write_on_full_and_on_unsynced_disk :
    let full := (atomicWrite "/a/f" "new".toUTF8).run fullDisk
    let unsynced := (atomicWrite "/a/f" "new".toUTF8).run unsyncedDisk
    (full.1 = .error (.system "No space left on device (os error 28)") ∧
      full.2.file? ["a", "f"] = some "old".toUTF8 ∧ full.2.file? ["a", ".f.tmp.7"] = none) ∧
    unsynced.1 = .error (.system "Input/output error (os error 5)") ∧
      unsynced.2.read "/a/f" = .ok "new".toUTF8 ∧
      unsynced.2.file? ["a", ".f.tmp.7"] = none := by
  intro full unsynced
  constructor
  case left =>
    have hfailed : (replaceFile "/a/f" "new".toUTF8).run fullDisk =
        (.error (.system "No space left on device (os error 28)"), full.2) := rfl
    have hprepared : (prepare fullDisk "/a/f").run fullDisk = (.ok (), fullDisk) := rfl
    have htarget : full.2.LeadsTo "/a/f" ["a", "f"] := ⟨["a"], "f", rfl, rfl⟩
    have htemporary : full.2.LeadsTo (temporaryPath "/a/f" 7) ["a", ".f.tmp.7"] :=
      ⟨["a"], ".f.tmp.7", rfl, rfl⟩
    have hrun : (atomicWrite "/a/f" "new".toUTF8).run fullDisk = (full.1, full.2) := rfl
    obtain ⟨-, -, -, hfails, -, -⟩ := atomicWrite_all_or_nothing hrun
    obtain ⟨herror, hsame, hgone⟩ := hfails _ hfailed
    refine ⟨herror, hsame _ htarget, ?_⟩
    rcases hgone (by decide) rfl _ htemporary with hnone | ⟨hunprepared, -⟩
    · exact hnone
    · exact nomatch hprepared.symm.trans hunprepared
  case right =>
    have hmoved : (replaceFile "/a/f" "new".toUTF8).run unsyncedDisk = (.ok (), unsynced.2) := rfl
    have htemporary : unsynced.2.LeadsTo (temporaryPath "/a/f" 7) ["a", ".f.tmp.7"] :=
      ⟨["a"], ".f.tmp.7", rfl, rfl⟩
    have hrun : (atomicWrite "/a/f" "new".toUTF8).run unsyncedDisk = (unsynced.1, unsynced.2) := rfl
    obtain ⟨-, -, -, -, hsucceeds, -⟩ := atomicWrite_all_or_nothing hrun
    obtain ⟨hread, hgone⟩ := hsucceeds hmoved
    exact ⟨rfl, hread, hgone _ htemporary⟩

end Renaming.Disk
