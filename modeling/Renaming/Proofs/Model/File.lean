import Renaming.Model.File
import Renaming.Proofs.Files.Replace
import Renaming.Proofs.Model.Format

/-!
# What saving leaves

A model that was saved is loaded from its file. The backup is the file as it was before, made only
if there was none.
-/

namespace Renaming

namespace Assembly

open Files Disk

variable {a : Assembly} {d d' : Disk} {path : String}

theorem load_of_read (h : d.read path = .ok a.fileText.toUTF8) : load d path = .ok a := by
  have htext : ofText? a.fileText = some a := lawful.decode?_pretty a
  rw [load, readText_of_read h]
  simp only [htext]

theorem exists_read (h : load d path = .ok a) : ∃ content, d.read path = .ok content := by
  unfold load at h
  split at h
  · cases h
  · rename_i htext
    obtain ⟨content, hread, -⟩ := bind_eq_ok htext
    exact ⟨content, hread⟩

theorem save_eq (backup : Bool) :
    a.save path backup =
      if backup then do
        let _ ← backupOnce path
        atomicWrite path a.fileText.toUTF8
      else atomicWrite path a.fileText.toUTF8 := rfl

/-- The save copies the file to its backup first. -/
def BacksUp (path : String) (backup : Bool) (d : Disk) : Prop :=
  backup = true ∧ d.exists? path = true ∧ d.exists? (backupPath path) = false

/-- What a save does to the file and its backup. -/
structure Stored (a : Assembly) (path : String) (backup : Bool) (d d' : Disk) : Prop where
  written : d'.read path = .ok a.fileText.toUTF8
  made : BacksUp path backup d →
    ∃ content, d.read path = .ok content ∧ d'.read (backupPath path) = .ok content
  unmade : ¬BacksUp path backup d → d.SameBackup d' path
  kept : ∀ node, d.node (backupPath path) = .ok node → d'.node (backupPath path) = .ok node

theorem run_atomicWrite_eq_ok {data : ByteArray}
    (h : (atomicWrite path data).run d = (.ok (), d')) :
    (replaceFile path data).run d = (.ok (), d') := by
  rw [atomicWrite_eq] at h
  obtain ⟨_, d₁, hreplace, hsync⟩ := run_bind_eq_ok h
  cases run_step_eq_ok hsync
  exact hreplace

/-- The part of a save before the file is written. -/
theorem exists_backed {backup : Bool} (h : (a.save path backup).run d = (.ok (), d')) :
    ∃ d₁, (atomicWrite path a.fileText.toUTF8).run d₁ = (.ok (), d') ∧
      (BacksUp path backup d →
        ∃ content, d.read path = .ok content ∧ d₁.read (backupPath path) = .ok content) ∧
      (¬BacksUp path backup d → d₁ = d) := by
  rw [save_eq] at h
  cases backup with
  | false => exact ⟨d, h, fun hbacks => (nomatch hbacks.1), fun _ => rfl⟩
  | true =>
    obtain ⟨made, d₁, hmade, hwrite⟩ := run_bind_eq_ok h
    have hbackup := backupOnce_eq_ok hmade
    refine ⟨d₁, hwrite, fun hbacks => ?_, fun hbacks => ?_⟩
    · rwa [if_pos hbacks.2] at hbackup
    · rwa [if_neg fun hwanted => hbacks ⟨rfl, hwanted⟩] at hbackup

theorem stored {backup : Bool} (h : (a.save path backup).run d = (.ok (), d')) :
    a.Stored path backup d d' := by
  obtain ⟨d₁, hwrite, hmade, hunmade⟩ := exists_backed h
  obtain ⟨d₂, directory, name, hprepared, hreplaced⟩ :=
    of_replaceFile_ok (run_atomicWrite_eq_ok hwrite)
  have hkept {node : Node} (hnode : d₁.node (backupPath path) = .ok node) :
      d'.node (backupPath path) = .ok node := by
    rw [hreplaced.node_backup]
    exact hprepared.grows.node hnode
  constructor
  case written => exact hreplaced.read
  case made =>
    intro hbacks
    obtain ⟨content, hread, hbackup⟩ := hmade hbacks
    exact ⟨content, hread, read_of_node (hkept (node_of_read hbackup))⟩
  case unmade =>
    intro hbacks
    obtain rfl := hunmade hbacks
    exact hreplaced.sameBackup hprepared
  case kept =>
    intro node hnode
    have hbacks : ¬BacksUp path backup d := by
      rintro ⟨-, -, hnone⟩
      rw [exists?, hnode] at hnone
      cases hnone
    obtain rfl := hunmade hbacks
    exact hkept hnode

/-- What a model that was saved leaves of the disk `d`. -/
structure Saved (a : Assembly) (path : String) (backup : Bool) (d d' : Disk) : Prop where
  model : load d' path = .ok a
  /-- A backup that was made is the file as it was. -/
  made : backup = true → d.exists? (backupPath path) = false →
    ∃ content, d.read path = .ok content ∧ d'.read (backupPath path) = .ok content
  kept : ¬(backup = true ∧ d.exists? (backupPath path) = false) →
    d'.node (backupPath path) = d.node (backupPath path)

theorem saved {backup : Bool} {content : ByteArray} (hread : d.read path = .ok content)
    (hsave : (a.save path backup).run d = (.ok (), d')) : Saved a path backup d d' := by
  have hstored := stored hsave
  have hexists : d.exists? path = true := by
    rw [exists?, node_of_read hread]
    rfl
  constructor
  case model => exact load_of_read hstored.written
  case made =>
    intro hwanted hnone
    exact hstored.made ⟨hwanted, hexists, hnone⟩
  case kept =>
    intro hunmade
    have hbacks : ¬BacksUp path backup d := fun hbacks => hunmade ⟨hbacks.1, hbacks.2.2⟩
    exact (hstored.unmade hbacks).node (.inr hexists)

end Assembly

end Renaming
