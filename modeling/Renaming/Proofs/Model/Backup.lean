import Renaming.Proofs.Model.File

/-!
# Many saves

Saves of models to one file, by processes that come one after another. The first save that finds the
file and no backup may make one. No save changes a backup that is there.
-/

namespace Renaming

open Files

/-- A save of a model, with a backup if one is asked for, and the process that carries it out. -/
structure Save where
  model : Assembly
  backup : Bool
  process : Disk.Process

namespace Save

/-- The save copies the file to its backup first. -/
def BacksUp (s : Save) (path : String) (d : Disk) : Prop := Assembly.BacksUp path s.backup d

def result (s : Save) (path : String) (d : Disk) : Except FileError Unit × Disk :=
  (s.model.save path s.backup).run (d.under s.process)

/-- The save succeeds and leaves this disk. -/
def Leaves (s : Save) (path : String) (d d' : Disk) : Prop := s.result path d = (.ok (), d')

/-- What the save does to the file and its backup. -/
def Stores (s : Save) (path : String) (d d' : Disk) : Prop := s.model.Stored path s.backup d d'

end Save

/-- All saves succeed, one after another, and the last one leaves this disk. -/
inductive Saves (path : String) : Disk → List Save → Disk → Prop where
  | nil {d : Disk} : Saves path d [] d
  | cons {d d₁ d' : Disk} {s : Save} {saves : List Save} (hsave : s.Leaves path d d₁)
      (hsaves : Saves path d₁ saves d') : Saves path d (s :: saves) d'

variable {path : String} {d d' : Disk}

theorem Save.leaves_result {s : Save} (h : (s.result path d).1 = .ok ()) :
    s.Leaves path d (s.result path d).2 := Prod.ext h rfl

/-- The process does not matter for what a save does. -/
theorem Save.Leaves.stores {s : Save} (h : s.Leaves path d d') : s.Stores path d d' := by
  obtain ⟨hwritten, hmade, hunmade, hkept⟩ := Assembly.stored h
  have hbacks : Assembly.BacksUp path s.backup (d.under s.process) ↔
      Assembly.BacksUp path s.backup d := by
    simp only [Assembly.BacksUp, Disk.exists?_under]
  constructor
  case written => exact hwritten
  case made => simpa only [hbacks, Disk.read_under] using hmade
  case unmade =>
    intro hnone
    obtain ⟨hfiles, hnode, hmissing⟩ := hunmade (mt hbacks.mp hnone)
    simp only [Disk.get?_under] at hfiles
    simp only [Disk.exists?_under, Disk.node_under] at hnode hmissing
    exact ⟨hfiles, hnode, hmissing⟩
  case kept => simpa only [Disk.node_under] using hkept

namespace Saves

theorem split {before after : List Save} (h : Saves path d (before ++ after) d') :
    ∃ d₁, Saves path d before d₁ ∧ Saves path d₁ after d' := by
  induction before generalizing d with
  | nil => exact ⟨d, .nil, h⟩
  | cons s before ih =>
    cases h with
    | cons hsave hsaves =>
      obtain ⟨d₁, hbefore, hafter⟩ := ih hsaves
      exact ⟨d₁, .cons hsave hbefore, hafter⟩

/-- A backup that is there stays what it is. -/
theorem kept {saves : List Save} (h : Saves path d saves d') {node : Node}
    (hnode : d.node (backupPath path) = .ok node) : d'.node (backupPath path) = .ok node := by
  induction h with
  | nil => exact hnode
  | cons hsave hsaves ih => exact ih (hsave.stores.kept node hnode)

/-- Where there is a backup no other one is made. -/
theorem not_backsUp {saves : List Save} {s : Save} {d₁ : Disk} {node : Node}
    (h : Saves path d saves d₁) (hnode : d.node (backupPath path) = .ok node) :
    ¬s.BacksUp path d₁ := by
  rintro ⟨-, -, hnone⟩
  rw [Disk.exists?, h.kept hnode] at hnone
  cases hnone

end Saves

/-- Each save leaves its model in the file. It makes the backup if it is asked for one and finds the
file but no backup, from the file as it was before. Otherwise the backup is left alone, and once
there is one, all later saves leave it as it is and none of them makes another. -/
theorem backup_is_made_once {before after : List Save} {s : Save}
    (h : Saves path d (before ++ s :: after) d') :
    ∃ d₁ d₂, Saves path d before d₁ ∧ s.Leaves path d₁ d₂ ∧ Saves path d₂ after d' ∧
      s.Stores path d₁ d₂ ∧
      (∀ node, d₁.node (backupPath path) = .ok node → d'.node (backupPath path) = .ok node) ∧
      (s.BacksUp path d₁ →
        d'.node (backupPath path) = d₁.node path ∧
        ∀ earlier s' later d₃, after = earlier ++ s' :: later → Saves path d₂ earlier d₃ →
          ¬s'.BacksUp path d₃) := by
  obtain ⟨d₁, hbefore, hrest⟩ := h.split
  cases hrest with
  | @cons _ d₂ _ _ _ hsave hafter =>
    have hstores := hsave.stores
    refine ⟨d₁, d₂, hbefore, hsave, hafter, hstores, ?_, fun hbacks => ?_⟩
    · exact fun node hnode => hafter.kept (hstores.kept node hnode)
    · obtain ⟨content, hread, hbackup⟩ := hstores.made hbacks
      have hnode := Disk.node_of_read hbackup
      rw [hafter.kept hnode, Disk.node_of_read hread]
      exact ⟨rfl, fun earlier s' later d₃ _ hearlier => hearlier.not_backsUp hnode⟩

/-! ### Three saves -/

def oldModel : Disk := ⟨[(["m"], .file "old".toUTF8)], [], 0, fun _ => none⟩

/-- A save of an empty model, in which nothing goes wrong. -/
def saveOf (name : String) (backup : Bool) (run : Nat) : Save :=
  ⟨⟨name, []⟩, backup, ⟨run, fun _ => none⟩⟩

theorem second_save_makes_backup :
    ∃ d₁ d', Saves "m" oldModel [saveOf "a" false 1] d₁ ∧ (saveOf "b" true 2).BacksUp "m" d₁ ∧
      Saves "m" oldModel [saveOf "a" false 1, saveOf "b" true 2, saveOf "c" true 3] d' ∧
      d'.node (backupPath "m") = d₁.node "m" := by
  -- What is evaluated is stated of the saves alone, so that no proof step unfolds them.
  obtain ⟨d₁, d₂, d', hfirst, hbacks, hsecond, hthird⟩ : ∃ d₁ d₂ d',
      (saveOf "a" false 1).Leaves "m" oldModel d₁ ∧ (saveOf "b" true 2).BacksUp "m" d₁ ∧
      (saveOf "b" true 2).Leaves "m" d₁ d₂ ∧ (saveOf "c" true 3).Leaves "m" d₂ d' :=
    ⟨_, _, _, Save.leaves_result (by decide +kernel),
      ⟨rfl, by decide +kernel, by decide +kernel⟩,
      Save.leaves_result (by decide +kernel), Save.leaves_result (by decide +kernel)⟩
  have hsaves :
      Saves "m" oldModel ([saveOf "a" false 1] ++ saveOf "b" true 2 :: [saveOf "c" true 3]) d' :=
    .cons hfirst (.cons hsecond (.cons hthird .nil))
  obtain ⟨d₁', d₂', hbefore, -, -, -, -, hmade⟩ := backup_is_made_once hsaves
  obtain rfl : d₁' = d₁ := by
    cases hbefore with
    | cons hsave hnone =>
      cases hnone
      exact (Prod.mk.inj (hsave.symm.trans hfirst)).2
  exact ⟨_, _, hbefore, hbacks, hsaves, (hmade hbacks).1⟩

end Renaming
