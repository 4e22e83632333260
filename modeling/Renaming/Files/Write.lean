import Renaming.Files.Disk

/-!
# Writing files

A file is written under another name beside its place and then moved there, so that its place holds
the old content or the new one at every moment. Before a file is first changed a copy of it may be
kept.
-/

namespace Renaming

open Files

/-- Work on a disk, which keeps what was done before an error. -/
abbrev DiskM := ExceptT FileError (StateM Disk)

namespace Disk

/-! ## Steps -/

/-- One step: `partly` is what an incident leaves of it. -/
def step (s : Step) (partly : Nat → Disk → Disk) (whole : Disk → Except FileError Disk) :
    DiskM Unit := do
  let d ← get
  match d.incident? s with
  | some incident =>
    set (partly incident.amount d)
    throw incident.error
  | none =>
    match whole d with
    | .ok d => set d
    | .error e => throw e

def unchanged (_ : Nat) (d : Disk) : Disk := d

/-- Makes the directories that are missing for a path. Those made before an error stay. -/
def createParent (path : String) : DiskM Unit := do
  let (places, e) := (← get).missingFor path
  step .createParent (fun amount d => d.putDirectories (places.take amount)) fun d =>
    .ok (d.putDirectories places)
  match e with
  | some e => throw e
  | none => return

def openTemporary (path : String) : DiskM Unit :=
  step .openTemporary unchanged fun d => do return d.put (← d.placeToOpen path) (.file .empty)

/-- Puts data into a file that is open. -/
def fill (path : String) (data : ByteArray) (d : Disk) : Except FileError Disk := do
  return d.put (← d.placeToOpen path) (.file data)

def writeData (path : String) (data : ByteArray) : DiskM Unit :=
  step .write (fun amount d => ((d.fill path (data.extract 0 amount)).toOption).getD d)
    (fill path data)

/-- Moves a file to another place, where it takes the place of a file. -/
def move (source target : String) (d : Disk) : Except FileError Disk := do
  let place ← d.placeToReplace target
  let old ← d.placeToOpen source
  return (d.erase old).put place (.file (← d.read source))

def rename (source target : String) : DiskM Unit := step .rename unchanged (move source target)

def remove (path : String) : DiskM Unit :=
  step .removeTemporary unchanged fun d => do return d.erase (← d.placeToOpen path)

/-! ## Writing -/

/-- Carries out work on a temporary file. If it fails, and the run goes on, the file is removed. -/
def removingTemporary (path : String) (work : DiskM Unit) : DiskM Unit :=
  tryCatch work fun e => do
    unless e == .interrupted do tryCatch (remove path) fun _ => pure ()
    throw e

/-- Writes the file at a path, and the directories above it if they are missing. -/
def atomicWrite (path : String) (data : ByteArray) : DiskM Unit := do
  let d ← get
  unless d.exists? (parent path) do createParent (parent path)
  let temporary := temporaryPath path d.run
  removingTemporary temporary do
    openTemporary temporary
    writeData temporary data
    step .sync unchanged .ok
  removingTemporary temporary (rename temporary path)
  step .syncParent unchanged .ok

/-! ## Backups -/

def copy (source target : String) : DiskM Unit := do
  match (← get).node source with
  | .error e => throw e
  | .ok .directory => throw .notRegular
  | .ok (.file content) =>
    step .copy (fun amount d => ((d.fill target (content.extract 0 amount)).toOption).getD d)
      (fill target content)

/-- Copies a file to its backup if there is none yet. Tells whether it did. -/
def backupOnce (path : String) : DiskM Bool := do
  let d ← get
  if d.exists? path && !d.exists? (backupPath path) then
    copy path (backupPath path)
    return true
  else return false

end Disk

end Renaming
