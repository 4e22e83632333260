import Renaming.Proofs.Files.Replace
import Renaming.Proofs.Json.Record
import Renaming.Proofs.Json.Value
import Renaming.Proofs.Settings.Change
import Renaming.Settings.File

/-!
# Settings read back

Settings that were loaded or set are read from their file as what they were, provided that the text
of the temperature stands for that double (`ReadsBack`).
-/

namespace Renaming

open Json

namespace Settings

variable {s s' : Settings} {d : Disk} {path : String}

/-! ## The text of a file -/

theorem printable_json (s : Settings) : Printable s.json :=
  printable_record (by
    simp [Lawful.text.printable, printable_float, Printable.bool, printable_natural])

theorem ofJson?_json (h : s.maxConcurrent < wordLimit) :
    ofJson? s.json = (float? (float s.temperature)).map ({ s with temperature := · }) := by
  have hslots : record? ["ollamaServer", "model", "autoSaveChanges", "createBackup", "temperature",
      "maxConcurrentRequests"] s.json =
      some [.given (text s.server), .given (text s.model), .given (.bool s.autoSave),
        .given (.bool s.backup), .given (float s.temperature),
        .given (natural s.maxConcurrent)] := record?_record rfl (by decide)
  rw [ofJson?, hslots]
  simp only [Slot.withDefault, Lawful.text.read, natural?_natural h, bool?]
  cases float? (float s.temperature) <;> rfl

/-- The text of the double stands for it. -/
def ReadsBack (x : Float) : Prop := float? (float x) = some x

theorem load_of_text {text : String} (h : d.read path = .ok text.toUTF8) :
    load d path =
      match decode? ofJson? text with
      | some s => .ok s
      | none => .error .invalidFile := by
  have hexists : d.exists? path = true := by
    rw [Disk.exists?, Disk.node_of_read h]
    rfl
  rw [load, Disk.readText_of_read h]
  simp only [hexists]
  rfl

theorem load_of_read (hlimit : s.maxConcurrent < wordLimit) (htemperature : ReadsBack s.temperature)
    (h : d.read path = .ok s.fileText.toUTF8) : load d path = .ok s := by
  have htext : decode? ofJson? s.fileText = some s := by
    rw [fileText, decode?_pretty s.printable_json, ofJson?_json hlimit, htemperature]
    rfl
  rw [load_of_text h, htext]

/-! ## The number of requests -/

theorem maxConcurrent_standard : standard.maxConcurrent < wordLimit := by decide

theorem maxConcurrent_of_ofJson? {v : Json} (h : ofJson? v = some s) :
    s.maxConcurrent < wordLimit := by
  unfold ofJson? at h
  split at h
  · rename_i maxConcurrent _
    simp only [bind, Option.bind_eq_some_iff] at h
    obtain ⟨_, -, _, -, _, -, _, -, _, -, n, hn, h⟩ := h
    cases h
    rcases Slot.withDefault_eq_some hn with rfl | ⟨v, hv⟩
    · exact maxConcurrent_standard
    · exact lt_of_natural? hv
  · cases h

theorem maxConcurrent_of_load (h : load d path = .ok s) : s.maxConcurrent < wordLimit := by
  unfold load at h
  split at h
  · cases h
    decide
  · split at h
    · cases h
    · split at h
      · rename_i hdecode
        cases h
        obtain ⟨v, -, hread⟩ := Option.bind_eq_some_iff.mp hdecode
        exact maxConcurrent_of_ofJson? hread
      · cases h

theorem maxConcurrent_loadOrStandard (d : Disk) (path : String) :
    (loadOrStandard d path).value.maxConcurrent < wordLimit := by
  unfold loadOrStandard
  split
  · rename_i hload
    exact maxConcurrent_of_load hload
  · exact maxConcurrent_standard

theorem maxConcurrent_of_set {key value : String} (hlimit : s.maxConcurrent < wordLimit)
    (h : s.set key value = .ok s') : s'.maxConcurrent < wordLimit := by
  obtain ⟨k, -, hsets⟩ := set_eq_ok_iff.mp h
  cases hsets with
  | maxConcurrent hcount =>
    obtain ⟨_, -, -, -, -, hlt⟩ := hcount
    exact hlt
  | _ => exact hlimit

/-! ## Saving -/

theorem run_save (s : Settings) (path : String) (d : Disk) :
    (s.save path).run d =
      match (Disk.atomicWrite path s.fileText.toUTF8).run d with
      | (.ok (), d') => (.ok (), d')
      | (.error e, d') => (.error (.file path e), d') := by
  have hrun : (s.save path).run d =
      let ran := (Disk.atomicWrite path s.fileText.toUTF8).run d
      (ran.1.mapError (.file path), ran.2) := rfl
  rw [hrun]
  obtain ⟨_ | _, d'⟩ := (Disk.atomicWrite path s.fileText.toUTF8).run d <;> rfl

/-- The settings get to their place in the file, after which only the last step can fail. -/
def Written (s : Settings) (path : String) (d : Disk) : Prop :=
  ((Disk.replaceFile path s.fileText.toUTF8).run d).1 = .ok ()

instance (s : Settings) (path : String) (d : Disk) : Decidable (s.Written path d) :=
  inferInstanceAs (Decidable (_ = _))

theorem run_save_written (h : s.Written path d) :
    ((s.save path).run d).2.read path = .ok s.fileText.toUTF8 := by
  obtain ⟨d₁, directory, name, hprepared, hreplaced⟩ := Disk.of_replaceFile_ok (Prod.ext h rfl)
  have hread := hreplaced.read
  unfold Written at h
  rw [run_save, Disk.run_atomicWrite]
  generalize (Disk.replaceFile path s.fileText.toUTF8).run d = ran at h hread ⊢
  obtain ⟨_ | _, d'⟩ := ran
  · cases h
  · simp only
    cases d'.incident? .syncParent <;> exact hread

theorem run_save_unwritten (h : ¬s.Written path d) :
    ∃ e d', (s.save path).run d = (.error (.file path e), d') ∧ d.Unreplaced d' path := by
  unfold Written at h
  rw [run_save, Disk.run_atomicWrite]
  cases hrun : (Disk.replaceFile path s.fileText.toUTF8).run d with
  | mk result d' =>
    cases result with
    | ok => exact absurd (congrArg Prod.fst hrun) h
    | error e =>
      obtain ⟨d₁, hprepared, htouched⟩ := Disk.of_replaceFile_error hrun
      exact ⟨e, d', rfl, htouched.unreplaced hprepared⟩

theorem load_of_missing (h : d.exists? path = false) : load d path = .ok standard := by
  rw [load, h]
  rfl

/-- What is loaded depends on what the path leads to. -/
theorem load_congr {d' : Disk} (h : d'.node path = d.node path) : load d' path = load d path := by
  unfold load Disk.exists? Disk.readText Disk.read
  rw [h]

/-- Settings that were not written are loaded as before. -/
theorem load_of_unreplaced {d' : Disk} (h : d.Unreplaced d' path)
    (hthere : d.exists? path = true ∨
      d.exists? (Files.parent path) = true ∨ d.Rooted ∧ ".." ∉ Files.steps path) :
    load d' path = load d path := by
  cases hexists : d.exists? path with
  | true =>
    obtain ⟨node, hnode⟩ := Disk.exists?_iff.mp hexists
    exact load_congr (by rw [h.node node hnode, hnode])
  | false =>
    have hmissing := h.missing (hthere.resolve_left (by simp [hexists])) hexists
    rw [load_of_missing hexists, load_of_missing hmissing]

end Settings

end Renaming
