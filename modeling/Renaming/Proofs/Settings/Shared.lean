import Renaming.Proofs.Settings.Overlay

/-!
# Settings in use and in their file

Settings are shared by requests that each take what is there, and a file keeps them. Other programs
write the file too. What was saved is what is loaded, until the file is written again, and an
attempt that fails leaves both as they are.
-/

namespace Renaming

open Json

namespace Settings

/-- The settings in use, and the disk with their file. -/
structure Shared where
  snapshot : Settings
  disk : Disk

/-- What is done to settings in use and to their file. -/
inductive Move where
  /-- Settings are saved, on a disk where some steps may go wrong. -/
  | save (s : Settings) (p : Disk.Process)
  | load
  | replace (s : Settings)
  | reload
  /-- Another program leaves the disk like this. -/
  | rewrite (d : Disk)

namespace Shared

section

variable (path : String)

/-- What a move returns, for a load the settings. -/
def answer (x : Shared) : Move → Except SettingsError (Option Settings)
  | .save s p => ((s.save path).run (x.disk.under p)).1.map fun _ => none
  | .load => (Settings.load x.disk path).map some
  | .reload => (x.snapshot.reload x.disk path).2.map fun _ => none
  | .replace _ | .rewrite _ => .ok none

def next (x : Shared) : Move → Shared
  | .save s p => { x with disk := ((s.save path).run (x.disk.under p)).2 }
  | .load => x
  | .replace s => { x with snapshot := s }
  | .reload => { x with snapshot := (x.snapshot.reload x.disk path).1 }
  | .rewrite d => { x with disk := d }

def run (x : Shared) (moves : List Move) : Shared := moves.foldl (next path) x

/-- The move does not write the file. -/
def Quiet (x : Shared) : Move → Prop
  | .save s p => ¬s.Written path (x.disk.under p)
  | .rewrite d => d.node path = x.disk.node path
  | _ => True

/-- The move does not give other settings to use. -/
def Keeps (x : Shared) : Move → Prop
  | .replace _ => False
  | .reload => ∃ e, x.answer path .reload = .error e
  | _ => True

/-- Each of the moves is like that where it is made. -/
def Along (P : Shared → Move → Prop) (x : Shared) : List Move → Prop
  | [] => True
  | m :: moves => P x m ∧ (x.next path m).Along P moves

end

variable {path : String} {x : Shared} {s : Settings} {moves : List Move}

/-- What each of the moves preserves holds after all of them. -/
theorem Along.invariant {P : Shared → Move → Prop} {I : Shared → Prop} (h : x.Along path P moves)
    (hstep : ∀ y m, P y m → I y → I (y.next path m)) (hstart : I x) : I (x.run path moves) := by
  induction moves generalizing x with
  | nil => exact hstart
  | cons m moves ih => exact ih h.2 (hstep x m h.1 hstart)

/-! ## Moves that change nothing -/

theorem node_next {m : Move} {node : Node} (h : x.Quiet path m)
    (hnode : x.disk.node path = .ok node) : (x.next path m).disk.node path = .ok node := by
  cases m with
  | save s p =>
    obtain ⟨e, d', hrun, hunreplaced⟩ := run_save_unwritten h
    rw [next, hrun]
    rw [← Disk.node_under x.disk p] at hnode
    exact hunreplaced.node node hnode
  | rewrite d => exact h.trans hnode
  | load | replace | reload => exact hnode

theorem load_run (h : x.Along path (Quiet path) moves) (hexists : x.disk.exists? path = true) :
    Settings.load (x.run path moves).disk path = Settings.load x.disk path := by
  obtain ⟨node, hnode⟩ := Disk.exists?_iff.mp hexists
  have hnode' : (x.run path moves).disk.node path = .ok node :=
    h.invariant (fun _ _ => node_next) hnode
  exact load_congr (hnode'.trans hnode.symm)

theorem reload_of_load (hload : Settings.load x.disk path = .ok s) :
    x.answer path .reload = .ok none ∧ x.next path .reload = { x with snapshot := s } := by
  rw [answer, next, reload, hload]
  exact ⟨rfl, rfl⟩

theorem reload_of_error {e : SettingsError} (h : x.answer path .reload = .error e) :
    Settings.load x.disk path = .error e ∧ x.next path .reload = x := by
  cases hload : Settings.load x.disk path with
  | ok s =>
    rw [(reload_of_load hload).1] at h
    cases h
  | error e' =>
    rw [answer, reload, hload] at h
    cases h
    rw [next, reload, hload]
    exact ⟨rfl, rfl⟩

theorem snapshot_next {m : Move} (h : x.Keeps path m) (hsnapshot : x.snapshot = s) :
    (x.next path m).snapshot = s := by
  cases m with
  | replace => exact h.elim
  | reload =>
    obtain ⟨e, he⟩ := h
    rw [(reload_of_error he).2, hsnapshot]
  | save | load | rewrite => exact hsnapshot

/-- Loading fails if there is something that cannot be read as settings. -/
theorem exists_load_error_iff {d : Disk} : (∃ e, Settings.load d path = .error e) ↔
    d.exists? path = true ∧ ∀ text, d.readText path = .ok text → decode? ofJson? text = none := by
  unfold Settings.load
  cases hexists : d.exists? path with
  | false => simp
  | true =>
    cases hread : d.readText path with
    | error e => simp
    | ok text => cases hdecode : decode? ofJson? text <;> simp [hdecode]

theorem exists_reload_error_iff : (∃ e, x.answer path .reload = .error e) ↔
    x.disk.exists? path = true ∧
      ∀ text, x.disk.readText path = .ok text → decode? ofJson? text = none := by
  rw [← exists_load_error_iff]
  constructor
  · rintro ⟨e, he⟩
    exact ⟨e, (reload_of_error he).1⟩
  · rintro ⟨e, he⟩
    refine ⟨e, ?_⟩
    rw [answer, reload, he]
    rfl

/-! ## Saving and reading back -/

theorem written_of_answer {p : Disk.Process} (h : x.answer path (.save s p) = .ok none) :
    s.Written path (x.disk.under p) := by
  by_contra hunwritten
  obtain ⟨e, d', hrun, -⟩ := run_save_unwritten hunwritten
  rw [answer, hrun] at h
  cases h

/-- Saved settings are loaded until the file is written again. -/
theorem load_of_saved {p : Disk.Process} (hlimit : s.maxConcurrent < wordLimit)
    (htemperature : ReadsBack s.temperature) (hsaved : x.answer path (.save s p) = .ok none)
    (h : (x.next path (.save s p)).Along path (Quiet path) moves) :
    Settings.load ((x.next path (.save s p)).run path moves).disk path = .ok s := by
  have hread : (x.next path (.save s p)).disk.read path = .ok s.fileText.toUTF8 :=
    run_save_written (written_of_answer hsaved)
  have hexists : (x.next path (.save s p)).disk.exists? path = true :=
    Disk.exists?_iff.mpr ⟨_, Disk.node_of_read hread⟩
  rw [load_run h hexists]
  exact load_of_read hlimit htemperature hread

/-- A document is spelled with blanks around it. -/
def IsDocument (text : String) (v : Json) : Prop :=
  ∃ s cs s', text.toList = s ++ (cs ++ s') ∧ Spaces s ∧ Spaces s' ∧ Spells cs (.value v)

theorem load_of_document {d : Disk} {text : String} {members : List (String × Json)}
    (hread : d.read path = .ok text.toUTF8) (hdocument : IsDocument text (record members))
    (hmembers : Readable members) :
    Settings.load d path = .ok (members.foldl overlay standard) := by
  have hdecode : decode? ofJson? text = some (members.foldl overlay standard) := by
    rw [decode?, (parse_eq_some_iff _ _).mpr hdocument, Option.bind_some, ofJson?_record hmembers]
  rw [load_of_text hread, hdecode]

/-- Settings that were saved are loaded, and reloaded into use, whatever the file held before and
whatever is done until it is written again. What does not write the file leaves what is loaded, and
what does not give other settings to use leaves those in use, as a reload does that fails. It fails
if what is there is no text or does not stand for settings, and it gives the standard settings if
nothing is there. An object gives the standard settings with the values of its members in whatever
order they stand, and unknown members change nothing. -/
theorem settings_survive_the_file (path : String) :
    (∀ (x : Shared) (s : Settings) (p : Disk.Process) (moves : List Move),
      s.maxConcurrent < wordLimit → ReadsBack s.temperature →
      x.answer path (.save s p) = .ok none →
      (x.next path (.save s p)).Along path (Quiet path) moves →
      let y := (x.next path (.save s p)).run path moves
      y.answer path .load = .ok (some s) ∧ y.answer path .reload = .ok none ∧
        (y.next path .reload).snapshot = s) ∧
    (∀ (x : Shared) (moves : List Move), x.disk.exists? path = true →
      x.Along path (Quiet path) moves →
      (x.run path moves).answer path .load = x.answer path .load) ∧
    (∀ (x : Shared) (moves : List Move), x.Along path (Keeps path) moves →
      (x.run path moves).snapshot = x.snapshot) ∧
    (∀ (x : Shared) (e : SettingsError), x.answer path .reload = .error e →
      x.next path .reload = x) ∧
    (∀ x : Shared, (∃ e, x.answer path .reload = .error e) ↔ x.disk.exists? path = true ∧
      ∀ text, x.disk.readText path = .ok text → decode? ofJson? text = none) ∧
    (∀ x : Shared, x.disk.exists? path = false → x.answer path .reload = .ok none ∧
      x.next path .reload = { x with snapshot := standard }) ∧
    ∀ (x : Shared) (text : String) (members : List (String × Json)),
      x.disk.read path = .ok text.toUTF8 → IsDocument text (record members) → Readable members →
      x.answer path .load = .ok (some (members.foldl overlay standard)) ∧
        (x.next path .reload).snapshot = members.foldl overlay standard := by
  refine ⟨fun x s p moves hlimit htemperature hsaved h => ?_, fun x moves hexists h => ?_,
    fun x moves h => h.invariant (fun _ _ => snapshot_next) rfl,
    fun x e he => (reload_of_error he).2, fun x => exists_reload_error_iff,
    fun x hmissing => reload_of_load (load_of_missing hmissing),
    fun x text members hread hdocument hmembers => ?_⟩
  · have hload := load_of_saved hlimit htemperature hsaved h
    obtain ⟨hanswer, hnext⟩ := reload_of_load hload
    refine ⟨?_, hanswer, by rw [hnext]⟩
    rw [answer, hload]
    rfl
  · rw [answer, answer, load_run h hexists]
  · have hload := load_of_document hread hdocument hmembers
    refine ⟨?_, by rw [(reload_of_load hload).2]⟩
    rw [answer, hload]
    rfl

/-! ### Settings on a disk that fills up -/

def oneFile (text : String) : Disk := ⟨[(["s"], .file text.toUTF8)], [], 0, fun _ => none⟩

theorem read_oneFile (text : String) : (oneFile text).read "s" = .ok text.toUTF8 := rfl

/-- The file holds no settings. -/
def unreadable : Shared := ⟨standard, oneFile "model = m"⟩

def halfWarm : Settings := { standard with model := "m", temperature := 0.5 }

def freeDisk : Disk.Process := ⟨1, fun _ => none⟩

def fullDisk : Disk.Process :=
  ⟨2, fun s =>
    if s = .write then some ⟨.system "No space left on device (os error 28)", 1⟩ else none⟩

/-- Nothing is written here, since the disk is full. -/
def laterMoves : List Move := [.reload, .replace standard, .save standard fullDisk, .load]

def otherMembers : List (String × Json) := [("colour", .array [.null]), ("model", .text "n")]

def otherText : String := (record otherMembers).compact

theorem settings_survive_a_full_disk :
    unreadable.next "s" .reload = unreadable ∧
    (unreadable.run "s" [.reload, .load, .save halfWarm freeDisk]).snapshot = standard ∧
    (let y := (unreadable.next "s" (.save halfWarm freeDisk)).run "s" laterMoves
     y.answer "s" .load = .ok (some halfWarm) ∧ (y.next "s" .reload).snapshot = halfWarm) ∧
    (unreadable.next "s" (.rewrite (oneFile otherText))).answer "s" .load =
      .ok (some { standard with model := "n" }) := by
  obtain ⟨hsaved, -, hkept, hfailed, hfailing, -, hdocument⟩ := settings_survive_the_file "s"
  have hreload : ∃ e, unreadable.answer "s" .reload = .error e := by
    have hread : unreadable.disk.readText "s" = .ok "model = m" :=
      Disk.readText_of_read (read_oneFile _)
    have hdecode : (decode? ofJson? "model = m").isNone = true := by decide +kernel
    refine (hfailing unreadable).mpr ⟨by decide +kernel, fun text htext => ?_⟩
    obtain rfl := Except.ok.inj (hread.symm.trans htext)
    exact Option.isNone_iff_eq_none.mp hdecode
  refine ⟨hreload.elim (hfailed unreadable),
    hkept unreadable _ ⟨hreload, trivial, trivial, trivial⟩, ?_, ?_⟩
  · have hresult : ((halfWarm.save "s").run (unreadable.disk.under freeDisk)).1 = .ok () := by
      decide +kernel
    have hsave : unreadable.answer "s" (.save halfWarm freeDisk) = .ok none := by
      rw [answer, hresult]
      rfl
    have htemperature : ReadsBack halfWarm.temperature := by
      unfold ReadsBack
      decide +kernel
    have hunwritten : ¬standard.Written "s" (((halfWarm.save "s").run
        (unreadable.disk.under freeDisk)).2.under fullDisk) := by
      decide +kernel
    obtain ⟨hload, -, hsnapshot⟩ := hsaved unreadable halfWarm freeDisk laterMoves (by decide)
      htemperature hsave ⟨trivial, trivial, hunwritten, trivial, trivial⟩
    exact ⟨hload, hsnapshot⟩
  · have hprintable : Printable (record otherMembers) := by
      refine printable_record fun m hm => ?_
      simp only [otherMembers, List.mem_cons, List.not_mem_nil, or_false] at hm
      rcases hm with rfl | rfl
      · exact .array fun v hv => List.mem_singleton.mp hv ▸ .null
      · exact .string _
    have hotherText : IsDocument otherText (record otherMembers) :=
      (parse_eq_some_iff _ _).mp (parse_compact hprintable)
    have hreadable : Readable otherMembers := by
      constructor
      · intro k
        cases k <;> decide
      · intro k v hv
        cases k <;> simp [otherMembers, Key.name] at hv
        rw [hv]
        rfl
    have hoverlay : otherMembers.foldl overlay standard = { standard with model := "n" } := rfl
    rw [← hoverlay]
    exact (hdocument ⟨standard, oneFile otherText⟩ otherText otherMembers (read_oneFile _)
      hotherText hreadable).1

end Shared

end Settings

end Renaming
