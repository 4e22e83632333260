import Renaming.Proofs.Command.Review
import Renaming.Proofs.Command.Suggest
import Renaming.Proofs.Model.File

/-!
# When files change

A command changes its model file only after a session that applied something, and only if saving is
wanted.
-/

namespace Renaming.Command

open Files

/-! ## What a command comes to -/

/-- The settings that a command works under. -/
def settings? (c : Command) (e : Environment) (d : Disk) : Option Settings :=
  (c.settingsPath.or (e.settingsDirectory.map Settings.defaultPath)).map fun path =>
    (Settings.loadOrStandard d path).value.override c.server c.model

/-- Actions that only show something. -/
inductive Action.Shows : Action → Prop where
  | render (file : String) : Shows (.render file)
  | settings : Shows .showSettings
  | settingsPath : Shows .showSettingsPath

/-- Actions that hold a session over the model in a file. -/
inductive Action.Renames (file : String) (consent : Consent) : Action → Prop where
  | suggest (kind : Kind) (name : Option String) :
      Renames file consent (.suggest file kind name consent)
  | analyze : Renames file consent (.analyze file consent)

section

variable {σ : Type} (transport : Http.Transport σ)

/-- What an action asks about the model in a file. There is something to ask about. -/
inductive Action.Asks (s : Settings) (a : Assembly) (file : String) (consent : Consent) :
    Action → StateM σ (Warned (List Event)) → Prop where
  | suggest {kind : Kind} {name : Option String} {requests : List RenameRequest}
      (hsome : targets a kind name ≠ [])
      (hrequests : (targets a kind name).mapM a.request = .ok requests) :
      Asks s a file consent (.suggest file kind name consent)
        (planAll (Server.oracle transport s) requests)
  | analyze :
      Asks s a file consent (.analyze file consent)
        (reviewModule (Server.oracle transport s) a.code)

/-- The command fails before there is a session. -/
inductive FailsEarly (c : Command) (e : Environment) (d : Disk) (file : String) : Prop where
  | settings (h : c.settings? e d = none)
  | load {error : LoadError} (h : Assembly.load d file = .error error)
  | targets {a : Assembly} {kind : Kind} {name : Option String} {consent : Consent}
      (haction : c.action = .suggest file kind name consent) (hload : Assembly.load d file = .ok a)
      (h : targets a kind name = [])

/-- The command comes to a session over the model in its file, with this result. -/
structure Holds (terminal : Terminal String) (c : Command) (e : Environment) (w : World σ)
    (file : String) (consent : Consent) (s : Settings) (a : Assembly) (r : Session.Result) :
    Prop where
  settings : c.settings? e w.disk = some s
  load : Assembly.load w.disk file = .ok a
  result : ∃ events, c.action.Asks transport s a file consent events ∧
    r = (session consent a terminal (events.run w.network).1.value).1

variable (terminal : Terminal String) {c : Command} {e : Environment} {w : World σ}
  {file : String} {consent : Consent} {s : Settings} {a : Assembly}

/-! ## Running -/

/-- Under its settings a command does what is left to do. Only warnings are added. -/
theorem run_settings (work : Settings → StateM (World σ) Printout)
    (hrun : ∀ path, c.runWith transport path terminal = c.withSettings path work)
    (hsettings : c.settings? e w.disk = some s) :
    let x := (c.run transport e terminal).run w
    let y := (work s).run w
    x.2 = y.2 ∧ x.1.errors = y.1.errors := by
  obtain ⟨path, hpath, rfl⟩ := Option.map_eq_some_iff.mp hsettings
  unfold run
  simp only [hpath, hrun]
  exact ⟨rfl, rfl⟩

theorem run_suggest {kind : Kind} {name : Option String}
    (haction : c.action = .suggest file kind name consent)
    (hsettings : c.settings? e w.disk = some s) :
    let x := (c.run transport e terminal).run w
    let y := (suggest transport s file kind name consent terminal).run w
    x.2 = y.2 ∧ x.1.errors = y.1.errors :=
  run_settings transport terminal (fun s => suggest transport s file kind name consent terminal)
    (fun _ => by rw [runWith, haction]) hsettings

theorem run_analyze (haction : c.action = .analyze file consent)
    (hsettings : c.settings? e w.disk = some s) :
    let x := (c.run transport e terminal).run w
    let y := (analyze transport s file consent terminal).run w
    x.2 = y.2 ∧ x.1.errors = y.1.errors :=
  run_settings transport terminal (fun s => analyze transport s file consent terminal)
    (fun _ => by rw [runWith, haction]) hsettings

/-- What renames starts with the model in its file. -/
theorem run_renames (haction : c.action.Renames file consent)
    (hsettings : c.settings? e w.disk = some s) :
    ∃ work, let x := (c.run transport e terminal).run w
      let y := (withModel file work).run w
      x.2 = y.2 ∧ x.1.errors = y.1.errors := by
  generalize hrenames : c.action = action at haction
  cases haction with
  | suggest kind name => exact ⟨_, run_suggest transport terminal hrenames hsettings⟩
  | analyze => exact ⟨_, run_analyze transport terminal hrenames hsettings⟩

variable {transport terminal}

/-- A command that comes to a session is that session. -/
theorem Holds.run {r : Session.Result} (h : c.Holds transport terminal e w file consent s a r) :
    ∃ events, r = (session consent a terminal (events.run w.network).1.value).1 ∧
      let x := (c.run transport e terminal).run w
      let y := (review s file consent a events terminal).run w
      x.2 = y.2 ∧ x.1.errors = y.1.errors := by
  obtain ⟨events, hasks, hresult⟩ := h.result
  refine ⟨events, hresult, ?_⟩
  generalize haction : c.action = action at hasks
  cases hasks with
  | suggest hsome hrequests =>
    have hrun := run_suggest transport terminal haction h.settings
    unfold suggest at hrun
    rw [run_withModel _ h.load] at hrun
    simpa only [List.isEmpty_iff, hsome, if_false, hrequests] using hrun
  | analyze =>
    have hrun := run_analyze transport terminal haction h.settings
    unfold analyze at hrun
    rwa [run_withModel _ h.load] at hrun

/-! ## What is left -/

theorem exitCode_eq_zero (p : Printout) : p.exitCode = 0 ↔ p.errors = [] := by
  simp [Printout.exitCode]

theorem exitCode_eq_one (p : Printout) : p.exitCode = 1 ↔ p.errors ≠ [] := by
  simp [Printout.exitCode]

theorem written_eq_nil (result : Except FileError Unit) :
    written file result = [] ↔ result = .ok () := by
  cases result with
  | ok => simp [written]
  | error => simp [written, saveErrors]

theorem run_withModel_error {error : LoadError} (work : Assembly → StateM (World σ) Printout)
    (h : Assembly.load w.disk file = .error error) :
    (withModel file work).run w = (.ofErrors (loadErrors file error), w) := by
  rw [withModel_eq, h]
  rfl

theorem loadErrors_ne_nil (error : LoadError) : loadErrors file error ≠ [] := by
  cases error <;> exact List.cons_ne_nil _ _

/-- A command that fails early writes nothing. -/
theorem FailsEarly.run (haction : c.action.Renames file consent)
    (h : c.FailsEarly e w.disk file) :
    let x := (c.run transport e terminal).run w
    x.2 = w ∧ x.1.errors ≠ [] := by
  cases hsettings : c.settings? e w.disk with
  | none =>
    unfold Command.run
    simp only [Option.map_eq_none_iff.mp hsettings]
    exact ⟨rfl, List.cons_ne_nil _ _⟩
  | some s =>
    cases h with
    | settings hnone => exact nomatch hsettings.symm.trans hnone
    | load hload =>
      obtain ⟨work, hworld, herrors⟩ := run_renames transport terminal haction hsettings
      rw [run_withModel_error work hload] at hworld herrors
      exact ⟨hworld, herrors ▸ loadErrors_ne_nil _⟩
    | targets hsuggest hload hnone =>
      obtain ⟨hworld, herrors⟩ := run_suggest transport terminal hsuggest hsettings
      unfold suggest at hworld herrors
      rw [run_withModel _ hload] at hworld herrors
      simp only [hnone] at hworld herrors
      exact ⟨hworld, herrors ▸ List.cons_ne_nil _ _⟩

/-- A command that does not fail early comes to a session. -/
theorem exists_holds (haction : c.action.Renames file consent)
    (h : ¬c.FailsEarly e w.disk file) :
    ∃ s a r, c.Holds transport terminal e w file consent s a r := by
  cases hsettings : c.settings? e w.disk with
  | none => exact absurd (.settings hsettings) h
  | some s =>
    cases hload : Assembly.load w.disk file with
    | error e => exact absurd (.load hload) h
    | ok a =>
      have hasks : ∃ events, c.action.Asks transport s a file consent events := by
        generalize haction' : c.action = action at haction
        cases haction with
        | suggest kind name =>
          have hsome : targets a kind name ≠ [] := fun hnone => h (.targets haction' hload hnone)
          obtain ⟨requests, hrequests, -⟩ :=
            Assembly.exists_requests fun e he => (mem_targets he).2
          exact ⟨_, .suggest hsome hrequests⟩
        | analyze => exact ⟨_, .analyze⟩
      obtain ⟨events, hasks⟩ := hasks
      exact ⟨s, a, _, hsettings, hload, events, hasks, rfl⟩

theorem disk_of_shows (h : c.action.Shows) :
    ((c.run transport e terminal).run w).2.disk = w.disk := by
  unfold run
  split
  · generalize haction : c.action = action at h
    unfold runWith
    cases h with
    | render file =>
      simp only [haction, render]
      rw [withModel_eq]
      split <;> rfl
    | settings =>
      simp only [haction]
      rfl
    | settingsPath =>
      simp only [haction]
      rfl
  · rfl

section

variable {r : Session.Result} (h : c.Holds transport terminal e w file consent s a r)

include h

theorem Holds.left :
    let x := (c.run transport e terminal).run w
    if r.report.hasChanges && (s.autoSave || consent.save) then
      (x.1.exitCode = 0 ↔ ((r.model.save file s.backup).run w.disk).1 = .ok ()) ∧
      (x.1.exitCode = 0 → r.model.Saved file s.backup w.disk x.2.disk)
    else x.2.disk = w.disk ∧ x.1.exitCode = 0 := by
  intro x
  obtain ⟨events, hresult, hworld, herrors⟩ := h.run
  have hdisk := disk_review s file consent a terminal events w
  have hreview := errors_review s file consent a terminal events w
  simp only [← hworld, ← herrors, ← hresult] at hdisk hreview
  split
  · rename_i hsaving
    rw [if_pos hsaving] at hdisk hreview
    have hcode : x.1.exitCode = 0 ↔ ((r.model.save file s.backup).run w.disk).1 = .ok () := by
      rw [exitCode_eq_zero, hreview, written_eq_nil]
    refine ⟨hcode, fun hzero => ?_⟩
    obtain ⟨content, hread⟩ := Assembly.exists_read h.load
    exact Assembly.saved hread (Prod.ext (hcode.mp hzero) hdisk.symm)
  · rename_i hsaving
    rw [if_neg hsaving] at hdisk hreview
    exact ⟨hdisk, (exitCode_eq_zero _).mpr hreview⟩

theorem Holds.refused (hfails : terminal.Fails) (hyes : consent.yes = false) :
    r.model = a ∧ r.report.outcome = .empty ∧
      ((c.run transport e terminal).run w).2.disk = w.disk := by
  obtain ⟨hmodel, houtcome⟩ : r.model = a ∧ r.report.outcome = .empty := by
    obtain ⟨events, -, rfl⟩ := h.result
    unfold session
    rw [hyes]
    exact (Reviewer.refuses_console hfails).run a _ _ _
  have hleft := h.left
  have hnone : r.report.hasChanges = false := by
    rw [Report.hasChanges, houtcome]
    rfl
  simp only [hnone] at hleft
  exact ⟨hmodel, houtcome, hleft.1⟩

end

end

/-- Commands change their model file only after a session that applied something, and only if saving
is wanted. Then the file holds the model that the session left. The backup is the file as it was, if
there was none. Without answers to its questions nothing is applied. -/
theorem files_change_only_by_saving {σ : Type} (transport : Http.Transport σ)
    (terminal : Terminal String) (e : Environment) (c : Command) (w : World σ) :
    let x := (c.run transport e terminal).run w
    (c.action.Shows → x.2.disk = w.disk) ∧
    ∀ file consent, c.action.Renames file consent →
      (c.FailsEarly e w.disk file → x.2.disk = w.disk ∧ x.1.exitCode = 1) ∧
      (¬c.FailsEarly e w.disk file →
        ∃ s a r, c.Holds transport terminal e w file consent s a r) ∧
      ∀ s a r, c.Holds transport terminal e w file consent s a r →
        (if r.report.hasChanges && (s.autoSave || consent.save) then
          (x.1.exitCode = 0 ↔ ((r.model.save file s.backup).run w.disk).1 = .ok ()) ∧
          (x.1.exitCode = 0 → r.model.Saved file s.backup w.disk x.2.disk)
        else x.2.disk = w.disk ∧ x.1.exitCode = 0) ∧
        (terminal.Fails → consent.yes = false →
          r.model = a ∧ r.report.outcome = .empty ∧ x.2.disk = w.disk) := by
  intro x
  refine ⟨disk_of_shows, fun file consent haction => ⟨?_, exists_holds haction, ?_⟩⟩
  · intro h
    obtain ⟨hworld, herrors⟩ := h.run haction
    exact ⟨congrArg World.disk hworld, (exitCode_eq_one _).mpr herrors⟩
  · intro s a r h
    exact ⟨h.left, h.refused⟩

/-! ### One answer -/

def oneMethodFile : String :=
  "\x7b\"name\":\"\",\"types\":[\x7b\"methods\":[\x7b\"name\":\"b\"\x7d]\x7d]\x7d"

/-- The server answers once. -/
def answering : World Http.Transport.Script :=
  ⟨⟨[(["m"], .file oneMethodFile.toUTF8)], [], 0, fun _ => none⟩,
    ⟨[.reply 200 "\x7b\"response\":\"total\"\x7d"], none⟩⟩

/-- Names for all methods, which are to be saved. -/
def namingAll (yes : Bool) : Command :=
  ⟨none, some "http://[::1]:11434", none, .suggest "m" .method none ⟨yes, true⟩⟩

def atHome : Environment := ⟨none, none, some "/s"⟩

theorem answer_is_saved_beside_backup :
    let x := ((namingAll true).run .scripted atHome).run answering
    let y := ((namingAll false).run .scripted atHome).run answering
    (x.1.exitCode = 0 ∧ (x.2.disk.read "m.bak").toOption = some oneMethodFile.toUTF8 ∧
      ∃ s a r, (namingAll true).Holds .scripted .absent atHome answering "m" ⟨true, true⟩ s a r ∧
        r.model.Saved "m" s.backup answering.disk x.2.disk) ∧
    y.1.exitCode = 0 ∧ y.2.disk = answering.disk := by
  -- What is evaluated is stated of the runs alone, so that no proof step unfolds them.
  have haccepted : let x := ((namingAll true).run .scripted atHome).run answering
      x.1.exitCode = 0 ∧ (x.2.disk.read "m.bak").toOption = some oneMethodFile.toUTF8 := by
    decide +kernel
  have hasked : (((namingAll false).run .scripted atHome).run answering).1.exitCode = 0 := by
    decide +kernel
  have hnone : (answering.disk.read "m.bak").toOption = none := by decide +kernel
  have h := (files_change_only_by_saving .scripted .absent atHome (namingAll true) answering).2
    "m" ⟨true, true⟩ (.suggest .method none)
  have h' := (files_change_only_by_saving .scripted .absent atHome (namingAll false) answering).2
    "m" ⟨false, true⟩ (.suggest .method none)
  generalize ((namingAll true).run .scripted atHome).run answering = x at h haccepted ⊢
  generalize ((namingAll false).run .scripted atHome).run answering = y at h' hasked ⊢
  obtain ⟨hcode, hbackup⟩ := haccepted
  constructor
  · obtain ⟨hearly, hholds, hsession⟩ := h
    obtain ⟨s, a, r, hr⟩ := hholds fun hfails => nomatch hcode.symm.trans (hearly hfails).2
    refine ⟨hcode, hbackup, s, a, r, hr, ?_⟩
    have hleft := (hsession s a r hr).1
    split at hleft
    · exact hleft.2 hcode
    · rw [hleft.1, hnone] at hbackup
      cases hbackup
  · obtain ⟨hearly, hholds, hsession⟩ := h'
    obtain ⟨s, a, r, hr⟩ := hholds fun hfails => nomatch hasked.symm.trans (hearly hfails).2
    exact ⟨hasked, ((hsession s a r hr).2 Terminal.fails_absent rfl).2.2⟩

end Renaming.Command
