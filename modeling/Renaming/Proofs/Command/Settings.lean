import Renaming.Command.Run
import Renaming.Proofs.Settings.Change
import Renaming.Proofs.Settings.File

/-!
# Changing settings through their file

A command that changes a setting does to the file what `Settings.set` does to the settings in it. If
the value does not fit or the file cannot be written, the file stays as it was.
-/

namespace Renaming

open Files

namespace Command

variable {σ : Type} {path key value : String} {w : World σ}

/-- The settings that a file stands for. -/
def settingsIn (path : String) (d : Disk) : Settings := (Settings.loadOrStandard d path).value

theorem settingsIn_of_load {d : Disk} {s : Settings} (h : Settings.load d path = .ok s) :
    settingsIn path d = s := by
  rw [settingsIn, Settings.loadOrStandard, h]
  rfl

theorem settingsIn_under (path : String) (d : Disk) (p : Disk.Process) :
    settingsIn path (d.under p) = settingsIn path d := by
  unfold settingsIn Settings.loadOrStandard
  rw [Settings.load_congr (d.node_under p path)]

/-! ## One change -/

theorem run_changeSetting_unfit {e : SettingsError}
    (h : (settingsIn path w.disk).set key value = .error e) :
    (changeSetting path key value).run w =
      (⟨"", (Settings.loadOrStandard w.disk path).warnings, [e.message]⟩, w) := by
  unfold settingsIn at h
  unfold changeSetting
  simp only [StateT.run_bind, StateT.run_get, pure_bind, h]
  rfl

theorem run_changeSetting_fit {s : Settings}
    (h : (settingsIn path w.disk).set key value = .ok s) :
    (changeSetting path key value).run w =
      match (s.save path).run w.disk with
      | (.ok (), disk) =>
        (⟨line ("Set " ++ key ++ " = " ++ value),
          (Settings.loadOrStandard w.disk path).warnings, []⟩, { w with disk })
      | (.error e, disk) =>
        (⟨"", (Settings.loadOrStandard w.disk path).warnings ++
          ["Settings not saved: " ++ e.message], []⟩, { w with disk }) := by
  unfold settingsIn at h
  unfold changeSetting onDisk
  simp only [StateT.run_bind, StateT.run_get, pure_bind, h]
  obtain ⟨_ | _, disk⟩ := (s.save path).run w.disk <;> rfl

/-- What a command that changes a setting makes of the world `w`. -/
structure Changed (path key value : String) (w : World σ) (x : Printout × World σ) : Prop where
  network : x.2.network = w.network
  unfit : ∀ e, (settingsIn path w.disk).set key value = .error e →
    x.1.exitCode = 1 ∧ x.1.errors = [e.message] ∧ x.2 = w
  unwritten : ∀ s, (settingsIn path w.disk).set key value = .ok s → ¬s.Written path w.disk →
    x.1.exitCode = 0 ∧
      (∃ e, "Settings not saved: " ++ (SettingsError.file path e).message ∈ x.1.warnings) ∧
      w.disk.Unreplaced x.2.disk path ∧
      (w.disk.exists? path = true ∨
          w.disk.exists? (parent path) = true ∨ w.disk.Rooted ∧ ".." ∉ steps path →
        Settings.load x.2.disk path = Settings.load w.disk path)
  written : ∀ s, (settingsIn path w.disk).set key value = .ok s → s.Written path w.disk →
    x.1.exitCode = 0 ∧ x.2.disk.read path = .ok s.fileText.toUTF8 ∧
      (Settings.ReadsBack s.temperature → Settings.load x.2.disk path = .ok s)

theorem changed_changeSetting (path key value : String) (w : World σ) :
    Changed path key value w ((changeSetting path key value).run w) := by
  cases hset : (settingsIn path w.disk).set key value with
  | error e =>
    rw [run_changeSetting_unfit hset]
    constructor
    case network => rfl
    case unfit =>
      intro e' he'
      cases hset.symm.trans he'
      exact ⟨rfl, rfl, rfl⟩
    case unwritten | written => exact fun s hs => nomatch hset.symm.trans hs
  | ok s =>
    rw [run_changeSetting_fit hset]
    have hlimit := Settings.maxConcurrent_of_set
      (Settings.maxConcurrent_loadOrStandard w.disk path) hset
    constructor
    case network => obtain ⟨_ | _, disk⟩ := (s.save path).run w.disk <;> rfl
    case unfit => exact fun e he => nomatch hset.symm.trans he
    case unwritten =>
      intro s' hs' hunwritten
      cases hset.symm.trans hs'
      obtain ⟨e, d', hrun, hunreplaced⟩ := Settings.run_save_unwritten hunwritten
      rw [hrun]
      exact ⟨rfl, ⟨e, List.mem_append_right _ (List.mem_singleton_self _)⟩, hunreplaced,
        Settings.load_of_unreplaced hunreplaced⟩
    case written =>
      intro s' hs' hwritten
      cases hset.symm.trans hs'
      have hread := Settings.run_save_written hwritten
      generalize (s.save path).run w.disk = ran at hread ⊢
      obtain ⟨_ | _, d'⟩ := ran
      all_goals exact ⟨rfl, hread, fun hback => Settings.load_of_read hlimit hback hread⟩

/-! ## Many changes -/

/-- The file that the settings of a command are in. -/
def settingsFile? (c : Command) (e : Environment) : Option String :=
  c.settingsPath.or (e.settingsDirectory.map Settings.defaultPath)

section

variable (transport : Http.Transport σ) (terminal : Terminal String) (e : Environment)

theorem run_changing {c : Command} (haction : c.action = .changeSetting key value)
    (hpath : c.settingsFile? e = some path) (w : World σ) :
    (c.run transport e terminal).run w = (changeSetting path key value).run w := by
  unfold settingsFile? at hpath
  unfold run
  simp only [hpath, runWith, haction]

/-- Commands change settings in the file at `path`, each of them in a process of its own, and all
settings that fit get to their place. -/
inductive ChangesAll (path : String) : World σ → List (String × String) → World σ → Prop where
  | nil {w : World σ} : ChangesAll path w [] w
  | cons {c : Command} {key value : String} {changes : List (String × String)}
      {p : Disk.Process} {w w' : World σ} (haction : c.action = .changeSetting key value)
      (hpath : c.settingsFile? e = some path)
      (hwritten : ∀ s, (settingsIn path w.disk).set key value = .ok s →
        s.Written path (w.disk.under p))
      (hchanges : ChangesAll path
        ((c.run transport e terminal).run { w with disk := w.disk.under p }).2 changes w') :
      ChangesAll path w ((key, value) :: changes) w'

end

/-- If the settings are written, the file stands for the settings after the change. -/
theorem Changed.settingsIn {x : Printout × World σ} (h : Changed path key value w x)
    (hwritten : ∀ s, (settingsIn path w.disk).set key value = .ok s → s.Written path w.disk)
    (htemperature : Settings.ReadsBack
      ((Command.settingsIn path w.disk).attempt (key, value)).temperature) :
    Command.settingsIn path x.2.disk = (Command.settingsIn path w.disk).attempt (key, value) := by
  cases hset : (Command.settingsIn path w.disk).set key value with
  | error e => rw [(h.unfit e hset).2.2, Settings.attempt_of_error hset]
  | ok s =>
    rw [Settings.attempt_of_ok hset] at htemperature ⊢
    exact settingsIn_of_load ((h.written s hset (hwritten s hset)).2.2 htemperature)

/-- A command that changes a setting fails if the value does not fit. If the file cannot be written
it only warns. In both cases the file stays as it was. Otherwise the settings are loaded as
`Settings.set` left them, if the text of the temperature stands for that double. So many such
commands come to many changes of the settings that were loaded first. -/
theorem changing_settings_in_a_file (transport : Http.Transport σ) (terminal : Terminal String)
    (e : Environment) (path : String) :
    (∀ (c : Command) (key value : String) (w : World σ), c.action = .changeSetting key value →
      c.settingsFile? e = some path →
      Changed path key value w ((c.run transport e terminal).run w)) ∧
    ∀ (w w' : World σ) (changes : List (String × String)),
      ChangesAll transport terminal e path w changes w' →
      (∀ n, Settings.ReadsBack
        ((changes.take (n + 1)).foldl Settings.attempt (settingsIn path w.disk)).temperature) →
      settingsIn path w'.disk = changes.foldl Settings.attempt (settingsIn path w.disk) := by
  have hone (c : Command) (key value : String) (w : World σ)
      (haction : c.action = .changeSetting key value) (hpath : c.settingsFile? e = some path) :
      Changed path key value w ((c.run transport e terminal).run w) := by
    rw [run_changing transport terminal e haction hpath]
    exact changed_changeSetting path key value w
  refine ⟨hone, fun w w' changes h htemperature => ?_⟩
  induction h with
  | nil => rfl
  | @cons c key value changes p w w' haction hpath hwritten hchanges ih =>
    have hstep := (hone c key value { w with disk := w.disk.under p } haction hpath).settingsIn
    simp only [settingsIn_under] at hstep
    have hnext := hstep hwritten (htemperature 0)
    rw [hnext] at ih
    exact ih fun n => htemperature (n + 1)

/-! ### Two changes -/

/-- Settings with a model of their own. -/
def atModel : World Unit :=
  ⟨⟨[(["s"], .file "\x7b\"model\":\"m\"\x7d".toUTF8)], [], 0, fun _ => none⟩, ()⟩

def changing (key value : String) : Command := ⟨some "s", none, none, .changeSetting key value⟩

def twoChanges : List (String × String) := [("temperature", "0.5"), ("colour", "blue")]

theorem model_stays_when_temperature_is_set :
    let e : Environment := ⟨none, none, none⟩
    Changed "s" "colour" "blue" atModel (((changing "colour" "blue").run .none e).run atModel) ∧
    ∃ w', ChangesAll .none .absent e "s" atModel twoChanges w' ∧
      (settingsIn "s" w'.disk).model = "m" ∧ (settingsIn "s" w'.disk).temperature = 0.5 := by
  intro e
  have hunfit (s : Settings) : s.set "colour" "blue" = .error (.unknownKey "colour") := rfl
  have hwritten : (((settingsIn "s" atModel.disk).set "temperature" "0.5").toOption.all fun s =>
      decide (s.Written "s" (atModel.disk.under ⟨1, fun _ => none⟩))) = true := by decide +kernel
  obtain ⟨w', hchanges⟩ : ∃ w', ChangesAll .none .absent e "s" atModel twoChanges w' := by
    refine ⟨_, .cons (c := changing "temperature" "0.5") (p := ⟨1, fun _ => none⟩) rfl rfl ?_
      (.cons (c := changing "colour" "blue") (p := ⟨2, fun _ => none⟩) rfl rfl ?_ .nil)⟩
    · intro s hs
      rw [hs] at hwritten
      exact of_decide_eq_true hwritten
    · exact fun s hs => nomatch (hunfit _).symm.trans hs
  have htemperature (n : Nat) : Settings.ReadsBack ((twoChanges.take (n + 1)).foldl
      Settings.attempt (settingsIn "s" atModel.disk)).temperature := by
    cases n with
    | zero =>
      unfold Settings.ReadsBack
      decide +kernel
    | succ n =>
      rw [List.take_of_length_le (by simp [twoChanges])]
      unfold Settings.ReadsBack
      decide +kernel
  obtain ⟨hone, hall⟩ := changing_settings_in_a_file .none .absent e "s"
  have hsettings := hall atModel w' twoChanges hchanges htemperature
  refine ⟨hone (changing "colour" "blue") "colour" "blue" atModel rfl rfl, w', hchanges, ?_⟩
  rw [hsettings]
  exact ⟨by decide +kernel, by decide +kernel⟩

end Command

end Renaming
