import Renaming.Proofs.Json.Float
import Renaming.Proofs.Text.Blank
import Renaming.Proofs.Url.Origin
import Renaming.Settings.File

/-!
# Changing settings one at a time

A change names the key under which a setting is stored and gives its value as a text. Either the
text stands for a value that the setting may have, and then only this setting changes (`Sets`), or
nothing is written (`run_assign_cases`). So settings that were usable stay usable, whatever is tried
(`Valid`).
-/

namespace Renaming

namespace Settings

open Text

variable {s s' : Settings} {key value : String} {k : Key}

/-! ## Keys -/

/-- The keys in the stored form. -/
def storedKeys (s : Settings) : List String :=
  match s.json with
  | .object members => members.filterMap (·.1)
  | _ => []

theorem ofName?_eq_some_iff : Key.ofName? key = some k ↔ k.name = key := by
  constructor
  · intro h
    unfold Key.ofName? at h
    split at h <;> cases h <;> rfl
  · rintro rfl
    cases k <;> rfl

theorem name_injective : Function.Injective Key.name := by
  intro k k' h
  have := ofName?_eq_some_iff.mpr h
  rw [ofName?_eq_some_iff.mpr rfl] at this
  exact (Option.some.inj this).symm

theorem mem_storedKeys_iff : key ∈ s.storedKeys ↔ ∃ k : Key, k.name = key := by
  have hkeys : s.storedKeys = [Key.server.name, Key.model.name, Key.autoSave.name, Key.backup.name,
    Key.temperature.name, Key.maxConcurrent.name] := rfl
  rw [hkeys]
  constructor
  · intro h
    simp only [List.mem_cons, List.not_mem_nil, or_false] at h
    rcases h with rfl | rfl | rfl | rfl | rfl | rfl <;> exact ⟨_, rfl⟩
  · rintro ⟨k, rfl⟩
    cases k <;> simp

/-! ## Values -/

theorem bool?_eq_some_iff {b : Bool} : Decimal.bool? value = some b ↔ value = toString b := by
  unfold Decimal.bool?
  by_cases htrue : value = "true"
  · cases b <;> simp [htrue, toString]
  · cases b <;> simp [htrue, toString]

/-- Digits, maybe after a plus, for a number of 64 bits. -/
def IsCount (value : String) (n : Nat) : Prop :=
  ∃ digits, (value.toList = digits ∨ value.toList = '+' :: digits) ∧ digits ≠ [] ∧
    (∀ c ∈ digits, c.isDigit = true) ∧ n = Decimal.ofDigits digits ∧ n < 2 ^ 64

theorem count?_eq_some_iff {n : Nat} : Decimal.count? value = some n ↔ IsCount value n := by
  unfold Decimal.count?
  extract_lets cs
  rw [Option.ite_none_right_eq_some]
  simp only [Bool.and_eq_true, Bool.not_eq_true', List.isEmpty_eq_false_iff, List.all_eq_true,
    decide_eq_true_eq, Option.some.injEq]
  constructor
  · rintro ⟨⟨⟨hsome, hdigits⟩, hlimit⟩, rfl⟩
    refine ⟨cs, ?_, hsome, hdigits, rfl, hlimit⟩
    unfold cs
    split
    · rename_i hplus
      exact .inr hplus
    · exact .inl rfl
  · rintro ⟨digits, hvalue, hsome, hdigits, rfl, hlimit⟩
    suffices hcs : cs = digits by
      rw [hcs]
      exact ⟨⟨⟨hsome, hdigits⟩, hlimit⟩, rfl⟩
    unfold cs
    rcases hvalue with hvalue | hvalue
    · rw [hvalue]
      split
      · exact absurd (hdigits _ List.mem_cons_self) (by decide)
      · rfl
    · rw [hvalue]
      rfl

/-- Trimming leaves something of a text that is not blank. -/
theorem isEmpty_trim_eq_false_iff :
    (trim value).isEmpty = false ↔ ∃ c ∈ value.toList, isBlank c = false := by
  rw [Bool.eq_false_iff, ne_eq, String.isEmpty_iff, ← String.toList_eq_nil_iff, toList_trim,
    trimBoth_eq_nil_iff]
  simp

theorem isTemperature_iff {t : Float} : isTemperature t = true ↔ 0 ≤ t ∧ t ≤ 2 := by
  simp [isTemperature]

/-! ## One change -/

/-- The text stands for a value of the setting, and with that value the settings are the second
ones. -/
inductive Sets [Url.DomainRules] (s : Settings) (value : String) : Key → Settings → Prop where
  | server (h : (Url.ofText? value).isSome = true) : Sets s value .server { s with server := value }
  | model (h : ∃ c ∈ value.toList, isBlank c = false) :
    Sets s value .model { s with model := trim value }
  | autoSave {b : Bool} (h : value = toString b) : Sets s value .autoSave { s with autoSave := b }
  | backup {b : Bool} (h : value = toString b) : Sets s value .backup { s with backup := b }
  | temperature {t : Float} (h : Decimal.float? value = some t) (hlow : 0 ≤ t) (hhigh : t ≤ 2) :
    Sets s value .temperature { s with temperature := t }
  | maxConcurrent {n : Nat} (h : IsCount value n) (hsome : 1 ≤ n) :
    Sets s value .maxConcurrent { s with maxConcurrent := n }

/-! ### In place -/

section Store

variable {α : Type} {read : Option α} {write : α → Settings → Settings}

theorem run_store_eq_ok_iff : (store key value read write).run s = .ok () s' ↔
    ∃ a, read = some a ∧ s' = write a s := by
  cases read with
  | none => exact ⟨nofun, nofun⟩
  | some a =>
    constructor
    · rintro ⟨⟩
      exact ⟨a, rfl, rfl⟩
    · rintro ⟨_, ⟨⟩, rfl⟩
      rfl

/-- The text is read before anything is written. -/
theorem eq_of_run_store_error {e : SettingsError}
    (h : (store key value read write).run s = .error e s') :
    e = .invalidValue key value ∧ s' = s := by
  cases read with
  | none =>
    cases h
    exact ⟨rfl, rfl⟩
  | some a => cases h

end Store

section

variable [Url.DomainRules]

theorem sets_of_run_assign (h : (assign k.name value).run s = .ok () s') : Sets s value k s' := by
  cases k <;> obtain ⟨a, hread, rfl⟩ := run_store_eq_ok_iff.mp h
  case server =>
    obtain ⟨address, haddress, rfl⟩ := Option.map_eq_some_iff.mp hread
    exact .server (Option.isSome_of_eq_some haddress)
  case model =>
    obtain ⟨⟨⟩, hsome⟩ := Option.filter_eq_some_iff.mp hread
    exact .model (isEmpty_trim_eq_false_iff.mp (Bool.not_eq_true' _ ▸ hsome))
  case autoSave => exact .autoSave (bool?_eq_some_iff.mp hread)
  case backup => exact .backup (bool?_eq_some_iff.mp hread)
  case temperature =>
    obtain ⟨ht, hrange⟩ := Option.filter_eq_some_iff.mp hread
    obtain ⟨hlow, hhigh⟩ := isTemperature_iff.mp hrange
    exact .temperature ht hlow hhigh
  case maxConcurrent =>
    obtain ⟨hn, hsome⟩ := Option.filter_eq_some_iff.mp hread
    exact .maxConcurrent (count?_eq_some_iff.mp hn)
      (Nat.one_le_iff_ne_zero.mpr (bne_iff_ne.mp hsome))

theorem Sets.run_assign (h : Sets s value k s') : (assign k.name value).run s = .ok () s' := by
  cases h with
  | server h =>
    obtain ⟨address, haddress⟩ := Option.isSome_iff_exists.mp h
    exact run_store_eq_ok_iff.mpr ⟨value, by rw [haddress, Option.map_some], rfl⟩
  | model h =>
    have hsome := isEmpty_trim_eq_false_iff.mpr h
    exact run_store_eq_ok_iff.mpr
      ⟨trim value, Option.filter_eq_some_iff.mpr ⟨rfl, by simp [hsome]⟩, rfl⟩
  | autoSave h | backup h =>
    exact run_store_eq_ok_iff.mpr ⟨_, bool?_eq_some_iff.mpr h, rfl⟩
  | temperature h hlow hhigh =>
    have hrange := isTemperature_iff.mpr ⟨hlow, hhigh⟩
    exact run_store_eq_ok_iff.mpr ⟨_, Option.filter_eq_some_iff.mpr ⟨h, hrange⟩, rfl⟩
  | maxConcurrent h hsome =>
    have hne := bne_iff_ne.mpr (Nat.ne_zero_of_lt hsome)
    exact run_store_eq_ok_iff.mpr
      ⟨_, Option.filter_eq_some_iff.mpr ⟨count?_eq_some_iff.mpr h, hne⟩, rfl⟩

/-- A change is made, or its text stands for no value of the setting, or there is no such setting.
Only what is made is written. -/
theorem run_assign_cases (s : Settings) (key value : String) :
    (∃ k s', k.name = key ∧ Sets s value k s' ∧ (assign key value).run s = .ok () s') ∨
      (∃ k : Key, k.name = key ∧ (∀ s', ¬Sets s value k s') ∧
        (assign key value).run s = .error (.invalidValue key value) s) ∨
      (∀ k : Key, k.name ≠ key) ∧ (assign key value).run s = .error (.unknownKey key) s := by
  by_cases hkey : ∃ k : Key, k.name = key
  · obtain ⟨k, rfl⟩ := hkey
    cases hrun : (assign k.name value).run s with
    | ok _ s' => exact .inl ⟨k, s', rfl, sets_of_run_assign hrun, rfl⟩
    | error e s' =>
      have hunfit (s₁ : Settings) (h : Sets s value k s₁) : False := by
        rw [h.run_assign] at hrun
        cases hrun
      have hstored : e = .invalidValue k.name value ∧ s' = s := by
        cases k <;> exact eq_of_run_store_error hrun
      obtain ⟨rfl, rfl⟩ := hstored
      exact .inr (.inl ⟨k, rfl, hunfit, rfl⟩)
  · have hnone : Key.ofName? key = none :=
      Option.eq_none_iff_forall_ne_some.mpr fun k hk => hkey ⟨k, ofName?_eq_some_iff.mp hk⟩
    refine .inr (.inr ⟨not_exists.mp hkey, ?_⟩)
    unfold assign
    rw [hnone]
    rfl

theorem set_eq_ok_iff : s.set key value = .ok s' ↔ ∃ k : Key, k.name = key ∧ Sets s value k s' := by
  unfold set
  constructor
  · intro h
    rcases run_assign_cases s key value with
      ⟨k, s₁, hkey, hsets, hrun⟩ | ⟨k, -, -, hrun⟩ | ⟨-, hrun⟩ <;> rw [hrun] at h <;> cases h
    exact ⟨k, hkey, hsets⟩
  · rintro ⟨k, rfl, h⟩
    rw [h.run_assign]

/-- A change fails for an unknown key, and for a known one if the text stands for no value. -/
theorem set_eq_error_iff {e : SettingsError} : s.set key value = .error e ↔
    key ∉ s.storedKeys ∧ e = .unknownKey key ∨
      key ∈ s.storedKeys ∧ (∀ k s', k.name = key → ¬Sets s value k s') ∧
        e = .invalidValue key value := by
  rw [mem_storedKeys_iff]
  unfold set
  rcases run_assign_cases s key value with
    ⟨k, s', rfl, hsets, hrun⟩ | ⟨k, rfl, hunfit, hrun⟩ | ⟨hkey, hrun⟩
  all_goals rw [hrun]
  · refine ⟨nofun, ?_⟩
    rintro (⟨hkey, -⟩ | ⟨-, hunfit, -⟩)
    · exact absurd ⟨k, rfl⟩ hkey
    · exact absurd hsets (hunfit k s' rfl)
  · have hall (k' : Key) (s' : Settings) (h : k'.name = k.name) : ¬Sets s value k' s' :=
      name_injective h ▸ hunfit s'
    rw [Except.error.injEq]
    constructor
    · rintro rfl
      exact .inr ⟨⟨k, rfl⟩, hall, rfl⟩
    · rintro (⟨hkey, -⟩ | ⟨-, -, rfl⟩)
      · exact absurd ⟨k, rfl⟩ hkey
      · rfl
  · rw [Except.error.injEq]
    constructor
    · rintro rfl
      exact .inl ⟨not_exists.mpr hkey, rfl⟩
    · rintro (⟨-, rfl⟩ | ⟨⟨k, hk⟩, -⟩)
      · rfl
      · exact absurd hk (hkey k)

/-! ## The other settings -/

/-- All settings but the one of the key are the same. -/
structure AgreeBeside (k : Key) (s s' : Settings) : Prop where
  server : k ≠ .server → s'.server = s.server
  model : k ≠ .model → s'.model = s.model
  autoSave : k ≠ .autoSave → s'.autoSave = s.autoSave
  backup : k ≠ .backup → s'.backup = s.backup
  temperature : k ≠ .temperature → s'.temperature = s.temperature
  maxConcurrent : k ≠ .maxConcurrent → s'.maxConcurrent = s.maxConcurrent

theorem Sets.agreeBeside (h : Sets s value k s') : AgreeBeside k s s' := by
  cases h <;> constructor <;> intro hk <;> first | rfl | exact absurd rfl hk

/-! ## Many changes -/

/-- The settings that a change leaves, whether or not it succeeds. -/
def attempt (s : Settings) (change : String × String) : Settings :=
  match (assign change.1 change.2).run s with
  | .ok _ s' => s'
  | .error _ s' => s'

theorem attempt_of_ok (h : s.set key value = .ok s') :
    s.attempt (key, value) = s' := by
  unfold set at h
  unfold attempt
  split at h <;> cases h
  rename_i hrun
  rw [hrun]

/-- A change that fails leaves all settings as they were. -/
theorem attempt_of_error {e : SettingsError} (h : s.set key value = .error e) :
    s.attempt (key, value) = s := by
  unfold set at h
  unfold attempt
  rcases run_assign_cases s key value with
    ⟨_, _, -, -, hrun⟩ | ⟨_, -, -, hrun⟩ | ⟨-, hrun⟩ <;> rw [hrun] at h ⊢
  cases h

/-- What the program needs of its settings. -/
structure Valid (s : Settings) : Prop where
  server : (Url.ofText? s.server).isSome = true
  model : s.model ≠ ""
  trimmed : Trimmed s.model.toList
  low : 0 ≤ s.temperature
  high : s.temperature ≤ 2
  finite : s.temperature.isNaN = false ∧ s.temperature.isFinite = true
  maxConcurrent : 1 ≤ s.maxConcurrent

theorem isSome_standard_server [Url.LawfulDomainRules] :
    (Url.ofText? standard.server).isSome = true := by
  have htext : Url.scheme? (Url.tidy standard.server.toList) =
      some ("http", "//localhost:11434".toList) := by decide +kernel
  have hhost : Url.Host.ofSpecial? "localhost".toList = some (.domain "localhost") :=
    Url.Host.ofSpecial?_of_plain (by decide) (by decide +kernel) (by decide +kernel)
      (by decide +kernel)
  have hport : Url.port? "http" ":11434".toList = some (some 11434, []) := by decide +kernel
  have hsite : Url.siteIn? "http" (Url.authorityIn "//localhost:11434".toList) =
      some (.domain "localhost", some 11434) :=
    Url.siteIn?_eq_some "localhost".toList ":11434".toList (by decide +kernel) (by decide +kernel)
      (by decide) hhost hport
  have horigin := Url.map_origin_ofText? htext (.inl rfl)
  rw [hsite] at horigin
  rw [← Option.isSome_map (f := Url.origin), horigin]
  rfl

theorem valid_standard [Url.LawfulDomainRules] : Valid standard where
  server := isSome_standard_server
  model := by decide
  trimmed := by
    have htrim : trimBoth standard.model.toList = standard.model.toList := by decide
    exact htrim ▸ trimmed_trimBoth standard.model.toList
  low := by decide +kernel
  high := by decide +kernel
  finite := by decide +kernel
  maxConcurrent := by decide

theorem Valid.sets (h : Valid s) (hset : Sets s value k s') : Valid s' := by
  cases hset with
  | server haddress => exact { h with server := haddress }
  | model hsome =>
    refine { h with model := ?_, trimmed := ?_ }
    · have hkept := isEmpty_trim_eq_false_iff.mpr hsome
      simpa [String.isEmpty_iff] using hkept
    · rw [toList_trim]
      exact trimmed_trimBoth _
  | autoSave | backup => exact { h with }
  | temperature _ hlow hhigh =>
    exact { h with low := hlow, high := hhigh, finite := Json.finite_of_le_of_le hlow hhigh }
  | maxConcurrent _ hsome => exact { h with maxConcurrent := hsome }

theorem Valid.attempt (h : Valid s) (change : String × String) : Valid (s.attempt change) := by
  cases hset : s.set change.1 change.2 with
  | error e => exact (attempt_of_error hset).symm ▸ h
  | ok s' =>
    obtain ⟨k, -, hsets⟩ := set_eq_ok_iff.mp hset
    exact (attempt_of_ok hset).symm ▸ h.sets hsets

theorem Valid.foldl_attempt (h : Valid s) (changes : List (String × String)) :
    Valid (changes.foldl Settings.attempt s) := by
  induction changes generalizing s with
  | nil => exact h
  | cons change changes ih => exact ih (h.attempt change)

/-- A change succeeds if its key is one that settings are stored under and its text stands for a
value of that setting, and then no other setting changes. For any other key and any other text it
fails, each with its own error, and nothing changes. After any changes of the standard settings, the
failed ones included, the settings are valid. -/
theorem changes_are_checked [Url.LawfulDomainRules] (s : Settings) (key value : String) :
    (∀ s', s.set key value = .ok s' ↔ ∃ k : Key, k.name = key ∧ Sets s value k s') ∧
    (∀ e, s.set key value = .error e ↔
      key ∉ s.storedKeys ∧ e = .unknownKey key ∨
        key ∈ s.storedKeys ∧ (∀ k s', k.name = key → ¬Sets s value k s') ∧
          e = .invalidValue key value) ∧
    (∀ k s', k.name = key → s.set key value = .ok s' → AgreeBeside k s s') ∧
    (∀ e, s.set key value = .error e → s.attempt (key, value) = s) ∧
    ∀ changes : List (String × String), Valid (changes.foldl attempt standard) := by
  refine ⟨fun s' => set_eq_ok_iff, fun e => set_eq_error_iff, ?_, fun e => attempt_of_error,
    valid_standard.foldl_attempt⟩
  rintro k s' rfl h
  obtain ⟨k', hk', hsets⟩ := set_eq_ok_iff.mp h
  obtain rfl := name_injective hk'
  exact hsets.agreeBeside

end

/-! ### Changes that fit and changes that do not -/

/-- A temperature at its limit, one that is no number, a model with blanks around it, a setting that
does not exist and no requests at all. -/
def fiveChanges : List (String × String) :=
  [("temperature", "+2."), ("temperature", "nan"), ("model", "\u3000m \n"), ("colour", "blue"),
    ("maxConcurrentRequests", "+0")]

theorem five_changes_are_checked :
    let s := fiveChanges.foldl attempt standard
    (Valid s ∧ s.temperature = 2 ∧ s.model = "m" ∧ s.maxConcurrent = 2) ∧
      (∃ s', standard.set "temperature" "+2." = .ok s' ∧ AgreeBeside .temperature standard s') ∧
      ∃ e, standard.set "temperature" "nan" = .error e ∧
        standard.attempt ("temperature", "nan") = standard := by
  have hfits : (standard.set "temperature" "+2.").toBool = true := by decide +kernel
  have hfails : (standard.set "temperature" "nan").toBool = false := by decide +kernel
  obtain ⟨-, -, hbeside, -, hvalid⟩ := changes_are_checked standard "temperature" "+2."
  obtain ⟨-, -, -, hsame, -⟩ := changes_are_checked standard "temperature" "nan"
  refine ⟨⟨hvalid fiveChanges, by decide +kernel, by decide +kernel, by decide +kernel⟩, ?_, ?_⟩
  · cases hset : standard.set "temperature" "+2." with
    | error =>
      rw [hset] at hfits
      cases hfits
    | ok s' => exact ⟨s', rfl, hbeside .temperature s' rfl hset⟩
  · cases hset : standard.set "temperature" "nan" with
    | error e => exact ⟨e, rfl, hsame e hset⟩
    | ok =>
      rw [hset] at hfails
      cases hfails

end Settings

end Renaming
