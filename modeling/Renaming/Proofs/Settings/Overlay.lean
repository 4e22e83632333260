import Renaming.Proofs.Settings.File

/-!
# Settings from documents

A document is read as the standard settings with the values that its members give (`overlay`), in
whatever order they stand and whatever other members there are.
-/

namespace Renaming

open Json

namespace Settings

/-! ## Single settings -/

namespace Key

@[reducible] def Value : Key → Type
  | server | model => String
  | autoSave | backup => Bool
  | temperature => Float
  | maxConcurrent => Nat

def get : (k : Key) → Settings → k.Value
  | server, s => s.server
  | model, s => s.model
  | autoSave, s => s.autoSave
  | backup, s => s.backup
  | temperature, s => s.temperature
  | maxConcurrent, s => s.maxConcurrent

def put : (k : Key) → k.Value → Settings → Settings
  | server, x, s => { s with server := x }
  | model, x, s => { s with model := x }
  | autoSave, x, s => { s with autoSave := x }
  | backup, x, s => { s with backup := x }
  | temperature, x, s => { s with temperature := x }
  | maxConcurrent, x, s => { s with maxConcurrent := x }

/-- The value of a setting that stands in a document. -/
def read? : (k : Key) → Json → Option k.Value
  | server | model => text?
  | autoSave | backup => bool?
  | temperature => float?
  | maxConcurrent => natural?

/-- The settings in the order in which they are stored. -/
def all : List Key := [server, model, autoSave, backup, temperature, maxConcurrent]

variable {k k' : Key}

@[simp] theorem get_put (k : Key) (x : k.Value) (s : Settings) : k.get (k.put x s) = x := by
  cases k <;> rfl

theorem get_put_of_ne (h : k ≠ k') (x : k'.Value) (s : Settings) :
    k.get (k'.put x s) = k.get s := by
  cases k <;> cases k' <;> first | rfl | exact absurd rfl h

end Key

/-! ## Many members -/

/-- The settings after a member of a document. Unknown members change nothing. -/
def overlay (s : Settings) (member : String × Json) : Settings :=
  match Key.ofName? member.1 with
  | some k => ((k.read? member.2).map (k.put · s)).getD s
  | none => s

variable {k : Key} {members : List (String × Json)} {value : Option Json}

theorem get_overlay (k : Key) (v : Json) (s : Settings) :
    k.get (s.overlay (k.name, v)) = (k.read? v).getD (k.get s) := by
  unfold overlay
  simp only [ofName?_eq_some_iff.mpr rfl]
  cases k.read? v with
  | none => rfl
  | some x => exact k.get_put x s

theorem get_overlay_of_ne {m : String × Json} (h : m.1 ≠ k.name) (s : Settings) :
    k.get (s.overlay m) = k.get s := by
  unfold overlay
  cases hkey : Key.ofName? m.1 with
  | none => rfl
  | some k' =>
    have hne : k ≠ k' := by
      rintro rfl
      exact h (ofName?_eq_some_iff.mp hkey).symm
    simp only
    cases k'.read? m.2 with
    | none => rfl
    | some x => exact Key.get_put_of_ne hne x s

/-- Of all members only the one with the key changes its setting. -/
theorem get_foldl_overlay (h : Member members k.name value) (s : Settings) :
    k.get (members.foldl overlay s) = (value.bind k.read?).getD (k.get s) := by
  induction members generalizing s value with
  | nil =>
    cases value with
    | none => rfl
    | some v => cases h
  | cons m members ih =>
    obtain ⟨key, v⟩ := m
    unfold Member at h
    by_cases hkey : key = k.name
    · rw [List.filter_cons_of_pos (by simpa using hkey)] at h
      cases value with
      | none => cases h
      | some v' =>
        obtain ⟨hv, hrest⟩ := List.cons.inj h
        obtain ⟨-, rfl⟩ := Prod.mk.inj hv
        -- After its member the key does not come again.
        have hnone : Member members k.name none := hrest
        rw [List.foldl_cons, ih hnone, hkey]
        exact get_overlay k v s
    · rw [List.filter_cons_of_neg (by simpa using hkey)] at h
      rw [List.foldl_cons, ih h, get_overlay_of_ne hkey]

/-! ## Documents -/

/-- A document with these members can be read: no known key occurs twice, and what stands there can
be read as a value of the setting. -/
structure Readable (members : List (String × Json)) : Prop where
  once : ∀ k : Key, (members.map (·.1)).count k.name ≤ 1
  decodable : ∀ k : Key, ∀ v, (k.name, v) ∈ members → (k.read? v).isSome = true

theorem withDefault_of_member (h : Readable members) (hvalue : Member members k.name value)
    (s : Settings) :
    (Slot.ofValue value).withDefault (k.get s) k.read? =
      some (k.get (members.foldl overlay s)) := by
  rw [get_foldl_overlay hvalue]
  cases value with
  | none => rfl
  | some v =>
    obtain ⟨x, hx⟩ := Option.isSome_iff_exists.mp (h.decodable k v hvalue.mem)
    rw [Option.bind_some, hx]
    exact hx

/-- An object is read as the standard settings with the values of its members. -/
theorem ofJson?_record (h : Readable members) :
    ofJson? (record members) = some (members.foldl overlay standard) := by
  choose value hvalue using fun k => exists_member (h.once k)
  have hslots : record? (Key.all.map Key.name) (record members) =
      some (Key.all.map fun k => .ofValue (value k)) := by
    have hmembers := members?_record members
    simp only [record?, record, hmembers, Option.bind_some]
    exact mapM_map_eq_some fun k _ => slot?_eq_some_iff.mpr ⟨_, hvalue k, rfl⟩
  have hread (k : Key) := withDefault_of_member h (hvalue k) standard
  have hserver := hread .server
  have hmodel := hread .model
  have hautoSave := hread .autoSave
  have hbackup := hread .backup
  have htemperature := hread .temperature
  have hmaxConcurrent := hread .maxConcurrent
  simp only [Key.get, Key.read?] at hserver hmodel hautoSave hbackup htemperature hmaxConcurrent
  have hfields : Key.all.map Key.name = ["ollamaServer", "model", "autoSaveChanges",
    "createBackup", "temperature", "maxConcurrentRequests"] := rfl
  rw [ofJson?, ← hfields, hslots]
  simp only [Key.all, List.map_cons, List.map_nil, hserver, hmodel, hautoSave, hbackup,
    htemperature, hmaxConcurrent]
  rfl

end Settings

end Renaming
