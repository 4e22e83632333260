import Renaming.Json.Decode
import Renaming.Proofs.Json.Printer

/-!
# Reading records and lists

A record whose keys are its fields in order gives one slot for each, with the value that stands
there.
-/

namespace Renaming.Json

theorem mapM_map_eq_some {α β γ : Type} {f : β → Option γ} {g : α → β} {k : α → γ} {xs : List α}
    (h : ∀ x ∈ xs, f (g x) = some (k x)) : (xs.map g).mapM f = some (xs.map k) := by
  induction xs with
  | nil => rfl
  | cons x xs ih =>
    obtain ⟨hx, hxs⟩ := List.forall_mem_cons.mp h
    simp [hx, ih hxs]

/-! ## Lists -/

theorem list?_map {α : Type} {item? : Json → Option α} {f : α → Json} {xs : List α}
    (h : ∀ x ∈ xs, item? (f x) = some x) : list? item? (array (xs.map f)) = some xs := by
  have hread : (xs.map f).mapM item? = some (xs.map id) := mapM_map_eq_some h
  rwa [List.map_id] at hread

theorem exists_of_mem_list? {α : Type} {item? : Json → Option α} {v : Json} {xs : List α}
    (h : list? item? v = some xs) {x : α} (hx : x ∈ xs) : ∃ item, item? item = some x := by
  cases v with
  | array items =>
    change items.mapM item? = some xs at h
    induction items generalizing xs with
    | nil =>
      cases h
      cases hx
    | cons item items ih =>
      rw [List.mapM_cons] at h
      obtain ⟨y, hy, h⟩ := Option.bind_eq_some_iff.mp h
      obtain ⟨ys, hys, h⟩ := Option.bind_eq_some_iff.mp h
      cases h
      rcases List.mem_cons.mp hx with rfl | hx
      · exact ⟨item, hy⟩
      · exact ih hx hys
  | _ => cases h

/-! ## Records -/

theorem Slot.withDefault_eq_some {α : Type} {default x : α} {value? : Json → Option α}
    {slot : Slot} (h : slot.withDefault default value? = some x) :
    x = default ∨ ∃ v, value? v = some x := by
  cases slot with
  | given v => exact .inr ⟨v, h⟩
  | _ => exact .inl (Option.some.inj h).symm

theorem members?_record (members : List (String × Json)) :
    members? (members.map fun (key, value) => (some key, value)) = some members := by
  have hread : members? (members.map fun (key, value) => (some key, value)) =
      some (members.map id) := mapM_map_eq_some fun _ _ => rfl
  rwa [List.map_id] at hread

theorem filter_key {members : List (String × Json)} (hkeys : (members.map (·.1)).Nodup)
    {m : String × Json} (hm : m ∈ members) : members.filter (·.1 == m.1) = [m] := by
  induction members with
  | nil => exact nomatch hm
  | cons first members ih =>
    obtain ⟨hfirst, hmembers⟩ := List.nodup_cons.mp hkeys
    rcases List.mem_cons.mp hm with rfl | hm
    · have hothers : members.filter (·.1 == m.1) = [] := by
        rw [List.filter_eq_nil_iff]
        intro m' hm' hkey
        exact hfirst (List.mem_map.mpr ⟨m', hm', eq_of_beq hkey⟩)
      simp [hothers]
    · have hne : ¬ (first.1 == m.1) = true := by
        intro hkey
        exact hfirst (List.mem_map.mpr ⟨m, hm, (eq_of_beq hkey).symm⟩)
      simpa [hne] using ih hmembers hm

theorem record?_record {fields : List String} {members : List (String × Json)}
    (hfields : members.map (·.1) = fields) (hnodup : fields.Nodup) :
    record? fields (record members) = some (members.map fun m => .given m.2) := by
  subst hfields
  have hslots : ∀ m ∈ members, slot? members m.1 = some (.given m.2) := by
    intro m hm
    rw [slot?, filter_key hnodup hm]
  have hmembers := members?_record members
  simp only [record?, record, hmembers, Option.bind_some]
  exact mapM_map_eq_some hslots

/-! ## Members of objects -/

theorem members?_eq_some_iff {members : List (Option String × Json)}
    {pairs : List (String × Json)} :
    members? members = some pairs ↔ members = pairs.map fun (key, value) => (some key, value) := by
  constructor
  · intro h
    unfold members? at h
    induction members generalizing pairs with
    | nil =>
      rw [List.mapM_nil] at h
      cases h
      rfl
    | cons first members ih =>
      obtain ⟨key?, value⟩ := first
      rw [List.mapM_cons] at h
      obtain ⟨pair, hpair, h⟩ := Option.bind_eq_some_iff.mp h
      obtain ⟨rest, hrest, h⟩ := Option.bind_eq_some_iff.mp h
      obtain ⟨key, rfl, rfl⟩ := Option.map_eq_some_iff.mp hpair
      cases h
      rw [ih hrest, List.map_cons]
  · rintro rfl
    exact members?_record pairs

/-- Of the members, at most one has this key, and this is its value. -/
def Member (members : List (String × Json)) (key : String) (value : Option Json) : Prop :=
  members.filter (·.1 == key) = value.toList.map (key, ·)

def Slot.ofValue : Option Json → Slot
  | none => .absent
  | some value => .given value

theorem slot?_eq_some_iff {members : List (String × Json)} {key : String} {slot : Slot} :
    slot? members key = some slot ↔ ∃ value, Member members key value ∧ slot = .ofValue value := by
  unfold slot? Member
  constructor
  · intro h
    split at h
    · rename_i hnone
      exact ⟨none, hnone, (Option.some.inj h).symm⟩
    · rename_i k v hone
      have hk : k = key := by
        have hmem : (k, v) ∈ members.filter (·.1 == key) := hone ▸ List.mem_cons_self
        simpa using (List.mem_filter.mp hmem).2
      exact ⟨some v, by rw [hone, hk]; rfl, (Option.some.inj h).symm⟩
    · cases h
  · rintro ⟨value, hvalue, rfl⟩
    rw [hvalue]
    cases value <;> rfl

/-- A key that occurs once at most is that of one member or of none. -/
theorem exists_member {members : List (String × Json)} {key : String}
    (h : (members.map (·.1)).count key ≤ 1) : ∃ value, Member members key value := by
  have hlength : (members.filter (·.1 == key)).length ≤ 1 := by
    rwa [List.count, List.countP_map, List.countP_eq_length_filter] at h
  have hslot : ∃ slot, slot? members key = some slot := by
    unfold slot?
    generalize members.filter (·.1 == key) = found at hlength
    match found, hlength with
    | [], _ => exact ⟨.absent, rfl⟩
    | [m], _ => exact ⟨.given m.2, rfl⟩
  obtain ⟨slot, hslot⟩ := hslot
  obtain ⟨value, hvalue, -⟩ := slot?_eq_some_iff.mp hslot
  exact ⟨value, hvalue⟩

theorem Member.mem {members : List (String × Json)} {key : String} {value : Json}
    (h : Member members key (some value)) : (key, value) ∈ members := by
  have hmem : (key, value) ∈ members.filter (·.1 == key) := by
    rw [h]
    exact List.mem_singleton_self _
  exact (List.mem_filter.mp hmem).1

/-! ## Formats -/

theorem decode?_pretty {α : Type} {value? : Json → Option α} {v : Json} (h : Printable v) :
    decode? value? v.pretty = value? v := by
  rw [decode?, parse_pretty h, Option.bind_some]

/-- What is written for a value can be printed and is read as that value. -/
structure Lawful {α : Type} (json : α → Json) (ofJson? : Json → Option α) : Prop where
  printable (x : α) : Printable (json x)
  read (x : α) : ofJson? (json x) = some x

namespace Lawful

theorem text : Lawful Json.text text? where
  printable s := .string (some s)
  read _ := rfl

variable {α : Type} {json : α → Json} {ofJson? : Json → Option α} (h : Lawful json ofJson?)

include h

theorem list : Lawful (fun xs => array (xs.map json)) (list? ofJson?) where
  printable _ := printable_list fun x _ => h.printable x
  read _ := list?_map fun x _ => h.read x

theorem decode?_compact (x : α) : decode? ofJson? (json x).compact = some x := by
  rw [decode?, parse_compact (h.printable x), Option.bind_some, h.read]

theorem decode?_pretty (x : α) : decode? ofJson? (json x).pretty = some x := by
  rw [Json.decode?_pretty (h.printable x), h.read]

end Lawful

/-- What is written for a value can be printed, and is read as that value if the value allows it. -/
structure LawfulOn {α : Type} (Allowed : α → Prop) (json : α → Json)
    (ofJson? : Json → Option α) : Prop where
  printable (x : α) : Printable (json x)
  read (x : α) : Allowed x → ofJson? (json x) = some x

namespace LawfulOn

variable {α : Type} {Allowed : α → Prop} {json : α → Json} {ofJson? : Json → Option α}
  (h : LawfulOn Allowed json ofJson?)

include h

theorem list : LawfulOn (fun xs => ∀ x ∈ xs, Allowed x) (fun xs => array (xs.map json))
    (list? ofJson?) where
  printable _ := printable_list fun x _ => h.printable x
  read _ hxs := list?_map fun x hx => h.read x (hxs x hx)

theorem decode?_compact {x : α} (hx : Allowed x) : decode? ofJson? (json x).compact = some x := by
  rw [decode?, parse_compact (h.printable x), Option.bind_some, h.read x hx]

end LawfulOn

end Renaming.Json
