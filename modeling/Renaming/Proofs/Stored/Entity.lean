import Renaming.Model.Format
import Renaming.Proofs.Json.Record
import Renaming.Proofs.Json.Value
import Renaming.Proofs.Model.Entities

/-!
# Stored kinds and entities

An entity is stored as its tag and the numbers of its place. It is kept whole until its tag is known
and read back from what is left without the tag, provided that its numbers fit into words.
-/

namespace Renaming

open Json

theorem Kind.lawful : Lawful Kind.json Kind.ofJson? where
  printable k := Lawful.text.printable k.tag
  read k := by cases k <;> decide

namespace Entity

variable {word : String} {members : List (String × Nat)}

/-! ## Tagged numbers -/

/-- The members with these names and numbers. -/
def numbered (members : List (String × Nat)) : List (Option String × Json) :=
  members.map fun m => (some m.1, natural m.2)

def tagged (word : String) (members : List (String × Nat)) : Json :=
  object ((some "entity", text word) :: numbered members)

theorem printable_tagged (word : String) (members : List (String × Nat)) :
    Printable (tagged word members) := by
  refine .object fun m hm => ?_
  rcases List.mem_cons.mp hm with rfl | hm
  · exact Lawful.text.printable word
  · obtain ⟨m', -, rfl⟩ := List.mem_map.mp hm
    exact printable_natural m'.2

theorem readableMembers_numbered (h : ∀ m ∈ members, m.2 < wordLimit) :
    readableMembers (numbered members) = true := by
  induction members with
  | nil => rfl
  | cons m members ih =>
    obtain ⟨hm, hmembers⟩ := List.forall_mem_cons.mp h
    have hreadable : readable (natural m.2) = true := by
      simp [readable, natural, Number.isInteger, hm]
    rw [numbered, List.map_cons, readableMembers, hreadable]
    exact ih hmembers

theorem heightMembers_numbered (members : List (String × Nat)) :
    heightMembers (numbered members) = 0 := by
  induction members with
  | nil => rfl
  | cons m members ih =>
    rw [numbered, List.map_cons, heightMembers]
    exact Nat.max_eq_zero_iff.mpr ⟨rfl, ih⟩

theorem keepable_tagged {outer : Nat} (h : ∀ m ∈ members, m.2 < wordLimit)
    (houter : outer < nestingLimit) : keepable outer (tagged word members) = true := by
  have hreadable : readable (tagged word members) = true := readableMembers_numbered h
  have hheight : height (tagged word members) = 1 := by
    simp [tagged, height, heightMembers, text, heightMembers_numbered]
  simp only [keepable, hreadable, hheight, Bool.true_and, decide_eq_true_eq]
  omega

theorem splitTag?_tagged (h : "entity" ∉ members.map (·.1)) :
    splitTag? (tagged word members) = some (word, object (numbered members)) := by
  have hothers : ∀ m ∈ numbered members, m.1 ≠ some "entity" := by
    rintro m hm hkey
    obtain ⟨m', hm', rfl⟩ := List.mem_map.mp hm
    exact h (List.mem_map.mpr ⟨m', hm', Option.some.inj hkey⟩)
  have hnone : (numbered members).filter (·.1 == some "entity") = [] :=
    List.filter_eq_nil_iff.mpr fun m hm => by simpa using hothers m hm
  have hall : (numbered members).filter (·.1 != some "entity") = numbered members :=
    List.filter_eq_self.mpr fun m hm => by simpa using hothers m hm
  simp [splitTag?, tagged, text, hnone, hall]

theorem numbers?_numbered (hkeys : (members.map (·.1)).Nodup)
    (h : ∀ m ∈ members, m.2 < wordLimit) :
    numbers? (members.map (·.1)) (object (numbered members)) = some (members.map (·.2)) := by
  have hrecord : object (numbered members) = record (members.map fun m => (m.1, natural m.2)) := by
    simp [record, numbered]
  have hslots : record? (members.map (·.1)) (object (numbered members)) =
      some ((members.map fun m => (m.1, natural m.2)).map fun m => .given m.2) := by
    rw [hrecord]
    exact record?_record (by simp) hkeys
  rw [numbers?, hslots, Option.bind_some, List.map_map]
  exact mapM_map_eq_some fun m hm => natural?_natural (h m hm)

theorem ofJson?_tagged {outer : Nat} (h : ∀ m ∈ members, m.2 < wordLimit)
    (houter : outer < nestingLimit) (hkeys : "entity" ∉ members.map (·.1)) :
    ofJson? outer (tagged word members) = ofTagged? word (object (numbered members)) := by
  rw [ofJson?, keepable_tagged h houter, if_pos rfl, splitTag?_tagged hkeys, Option.bind_some]

/-! ## Entities -/

/-- Every number fits into a word. -/
def Storable (e : Entity) : Prop := ∀ n ∈ e.place, n < wordLimit

instance : DecidablePred Storable := fun e => inferInstanceAs (Decidable (∀ n ∈ e.place, _))

/-- The names of the numbers of a place. -/
def fields : Entity → List String
  | type _ => ["ty"]
  | method _ _ => ["ty", "method"]
  | property _ _ => ["ty", "property"]
  | field _ _ => ["ty", "field"]
  | parameter _ _ _ => ["ty", "method", "param"]
  | var _ _ _ => ["ty", "method", "local"]

def tag : Entity → String
  | type _ => "type"
  | method _ _ => "method"
  | property _ _ => "property"
  | field _ _ => "field"
  | parameter _ _ _ => "parameter"
  | var _ _ _ => "local"

theorem json_eq (e : Entity) : e.json = tagged e.tag (e.fields.zip e.place) := by
  cases e <;> rfl

theorem ofTagged?_of_numbers? {e : Entity} {rest : Json}
    (h : numbers? e.fields rest = some e.place) : ofTagged? e.tag rest = some e := by
  cases e <;>
  · simp only [fields, place] at h
    simp [ofTagged?, tag, h]

/-- An entity is read back at any depth that leaves room for it. -/
theorem lawfulOn {outer : Nat} (houter : outer < nestingLimit) :
    LawfulOn Storable json (ofJson? outer) where
  printable e := by
    rw [json_eq]
    exact printable_tagged _ _
  read e h := by
    have hzip : (e.fields.zip e.place).map (·.1) = e.fields ∧
        (e.fields.zip e.place).map (·.2) = e.place := by
      cases e <;> exact ⟨rfl, rfl⟩
    have hfields : "entity" ∉ e.fields ∧ e.fields.Nodup := by
      cases e <;> simp only [fields] <;> decide
    have hnumbers : ∀ m ∈ e.fields.zip e.place, m.2 < wordLimit := fun m hm =>
      h m.2 (List.of_mem_zip hm).2
    have hread := numbers?_numbered (by rw [hzip.1]; exact hfields.2) hnumbers
    rw [hzip.1, hzip.2] at hread
    rw [json_eq, ofJson?_tagged hnumbers houter (by rw [hzip.1]; exact hfields.1)]
    exact ofTagged?_of_numbers? hread

end Entity

end Renaming
