import Renaming.Proofs.Json.Record
import Renaming.Server.Client

/-!
# Responses

The documents that the client takes for a response are objects or arrays with one text, which may be
missing, and one truth value, which nobody reads (`response?_eq_some_iff`).
-/

namespace Renaming

namespace Server

open Json

/-! ## Responses -/

/-- What a field for a text says. It may be missing or null. -/
inductive Says : Option Json → Option String → Prop
  | missing : Says none none
  | null : Says (some .null) none
  | text (s : String) : Says (some (.text s)) (some s)

/-- A field for a truth value, which may be missing. -/
def IsFlag (value : Option Json) : Prop := ∀ v ∈ value, ∃ b, v = .bool b

/-- A document that is a response, and what it says: an object with text keys, or an array of the
values. -/
inductive IsResponse : Json → Option String → Prop
  | object {members : List (Option String × Json)} {pairs : List (String × Json)}
      {response done : Option Json} {said : Option String}
      (hpairs : members = pairs.map fun (key, value) => (some key, value))
      (hresponse : Member pairs "response" response) (hdone : Member pairs "done" done)
      (hsaid : Says response said) (hflag : IsFlag done) : IsResponse (.object members) said
  | array {response : Json} {said : Option String} (hsaid : Says (some response) said) :
      IsResponse (.array [response]) said
  | fullArray {response : Json} {said : Option String} (done : Bool)
      (hsaid : Says (some response) said) : IsResponse (.array [response, .bool done]) said

theorem optional_eq_some_iff {value : Option Json} {said : Option String} :
    (Slot.ofValue value).optional text? = some said ↔ Says value said := by
  constructor
  · intro h
    match value with
    | none =>
      cases h
      exact .missing
    | some .null =>
      cases h
      exact .null
    | some (.string (some s)) =>
      cases h
      exact .text s
  · rintro (_ | _ | _) <;> rfl

theorem exists_withDefault_iff {value : Option Json} :
    (∃ b, (Slot.ofValue value).withDefault false bool? = some b) ↔ IsFlag value := by
  match value with
  | none => simp [IsFlag, Slot.ofValue, Slot.withDefault]
  | some (.bool b) => simp [IsFlag, Slot.ofValue, Slot.withDefault, bool?]
  | some .null | some (.number _) | some (.string _) | some (.array _) | some (.object _) =>
    simp [IsFlag, Slot.ofValue, Slot.withDefault, bool?]

theorem record?_object (members : List (Option String × Json)) :
    record? ["response", "done"] (.object members) = (members? members).bind fun pairs =>
      (slot? pairs "response").bind fun response => (slot? pairs "done").map fun done =>
        [response, done] := by
  change (members? members).bind _ = _
  congr 1
  funext pairs
  rw [List.mapM_cons, List.mapM_cons, List.mapM_nil]
  cases slot? pairs "response" <;> cases slot? pairs "done" <;> rfl

theorem response?_object (members : List (Option String × Json)) :
    response? (.object members) = (members? members).bind fun pairs =>
      (slot? pairs "response").bind fun response => (slot? pairs "done").bind fun done =>
        (done.withDefault false bool?).bind fun _ => response.optional text? := by
  unfold response?
  rw [record?_object]
  cases members? members with
  | none => rfl
  | some pairs =>
    rw [Option.bind_some, Option.bind_some]
    cases slot? pairs "response" <;> cases slot? pairs "done" <;> rfl

theorem response?_fullArray (response done : Json) :
    response? (.array [response, done]) =
      ((Slot.given done).withDefault false bool?).bind fun _ =>
        (Slot.given response).optional text? := rfl

/-- The client takes a document for a response exactly if it is one. -/
theorem response?_eq_some_iff {value : Json} {said : Option String} :
    response? value = some said ↔ IsResponse value said := by
  constructor
  · intro h
    match value with
    | .object members =>
      simp only [response?_object, Option.bind_eq_some_iff, members?_eq_some_iff,
        slot?_eq_some_iff] at h
      obtain ⟨pairs, hpairs, _, ⟨response, hresponse, rfl⟩, _, ⟨done, hdone, rfl⟩, b, hb, hsaid⟩ :=
        h
      exact .object hpairs hresponse hdone (optional_eq_some_iff.mp hsaid)
        (exists_withDefault_iff.mp ⟨b, hb⟩)
    | .array [response] => exact .array (optional_eq_some_iff.mp h)
    | .array [response, done] =>
      simp only [response?_fullArray, Option.bind_eq_some_iff] at h
      obtain ⟨b, hb, hsaid⟩ := h
      have hflag : IsFlag (some done) := exists_withDefault_iff.mp ⟨b, hb⟩
      obtain ⟨b, rfl⟩ := hflag done rfl
      exact .fullArray b (optional_eq_some_iff.mp hsaid)
  · intro h
    cases h with
    | object hpairs hresponse hdone hsaid hflag =>
      obtain ⟨b, hb⟩ := exists_withDefault_iff.mpr hflag
      rw [response?_object, members?_eq_some_iff.mpr hpairs, Option.bind_some,
        slot?_eq_some_iff.mpr ⟨_, hresponse, rfl⟩, Option.bind_some,
        slot?_eq_some_iff.mpr ⟨_, hdone, rfl⟩, Option.bind_some, hb, Option.bind_some]
      exact optional_eq_some_iff.mpr hsaid
    | array hsaid => exact optional_eq_some_iff.mpr hsaid
    | fullArray done hsaid => exact optional_eq_some_iff.mpr hsaid

/-! ## Bodies -/

/-- The body of a reply is a response, and this is what it says. -/
def Responds (body : String) (said : Option String) : Prop :=
  ∃ value, parse body.toList = some value ∧ IsResponse value said

theorem responds_iff {body : String} {said : Option String} :
    Responds body said ↔ decode? response? body = some said := by
  unfold Responds decode?
  simp only [Option.bind_eq_some_iff, response?_eq_some_iff]

theorem Responds.unique {body : String} {said said' : Option String} (h : Responds body said)
    (h' : Responds body said') : said = said' := by
  rw [responds_iff] at h h'
  exact Option.some.inj (h.symm.trans h')

end Server

end Renaming
