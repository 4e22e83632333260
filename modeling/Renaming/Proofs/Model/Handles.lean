import Mathlib.Tactic.TFAE
import Renaming.Proofs.Model.Entities

/-!
# Live handles

A handle is live if there is a name behind it. Looking up its signature, writing its name and
listing the entities of its kind go by the same bounds, and no renaming moves them.
-/

namespace Renaming.Assembly

/-! ## One handle -/

theorem isSome_signature? (a : Assembly) (e : Entity) :
    (a.signature? e).isSome = (a.name? e).isSome := by
  cases e <;> simp [signature?, name?]

/-- Where there is no name behind a handle, nothing is written. -/
theorem rename_of_name?_eq_none {a : Assembly} {e : Entity} (name : String)
    (h : a.name? e = none) : a.rename e name = a := by
  apply eq_of_names (a.nameless_rename e name)
  intro f
  by_cases hf : e = f
  · subst hf
    simp [h]
  · exact a.name?_rename_of_ne name hf

/-- A name that was written is there afterwards, if the handle is live. -/
theorem name?_rename_eq_some_iff (a : Assembly) (e : Entity) (name : String) :
    (a.rename e name).name? e = some name ↔ (a.name? e).isSome = true := by
  rw [name?_rename_self, Option.map_eq_some_iff, Option.isSome_iff_exists]
  exact ⟨fun ⟨old, h, _⟩ => ⟨old, h⟩, fun ⟨old, h⟩ => ⟨old, h, rfl⟩⟩

theorem setName_eq_ok_iff (a b : Assembly) (e : Entity) (name : String) :
    a.setName e name = .ok b ↔ (a.name? e).isSome = true ∧ b = a.rename e name := by
  cases hname : a.name? e with
  | none =>
    rw [setName_of_dead name hname]
    simp
  | some old =>
    rw [setName_of_name? name hname, Except.ok.injEq, eq_comm]
    simp

/-! ## Many renamings -/

/-- The model after some attempts to give entities names. Those that fail leave it as it is. -/
def setNames (a : Assembly) (attempts : List (Entity × String)) : Assembly :=
  attempts.foldl (fun a (e, name) => (a.setName e name).toOption.getD a) a

theorem setName_getD (a : Assembly) (e : Entity) (name : String) :
    (a.setName e name).toOption.getD a = a.rename e name := by
  cases hname : a.name? e with
  | none =>
    rw [setName_of_dead name hname, rename_of_name?_eq_none name hname]
    rfl
  | some old =>
    rw [setName_of_name? name hname]
    rfl

theorem nameless_setNames (a : Assembly) (attempts : List (Entity × String)) :
    (a.setNames attempts).nameless = a.nameless := by
  induction attempts generalizing a with
  | nil => rfl
  | cons attempt attempts ih =>
    calc (a.setNames (attempt :: attempts)).nameless
        = ((a.rename attempt.1 attempt.2).setNames attempts).nameless := by
            rw [← setName_getD]
            rfl
      _ = a.nameless := by rw [ih, nameless_rename]

/-- For a handle it is one question whether it has a name, whether it has a signature, whether it
can be given any name or some name, whether a name written at its place is there afterwards, and
whether it is listed among the entities of its kind. The entities of a kind are listed once each, in
the order of their places, and the list is the same after any renamings. -/
theorem live_handles_agree (a : Assembly) :
    (∀ e : Entity, List.TFAE [
      (a.name? e).isSome = true,
      (a.signature? e).isSome = true,
      ∀ name, ∃ b, a.setName e name = .ok b ∧ b.name? e = some name,
      ∃ name b, a.setName e name = .ok b,
      ∃ name, (a.rename e name).name? e = some name,
      e ∈ a.entities e.kind]) ∧
    ∀ kind,
      (∀ e ∈ a.entities kind, e.kind = kind) ∧
      (a.entities kind).Nodup ∧
      (a.entities kind).Pairwise (fun e f => e.place < f.place) ∧
      ∀ attempts, (a.setNames attempts).entities kind = a.entities kind := by
  constructor
  · intro e
    tfae_have 1 ↔ 2 := by rw [isSome_signature?]
    tfae_have 1 → 3 := by
      intro hlive name
      exact ⟨_, (setName_eq_ok_iff ..).mpr ⟨hlive, rfl⟩, (name?_rename_eq_some_iff ..).mpr hlive⟩
    tfae_have 3 → 4 := by
      intro hall
      obtain ⟨b, hb, -⟩ := hall ""
      exact ⟨"", b, hb⟩
    tfae_have 4 → 1 := fun ⟨_, _, hb⟩ => ((setName_eq_ok_iff ..).mp hb).1
    tfae_have 1 ↔ 5 := by simp only [name?_rename_eq_some_iff, exists_const]
    tfae_have 1 ↔ 6 := by simp [mem_entities]
    tfae_finish
  · intro kind
    refine ⟨fun e he => ((a.mem_entities kind e).mp he).1, a.nodup_entities kind,
      a.sorted_entities kind, fun attempts => ?_⟩
    exact entities_congr (a.nameless_setNames attempts) kind

end Renaming.Assembly
