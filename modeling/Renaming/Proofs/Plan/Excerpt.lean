import Renaming.Proofs.Text.Window
import Renaming.Proofs.Text.Word
import Renaming.Request

/-!
# The code around a use

The code shown for a local variable is cut around the first place of its name between two
boundaries (`cutAround_surroundingCode`), so the name is in it if it is in the code at all. That is
the first use of the name exactly if the name starts and ends with word characters
(`use_is_centred_iff`).
-/

namespace Renaming

/-! ## Windows -/

namespace Text

variable {text : List Char} {i : Nat}

theorem extract_eq_append (hi : i ≤ text.length) (radius : Nat) :
    text.extract (i - radius) (i + radius) =
      (text.take i).drop (i - radius) ++ (text.drop i).take radius := by
  have hlength : (text.take i).length = i := List.length_take_of_le hi
  have hsub : i - radius - (text.take i).length = 0 := by omega
  rw [List.extract_eq_drop_take', List.take_add, List.drop_append, hsub, List.drop_zero]

theorem around_eq_extract (hi : i ≤ text.length) (radius : Nat) :
    around (text.take i) (text.drop i) radius = text.extract (i - radius) (i + radius) := by
  rw [around, List.length_take_of_le hi, extract_eq_append hi]

/-- The window at the byte where a place begins reaches as far to each side of the place. -/
theorem window_eq_extract {text : String} (hi : i ≤ text.toList.length) (radius : Nat) :
    window text (String.ofList (text.toList.take i)).utf8ByteSize radius =
      String.ofList (text.toList.extract (i - radius) (i + radius)) := by
  have hwindow := window_append (String.ofList (text.toList.take i))
    (String.ofList (text.toList.drop i)) radius
  rwa [ofList_take_append_drop, String.toList_ofList, String.toList_ofList,
    around_eq_extract hi] at hwindow

end Text

open Text

/-- The code up to 500 characters to each side of the first of the places, or all code if there is
none. -/
def CutAround (places : Set Nat) (code excerpt : String) : Prop :=
  (∃ i, IsLeast places i ∧ excerpt = String.ofList (code.toList.extract (i - 500) (i + 500))) ∨
    (∀ i, i ∉ places) ∧ excerpt = code

variable {name : String}

theorem cutAround_surroundingCode (hname : name.toList ≠ []) (code : String) :
    CutAround {i | StandsBounded name.toList code.toList i} code (surroundingCode code name) := by
  unfold surroundingCode
  cases hfound : findWord name.toList code.toList with
  | none => exact .inr ⟨(findWord_eq_none_iff hname).mp hfound, rfl⟩
  | some found =>
    obtain ⟨i, hfirst, rfl⟩ := (findWord_eq_some_iff hname).mp hfound
    have hi : i ≤ code.toList.length := Nat.le_of_lt (hfirst.1.lt hname)
    exact .inl ⟨i, hfirst, congrArg String.ofList (around_eq_extract hi useRadius)⟩

/-- The code that is shown is the window at the byte where the name is found. -/
theorem surroundingCode_eq_window (hname : name.toList ≠ []) {code : String} {i : Nat}
    (hfirst : IsLeast {i | StandsBounded name.toList code.toList i} i) :
    surroundingCode code name =
      window code (String.ofList (code.toList.take i)).utf8ByteSize useRadius := by
  have hi : i ≤ code.toList.length := Nat.le_of_lt (hfirst.1.lt hname)
  rcases cutAround_surroundingCode hname code with ⟨j, hj, hcut⟩ | ⟨hnone, -⟩
  · rw [hcut, hj.unique hfirst, window_eq_extract hi]
    rfl
  · exact absurd hfirst.1 (hnone i)

theorem cutAround_use (hends : WordEnds name.toList) (code : String) :
    CutAround {i | StandsAlone name.toList code.toList i} code (surroundingCode code name) := by
  have hcut := cutAround_surroundingCode hends.ne_nil code
  simpa only [standsBounded_iff hends] using hcut

theorem name_in_surroundingCode (hname : name.toList ≠ []) {code : String}
    (hlength : name.length ≤ 500) (hin : name.toList <:+: code.toList) :
    name.toList <:+: (surroundingCode code name).toList := by
  rcases cutAround_surroundingCode hname code with ⟨i, hfirst, hcut⟩ | ⟨-, hcut⟩
  · have hi : i ≤ code.toList.length := Nat.le_of_lt (hfirst.1.lt hname)
    rw [hcut, String.toList_ofList, extract_eq_append hi]
    have hprefix : name.toList <+: (code.toList.drop i).take 500 :=
      List.prefix_take_iff.mpr ⟨hfirst.1.here, hlength⟩
    exact hprefix.isInfix.trans (List.suffix_append _ _).isInfix
  · rwa [hcut]

/-! ## Names with other ends -/

theorem surroundingCode_append_spaces (hname : name.toList ≠ []) (hends : ¬ WordEnds name.toList)
    (n : Nat) :
    let code := String.ofList (name.toList ++ List.replicate (n + 1) ' ')
    surroundingCode code name = code := by
  intro code
  unfold surroundingCode
  rw [String.toList_ofList, (findWord_eq_none_iff hname).mpr]
  exact not_standsBounded_append_spaces hends hname n

/-- In front of many spaces the name stands alone, but all code is shown. -/
theorem not_cutAround_append_spaces (hname : name.toList ≠ []) (hends : ¬ WordEnds name.toList)
    {n : Nat} (hn : 500 ≤ n) :
    let code := String.ofList (name.toList ++ List.replicate (n + 1) ' ')
    ¬ CutAround {i | StandsAlone name.toList code.toList i} code (surroundingCode code name) := by
  intro code
  have hcode : code.toList = name.toList ++ List.replicate (n + 1) ' ' := String.toList_ofList
  have hplace : StandsAlone name.toList code.toList 0 := by
    rw [hcode]
    exact standsAlone_append_spaces name.toList (n + 1)
  have hall : surroundingCode code name = code := surroundingCode_append_spaces hname hends n
  rw [hall]
  rintro (⟨i, hfirst, hcut⟩ | ⟨hnone, -⟩)
  · have hi : i = 0 := Nat.le_zero.mp (hfirst.2 hplace)
    have hshort : code.toList.length ≤ 500 := by
      rw [hcut, hi, String.toList_ofList]
      exact List.length_take_le 500 _
    rw [hcode, List.length_append, List.length_replicate] at hshort
    omega
  · exact hnone 0 hplace

/-! ## Excerpts -/

/-- The code is shown around the first place of the name between two boundaries. That is its first
use, whatever the code, exactly if the name starts and ends with word characters. Any name that is
in the code is also in what is shown. -/
theorem use_is_centred_iff {name : String} (hname : name ≠ "") :
    (∀ code, CutAround {i | StandsBounded name.toList code.toList i} code
        (surroundingCode code name)) ∧
      ((∀ code, CutAround {i | StandsAlone name.toList code.toList i} code
        (surroundingCode code name)) ↔ WordEnds name.toList) ∧
      ∀ code : String, name.length ≤ 500 → name.toList <:+: code.toList →
        name.toList <:+: (surroundingCode code name).toList := by
  have hword : name.toList ≠ [] := fun h => hname (String.toList_eq_nil_iff.mp h)
  refine ⟨cutAround_surroundingCode hword, ⟨?_, cutAround_use⟩,
    fun _ => name_in_surroundingCode hword⟩
  intro h
  exact Classical.byContradiction fun hends =>
    not_cutAround_append_spaces hword hends (Nat.le_refl 500) (h _)

/-- A name with letters beyond ASCII in it. -/
theorem use_of_foreign_name_is_centred :
    (∀ code, CutAround {i | StandsAlone "größe".toList code.toList i} code
        (surroundingCode code "größe")) ∧
      "größe".toList <:+: (surroundingCode "a größer größe b" "größe").toList := by
  have huse := @use_is_centred_iff "größe" (by decide)
  refine ⟨huse.2.1.mpr ⟨by decide +kernel, by decide +kernel⟩, huse.2.2 _ (by decide) ?_⟩
  exact ⟨"a ".toList, "r größe b".toList, by decide⟩

/-- A name with a mark in front of it is used, but the code is not cut. -/
theorem use_of_marked_name_is_missed :
    let code := String.ofList ("@x".toList ++ List.replicate 501 ' ')
    surroundingCode code "@x" = code ∧
      ¬ CutAround {i | StandsAlone "@x".toList code.toList i} code (surroundingCode code "@x") := by
  have hname : "@x".toList ≠ [] := by decide
  have hends : ¬ WordEnds "@x".toList := fun h => absurd h.first (by decide)
  exact ⟨surroundingCode_append_spaces hname hends 500,
    not_cutAround_append_spaces hname hends (Nat.le_refl 500)⟩

end Renaming
