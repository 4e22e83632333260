import Mathlib.Data.List.DropRight
import Mathlib.Order.Bounds.Basic
import Renaming.Text.Window

/-!
# Windows

The search back from an offset ends at the last place at or before it (`isGreatest_placeBack`). A
window reaches from there to both sides, as many characters as are asked for or as there are
(`window_of_splits`), so it is exact for every offset and every radius (`window_is_exact`).
-/

namespace Renaming.Text

/-- The byte stands between two characters of the text or at one of its ends. -/
def PlaceAt (text : String) (b : Nat) : Prop :=
  ∃ before after, text = before ++ after ∧ before.utf8ByteSize = b

/-- The bytes between two places of the text. -/
def CutFrom (text cut : String) : Prop :=
  ∃ start stop, PlaceAt text start ∧ PlaceAt text stop ∧ start ≤ stop ∧
    cut.toByteArray = text.toByteArray.extract start stop

variable {text before after : String} {place : text.Pos}

/-! ## The search back -/

theorem isValid_iff_placeAt {b : Nat} : String.Pos.Raw.IsValid text ⟨b⟩ ↔ PlaceAt text b := by
  rw [String.Pos.Raw.isValid_iff_exists_append]
  simp only [PlaceAt, String.Pos.Raw.ext_iff, String.byteIdx_rawEndPos, eq_comm]

theorem placeAt_pos (place : text.Pos) : PlaceAt text place.offset.byteIdx :=
  isValid_iff_placeAt.mp place.isValid

/-- The search ends at the last place that it can reach. -/
theorem isGreatest_placeBack (text : String) (offset : Nat) :
    IsGreatest {b | PlaceAt text b ∧ b ≤ offset} (placeBack text offset).offset.byteIdx := by
  fun_induction placeBack text offset with
  | case1 offset h => exact ⟨⟨isValid_iff_placeAt.mp h, Nat.le_refl _⟩, fun b hb => hb.2⟩
  | case2 offset h ih =>
    obtain ⟨⟨hplace, hle⟩, hlast⟩ := ih
    refine ⟨⟨hplace, by omega⟩, fun b hb => hlast ⟨hb.1, ?_⟩⟩
    have hne : b ≠ offset := fun heq => h (isValid_iff_placeAt.mpr (heq ▸ hb.1))
    have hb' := hb.2
    omega

/-- A character has four bytes at most, so the search takes three steps at most. -/
theorem le_placeBack (offset : Nat) (h : offset ≤ text.utf8ByteSize) :
    offset ≤ (placeBack text offset).offset.byteIdx + 3 := by
  obtain ⟨⟨⟨before, after, htext, hbefore⟩, -⟩, hlast⟩ := isGreatest_placeBack text offset
  rw [← hbefore] at hlast ⊢
  rcases hafter : after.toList with _ | ⟨c, rest⟩
  · have hempty : after = "" := String.toList_eq_nil_iff.mp hafter
    rw [htext, hempty, String.append_empty] at h
    omega
  · -- the next place is behind the character in which the offset is
    have hnext : PlaceAt text (before.utf8ByteSize + c.utf8Size) := by
      refine ⟨before ++ String.singleton c, String.ofList rest, ?_, ?_⟩
      · rw [htext, String.append_assoc, ← String.toList_inj]
        simp [hafter]
      · simp
    have hpos := c.utf8Size_pos
    have hfour := c.utf8Size_le_four
    by_contra hfar
    have := hlast ⟨hnext, by omega⟩
    omega

theorem placeBack_append (before after : String) :
    (placeBack (before ++ after) before.utf8ByteSize).Splits before after := by
  obtain ⟨⟨-, hle⟩, hlast⟩ := isGreatest_placeBack (before ++ after) before.utf8ByteSize
  have hreached := hlast ⟨⟨before, after, rfl, rfl⟩, Nat.le_refl _⟩
  exact ⟨rfl, String.Pos.Raw.ext (by simpa using Nat.le_antisymm hle hreached)⟩

/-! ## The cut -/

theorem ofList_take_append_drop (text : String) (k : Nat) :
    String.ofList (text.toList.take k) ++ String.ofList (text.toList.drop k) = text := by
  rw [← String.ofList_append, List.take_append_drop, String.ofList_toList]

theorem windowStart_splits (h : place.Splits before after) (radius : Nat) :
    (windowStart place radius).Splits
      (String.ofList (before.toList.take (before.toList.length - radius)))
      (String.ofList (before.toList.drop (before.toList.length - radius)) ++ after) := by
  rw [windowStart_eq_prevn]
  exact h.prevn radius

theorem windowStop_splits (h : place.Splits before after) (radius : Nat) :
    (windowStop place radius).Splits (before ++ String.ofList (after.toList.take radius))
      (String.ofList (after.toList.drop radius)) := by
  rw [windowStop_eq_nextn]
  exact h.nextn radius

theorem slice_of_splits {start stop : text.Pos} {cut : String} (hle : start ≤ stop)
    (hstart : start.Splits before (cut ++ after)) (hstop : stop.Splits (before ++ cut) after) :
    (text.slice start stop hle).copy = cut := by
  obtain ⟨_, hcut⟩ := String.copy_slice_eq_iff_splits.mpr ⟨before, after, hstart, hstop⟩
  exact hcut

theorem window_of_splits {offset : Nat}
    (h : (placeBack text (min offset text.utf8ByteSize)).Splits before after) (radius : Nat) :
    window text offset radius = String.ofList (around before.toList after.toList radius) := by
  have hstart := windowStart_splits h radius
  have hstop := windowStop_splits h radius
  have hcut : String.ofList (around before.toList after.toList radius) =
      String.ofList (before.toList.drop (before.toList.length - radius)) ++
        String.ofList (after.toList.take radius) := String.ofList_append
  -- the part before the place and the part behind it are put together again
  rw [← ofList_take_append_drop after radius, ← String.append_assoc, ← hcut] at hstart
  rw [← ofList_take_append_drop before (before.toList.length - radius), String.append_assoc,
    ← hcut] at hstop
  exact slice_of_splits _ hstart hstop

/-- At a place the window reaches to both sides of it. -/
theorem window_append (before after : String) (radius : Nat) :
    window (before ++ after) before.utf8ByteSize radius =
      String.ofList (around before.toList after.toList radius) := by
  apply window_of_splits
  rw [String.utf8ByteSize_append, Nat.min_eq_left (Nat.le_add_right _ _)]
  exact placeBack_append before after

theorem cutFrom_slice (start stop : text.Pos) (hle : start ≤ stop) :
    CutFrom text (text.slice start stop hle).copy := by
  refine ⟨_, _, placeAt_pos start, placeAt_pos stop, hle, ?_⟩
  rw [← String.extract_eq_copy_slice, String.toByteArray_extract]

theorem around_eq (before after : List Char) (radius : Nat) :
    around before after radius =
      before.rtake (min radius before.length) ++ after.take (min radius after.length) := by
  have hsub : before.length - min radius before.length = before.length - radius := by omega
  rw [around, List.rtake, hsub, ← List.take_eq_take_min]

theorem length_around_le (before after : List Char) (radius : Nat) :
    (around before after radius).length ≤ 2 * radius := by
  simp only [around, List.length_append, List.length_drop, List.length_take]
  omega

/-- The window is what stands around the last place at or before the offset: the last `radius`
characters before it and the first `radius` characters behind it, or all if there are fewer. The
search for the place ends there, after three steps at most, and no character is cut. -/
theorem window_is_exact (text : String) (offset radius : Nat) :
    ∃ before after, text = before ++ after ∧
      IsGreatest {b | PlaceAt text b ∧ b ≤ min offset text.utf8ByteSize} before.utf8ByteSize ∧
      (placeBack text (min offset text.utf8ByteSize)).offset.byteIdx = before.utf8ByteSize ∧
      min offset text.utf8ByteSize ≤ before.utf8ByteSize + 3 ∧
      (window text offset radius).toList =
        before.toList.rtake (min radius before.length) ++
          after.toList.take (min radius after.length) ∧
      CutFrom text (window text offset radius) ∧
      (window text offset radius).length ≤ 2 * radius ∧ window text offset 0 = "" := by
  have hplace := (placeBack text (min offset text.utf8ByteSize)).splits
  have hend := congrArg String.Pos.Raw.byteIdx hplace.offset_eq_rawEndPos
  rw [String.byteIdx_rawEndPos] at hend
  refine ⟨_, _, hplace.eq_append, ?_, hend, ?_, ?_, cutFrom_slice _ _ _, ?_, ?_⟩
  · rw [← hend]
    exact isGreatest_placeBack text _
  · rw [← hend]
    exact le_placeBack _ (Nat.min_le_right _ _)
  · rw [window_of_splits hplace, String.toList_ofList]
    exact around_eq _ _ radius
  · rw [window_of_splits hplace, String.length_ofList]
    exact length_around_le _ _ radius
  · rw [window_of_splits hplace, around]
    simp

/-- The offset is in the middle of a character. -/
example : window "ab привет cd" 8 2 = "прив" := by decide +kernel

end Renaming.Text
