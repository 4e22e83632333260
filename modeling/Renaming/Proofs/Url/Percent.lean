import Mathlib.Data.List.Basic
import Renaming.Url.Percent

/-!
# Percent decoding at the end of a text

A character that ends a text and is part of no escape is still there after decoding.
-/

namespace Renaming.Url

/-! ## UTF-8 -/

/-- The first byte of a character cannot stand inside another one. -/
theorem eq_of_utf8EncodeChar_eq_append {c d : Char} {bs : List UInt8}
    (h : String.utf8EncodeChar c = bs ++ String.utf8EncodeChar d) : c = d := by
  have hd : 0 < (String.utf8EncodeChar d).length :=
    List.length_pos_iff.mpr String.utf8EncodeChar_ne_nil
  have hlt : bs.length < (String.utf8EncodeChar c).length := by
    rw [h, List.length_append]
    omega
  have hbyte : (String.utf8EncodeChar c)[bs.length] = (String.utf8EncodeChar d)[0] := by
    simp only [h, List.getElem_append_right (Nat.le_refl _), Nat.sub_self]
  have hfirst : (String.utf8EncodeChar c)[bs.length].IsUTF8FirstByte :=
    hbyte ▸ UInt8.isUTF8FirstByte_getElem_zero_utf8EncodeChar
  have hnil : bs = [] :=
    List.eq_nil_of_length_eq_zero (UInt8.isUTF8FirstByte_getElem_utf8EncodeChar.mp hfirst)
  rw [hnil, List.nil_append] at h
  have hdecode := ByteArray.utf8DecodeChar?_utf8EncodeChar_append (b := .empty) (c := c)
  rw [h, ByteArray.utf8DecodeChar?_utf8EncodeChar_append] at hdecode
  exact (Option.some.inj hdecode).symm

theorem eq_of_append_utf8EncodeChar {before before' : List UInt8} {c d : Char}
    (h : before ++ String.utf8EncodeChar c = before' ++ String.utf8EncodeChar d) : c = d := by
  rcases List.append_eq_append_iff.mp h with ⟨bs, -, hc⟩ | ⟨bs, -, hd⟩
  · exact eq_of_utf8EncodeChar_eq_append hc
  · exact (eq_of_utf8EncodeChar_eq_append hd).symm

/-! ## Escapes -/

/-- The character is part of no escape. -/
structure Unescaped (c : Char) : Prop where
  noMark : c ≠ '%'
  noDigit : hexValue? c = none

theorem decodedBytes_cons {c : Char} {cs : List Char}
    (h : ∀ a b rest, c = '%' → cs = a :: b :: rest → hexValue? a = none ∨ hexValue? b = none) :
    decodedBytes (c :: cs) = String.utf8EncodeChar c ++ decodedBytes cs := by
  generalize hall : c :: cs = all
  fun_cases decodedBytes all with
  | case1 a b rest x y hy hx =>
    cases hall
    rcases h a b rest rfl rfl with hnone | hnone
    · rw [hnone] at hx
      cases hx
    · rw [hnone] at hy
      cases hy
  | case2 | case3 =>
    cases hall
    rfl
  | case4 => cases hall

theorem decodedBytes_append {c : Char} (hc : Unescaped c) (cs : List Char) :
    decodedBytes (cs ++ [c]) = decodedBytes cs ++ String.utf8EncodeChar c := by
  fun_induction decodedBytes cs with
  | case1 a b cs x y hx hy ih =>
    simp only [List.cons_append, decodedBytes, hx, hy, ih]
  | case2 a b cs hnone ih =>
    rw [List.cons_append, decodedBytes_cons, ih, List.append_assoc]
    intro a' b' rest _ hrest
    cases hrest
    cases ha : hexValue? a with
    | none => exact .inl rfl
    | some x => exact .inr (Option.eq_none_iff_forall_ne_some.mpr fun y hb => hnone x y ha hb)
  | case3 d cs hmark ih =>
    -- With the character there may be two after the mark, but the second is no digit.
    rw [List.cons_append, decodedBytes_cons, ih, List.append_assoc]
    intro a b rest hd hrest
    match cs with
    | [] => cases hrest
    | [_] =>
      cases hrest
      exact .inr hc.noDigit
    | a' :: b' :: rest' => exact absurd rfl (hmark a' b' rest' hd)
  | case4 =>
    rw [List.nil_append, decodedBytes_cons fun _ _ _ hmark _ => absurd hmark hc.noMark]
    simp [decodedBytes]

theorem mem_of_percentDecode? {c : Char} (hc : Unescaped c) {cs decoded : List Char}
    (h : percentDecode? (cs ++ [c]) = some decoded) : c ∈ decoded := by
  obtain ⟨text, htext, rfl⟩ := Option.map_eq_some_iff.mp h
  have hbytes : text.toList.flatMap String.utf8EncodeChar =
      decodedBytes cs ++ String.utf8EncodeChar c := by
    have hvalid : text.toByteArray = ⟨(decodedBytes (cs ++ [c])).toArray⟩ := by
      unfold String.fromUTF8? at htext
      split at htext
      · cases htext
        rfl
      · cases htext
    have hdata := congrArg (·.data.toList) (String.utf8Encode_toList.trans hvalid)
    simpa only [List.utf8Encode, List.data_toByteArray, decodedBytes_append hc] using hdata
  rcases List.eq_nil_or_concat' text.toList with hnil | ⟨before, d, hlast⟩
  · rw [hnil, List.flatMap_nil] at hbytes
    have := (List.append_eq_nil_iff.mp hbytes.symm).2
    exact absurd this String.utf8EncodeChar_ne_nil
  · rw [hlast, List.flatMap_append, List.flatMap_singleton] at hbytes
    rw [hlast, eq_of_append_utf8EncodeChar hbytes]
    exact List.mem_append_right _ (List.mem_singleton_self c)

end Renaming.Url
