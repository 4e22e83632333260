import Mathlib
import Renaming.Json.Decode

/-!
# Doubles that were read

Reading never gives a double that is not a number (`isNaN_of_float?`): a power of ten is finite and
not zero, so nothing that is multiplied or divided by it stops being a number. Doubles that are
numbers are ordered.
-/

namespace Renaming.Json

open Float.Model Float.Model.UnpackedFloat

/-! ## Packing -/

theorem ofNat_ne {n : Nat} {b : BitVec 11} (hn : n < 2 ^ 11) (h : n ≠ b.toNat) :
    BitVec.ofNat 11 n ≠ b := by
  rintro rfl
  exact h (by rw [BitVec.toNat_ofNat, Nat.mod_eq_of_lt hn])

theorem isNaN_unpack_packComponents (s : Sign) (e : BitVec 11) (m : BitVec 52)
    (h : e = -1#11 → m = 0#52) :
    (UnpackedFloat.unpack .binary64 (packComponents .binary64 s e m)).isNaN = false := by
  unfold UnpackedFloat.unpack
  simp only [unpackExponent_packComponents, unpackMantissa_packComponents]
  split
  · rename_i he
    rw [if_pos (h he)]
    rfl
  · split
    · split <;> rfl
    · rfl

theorem isNaN_pack {u : UnpackedFloat} (h : u.isNaN = false) :
    (Float.Model.pack u).unpack.isNaN = false := by
  change (UnpackedFloat.unpack .binary64 (UnpackedFloat.pack .binary64 u)).isNaN = false
  fun_cases UnpackedFloat.pack .binary64 u with
  | case1 => cases h
  | case2 s => exact isNaN_unpack_packComponents _ _ _ fun _ => rfl
  | case3 s => exact isNaN_unpack_packComponents _ _ _ fun h => absurd h (by decide)
  | case4 => exact isNaN_unpack_packComponents _ _ _ fun _ => rfl
  | case5 s m e hm bits biased hsmall =>
    have hlt : biased + 1 < 2 ^ 11 := Nat.not_le.mp hsmall
    have hne : biased ≠ (-1#11).toNat := by
      simp
      omega
    exact isNaN_unpack_packComponents _ _ _ fun h => absurd h (ofNat_ne (by omega) hne)
  | case6 => exact isNaN_unpack_packComponents _ _ _ fun h => absurd h (by decide)

/-! ## Rounding -/

theorem isNaN_roundWithAccuracy (s : Sign) (m : Nat) (e : Int) (a : Accuracy) :
    (roundWithAccuracy .binary64 s m e a).isNaN = false := by
  unfold roundWithAccuracy
  simp only
  split <;> rfl

theorem mantissa_shiftRight (em : ExtendedMantissa) (k : Nat) :
    (em >>> k).mantissa = em.mantissa / 2 ^ k := by
  change (k.repeat ExtendedMantissa.shiftRightOne em).mantissa = _
  induction k with
  | zero => simp [Nat.repeat]
  | succ k ih =>
    change (k.repeat ExtendedMantissa.shiftRightOne em).mantissa / 2 = _
    rw [ih, Nat.div_div_eq_div_mul, ← Nat.pow_succ]

theorem roundedMantissa_bounds (em : ExtendedMantissa) :
    em.mantissa ≤ em.roundedMantissa ∧ em.roundedMantissa ≤ em.mantissa + 1 := by
  obtain ⟨m, _ | _, _ | _⟩ := em <;>
  · simp only [ExtendedMantissa.roundedMantissa, ExtendedMantissa.accuracy,
      Accuracy.roundToNearestEven]
    omega

/-- Of a long enough mantissa the first 53 bits are left. -/
theorem shiftToTargetExponent_bounds {m : Nat} {e : Int} (hm : 2 ^ 52 ≤ m) (he : -1000 ≤ e) :
    let x := shiftToTargetExponent .binary64 m e .exact
    2 ^ 52 ≤ x.1.mantissa ∧ x.1.mantissa < 2 ^ 53 ∧ x.2 = e + (m.log2 - 52) := by
  have hne : m ≠ 0 := by omega
  have hlog : 52 ≤ m.log2 := (Nat.le_log2 hne).mpr hm
  have htarget : Format.binary64.targetExponent (totalExponent m e) = e + (m.log2 - 52) := by
    simp only [Format.targetExponent, totalExponent, Format.mantissaBits, Format.minExponent]
    norm_num
    omega
  obtain ⟨k, hk⟩ := Nat.exists_eq_add_of_le hlog
  intro x
  have hx : x = ((⟨m, false, false⟩ : ExtendedMantissa) >>> k, e + k) := by
    simp only [x, shiftToTargetExponent, shiftToExponent, htarget,
      ExtendedMantissa.ofMantissaAndAccuracy]
    rw [show (e + (m.log2 - 52) - e).toNat = k by omega]
  rw [hx]
  refine ⟨?_, ?_, by omega⟩
  · rw [mantissa_shiftRight, Nat.le_div_iff_mul_le (Nat.two_pow_pos k), ← Nat.pow_add, ← hk]
    exact Nat.log2_self_le hne
  · rw [mantissa_shiftRight, Nat.div_lt_iff_lt_mul (Nat.two_pow_pos k), ← Nat.pow_add,
      show 53 + k = m.log2 + 1 by omega]
    exact Nat.lt_log2_self

/-- A finite number other than zero. -/
def Nonzero (u : UnpackedFloat) : Prop := ∃ s m e hm, u = .finite s m e hm

instance : DecidablePred Nonzero
  | .finite .. => isTrue ⟨_, _, _, _, rfl⟩
  | .notANumber => isFalse fun ⟨_, _, _, _, h⟩ => nomatch h
  | .infinity _ => isFalse fun ⟨_, _, _, _, h⟩ => nomatch h
  | .zero _ => isFalse fun ⟨_, _, _, _, h⟩ => nomatch h

theorem nonzero_pack {s : Sign} {m : Nat} {e : Int} {h : 0 < m} (hlow : 2 ^ 52 ≤ m)
    (hhigh : m < 2 ^ 53) (he : -1000 ≤ e) (he' : e ≤ 970) :
    Nonzero (Float.Model.pack (.finite s m e h)).unpack := by
  have hlog : m.log2 + 1 = Format.binary64.mantissaBits := by
    rw [(Nat.log2_eq_iff (by omega)).mpr ⟨hlow, hhigh⟩]
    rfl
  obtain ⟨n, hn, hn0, hn1⟩ : ∃ n : Nat, (e + Format.binary64.exponentBias +
      Format.binary64.mantissaBitsWithoutImplicit).toNat = n ∧ 0 < n ∧ n < 2047 :=
    ⟨_, rfl, by simp [Format.exponentBias]; omega, by simp [Format.exponentBias]; omega⟩
  have hpack : UnpackedFloat.pack .binary64 (.finite s m e h) =
      packComponents .binary64 s (BitVec.ofNat 11 n) (BitVec.ofNat 52 m) := by
    simp only [UnpackedFloat.pack, hn, hlog, if_true]
    rw [if_neg (by norm_num; omega)]
  change Nonzero (UnpackedFloat.unpack .binary64 (UnpackedFloat.pack .binary64 _))
  have hall : BitVec.ofNat 11 n ≠ -1#11 := ofNat_ne (by omega) (by simp; omega)
  have hnone : BitVec.ofNat 11 n ≠ 0#11 := ofNat_ne (by omega) (by simp; omega)
  rw [hpack]
  unfold UnpackedFloat.unpack
  simp only [unpackExponent_packComponents, if_neg hall, if_neg hnone]
  exact ⟨_, _, _, _, rfl⟩

theorem nonzero_roundWithAccuracy {s : Sign} {m : Nat} {e : Int} (hm : 2 ^ 52 ≤ m)
    (he : -1000 ≤ e) (he' : e + m.log2 ≤ 1021) :
    Nonzero (Float.Model.pack (roundWithAccuracy .binary64 s m e .exact)).unpack := by
  obtain ⟨hlow, hhigh, hexponent⟩ := shiftToTargetExponent_bounds hm he
  unfold roundWithAccuracy
  generalize shiftToTargetExponent .binary64 m e .exact = x at hlow hhigh hexponent
  have hround := roundedMantissa_bounds x.1
  have hlog : 52 ≤ m.log2 := (Nat.le_log2 (by omega)).mpr hm
  obtain ⟨hlow', hhigh', hexponent'⟩ := shiftToTargetExponent_bounds
    (m := x.1.roundedMantissa) (e := x.2) (by omega) (by omega)
  have hlog' : 52 ≤ x.1.roundedMantissa.log2 ∧ x.1.roundedMantissa.log2 < 54 :=
    ⟨(Nat.le_log2 (by omega)).mpr (by omega), (Nat.log2_lt (by omega)).mpr (by omega)⟩
  simp only
  rw [dif_neg (by omega)]
  exact nonzero_pack hlow' hhigh' (by omega) (by omega)

/-! ## Powers of ten -/

theorem nonzero_powerOfTen {e : Nat} (h : e ≤ 308) : Nonzero (powerOfTen e).toModel.unpack := by
  by_cases hsmall : e ≤ 22
  · revert e
    decide +kernel
  by_cases hlast : e = 308
  · subst hlast
    decide +kernel
  have hpower : powerOfTen e = .ofModel (.pack (UnpackedFloat.ofScientific .binary64 1 e)) := by
    unfold powerOfTen Float.ofScientific
    rw [dif_neg (by omega)]
    rfl
  have hrounded : UnpackedFloat.ofScientific .binary64 1 e =
      roundWithAccuracy .binary64 .positive (2 ^ 53 * 10 ^ e) (-53) .exact := by
    have hlimit : ¬ (e : Int) > 2 ^ Format.binary64.exponentBits := by
      norm_num
      omega
    unfold UnpackedFloat.ofScientific
    rw [dif_neg (by decide), if_neg hlimit, if_neg (by omega), if_pos (by omega)]
    rfl
  rw [hpower, hrounded]
  have hpos : 0 < 10 ^ e := Nat.pow_pos (by decide)
  have hlow : 2 ^ 52 ≤ 2 ^ 53 * 10 ^ e := by omega
  have hhigh : (2 ^ 53 * 10 ^ e).log2 < 1075 := by
    have hle : e ≤ 307 := by omega
    rw [Nat.log2_eq_log_two]
    calc Nat.log 2 (2 ^ 53 * 10 ^ e) ≤ Nat.log 2 (2 ^ 53 * 10 ^ 307) :=
          Nat.log_mono_right (Nat.mul_le_mul_left _ (Nat.pow_le_pow_right (by decide) hle))
      _ < 1075 := by decide +kernel
  exact nonzero_roundWithAccuracy hlow (by decide) (by omega)

/-! ## Reading -/

/-- A zero times an infinity is the only product of numbers that is not a number. -/
theorem isNaN_mul {u v : UnpackedFloat} (hu : u.isNaN = false) (hv : Nonzero v) :
    (u.mul .binary64 v).isNaN = false := by
  obtain ⟨s, m, e, hm, rfl⟩ := hv
  cases u with
  | notANumber => cases hu
  | finite => exact isNaN_roundWithAccuracy ..
  | _ => rfl

theorem isNaN_div {u v : UnpackedFloat} (hu : u.isNaN = false) (hv : Nonzero v) :
    (u.div .binary64 v).isNaN = false := by
  obtain ⟨s, m, e, hm, rfl⟩ := hv
  cases u with
  | notANumber => cases hu
  | finite => exact isNaN_roundWithAccuracy ..
  | _ => rfl

theorem isNaN_neg {u : UnpackedFloat} (hu : u.isNaN = false) : u.neg.isNaN = false := by
  cases u with
  | notANumber => cases hu
  | _ => rfl

theorem isNaN_toFloat (n : UInt64) : n.toFloat.isNaN = false := by
  refine isNaN_pack ?_
  unfold UnpackedFloat.ofUInt64 UnpackedFloat.ofNat UnpackedFloat.ofInt UnpackedFloat.normalize
  split
  · exact isNaN_roundWithAccuracy ..
  · rfl
  · exact isNaN_roundWithAccuracy ..

theorem isNaN_ofNat (n : Nat) : (Float.ofNat n).isNaN = false := by
  have hunpacked : ∀ e, (UnpackedFloat.ofScientific .binary64 n e).isNaN = false := by
    intro e
    fun_cases UnpackedFloat.ofScientific .binary64 n e with
    | case4 | case5 => exact isNaN_roundWithAccuracy ..
    | _ => rfl
  change (Float.ofScientific n false 0).isNaN = false
  unfold Float.ofScientific
  split
  · have hone : Nonzero (Float.ofBits 0x3FF0000000000000).toModel.unpack := by decide +kernel
    exact isNaN_pack (isNaN_mul (isNaN_toFloat _) hone)
  · exact isNaN_pack (hunpacked _)

theorem isNaN_of_scale {x y : Float} {e : Int} (hx : x.isNaN = false) (h : scale x e = some y) :
    y.isNaN = false := by
  fun_induction scale x e with
  | case1 x e hsmall =>
    cases h
    exact isNaN_pack (isNaN_div hx (nonzero_powerOfTen hsmall))
  | case2 => cases h
  | case3 x e hsmall =>
    obtain rfl := Option.some.inj h
    exact isNaN_pack (isNaN_mul hx (nonzero_powerOfTen hsmall))
  | case4 =>
    cases h
    exact hx
  | case5 x e _ _ _ ih => exact ih (isNaN_pack (isNaN_div hx (nonzero_powerOfTen le_rfl))) h
  | case6 => cases h

theorem isNaN_of_float? {v : Json} {x : Float} (h : float? v = some x) : x.isNaN = false := by
  cases v with
  | number literal =>
    obtain ⟨y, hy, rfl⟩ := Option.map_eq_some_iff.mp h
    have hnumber := isNaN_of_scale (isNaN_ofNat _) hy
    split
    · exact isNaN_pack (isNaN_neg hnumber)
    · exact hnumber
  | _ => cases h

/-! ## Order -/

theorem compare_swap (u v : UnpackedFloat) : v.compare u = (u.compare v).map Ordering.swap := by
  have hfinite : ∀ (e e' : Int) (m m' : Nat), ((compare e e').then (compare m m')).swap =
      (compare e' e).then (compare m' m) := by
    intro e e' m m'
    rw [Ordering.swap_then, ← Std.OrientedCmp.eq_swap, ← Std.OrientedCmp.eq_swap]
  rcases u with (_ | _) | _ | _ | ⟨_ | _, m, e, hm⟩ <;>
  rcases v with (_ | _) | _ | _ | ⟨_ | _, m', e', hm'⟩ <;>
    first | rfl | simp [UnpackedFloat.compare, hfinite]

theorem isSome_compare {u v : UnpackedFloat} (hu : u.isNaN = false) (hv : v.isNaN = false) :
    (u.compare v).isSome = true := by
  rcases u with (_ | _) | _ | _ | ⟨_ | _, m, e, hm⟩ <;>
  rcases v with (_ | _) | _ | _ | ⟨_ | _, m', e', hm'⟩ <;>
    first | rfl | simp [UnpackedFloat.isNaN] at hu hv

theorem lt_iff (x y : Float) : x < y ↔ x.toModel.unpack.compare y.toModel.unpack = some .lt := by
  change decide (x.toModel < y.toModel) = true ↔ _
  rw [decide_eq_true_iff]
  exact beq_iff_eq

theorem le_iff (x y : Float) :
    x ≤ y ↔ ∃ o, x.toModel.unpack.compare y.toModel.unpack = some o ∧ o.isLE = true := by
  change decide (x.toModel ≤ y.toModel) = true ↔ _
  rw [decide_eq_true_iff]
  exact Option.any_eq_true _ _

theorem le_of_not_lt {x y : Float} (hx : x.isNaN = false) (hy : y.isNaN = false)
    (h : ¬x < y) : y ≤ x := by
  obtain ⟨o, ho⟩ := Option.isSome_iff_exists.mp (isSome_compare hx hy)
  rw [lt_iff, ho] at h
  refine (le_iff y x).mpr ⟨o.swap, ?_, ?_⟩
  · rw [compare_swap, ho, Option.map_some]
  · cases o with
    | lt => exact absurd rfl h
    | _ => rfl

theorem not_lt_zero_of_one_lt {x : Float} (h : 1 < x) : ¬x < 0 := by
  have hzero : (0 : Float).toModel.unpack = .zero .positive := by rfl
  have hone : (1 : Float).toModel.unpack = .finite .positive (2 ^ 52) (-52) (by decide) := by rfl
  rw [lt_iff, hone] at h
  rw [lt_iff, hzero]
  generalize x.toModel.unpack = u at h
  rcases u with (_ | _) | _ | _ | ⟨_ | _, m, e, hm⟩ <;>
    simp [UnpackedFloat.compare] at h ⊢

/-- Between two numbers there are only numbers. -/
theorem finite_of_le_of_le {x : Float} (hlow : 0 ≤ x) (hhigh : x ≤ 2) :
    x.isNaN = false ∧ x.isFinite = true := by
  have hzero : (0 : Float).toModel.unpack = .zero .positive := by rfl
  have htwo : (2 : Float).toModel.unpack = .finite .positive (2 ^ 52) (-51) (by decide) := by rfl
  rw [le_iff, hzero] at hlow
  rw [le_iff, htwo] at hhigh
  change x.toModel.unpack.isNaN = false ∧ x.toModel.unpack.isFinite = true
  generalize x.toModel.unpack = u at hlow hhigh
  rcases u with (_ | _) | _ | _ | ⟨_ | _, m, e, hm⟩ <;>
    simp [UnpackedFloat.compare, UnpackedFloat.isNaN, UnpackedFloat.isFinite] at hlow hhigh ⊢

end Renaming.Json
