/-
The numbers of the 64-bit format, unpacked and packed again.

* `Shape`, `Fits`: the bits and the exponents of the finite numbers of the format;
* `shape_unpack`: what is unpacked is a number of the format;
* `unpack_pack_finite`: a finite number is packed as it is, or as infinity.
-/
import Mathlib

namespace Data

namespace Float64

open Float.Model Float.Model.UnpackedFloat

/-- A finite number has at most 53 bits, all of them unless it is subnormal. -/
def Shape : UnpackedFloat → Prop
  | .finite _ m e _ => m < 2 ^ 53 ∧ -1074 ≤ e ∧ (2 ^ 52 ≤ m ∨ e = -1074)
  | _ => True

/-- A finite number is below the overflow. -/
def Fits : UnpackedFloat → Prop
  | .finite _ _ e _ => e ≤ 971
  | _ => True

/-! ### Components -/

lemma toNat_implicit (m : BitVec 52) : (1#1 ++ m).toNat = 2 ^ 52 + m.toNat := by
  rw [BitVec.toNat_append, ← Nat.shiftLeft_add_eq_or_of_lt m.isLt]
  rfl

/-- What is unpacked of packed components. -/
lemma unpack_packComponents (s : Sign) (e : BitVec 11) (m : BitVec 52) :
    unpack Format.binary64 (packComponents Format.binary64 s e m) =
      if e = -1#11 then (if m = 0#52 then .infinity s else .notANumber)
      else if e = 0#11 then
        if h : m = 0#52 then .zero s
        else .finite s m.toNat (-1074) (by simpa [BitVec.toNat_pos, BitVec.pos_iff_ne_zero])
      else .finite s (1#1 ++ m).toNat ((e.toNat : ℤ) - 1075)
        (by rw [toNat_implicit]; omega) := by
  unfold UnpackedFloat.unpack
  simp only [unpackMantissa_packComponents, unpackExponent_packComponents,
    unpackSign_packComponents, Sign.ofBitVec_toBitVec]
  by_cases he : e = 0#11
  · subst he
    rfl
  · simp only [he, if_false]
    rfl

/-! ### Unpacking -/

lemma bias_add_width : ((Format.binary64.exponentBias : ℕ) : ℤ) +
    (Format.binary64.mantissaBitsWithoutImplicit : ℕ) = 1075 := by decide

/-- What is unpacked is a number of the format. -/
lemma shape_unpack (b : BitVec 64) :
    Shape (unpack Format.binary64 b) ∧ Fits (unpack Format.binary64 b) := by
  have hm : (@unpackMantissa Format.binary64 b).toNat < 2 ^ 52 :=
    (@unpackMantissa Format.binary64 b).isLt
  have he : (@unpackExponent Format.binary64 b).toNat < 2 ^ 11 :=
    (@unpackExponent Format.binary64 b).isLt
  unfold UnpackedFloat.unpack
  dsimp only
  split_ifs with hones hzero hsub hnum
  · exact ⟨trivial, trivial⟩
  · exact ⟨trivial, trivial⟩
  · exact ⟨trivial, trivial⟩
  -- a subnormal number
  · rw [hsub]
    exact ⟨⟨by omega, by decide, Or.inr (by decide)⟩, by show _ ≤ _; decide⟩
  -- a normal number, with the implicit bit
  · have hones' : (@unpackExponent Format.binary64 b).toNat ≠ 2047 := by
      intro h
      exact hones (BitVec.eq_of_toNat_eq (h.trans rfl))
    have hsub' : (@unpackExponent Format.binary64 b).toNat ≠ 0 := by
      intro h
      exact hsub (BitVec.eq_of_toNat_eq (h.trans rfl))
    refine ⟨⟨?_, ?_, Or.inl ?_⟩, ?_⟩
    · rw [toNat_implicit]
      omega
    · rw [bias_add_width]
      omega
    · rw [toNat_implicit]
      omega
    · show _ ≤ _
      rw [bias_add_width]
      omega

/-! ### Packing -/

/-- A finite number is packed as it is, or as infinity where it overflows. -/
lemma unpack_pack_finite {s : Sign} {m : ℕ} {e : ℤ} (hm : 0 < m)
    (hs : Shape (.finite s m e hm)) :
    unpack Format.binary64 (pack Format.binary64 (.finite s m e hm)) =
      if e ≤ 971 then .finite s m e hm else .infinity s := by
  obtain ⟨hlt, hge, hc⟩ := hs
  have hbiased : (e + ((Format.binary64.exponentBias : ℕ) : ℤ) +
      ((Format.binary64.mantissaBitsWithoutImplicit : ℕ) : ℤ)).toNat = (e + 1075).toNat := by
    rw [add_assoc, bias_add_width]
  unfold UnpackedFloat.pack
  simp only [hbiased]
  by_cases he : e ≤ 971
  · have h11 : (BitVec.ofNat 11 (e + 1075).toNat).toNat = (e + 1075).toNat := by
      rw [BitVec.toNat_ofNat, Nat.mod_eq_of_lt (by omega)]
    rw [if_neg (by omega), if_pos he]
    by_cases hn : 2 ^ 52 ≤ m
    · have hlog : m.log2 + 1 = Format.binary64.mantissaBits := by
        rw [(Nat.log2_eq_iff (by omega)).mpr ⟨hn, by omega⟩]
        rfl
      have h52 : (1#1 ++ BitVec.ofNat 52 m).toNat = m := by
        rw [toNat_implicit, BitVec.toNat_ofNat]
        omega
      have hones : BitVec.ofNat 11 (e + 1075).toNat ≠ -1#11 := by
        intro h
        have hval : (e + 1075).toNat = 2047 := h11.symm.trans (congrArg BitVec.toNat h)
        omega
      have hzero : BitVec.ofNat 11 (e + 1075).toNat ≠ 0#11 := by
        intro h
        have hval : (e + 1075).toNat = 0 := h11.symm.trans (congrArg BitVec.toNat h)
        omega
      rw [if_pos hlog, unpack_packComponents, if_neg hones, if_neg hzero]
      congr 1
      rw [h11]
      omega
    · have hlog : ¬ m.log2 + 1 = Format.binary64.mantissaBits := by
        have hlt52 : m.log2 < 52 := (Nat.log2_lt (by omega)).mpr (by omega)
        show ¬ m.log2 + 1 = 53
        omega
      have h52 : (BitVec.ofNat 52 m).toNat = m := by
        rw [BitVec.toNat_ofNat, Nat.mod_eq_of_lt (by omega)]
      have hzero : BitVec.ofNat 52 m ≠ 0#52 := by
        intro h
        have hval : m = 0 := h52.symm.trans (congrArg BitVec.toNat h)
        omega
      rw [if_neg hlog, unpack_packComponents, if_neg (by decide), if_pos rfl, dif_neg hzero]
      congr 1
      omega
  · rw [if_pos (by omega), if_neg he, packedInfinity, unpack_packComponents]
    rfl

end Float64

end Data
