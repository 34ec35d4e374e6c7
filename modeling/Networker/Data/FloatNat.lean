/-
The natural numbers below `2 ^ 53` in the 64-bit format.

* `natural`: the number that stands for a natural number, all its bits;
* `round_natural`: a natural number with trailing zeros is rounded to itself;
* `unpack_ofNat`, `ofNat_sub`: the conversion is exact, and so is a difference;
* `isNaN_sub`: a difference of finite numbers is a number.
-/
import Networker.Data.FloatDoubling

namespace Data

namespace Float64

open Float.Model Float.Model.UnpackedFloat

variable {n m j : ℕ} {e : ℤ} {s : Sign}

/-! ### Rounding -/

/-- A number rounded at its quantum, with the zeros it has there. -/
lemma round_eq : ∃ m' e', round Format.binary64 s m e =
    roundWithAccuracy Format.binary64 s m' e' .exact ∧
      m' = m * 2 ^ (e - quantum m e).toNat ∧ e' = e - (e - quantum m e).toNat :=
  ⟨_, _, rfl, Nat.shiftLeft_eq m _, rfl⟩

/-- The bits of a natural number. -/
def bits (n : ℕ) : ℕ := n * 2 ^ (52 - n.log2)

lemma bits_pos (hn : 0 < n) : 0 < bits n := Nat.mul_pos hn (by positivity)

/-- The number that stands for a natural number. -/
def natural (n : ℕ) : UnpackedFloat :=
  if h : 0 < n then .finite .positive (bits n) (n.log2 - 52) (bits_pos h) else .zero .positive

lemma natural_zero : natural 0 = .zero .positive := rfl

lemma natural_of_pos (hn : 0 < n) :
    natural n = .finite .positive (bits n) (n.log2 - 52) (bits_pos hn) := dif_pos hn

/-- The bits fill the format. -/
lemma bits_range (hn : 0 < n) (hlt : n < 2 ^ 53) : 2 ^ 52 ≤ bits n ∧ bits n < 2 ^ 53 := by
  have hlog := log2_le_of_lt hlt
  have hsplit : 2 ^ n.log2 * 2 ^ (52 - n.log2) = 2 ^ 52 := by
    rw [← pow_add]
    congr 1
    omega
  constructor
  · calc 2 ^ 52 = 2 ^ n.log2 * 2 ^ (52 - n.log2) := hsplit.symm
      _ ≤ bits n := Nat.mul_le_mul_right _ (Nat.log2_self_le hn.ne')
  · calc bits n < 2 ^ (n.log2 + 1) * 2 ^ (52 - n.log2) :=
          Nat.mul_lt_mul_of_pos_right Nat.lt_log2_self (by positivity)
      _ = 2 ^ 53 := by
          rw [pow_succ, mul_right_comm, hsplit]
          norm_num

lemma shape_natural (hlt : n < 2 ^ 53) : Shape (natural n) := by
  rcases n.eq_zero_or_pos with rfl | hn
  · trivial
  · rw [natural_of_pos hn]
    obtain ⟨hge, hbound⟩ := bits_range hn hlt
    exact ⟨hbound, by omega, Or.inl hge⟩

/-- A natural number is packed as it is. -/
lemma unpack_pack_natural (hlt : n < 2 ^ 53) :
    unpack Format.binary64 (pack Format.binary64 (natural n)) = natural n := by
  have hshape := shape_natural hlt
  have hlog := log2_le_of_lt hlt
  rcases n.eq_zero_or_pos with rfl | hn
  · rfl
  · rw [natural_of_pos hn] at hshape ⊢
    rw [unpack_pack_finite _ hshape, if_pos (by omega)]

/-- A natural number, with zeros behind it, is rounded to itself. -/
lemma round_natural (hn : 0 < n) (hlt : n < 2 ^ 53) (j : ℕ) :
    round Format.binary64 .positive (n * 2 ^ j) (-j) = natural n := by
  have hlog := log2_le_of_lt hlt
  have hq : quantum (n * 2 ^ j) (-j) = n.log2 - 52 := by
    rw [quantum, log2_mul_two_pow hn]
    omega
  obtain ⟨m, e, hround, hm, he⟩ := round_eq (m := n * 2 ^ j) (e := -j) (s := .positive)
  rw [hq] at hm he
  -- the zeros that are more than the bits of the format
  obtain ⟨k, hk, hek⟩ : ∃ k : ℕ, m = bits n * 2 ^ k ∧ e + k = n.log2 - 52 := by
    refine ⟨(n.log2 - 52 + j : ℤ).toNat, ?_, by omega⟩
    rw [hm, bits, mul_assoc, mul_assoc, ← pow_add, ← pow_add]
    congr 2
    omega
  have hbits := bits_range hn hlt
  have hlogBits : (bits n).log2 = 52 := (Nat.log2_eq_iff (bits_pos hn).ne').mpr hbits
  have hquantum : quantum (bits n * 2 ^ k) e = e + k := by
    rw [quantum, log2_mul_two_pow (bits_pos hn), hlogBits]
    omega
  rw [hround, hk, roundWithAccuracy_mul (bits_pos hn) hbits.2 hquantum, natural_of_pos hn]
  congr 1

/-! ### The conversion -/

lemma mul_one_natural (hlt : n < 2 ^ 53) : UnpackedFloat.mul Format.binary64 (natural n)
    (.finite .positive (2 ^ 52) (-52) (Nat.two_pow_pos 52)) = natural n := by
  rcases n.eq_zero_or_pos with rfl | hn
  · rfl
  · have hbits := bits_range hn hlt
    have hlog : (bits n).log2 = 52 := (Nat.log2_eq_iff (bits_pos hn).ne').mpr hbits
    have hq : quantum (bits n * 2 ^ 52) (n.log2 - 52 + -52) = n.log2 - 52 + -52 + (52 : ℕ) := by
      rw [quantum, log2_mul_two_pow (bits_pos hn)]
      omega
    have hmul : UnpackedFloat.mul Format.binary64
        (.finite .positive (bits n) (n.log2 - 52) (bits_pos hn))
        (.finite .positive (2 ^ 52) (-52) (by positivity)) =
          roundWithAccuracy Format.binary64 .positive (bits n * 2 ^ 52) (n.log2 - 52 + -52)
            .exact := rfl
    rw [natural_of_pos hn, hmul, roundWithAccuracy_mul (bits_pos hn) hbits.2 hq]
    congr 1
    omega

lemma normalize_natCast (hn : 0 < n) (e : ℤ) :
    UnpackedFloat.normalize Format.binary64 n e .positive =
      round Format.binary64 .positive n e := by
  have hcompare : compare (n : ℤ) 0 = .gt := compare_gt_iff_gt.mpr (by omega)
  rw [UnpackedFloat.normalize, hcompare]
  rfl

lemma ofNat_natural (hlt : n < 2 ^ 53) : UnpackedFloat.ofNat Format.binary64 n = natural n := by
  rcases n.eq_zero_or_pos with rfl | hn
  · rfl
  · have hround := round_natural hn hlt 0
    rw [pow_zero, mul_one] at hround
    exact (normalize_natCast hn 0).trans hround

/-- A natural number is converted exactly. -/
lemma ofNat_eq (hlt : n < 2 ^ 53) : Float.ofNat n = .ofModel (.pack (natural n)) := by
  have hword : n.toUInt64.toNat = n := Nat.mod_eq_of_lt (by omega)
  have hfast : n < 2 ^ 53 ∧ 0 ≤ 22 := ⟨hlt, by omega⟩
  have hone : (Float.ofBits 0x3FF0000000000000).toModel.unpack =
      .finite .positive (2 ^ 52) (-52) (by positivity) := rfl
  have hconvert : n.toUInt64.toFloat.toModel = .pack (natural n) := by
    rw [← ofNat_natural hlt]
    show Float.Model.pack (UnpackedFloat.ofNat Format.binary64 n.toUInt64.toNat) = _
    rw [hword]
  have hunpack : n.toUInt64.toFloat.toModel.unpack = natural n := by
    rw [hconvert]
    exact unpack_pack_natural hlt
  show Float.ofScientific n false 0 = _
  rw [Float.ofScientific, dif_pos hfast]
  show Float.ofModel (.pack (UnpackedFloat.mul Format.binary64 n.toUInt64.toFloat.toModel.unpack
    (Float.ofBits 0x3FF0000000000000).toModel.unpack)) = _
  rw [hunpack, hone, mul_one_natural hlt]

lemma unpack_ofNat (hlt : n < 2 ^ 53) : (Float.ofNat n).toModel.unpack = natural n := by
  rw [ofNat_eq hlt]
  exact unpack_pack_natural hlt

/-! ### Differences -/

lemma unpack_sub {x y : Float} : (x - y).toModel.unpack = unpack Format.binary64
    (pack Format.binary64 (UnpackedFloat.sub Format.binary64 x.toModel.unpack
      y.toModel.unpack)) := rfl

/-- The bits of a natural number, at a lower exponent. -/
lemma shift_bits {k : ℕ} (hlt : n < 2 ^ 53) (h : 52 ≤ n.log2 + k) :
    (bits n <<< ((n.log2 : ℤ) - 52 - -(k : ℤ)).toNat) = n * 2 ^ k := by
  have hlog := log2_le_of_lt hlt
  rw [Nat.shiftLeft_eq, bits, mul_assoc, ← pow_add]
  congr 2
  omega

lemma sub_natural (h : m ≤ n) (hlt : n < 2 ^ 53) :
    UnpackedFloat.sub Format.binary64 (natural n) (natural m) = natural (n - m) := by
  rcases m.eq_zero_or_pos with rfl | hm
  · rcases n.eq_zero_or_pos with rfl | hn
    · rfl
    · rw [natural_zero, Nat.sub_zero, natural_of_pos hn]
      rfl
  · have hn : 0 < n := by omega
    have hlogn := log2_le_of_lt hlt
    have hlogm := log2_le_of_lt (h.trans_lt hlt)
    -- both at the lower exponent
    obtain ⟨k, hk⟩ : ∃ k : ℕ, min ((n.log2 : ℤ) - 52) (m.log2 - 52) = -k :=
      ⟨(52 - min n.log2 m.log2), by omega⟩
    have hsub : UnpackedFloat.sub Format.binary64 (natural n) (natural m) =
        UnpackedFloat.normalize Format.binary64 (((n * 2 ^ k : ℕ) : ℤ) - ((m * 2 ^ k : ℕ) : ℤ)) (-k)
          .positive := by
      rw [← shift_bits hlt (by omega), ← shift_bits (h.trans_lt hlt) (by omega), ← hk,
        natural_of_pos hn, natural_of_pos hm]
      rfl
    have hdiff : (((n * 2 ^ k : ℕ) : ℤ) - ((m * 2 ^ k : ℕ) : ℤ)) = (((n - m) * 2 ^ k : ℕ) : ℤ) := by
      rw [Nat.sub_mul, Nat.cast_sub (Nat.mul_le_mul_right _ h)]
    rw [hsub, hdiff]
    rcases (n - m).eq_zero_or_pos with hzero | hpos
    · rw [hzero, Nat.zero_mul]
      rfl
    · rw [normalize_natCast (Nat.mul_pos hpos (by positivity)),
        round_natural hpos ((Nat.sub_le n m).trans_lt hlt)]

/-- The difference of natural numbers is exact. -/
lemma ofNat_sub (h : m ≤ n) (hlt : n < 2 ^ 53) :
    Float.ofNat n - Float.ofNat m = Float.ofNat (n - m) := by
  rw [ofNat_eq ((Nat.sub_le n m).trans_lt hlt), ← sub_natural h hlt, ← unpack_ofNat hlt,
    ← unpack_ofNat (h.trans_lt hlt)]
  rfl

/-! ### Numbers -/

variable {x y : Float}

/-- A number is packed as a number. -/
lemma unpack_pack_ne_nan {r : UnpackedFloat} (hs : Shape r) (hr : r ≠ .notANumber) :
    unpack Format.binary64 (pack Format.binary64 r) ≠ .notANumber := by
  cases r with
  | notANumber => exact absurd rfl hr
  | zero s => cases s <;> exact nofun
  | infinity s => cases s <;> exact nofun
  | finite s m e hm =>
      rw [unpack_pack_finite hm hs]
      split <;> exact nofun

/-- A finite number is rounded to a number. -/
lemma round_ne_nan (hm : 0 < m) : Shape (round Format.binary64 s m e) ∧
    round Format.binary64 s m e ≠ .notANumber := by
  obtain ⟨m', e', hround, hm', he'⟩ := round_eq (m := m) (e := e) (s := s)
  have hq : quantum m' e' = quantum m e := by
    rw [hm', he', quantum, quantum, log2_mul_two_pow hm]
    omega
  have hle : e' ≤ quantum m' e' := by omega
  rw [hround]
  refine ⟨shape_roundWithAccuracy (hm' ▸ Nat.mul_pos hm (by positivity)) hle, ?_⟩
  rw [roundWithAccuracy_eq hle]
  split_ifs <;> simp only [ne_eq, reduceCtorEq, not_false_eq_true]

lemma normalize_ne_nan (z : ℤ) : Shape (UnpackedFloat.normalize Format.binary64 z e s) ∧
    UnpackedFloat.normalize Format.binary64 z e s ≠ .notANumber := by
  rw [UnpackedFloat.normalize]
  split
  · rename_i h
    have hneg := compare_lt_iff_lt.mp h
    exact round_ne_nan (by omega)
  · exact ⟨trivial, nofun⟩
  · rename_i h
    have hpos := compare_gt_iff_gt.mp h
    exact round_ne_nan (by omega)

/-- The difference of finite numbers is a number. -/
lemma isNaN_sub (hx : x.isFinite = true) (hy : y.isFinite = true) : (x - y).isNaN = false := by
  have hfinite (z : Float) : z.isFinite = z.toModel.unpack.isFinite := rfl
  have hsx := (shape_toModel x).1
  have hsy := (shape_toModel y).1
  rw [hfinite] at hx hy
  refine isNaN_eq_false ?_
  rw [unpack_sub]
  cases hu : x.toModel.unpack with
  | notANumber => simp [hu, UnpackedFloat.isFinite] at hx
  | infinity s => simp [hu, UnpackedFloat.isFinite] at hx
  | zero s =>
      cases hv : y.toModel.unpack with
      | notANumber => simp [hv, UnpackedFloat.isFinite] at hy
      | infinity t => simp [hv, UnpackedFloat.isFinite] at hy
      | zero t => cases s <;> cases t <;> exact nofun
      | finite t n f hn =>
          rw [hv] at hsy
          exact unpack_pack_ne_nan (r := .finite (-t) n f hn) hsy nofun
  | finite s m e hm =>
      rw [hu] at hsx
      cases hv : y.toModel.unpack with
      | notANumber => simp [hv, UnpackedFloat.isFinite] at hy
      | infinity t => simp [hv, UnpackedFloat.isFinite] at hy
      | zero t => exact unpack_pack_ne_nan (r := .finite s m e hm) hsx nofun
      | finite t n f hn =>
          rw [UnpackedFloat.sub]
          exact unpack_pack_ne_nan (normalize_ne_nan _).1 (normalize_ne_nan _).2

lemma isNaN_abs (h : x.isNaN = false) : x.abs.isNaN = false := by
  have hs := (shape_toModel x).1
  have habs : x.abs.toModel.unpack = unpack Format.binary64
      (pack Format.binary64 (UnpackedFloat.abs x.toModel.unpack)) := rfl
  rw [← Bool.not_eq_true, isNaN_iff] at h
  refine isNaN_eq_false ?_
  rw [habs]
  cases hu : x.toModel.unpack with
  | notANumber => exact absurd hu h
  | zero s => exact unpack_pack_ne_nan (r := .zero .positive) trivial nofun
  | infinity s => exact unpack_pack_ne_nan (r := .infinity .positive) trivial nofun
  | finite s m e hm =>
      rw [hu] at hs
      exact unpack_pack_ne_nan (r := .finite .positive m e hm) hs nofun

lemma isNaN_of_isFinite (h : x.isFinite = true) : x.isNaN = false := by
  have hfinite : x.isFinite = x.toModel.unpack.isFinite := rfl
  rw [hfinite] at h
  refine isNaN_eq_false fun hu => ?_
  rw [hu] at h
  exact absurd h (by decide)

end Float64

end Data
