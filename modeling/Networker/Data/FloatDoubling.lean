/-
Positive numbers of the 64-bit format and their products with a constant.

* `quantum`, `units`: the exponent at which a product is rounded, and its bits there;
* `roundWithAccuracy_eq`: a rounded product;
* `pos_mul`: a product with a factor above one half is positive;
* `scale`, `scale_mul_two`: the position of the leading bit, one higher once doubled, up to
  the overflow;
* `ratio_comm`: the ratio of the larger of two numbers to the smaller one.
-/
import Networker.Data.Float64
import Networker.Data.FloatPacking

namespace Data

namespace Float64

open Float.Model Float.Model.UnpackedFloat

/-! ### Shifts -/

section Shifts

variable {em : ExtendedMantissa} {m n : ℕ}

/-- Nothing was lost by a shift. -/
def Lossless (em : ExtendedMantissa) : Prop := em.roundBit = false ∧ em.stickyBit = false

/-- A mantissa before any shift. -/
abbrev unshifted (m : ℕ) : ExtendedMantissa := ExtendedMantissa.ofMantissaAndAccuracy m .exact

lemma shift_succ (em : ExtendedMantissa) (n : ℕ) :
    em >>> (n + 1) = (em >>> n).shiftRightOne := rfl

lemma mantissa_shift (em : ExtendedMantissa) (n : ℕ) :
    (em >>> n).mantissa = em.mantissa / 2 ^ n := by
  induction n with
  | zero => exact (Nat.div_one _).symm
  | succ n ih =>
      rw [shift_succ, ExtendedMantissa.shiftRightOne, ih, Nat.div_div_eq_div_mul, pow_succ]

/-- A shift loses nothing where the bits shifted out are zero. -/
lemma lossless_shift (em : ExtendedMantissa) (n : ℕ) :
    Lossless (em >>> n) ↔ Lossless em ∧ em.mantissa % 2 ^ n = 0 := by
  induction n with
  | zero =>
      simp only [pow_zero, Nat.mod_one, and_true]
      rfl
  | succ n ih =>
      have hstep : Lossless (em >>> (n + 1)) ↔
          Lossless (em >>> n) ∧ em.mantissa / 2 ^ n % 2 = 0 := by
        rw [shift_succ, Lossless, ExtendedMantissa.shiftRightOne, mantissa_shift, Lossless]
        simp [and_comm]
      rw [hstep, ih, Nat.mod_pow_succ, and_assoc, Nat.add_eq_zero_iff]
      simp

lemma roundedMantissa_le (em : ExtendedMantissa) :
    em.mantissa ≤ em.roundedMantissa ∧ em.roundedMantissa ≤ em.mantissa + 1 := by
  obtain ⟨m, r, s⟩ := em
  cases r <;> cases s <;>
    simp only [ExtendedMantissa.roundedMantissa, ExtendedMantissa.accuracy,
      Accuracy.roundToNearestEven] <;> omega

lemma roundedMantissa_of_lossless (h : Lossless em) : em.roundedMantissa = em.mantissa := by
  obtain ⟨m, r, s⟩ := em
  obtain ⟨rfl, rfl⟩ := h
  rfl

/-- A mantissa that is a multiple is shifted without a loss. -/
lemma roundedMantissa_mul (m n : ℕ) : (unshifted (m * 2 ^ n) >>> n).roundedMantissa = m := by
  have h : Lossless (unshifted (m * 2 ^ n) >>> n) :=
    (lossless_shift _ n).mpr ⟨⟨rfl, rfl⟩, Nat.mul_mod_left m (2 ^ n)⟩
  rw [roundedMantissa_of_lossless h, mantissa_shift]
  exact Nat.mul_div_cancel m (by positivity)

/-- More than half a unit is not rounded to zero. -/
lemma roundedMantissa_pos (h : 2 ^ n < 2 * m) : 0 < (unshifted m >>> n).roundedMantissa := by
  have hfloor : m / 2 ^ n ≤ (unshifted m >>> n).roundedMantissa := by
    have hle := (roundedMantissa_le (unshifted m >>> n)).1
    rwa [mantissa_shift] at hle
  by_cases hbig : 2 ^ n ≤ m
  · exact (Nat.div_pos hbig (by positivity)).trans_le hfloor
  · cases n with
    | zero =>
        rw [pow_zero] at h hbig
        omega
    | succ n =>
        rw [pow_succ] at h hbig
        -- the bit above the last half unit is set, and a bit behind it
        have hone : m / 2 ^ n = 1 := Nat.div_eq_of_lt_le (by omega) (by omega)
        have hlost : ¬ Lossless (unshifted m >>> n) := by
          intro hlossless
          have hmod : m % 2 ^ n = 0 := ((lossless_shift _ n).mp hlossless).2
          have hdiv := Nat.div_add_mod m (2 ^ n)
          rw [hone, hmod] at hdiv
          omega
        have hround : (unshifted m >>> (n + 1)).roundBit = true := by
          have hbit : (unshifted m >>> n).mantissa = 1 := (mantissa_shift _ n).trans hone
          rw [shift_succ, ExtendedMantissa.shiftRightOne, hbit]
          rfl
        have hsticky : (unshifted m >>> (n + 1)).stickyBit = true := by
          rw [shift_succ, ExtendedMantissa.shiftRightOne, Bool.or_eq_true]
          rw [Lossless, not_and_or, Bool.not_eq_false, Bool.not_eq_false] at hlost
          exact hlost
        generalize unshifted m >>> (n + 1) = shifted at *
        obtain ⟨k, r, s⟩ := shifted
        subst hround hsticky
        exact Nat.succ_pos k

end Shifts

/-! ### Rounding -/

section Round

variable {m : ℕ} {e : ℤ} {s : Sign}

/-- The exponent to which a mantissa is shifted. -/
def quantum (m : ℕ) (e : ℤ) : ℤ := max (m.log2 + 1 + e - 53) (-1074)

/-- The rounded bits of a number at its quantum. -/
def units (m : ℕ) (e : ℤ) : ℕ := (unshifted m >>> (quantum m e - e).toNat).roundedMantissa

lemma div_quantum_le : m / 2 ^ (quantum m e - e).toNat ≤ units m e := by
  have hle := (roundedMantissa_le (unshifted m >>> (quantum m e - e).toNat)).1
  rwa [mantissa_shift] at hle

variable (m e) in
/-- The rounded bits are at most one more than 53 bits hold. -/
lemma units_le : units m e ≤ 2 ^ 53 := by
  have hle := (roundedMantissa_le (unshifted m >>> (quantum m e - e).toNat)).2
  rw [mantissa_shift] at hle
  have hlt : m / 2 ^ (quantum m e - e).toNat < 2 ^ 53 := by
    rw [Nat.div_lt_iff_lt_mul (by positivity), ← pow_add]
    refine Nat.lt_log2_self.trans_le (Nat.pow_le_pow_right (by norm_num) ?_)
    rw [quantum]
    omega
  exact hle.trans (Nat.succ_le_of_lt hlt)

/-- A number that is not subnormal fills 53 bits. -/
lemma le_units (hm : 0 < m) (he : e ≤ quantum m e) (hq : quantum m e ≠ -1074) :
    2 ^ 52 ≤ units m e := by
  refine le_trans ?_ div_quantum_le
  rw [Nat.le_div_iff_mul_le (by positivity), ← pow_add]
  refine (Nat.pow_le_pow_right (by norm_num) ?_).trans (Nat.log2_self_le hm.ne')
  rw [quantum] at *
  omega

lemma log2_le_of_lt {r : ℕ} (h : r < 2 ^ 53) : r.log2 ≤ 52 := by
  by_cases hr : r = 0
  · rw [hr]
    decide
  · have hlt := (Nat.log2_lt hr).mpr h
    omega

/-- The second shift takes back a carry into the 54th bit. -/
lemma shift_carry (s : Sign) {r : ℕ} {q : ℤ} (hr : r ≤ 2 ^ 53) (hq : -1074 ≤ q) :
    (if h : (shiftToTargetExponent Format.binary64 r q .exact).1.mantissa = 0 then .zero s
      else UnpackedFloat.finite s (shiftToTargetExponent Format.binary64 r q .exact).1.mantissa
        (shiftToTargetExponent Format.binary64 r q .exact).2 (Nat.pos_of_ne_zero h)) =
      if h : r = 0 then .zero s
      else if r = 2 ^ 53 then .finite s (2 ^ 52) (q + 1) (Nat.two_pow_pos 52)
      else .finite s r q (Nat.pos_of_ne_zero h) := by
  have hshift : shiftToTargetExponent Format.binary64 r q .exact =
      (unshifted r >>> (quantum r q - q).toNat, q + (quantum r q - q).toNat) := rfl
  rcases hr.lt_or_eq with hlt | rfl
  · have hzero : (quantum r q - q).toNat = 0 := by
      have hlog := log2_le_of_lt hlt
      rw [quantum]
      omega
    simp only [hshift, hzero, mantissa_shift, pow_zero, Nat.div_one, if_neg hlt.ne]
    simp [ExtendedMantissa.ofMantissaAndAccuracy]
  · have hone : (quantum (2 ^ 53) q - q).toNat = 1 := by
      rw [quantum, Nat.log2_two_pow]
      omega
    simp only [hshift, hone, mantissa_shift]
    rfl

/-- A rounded product is its rounded bits at the quantum. -/
lemma roundWithAccuracy_eq (he : e ≤ quantum m e) :
    roundWithAccuracy Format.binary64 s m e .exact =
      if h : units m e = 0 then .zero s
      else if units m e = 2 ^ 53 then .finite s (2 ^ 52) (quantum m e + 1) (Nat.two_pow_pos 52)
      else .finite s (units m e) (quantum m e) (Nat.pos_of_ne_zero h) := by
  have hfirst : shiftToTargetExponent Format.binary64 m e .exact =
      (unshifted m >>> (quantum m e - e).toNat, quantum m e) := by
    have hexponent : e + ((quantum m e - e).toNat : ℤ) = quantum m e := by omega
    exact Prod.ext rfl hexponent
  unfold roundWithAccuracy
  simp only [hfirst]
  exact shift_carry s (units_le m e) (le_max_right _ _)

/-- A rounded product is a number of the format, but for an overflow. -/
lemma shape_roundWithAccuracy (hm : 0 < m) (he : e ≤ quantum m e) :
    Shape (roundWithAccuracy Format.binary64 s m e .exact) := by
  have hq : -1074 ≤ quantum m e := le_max_right _ _
  have hle := units_le m e
  rw [roundWithAccuracy_eq he]
  split_ifs with hzero hcarry
  · trivial
  · exact ⟨by norm_num, by omega, Or.inl le_rfl⟩
  · refine ⟨by omega, hq, ?_⟩
    by_cases h : quantum m e = -1074
    · exact Or.inr h
    · exact Or.inl (le_units hm he h)

end Round

/-! ### Positive numbers -/

section Positive

variable {x c : Float} {k : ℕ} {d : ℤ} {hk : 0 < k}

/-- A number above zero. -/
def Positive : UnpackedFloat → Prop
  | .infinity .positive => True
  | .finite .positive _ _ _ => True
  | _ => False

lemma positive_cases {u : UnpackedFloat} (h : Positive u) :
    u = .infinity .positive ∨ ∃ m e hm, u = .finite .positive m e hm := by
  cases u with
  | notANumber => exact h.elim
  | zero s => exact h.elim
  | infinity s =>
      cases s with
      | negative => exact h.elim
      | positive => exact Or.inl rfl
  | finite s m e hm =>
      cases s with
      | negative => exact h.elim
      | positive => exact Or.inr ⟨m, e, hm, rfl⟩

lemma pos_iff : 0.0 < x ↔ Positive x.toModel.unpack := by
  have hzero : (0.0 : Float).toModel.unpack = .zero .positive := rfl
  rw [lt_iff, order, hzero]
  cases x.toModel.unpack with
  | notANumber => simp [UnpackedFloat.compare, Positive]
  | zero s => simp [UnpackedFloat.compare, Positive]
  | infinity s => cases s <;> simp [UnpackedFloat.compare, Positive]
  | finite s m e hm => cases s <;> simp [UnpackedFloat.compare, Positive]

lemma unpack_mul : (x * c).toModel.unpack = unpack Format.binary64 (pack Format.binary64
    (UnpackedFloat.mul Format.binary64 x.toModel.unpack c.toModel.unpack)) := rfl

lemma shape_toModel (x : Float) : Shape x.toModel.unpack ∧ Fits x.toModel.unpack :=
  shape_unpack x.toModel.toBits.toBitVec

/-- Packing leaves a positive number positive. -/
lemma positive_pack {r : UnpackedFloat} (hs : Shape r) (hr : Positive r) :
    Positive (unpack Format.binary64 (pack Format.binary64 r)) := by
  rcases positive_cases hr with rfl | ⟨m, e, hm, rfl⟩
  · trivial
  · rw [unpack_pack_finite hm hs]
    split
    · trivial
    · trivial

/-- A product with a factor of 53 bits is not below its quantum. -/
lemma le_quantum_mul {m : ℕ} {e : ℤ} (hm : 0 < m) (hk : 2 ^ 52 ≤ k) :
    e ≤ quantum (m * k) e := by
  have hlog : 52 ≤ (m * k).log2 :=
    (Nat.le_log2 (Nat.mul_ne_zero hm.ne' (by omega))).mpr
      (hk.trans (Nat.le_mul_of_pos_left k hm))
  refine le_trans ?_ (le_max_left _ _)
  omega

/-- The rounded bits of a product with a factor above one half are not zero. -/
lemma units_mul_pos {m : ℕ} {e : ℤ} (hm : 0 < m) (he : -1074 ≤ e) (hk : 2 ^ 52 ≤ k)
    (hhalf : 2 ^ (-d).toNat < 2 * k) : 0 < units (m * k) (e + d) := by
  by_cases hq : quantum (m * k) (e + d) = -1074
  · have hshift : (quantum (m * k) (e + d) - (e + d)).toNat ≤ (-d).toNat := by
      rw [hq]
      omega
    apply roundedMantissa_pos
    calc 2 ^ (quantum (m * k) (e + d) - (e + d)).toNat
        ≤ 2 ^ (-d).toNat := Nat.pow_le_pow_right (by norm_num) hshift
      _ < 2 * k := hhalf
      _ ≤ 2 * (m * k) := Nat.mul_le_mul_left 2 (Nat.le_mul_of_pos_left k hm)
  · have hle := le_units (Nat.mul_pos hm (by omega)) (le_quantum_mul hm hk) hq
    omega

/-- A product with a factor above one half is positive. -/
lemma pos_mul (hx : 0.0 < x) (hc : c.toModel.unpack = .finite .positive k d hk)
    (hbits : 2 ^ 52 ≤ k) (hhalf : 2 ^ (-d).toNat < 2 * k) : 0.0 < x * c := by
  have hshape := (shape_toModel x).1
  rw [pos_iff] at hx ⊢
  rw [unpack_mul, hc]
  rcases positive_cases hx with hu | ⟨m, e, hm, hu⟩
  · have hmul : UnpackedFloat.mul Format.binary64 (.infinity .positive)
        (.finite .positive k d hk) = .infinity .positive := rfl
    rw [hu, hmul]
    trivial
  · rw [hu] at hshape ⊢
    have he := le_quantum_mul (e := e + d) hm hbits
    have hunits := units_mul_pos hm hshape.2.1 hbits hhalf
    refine positive_pack (shape_roundWithAccuracy (Nat.mul_pos hm hk) he) ?_
    show Positive (roundWithAccuracy Format.binary64 .positive (m * k) (e + d) .exact)
    rw [roundWithAccuracy_eq he, dif_neg hunits.ne']
    split
    · trivial
    · trivial

/-! ### Doubling -/

/-- The position of the leading bit of a number, above all of them for infinity. -/
def scale : UnpackedFloat → ℤ
  | .finite _ m e _ => m.log2 + e
  | _ => 1024

/-- The leading bit of a number of the format. -/
lemma le_scale {u : UnpackedFloat} (hs : Shape u) : -1074 ≤ scale u := by
  cases u with
  | notANumber => decide
  | zero s => show (-1074 : ℤ) ≤ 1024; norm_num
  | infinity s => show (-1074 : ℤ) ≤ 1024; norm_num
  | finite s m e hm =>
      have hge := hs.2.1
      rw [scale]
      omega

/-- A positive number beyond all finite ones is infinite. -/
lemma eq_infinity_of_scale {u : UnpackedFloat} (hu : Positive u) (hs : Shape u) (hf : Fits u)
    (h : 1024 ≤ scale u) : u = .infinity .positive := by
  rcases positive_cases hu with rfl | ⟨m, e, hm, rfl⟩
  · rfl
  · have hlog := log2_le_of_lt hs.1
    have hle : e ≤ 971 := hf
    rw [scale] at h
    omega

lemma log2_mul_two_pow {m : ℕ} (hm : 0 < m) (n : ℕ) : (m * 2 ^ n).log2 = m.log2 + n := by
  rw [Nat.log2_eq_iff (Nat.mul_ne_zero hm.ne' (by positivity)), add_right_comm, pow_add, pow_add]
  exact ⟨Nat.mul_le_mul_right _ (Nat.log2_self_le hm.ne'),
    Nat.mul_lt_mul_of_pos_right Nat.lt_log2_self (by positivity)⟩

/-- A number with trailing zeros is rounded to its other bits. -/
lemma roundWithAccuracy_mul {r n : ℕ} {e : ℤ} {s : Sign} (hr : 0 < r) (hlt : r < 2 ^ 53)
    (hq : quantum (r * 2 ^ n) e = e + n) :
    roundWithAccuracy Format.binary64 s (r * 2 ^ n) e .exact = .finite s r (e + n) hr := by
  have hunits : units (r * 2 ^ n) e = r := by
    have hshift : (quantum (r * 2 ^ n) e - e).toNat = n := by omega
    rw [units, hshift, roundedMantissa_mul]
  rw [roundWithAccuracy_eq (by omega)]
  simp only [hunits, hq, dif_neg hr.ne', if_neg hlt.ne]

/-- The leading bit of a number doubled. -/
lemma scale_mul_two (hx : 0.0 < x) :
    min (scale x.toModel.unpack + 1) 1024 ≤ scale (x * 2.0).toModel.unpack := by
  have hshape := (shape_toModel x).1
  have htwo : (2.0 : Float).toModel.unpack =
      .finite .positive (2 ^ 52) (-51) (by positivity) := rfl
  rw [pos_iff] at hx
  rw [unpack_mul, htwo]
  rcases positive_cases hx with hu | ⟨m, e, hm, hu⟩
  · rw [hu]
    exact min_le_right _ _
  · rw [hu] at hshape ⊢
    obtain ⟨hlt, hge, hnormal⟩ := hshape
    have hmul : UnpackedFloat.mul Format.binary64 (.finite .positive m e hm)
        (.finite .positive (2 ^ 52) (-51) (by positivity)) =
          roundWithAccuracy Format.binary64 .positive (m * 2 ^ 52) (e + -51) .exact := rfl
    rw [hmul]
    by_cases hfull : 2 ^ 52 ≤ m
    -- the exponent is one higher
    · have hlog : m.log2 = 52 := (Nat.log2_eq_iff hm.ne').mpr ⟨hfull, hlt⟩
      have hq : quantum (m * 2 ^ 52) (e + -51) = e + -51 + (52 : ℕ) := by
        rw [quantum, log2_mul_two_pow hm, hlog]
        omega
      rw [roundWithAccuracy_mul hm hlt hq,
        unpack_pack_finite hm ⟨hlt, by omega, Or.inl hfull⟩]
      split
      · rw [scale, scale]
        omega
      · exact min_le_right _ _
    -- a subnormal number has one more bit
    · have hleast : e = -1074 := hnormal.resolve_left hfull
      have hlog : m.log2 < 52 := (Nat.log2_lt hm.ne').mpr (by omega)
      have htwice : m * 2 ^ 52 = m * 2 ^ 1 * 2 ^ 51 := by rw [mul_assoc, ← pow_add]
      have hq : quantum (m * 2 ^ 1 * 2 ^ 51) (e + -51) = e + -51 + (51 : ℕ) := by
        rw [quantum, ← htwice, log2_mul_two_pow hm, hleast]
        omega
      rw [htwice, roundWithAccuracy_mul (by omega) (by omega) hq,
        unpack_pack_finite (by omega) ⟨by omega, by omega, Or.inr (by omega)⟩, if_pos (by omega),
        scale, scale, log2_mul_two_pow hm]
      omega

/-! ### Order -/

variable {y : Float}

/-- A number above a positive one is positive. -/
lemma pos_of_pos_of_lt (hx : 0.0 < x) (h : x < y) : 0.0 < y := by
  rw [pos_iff] at hx ⊢
  rw [lt_iff, order] at h
  rcases positive_cases hx with hu | ⟨m, e, hm, hu⟩
  · rw [hu] at h
    cases hy : y.toModel.unpack with
    | infinity s => cases s <;> simp [hy, UnpackedFloat.compare, compare] at h ⊢
    | _ => simp [hy, UnpackedFloat.compare] at h
  · rw [hu] at h
    cases hy : y.toModel.unpack with
    | notANumber => simp [hy, UnpackedFloat.compare] at h
    | zero s => simp [hy, UnpackedFloat.compare] at h
    | infinity s => cases s <;> simp [hy, UnpackedFloat.compare, Positive] at h ⊢
    | finite s n f hn => cases s <;> simp [hy, UnpackedFloat.compare, Positive] at h ⊢

lemma isNaN_of_pos (hx : 0.0 < x) : x.isNaN = false := by
  have hnan : x.isNaN = x.toModel.unpack.isNaN := rfl
  rw [hnan]
  rcases positive_cases (pos_iff.mp hx) with hu | ⟨m, e, hm, hu⟩
  · rw [hu]
    rfl
  · rw [hu]
    rfl

/-- A positive number is at most infinity. -/
lemma le_infinity (hx : 0.0 < x) (hy : y.toModel.unpack = .infinity .positive) : x ≤ y := by
  rw [pos_iff] at hx
  rw [le_iff, order, hy]
  rcases positive_cases hx with hu | ⟨m, e, hm, hu⟩
  · rw [hu]
    exact Or.inr rfl
  · rw [hu]
    exact Or.inl rfl

/-- Infinity is at most infinity alone. -/
lemma not_infinity_le (hx : x.toModel.unpack = .infinity .positive)
    (hy : y.toModel.unpack ≠ .infinity .positive) : ¬ x ≤ y := by
  rw [le_iff, order, hx]
  cases hu : y.toModel.unpack with
  | infinity s =>
      cases s with
      | positive => exact absurd hu hy
      | negative => simp [UnpackedFloat.compare, compare]
  | _ => simp [UnpackedFloat.compare]

/-- A number that is not at most zero is positive or not a number. -/
lemma pos_or_nan_of_not_le (h : ¬ x ≤ 0.0) :
    0.0 < x ∨ x.toModel.unpack = .notANumber := by
  have hzero : (0.0 : Float).toModel.unpack = .zero .positive := rfl
  rw [pos_iff]
  rw [le_iff, order, hzero] at h
  cases hu : x.toModel.unpack with
  | notANumber => exact Or.inr rfl
  | zero s => simp [hu, UnpackedFloat.compare] at h
  | infinity s => cases s <;> simp [hu, UnpackedFloat.compare, Positive] at h ⊢
  | finite s m e hm => cases s <;> simp [hu, UnpackedFloat.compare, Positive] at h ⊢

/-- Nothing is at most what is not a number. -/
lemma not_le_nan (hy : y.toModel.unpack = .notANumber) : ¬ x ≤ y := by
  rw [le_iff, order, hy]
  cases x.toModel.unpack <;> simp [UnpackedFloat.compare]

/-- A number below another is not above it. -/
lemma lt_asymm (h : x < y) : ¬ y < x := by
  rw [lt_iff, order] at h ⊢
  cases hu : x.toModel.unpack with
  | notANumber => simp [hu, UnpackedFloat.compare] at h
  | zero s =>
      cases hv : y.toModel.unpack with
      | finite t n f hn => cases t <;> simp [hu, hv, UnpackedFloat.compare] at h ⊢
      | infinity t => cases t <;> simp [hu, hv, UnpackedFloat.compare] at h ⊢
      | _ => simp [hu, hv, UnpackedFloat.compare] at h
  | infinity s =>
      cases hv : y.toModel.unpack with
      | infinity t => cases s <;> cases t <;> simp [hu, hv, UnpackedFloat.compare] at h ⊢
      | _ => cases s <;> simp [hu, hv, UnpackedFloat.compare] at h ⊢
  | finite s m e hm =>
      cases hv : y.toModel.unpack with
      | infinity t => cases t <;> simp [hu, hv, UnpackedFloat.compare] at h ⊢
      | finite t n f hn =>
          cases s <;> cases t <;> simp [hu, hv, UnpackedFloat.compare, Ordering.then_eq_lt,
            Ordering.then_eq_gt, compare_lt_iff_lt, compare_gt_iff_gt] at h ⊢
          all_goals omega
      | _ => cases s <;> simp [hu, hv, UnpackedFloat.compare] at h ⊢

/-- Two positive numbers are ordered or the same. -/
lemma lt_or_lt_or_eq (hx : 0.0 < x) (hy : 0.0 < y) :
    x < y ∨ y < x ∨ x.toModel.unpack = y.toModel.unpack := by
  rw [lt_iff, lt_iff, order, order]
  rcases positive_cases (pos_iff.mp hx) with hu | ⟨m, e, hm, hu⟩
  · rcases positive_cases (pos_iff.mp hy) with hv | ⟨n, f, hn, hv⟩
    · exact Or.inr (Or.inr (hu.trans hv.symm))
    · rw [hu, hv]
      exact Or.inr (Or.inl rfl)
  · rcases positive_cases (pos_iff.mp hy) with hv | ⟨n, f, hn, hv⟩
    · rw [hu, hv]
      exact Or.inl rfl
    · rw [hu, hv]
      simp only [UnpackedFloat.compare, Option.some.injEq, Ordering.then_eq_lt, compare_lt_iff_lt,
        compare_eq_iff_eq, UnpackedFloat.finite.injEq, true_and]
      omega

/-- A number that is not at most a positive one is positive. -/
lemma pos_of_not_le (hc : 0.0 < c) (hx : x.toModel.unpack ≠ .notANumber) (h : ¬ x ≤ c) :
    0.0 < x := by
  rw [pos_iff]
  rw [le_iff, order] at h
  rcases positive_cases (pos_iff.mp hc) with hv | ⟨n, f, hn, hv⟩
  · cases hu : x.toModel.unpack with
    | notANumber => exact absurd hu hx
    | infinity s => cases s <;> simp [hu, hv, UnpackedFloat.compare, compare] at h ⊢
    | _ => simp [hu, hv, UnpackedFloat.compare] at h
  · cases hu : x.toModel.unpack with
    | notANumber => exact absurd hu hx
    | zero s => simp [hu, hv, UnpackedFloat.compare] at h
    | infinity s => cases s <;> simp [hu, hv, UnpackedFloat.compare, Positive] at h ⊢
    | finite s m e hm => cases s <;> simp [hu, hv, UnpackedFloat.compare, Positive] at h ⊢

lemma isNaN_iff : x.isNaN = true ↔ x.toModel.unpack = .notANumber := by
  have hnan : x.isNaN = x.toModel.unpack.isNaN := rfl
  rw [hnan]
  cases x.toModel.unpack <;> simp [UnpackedFloat.isNaN]

/-- A number that is not above a positive one is at most that. -/
lemma le_of_not_lt (hc : 0.0 < c) (hx : x.isNaN = false) (h : ¬ c < x) : x ≤ c := by
  have hnum : x.toModel.unpack ≠ .notANumber := by
    rw [← Bool.not_eq_true, isNaN_iff] at hx
    exact hx
  by_contra hnot
  rcases lt_or_lt_or_eq (pos_of_not_le hc hnum hnot) hc with hlt | hgt | heq
  · exact hnot (le_of_lt hlt)
  · exact h hgt
  · rw [le_iff, order, heq] at hnot
    rcases positive_cases (pos_iff.mp hc) with hv | ⟨n, f, hn, hv⟩
    · exact hnot (by rw [hv]; exact Or.inr rfl)
    · exact hnot (by rw [hv]; simp [UnpackedFloat.compare])

lemma unpack_div : (x / c).toModel.unpack = unpack Format.binary64 (pack Format.binary64
    (UnpackedFloat.div Format.binary64 x.toModel.unpack c.toModel.unpack)) := rfl

lemma isNaN_eq_false (h : x.toModel.unpack ≠ .notANumber) : x.isNaN = false := by
  rw [← Bool.not_eq_true, isNaN_iff]
  exact h

lemma fmax_of_isNaN (h : x.isNaN = true) : fmax x y = y := by
  simp only [fmax, h, Bool.true_or, if_true]

lemma fmin_of_isNaN (h : x.isNaN = true) : fmin x y = y := by
  simp only [fmin, h, Bool.true_or, if_true]

lemma fmax_eq (h : x.isNaN = false) : fmax x y = if x < y then y else x := by
  simp only [fmax, h, Bool.false_or, decide_eq_true_eq]

lemma fmin_eq (h : x.isNaN = false) : fmin x y = if y < x then y else x := by
  simp only [fmin, h, Bool.false_or, decide_eq_true_eq]

/-- The ratio of the larger of two numbers to the smaller one does not depend on their order. -/
lemma ratio_comm (hc : 0.0 < c) (hx : ¬ x ≤ c) (hy : ¬ y ≤ c) :
    (fmax x y / fmin x y).toModel.unpack = (fmax y x / fmin y x).toModel.unpack := by
  by_cases hnx : x.toModel.unpack = .notANumber
  · have hxn := isNaN_iff.mpr hnx
    rw [fmax_of_isNaN hxn, fmin_of_isNaN hxn]
    by_cases hny : y.toModel.unpack = .notANumber
    · have hyn := isNaN_iff.mpr hny
      rw [fmax_of_isNaN hyn, fmin_of_isNaN hyn, unpack_div, unpack_div, hnx, hny]
    · have hyn := isNaN_eq_false hny
      have hlt : ¬ y < x := fun h => not_le_nan hnx (le_of_lt h)
      have hgt : ¬ x < y := by simp [lt_iff, order, hnx, UnpackedFloat.compare]
      rw [fmax_eq hyn, fmin_eq hyn, if_neg hlt, if_neg hgt]
  · have hxn := isNaN_eq_false hnx
    rw [fmax_eq hxn, fmin_eq hxn]
    by_cases hny : y.toModel.unpack = .notANumber
    · have hyn := isNaN_iff.mpr hny
      have hlt : ¬ x < y := fun h => not_le_nan hny (le_of_lt h)
      have hgt : ¬ y < x := by simp [lt_iff, order, hny, UnpackedFloat.compare]
      rw [fmax_of_isNaN hyn, fmin_of_isNaN hyn, if_neg hlt, if_neg hgt]
    · have hyn := isNaN_eq_false hny
      rw [fmax_eq hyn, fmin_eq hyn]
      rcases lt_or_lt_or_eq (pos_of_not_le hc hnx hx) (pos_of_not_le hc hny hy) with h | h | h
      · rw [if_pos h, if_neg (lt_asymm h), if_neg (lt_asymm h), if_pos h]
      · rw [if_neg (lt_asymm h), if_pos h, if_pos h, if_neg (lt_asymm h)]
      · have hxy : ¬ x < y := by
          rw [lt_iff, order, h]
          exact fun hlt => lt_irrefl y (lt_iff.mpr hlt)
        have hyx : ¬ y < x := by
          rw [lt_iff, order, h]
          exact fun hlt => lt_irrefl y (lt_iff.mpr hlt)
        rw [if_neg hxy, if_neg hyx, if_neg hyx, if_neg hxy, unpack_div, unpack_div, h]

/-- The positive infinity. -/
lemma infinite_iff : x.isInf = true ∧ 0.0 < x ↔ x.toModel.unpack = .infinity .positive := by
  have hinf : x.isInf = x.toModel.unpack.isInf := rfl
  rw [pos_iff, hinf]
  constructor
  · rintro ⟨h, hpos⟩
    rcases positive_cases hpos with hu | ⟨m, e, hm, hu⟩
    · exact hu
    · rw [hu] at h
      exact absurd h (by simp [UnpackedFloat.isInf])
  · intro h
    rw [h]
    exact ⟨rfl, trivial⟩

end Positive

end Float64

end Data
