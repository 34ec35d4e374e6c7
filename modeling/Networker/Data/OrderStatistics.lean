/-
Order statistics in exact arithmetic, and the rounding of what is reported.

* `roundEven`, `roundTo`: rounding to an integer and to a number of decimals, ties to even;
* `ceilSqrt`, `roundEvenSqrt`: a square root rounded up and rounded to even, without the root;
* `at_`: an entry of a list by its rank;
* `percentile`: linear interpolation between two ranks; `percentile_mono`, `at_le_percentile`,
  `percentile_le_at`: its order in the quantile and against the ranks;
* `mean`: between the smallest and the largest entry.
-/
import Mathlib.Tactic
import Mathlib.Analysis.Real.Sqrt
import Mathlib.Data.List.GetD
import Mathlib.Data.List.Sort

namespace Data

section Rounding

variable {K : Type} [Field K] [LinearOrder K] [FloorRing K] {x y : K}

/-- The nearest integer, the even one when there are two. -/
def roundEven (x : K) : ℤ :=
  if x < ⌊x⌋ + 1 / 2 then ⌊x⌋
  else if ⌊x⌋ + 1 / 2 < x then ⌊x⌋ + 1
  else if Even ⌊x⌋ then ⌊x⌋ else ⌊x⌋ + 1

/-- Rounding to `k` decimals. -/
def roundTo (k : ℕ) (x : K) : K := roundEven (x * 10 ^ k) / 10 ^ k

lemma floor_le_roundEven (x : K) : ⌊x⌋ ≤ roundEven x := by
  rw [roundEven]
  split_ifs <;> omega

lemma roundEven_le_floor_add_one (x : K) : roundEven x ≤ ⌊x⌋ + 1 := by
  rw [roundEven]
  split_ifs <;> omega

variable [IsStrictOrderedRing K]

/-- Rounding keeps the order. -/
lemma roundEven_mono (h : x ≤ y) : roundEven x ≤ roundEven y := by
  rcases (Int.floor_mono h).lt_or_eq with hlt | heq
  · calc roundEven x ≤ ⌊x⌋ + 1 := roundEven_le_floor_add_one x
      _ ≤ ⌊y⌋ := hlt
      _ ≤ roundEven y := floor_le_roundEven y
  · -- the two numbers lie between the same integers
    rw [roundEven, roundEven, ← heq]
    split_ifs <;> first | omega | (exfalso; linarith)

lemma roundTo_mono (k : ℕ) (h : x ≤ y) : roundTo k x ≤ roundTo k y := by
  have hpow : (0 : K) < 10 ^ k := by positivity
  have hround := roundEven_mono (mul_le_mul_of_nonneg_right h hpow.le)
  rw [roundTo, roundTo]
  gcongr

@[simp] lemma roundTo_zero (k : ℕ) : roundTo k (0 : K) = 0 := by
  simp [roundTo, roundEven]

end Rounding

/-! ### Square roots -/

/-- The square root of a natural number, rounded up. -/
def ceilSqrt (b : ℕ) : ℕ := if b.sqrt * b.sqrt = b then b.sqrt else b.sqrt + 1

lemma ceilSqrt_le_iff {b k : ℕ} : ceilSqrt b ≤ k ↔ b ≤ k * k := by
  have hlo := Nat.sqrt_le b
  rw [ceilSqrt]
  split_ifs with hsq
  · constructor
    · intro hk
      rw [← hsq]
      exact Nat.mul_le_mul hk hk
    · exact fun hk => Nat.sqrt_le_sqrt hk |>.trans (Nat.sqrt_eq k).le
  · rw [Nat.succ_le_iff, Nat.sqrt_lt]
    have hne : b ≠ k * k := by
      rintro rfl
      exact hsq (by rw [Nat.sqrt_eq])
    omega

/-- It is the least integer above the root. -/
lemma ceilSqrt_eq (b : ℕ) : (ceilSqrt b : ℤ) = ⌈√(b : ℝ)⌉ := by
  have hle : ∀ k : ℕ, ceilSqrt b ≤ k ↔ √(b : ℝ) ≤ k := by
    intro k
    rw [ceilSqrt_le_iff, Real.sqrt_le_left (Nat.cast_nonneg k), ← Nat.cast_pow, Nat.cast_le, sq]
  refine le_antisymm ?_ (Int.ceil_le.mpr (by exact_mod_cast (hle _).mp le_rfl))
  obtain ⟨k, hk⟩ := Int.eq_ofNat_of_zero_le (Int.ceil_nonneg (Real.sqrt_nonneg (b : ℝ)))
  rw [hk]
  refine Nat.cast_le.mpr ((hle k).mpr ?_)
  have hceil := Int.le_ceil (√(b : ℝ))
  rw [hk] at hceil
  exact_mod_cast hceil

/-- The square root of a number, rounded to even. -/
def roundEvenSqrt (y : ℚ) : ℤ :=
  let k : ℕ := ⌊y⌋₊.sqrt
  if y < (k + 1 / 2) ^ 2 then k
  else if (k + 1 / 2) ^ 2 < y then k + 1
  else if Even (k : ℤ) then k else k + 1

/-- Rounding the root needs no root. -/
lemma roundEvenSqrt_eq {y : ℚ} (hy : 0 ≤ y) : roundEvenSqrt y = roundEven √(y : ℝ) := by
  have hfloor : ⌊√(y : ℝ)⌋ = (⌊y⌋₊.sqrt : ℤ) := by
    rw [Int.floor_eq_iff]
    have hlo : ⌊y⌋₊.sqrt ^ 2 ≤ ⌊y⌋₊ := Nat.sqrt_le' _
    have hhi : ⌊y⌋₊ < (⌊y⌋₊.sqrt + 1) ^ 2 := Nat.lt_succ_sqrt' _
    constructor
    · refine Real.le_sqrt_of_sq_le ?_
      exact_mod_cast (Nat.cast_le.mpr hlo).trans (Nat.floor_le hy)
    · rw [Real.sqrt_lt' (by positivity)]
      exact_mod_cast (Nat.floor_lt hy).mp hhi
  have hcast : ((⌊y⌋₊.sqrt : ℝ) + 1 / 2) ^ 2 = (((⌊y⌋₊.sqrt + 1 / 2) ^ 2 : ℚ) : ℝ) := by
    push_cast
    rfl
  have hmid : (0 : ℝ) ≤ (⌊y⌋₊.sqrt : ℝ) + 1 / 2 := by positivity
  have hlt : √(y : ℝ) < (⌊y⌋₊.sqrt : ℝ) + 1 / 2 ↔ y < (⌊y⌋₊.sqrt + 1 / 2) ^ 2 := by
    rw [Real.sqrt_lt' (by positivity), hcast, Rat.cast_lt]
  have hgt : (⌊y⌋₊.sqrt : ℝ) + 1 / 2 < √(y : ℝ) ↔ (⌊y⌋₊.sqrt + 1 / 2) ^ 2 < y := by
    rw [Real.lt_sqrt hmid, hcast, Rat.cast_lt]
  rw [roundEven, hfloor, Int.cast_natCast]
  simp only [hlt, hgt, roundEvenSqrt]

/-! ### Ranks -/

section Ranks

variable {K : Type} [Field K] [LinearOrder K]

/-- The entry of a list at a rank. -/
def atRank (xs : List K) (i : ℕ) : K := xs.getD i 0

/-- The entries of an ascending list grow with the rank. -/
lemma atRank_mono {xs : List K} (hsorted : xs.SortedLE) {i j : ℕ} (hij : i ≤ j)
    (hj : j < xs.length) : atRank xs i ≤ atRank xs j := by
  rw [atRank, atRank, List.getD_eq_getElem xs 0 (hij.trans_lt hj), List.getD_eq_getElem xs 0 hj]
  exact hsorted.getElem_le_getElem_of_le hij

variable [FloorRing K]

/-- The value at a quantile of an ascending list, interpolated between two ranks. -/
def percentile (sorted : List K) (q : K) : K :=
  if sorted.length = 0 then 0
  else if sorted.length = 1 then atRank sorted 0
  else
    let pos : K := ((sorted.length : K) - 1) * q
    let lo := ⌊pos⌋.toNat
    let hi := ⌈pos⌉.toNat
    if lo = hi then atRank sorted lo
    else atRank sorted lo + (atRank sorted hi - atRank sorted lo) * (pos - lo)

variable [IsStrictOrderedRing K] {xs : List K} {q q' : K} {i : ℕ}

/-- The rank of a quantile lies between its integer part and the next rank. -/
lemma rank_bounds (hxs : 0 < xs.length) (hq : 0 ≤ q) :
    ((⌊((xs.length : K) - 1) * q⌋.toNat : ℕ) : K) ≤ ((xs.length : K) - 1) * q ∧
      ((xs.length : K) - 1) * q < ((⌊((xs.length : K) - 1) * q⌋.toNat : ℕ) : K) + 1 := by
  have hlen : (1 : K) ≤ xs.length := by exact_mod_cast hxs
  have hpos : 0 ≤ ((xs.length : K) - 1) * q := mul_nonneg (by linarith) hq
  have hcast : ((⌊((xs.length : K) - 1) * q⌋.toNat : ℕ) : K) = ⌊((xs.length : K) - 1) * q⌋ := by
    rw [← Int.cast_natCast, Int.toNat_of_nonneg (Int.floor_nonneg.mpr hpos)]
  rw [hcast]
  exact ⟨Int.floor_le _, Int.lt_floor_add_one _⟩

/-- The interpolation from the rank below to the next one. -/
lemma percentile_eq (hxs : 0 < xs.length) (hq : 0 ≤ q) :
    percentile xs q = atRank xs ⌊((xs.length : K) - 1) * q⌋.toNat +
      (atRank xs (⌊((xs.length : K) - 1) * q⌋.toNat + 1) -
        atRank xs ⌊((xs.length : K) - 1) * q⌋.toNat) *
      (((xs.length : K) - 1) * q - (⌊((xs.length : K) - 1) * q⌋.toNat : ℕ)) := by
  obtain ⟨hlo, hhi⟩ := rank_bounds hxs hq
  rw [percentile, if_neg hxs.ne']
  by_cases hone : xs.length = 1
  · simp [hone]
  · rw [if_neg hone]
    dsimp only
    generalize ((xs.length : K) - 1) * q = pos at hlo hhi ⊢
    generalize hlow : ⌊pos⌋.toNat = lo at hlo hhi ⊢
    rcases hlo.lt_or_eq with hlt | heq
    · -- between two ranks the upper one is the next
      have hceil : ⌈pos⌉ = (lo + 1 : ℤ) := by
        rw [Int.ceil_eq_iff]
        push_cast
        constructor <;> linarith
      have hnat : ⌈pos⌉.toNat = lo + 1 := by omega
      rw [hnat, if_neg (by omega)]
    · have hceil : ⌈pos⌉ = (lo : ℤ) := by
        rw [← heq]
        exact Int.ceil_natCast lo
      have hnat : ⌈pos⌉.toNat = lo := by omega
      rw [hnat, if_pos rfl, ← heq, sub_self, mul_zero, add_zero]

/-- The rank of a quantile is a rank of the list. -/
lemma rank_lt (hxs : 0 < xs.length) (hq : 0 ≤ q) (hq' : q ≤ 1) :
    ⌊((xs.length : K) - 1) * q⌋.toNat < xs.length := by
  have hlen : (1 : K) ≤ xs.length := by exact_mod_cast hxs
  have hle : ((xs.length : K) - 1) * q ≤ (xs.length : K) - 1 :=
    mul_le_of_le_one_right (by linarith) hq'
  have hlt : ((⌊((xs.length : K) - 1) * q⌋.toNat : ℕ) : K) < xs.length := by
    linarith [(rank_bounds hxs hq).1]
  exact_mod_cast hlt

/-- An entry up to the rank of a quantile is up to its value. -/
lemma atRank_le_percentile (hsorted : xs.SortedLE) (hxs : 0 < xs.length) (hq : 0 ≤ q)
    (hq' : q ≤ 1) (hi : (i : K) ≤ ((xs.length : K) - 1) * q) :
    atRank xs i ≤ percentile xs q := by
  obtain ⟨hlo, hhi⟩ := rank_bounds hxs hq
  have hlt := rank_lt hxs hq hq'
  have hlen : (1 : K) ≤ xs.length := by exact_mod_cast hxs
  have htop : ((xs.length : K) - 1) * q ≤ (xs.length : K) - 1 :=
    mul_le_of_le_one_right (by linarith) hq'
  rw [percentile_eq hxs hq]
  generalize ((xs.length : K) - 1) * q = pos at *
  generalize ⌊pos⌋.toNat = lo at *
  have hilo : i ≤ lo := by
    have hcast : (i : K) < (lo : K) + 1 := by linarith
    exact Nat.lt_succ_iff.mp (by exact_mod_cast hcast)
  have hfirst := atRank_mono hsorted hilo hlt
  by_cases hnext : lo + 1 < xs.length
  · have hstep := atRank_mono hsorted (Nat.le_succ lo) hnext
    have hpart : 0 ≤ (atRank xs (lo + 1) - atRank xs lo) * (pos - lo) :=
      mul_nonneg (sub_nonneg.mpr hstep) (sub_nonneg.mpr hlo)
    linarith
  · -- the last rank has no part of a next one
    have hlast : (lo : K) + 1 = xs.length := by exact_mod_cast (show lo + 1 = xs.length by omega)
    have hzero : pos - lo = 0 := by linarith
    rw [hzero, mul_zero, add_zero]
    exact hfirst

/-- An entry from the rank of a quantile on is at least its value. -/
lemma percentile_le_atRank (hsorted : xs.SortedLE) (hq : 0 ≤ q)
    (hi : ((xs.length : K) - 1) * q ≤ i) (hlt : i < xs.length) :
    percentile xs q ≤ atRank xs i := by
  have hxs : 0 < xs.length := by omega
  obtain ⟨hlo, hhi⟩ := rank_bounds hxs hq
  rw [percentile_eq hxs hq]
  generalize ((xs.length : K) - 1) * q = pos at *
  generalize ⌊pos⌋.toNat = lo at *
  have hloi : lo ≤ i := by
    have hcast : (lo : K) ≤ i := hlo.trans hi
    exact_mod_cast hcast
  rcases hloi.lt_or_eq with hnext | rfl
  · have hstep := atRank_mono hsorted (Nat.le_succ lo) (show lo + 1 < xs.length by omega)
    have hpart : (atRank xs (lo + 1) - atRank xs lo) * (pos - lo) ≤
        atRank xs (lo + 1) - atRank xs lo :=
      mul_le_of_le_one_right (sub_nonneg.mpr hstep) (by linarith)
    linarith [atRank_mono hsorted (show lo + 1 ≤ i from hnext) hlt]
  · have hzero : pos - lo = 0 := by linarith
    rw [hzero, mul_zero, add_zero]

/-- The value grows with the quantile. -/
theorem percentile_mono (hsorted : xs.SortedLE) (hq : 0 ≤ q) (hqq : q ≤ q') (hq' : q' ≤ 1) :
    percentile xs q ≤ percentile xs q' := by
  rcases Nat.eq_zero_or_pos xs.length with hzero | hxs
  · rw [percentile, percentile, if_pos hzero, if_pos hzero]
  have hlen : (1 : K) ≤ xs.length := by exact_mod_cast hxs
  have hpos : ((xs.length : K) - 1) * q ≤ ((xs.length : K) - 1) * q' :=
    mul_le_mul_of_nonneg_left hqq (by linarith)
  obtain ⟨hlo, hhi⟩ := rank_bounds hxs hq
  obtain ⟨hlo', hhi'⟩ := rank_bounds hxs (hq.trans hqq)
  have hlt' := rank_lt hxs (hq.trans hqq) hq'
  rcases lt_or_ge ⌊((xs.length : K) - 1) * q⌋.toNat ⌊((xs.length : K) - 1) * q'⌋.toNat with
    hlt | hge
  · -- a rank between the two quantiles
    have hnext : (((⌊((xs.length : K) - 1) * q⌋.toNat + 1 : ℕ)) : K) ≤
        ((xs.length : K) - 1) * q' := by
      refine le_trans ?_ hlo'
      exact_mod_cast hlt
    refine (percentile_le_atRank hsorted hq ?_ (by omega)).trans
      (atRank_le_percentile hsorted hxs (hq.trans hqq) hq' hnext)
    push_cast
    exact hhi.le
  · -- the two quantiles lie between the same ranks
    have hsame : ⌊((xs.length : K) - 1) * q'⌋.toNat = ⌊((xs.length : K) - 1) * q⌋.toNat :=
      le_antisymm hge (Int.toNat_le_toNat (Int.floor_mono hpos))
    have htop : ((xs.length : K) - 1) * q' ≤ (xs.length : K) - 1 :=
      mul_le_of_le_one_right (by linarith) hq'
    rw [percentile_eq hxs hq, percentile_eq hxs (hq.trans hqq), hsame]
    rw [hsame] at hlo' hhi' hlt'
    generalize ((xs.length : K) - 1) * q = pos at *
    generalize ((xs.length : K) - 1) * q' = pos' at *
    generalize ⌊pos⌋.toNat = lo at *
    by_cases hnext : lo + 1 < xs.length
    · have hstep := atRank_mono hsorted (Nat.le_succ lo) hnext
      have hpart := mul_le_mul_of_nonneg_left (sub_le_sub_right hpos (lo : K))
        (sub_nonneg.mpr hstep)
      linarith
    · have hlast : (lo : K) + 1 = xs.length := by
        exact_mod_cast (show lo + 1 = xs.length by omega)
      have hzero : pos - lo = 0 := by linarith
      have hzero' : pos' - lo = 0 := by linarith
      rw [hzero, hzero']

/-! ### The mean -/

/-- The mean of a list, zero for the empty one. -/
def mean (xs : List K) : K := xs.sum / xs.length

/-- The mean is between the smallest and the largest entry. -/
lemma mean_bounds (hsorted : xs.SortedLE) (hxs : 0 < xs.length) :
    atRank xs 0 ≤ mean xs ∧ mean xs ≤ atRank xs (xs.length - 1) := by
  have hlen : (0 : K) < xs.length := by exact_mod_cast hxs
  have hentry : ∀ x ∈ xs, atRank xs 0 ≤ x ∧ x ≤ atRank xs (xs.length - 1) := by
    intro x hx
    obtain ⟨i, hi, rfl⟩ := List.mem_iff_getElem.mp hx
    have hat : xs[i] = atRank xs i := (List.getD_eq_getElem xs 0 hi).symm
    rw [hat]
    exact ⟨atRank_mono hsorted (Nat.zero_le i) hi, atRank_mono hsorted (by omega) (by omega)⟩
  rw [mean, le_div_iff₀ hlen, div_le_iff₀ hlen, mul_comm, mul_comm (atRank xs (xs.length - 1))]
  constructor
  · have hsum := List.card_nsmul_le_sum xs _ fun x hx => (hentry x hx).1
    rwa [nsmul_eq_mul] at hsum
  · have hsum := List.sum_le_card_nsmul xs _ fun x hx => (hentry x hx).2
    rwa [nsmul_eq_mul] at hsum

end Ranks

end Data
