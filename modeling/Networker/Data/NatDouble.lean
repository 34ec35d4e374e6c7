/-
Natural numbers in the 64-bit format.

* `roundNat`: a natural number, rounded to 53 bits;
* `roundNat_of_lt`: nothing is lost below `2 ^ 53`;
* `roundNat_bounds`: beyond it a number is off by at most one part in `2 ^ 53`;
* `Tracks`: a rounded value is exact, or it is large together with what it stands for.
-/
import Networker.Data.Float64

namespace Data

namespace Float64

section Nearest

variable {a b : ℕ}

lemma divNearest_one (a : ℕ) : divNearest a 1 = a := by
  have hmod : compare (2 * (a % 1)) 1 = .lt := by
    rw [Nat.compare_eq_lt, Nat.mod_one]
    norm_num
  rw [divNearest, hmod]
  exact Nat.div_one a

lemma div_le_divNearest : a / b ≤ divNearest a b := by
  rw [divNearest]
  split <;> omega

/-- The nearest quotient is off by at most one half. -/
lemma divNearest_bounds (hb : 0 < b) :
    2 * a ≤ 2 * (b * divNearest a b) + b ∧ 2 * (b * divNearest a b) ≤ 2 * a + b := by
  have hdiv : b * (a / b) + a % b = a := Nat.div_add_mod a b
  have hmod : a % b < b := Nat.mod_lt a hb
  rw [divNearest]
  split
  case h_1 hlt =>
    rw [Nat.compare_eq_lt] at hlt
    constructor <;> omega
  case h_2 heq =>
    rw [Nat.compare_eq_eq] at heq
    rcases Nat.mod_two_eq_zero_or_one (a / b) with heven | hodd
    · rw [heven, add_zero]
      constructor <;> omega
    · rw [hodd, mul_add, mul_one]
      constructor <;> omega
  case h_3 hgt =>
    rw [Nat.compare_eq_gt] at hgt
    rw [mul_add, mul_one]
    constructor <;> omega

end Nearest

/-! ### Rounding -/

section RoundNat

variable {n : ℕ}

/-- The number of bits beyond the 53 that are kept. -/
def excess (n : ℕ) : ℕ := n.log2 - 52

/-- A natural number in the 64-bit format, to the nearest, ties to even. -/
def roundNat (n : ℕ) : ℕ := 2 ^ excess n * divNearest n (2 ^ excess n)

/-- **Nothing is lost below `2 ^ 53`.** -/
lemma roundNat_of_lt (h : n < 2 ^ 53) : roundNat n = n := by
  have hexcess : excess n = 0 := by
    rcases Nat.eq_zero_or_pos n with rfl | hn
    · simp [excess]
    · have hlog := (Nat.log2_lt hn.ne').mpr h
      rw [excess]
      omega
  rw [roundNat, hexcess, pow_zero, one_mul, divNearest_one]

lemma two_pow_excess_le (h : 2 ^ 53 ≤ n) : 2 ^ 52 * 2 ^ excess n ≤ n := by
  have hn : n ≠ 0 := by
    rintro rfl
    exact absurd h (by norm_num)
  have hlog : 53 ≤ n.log2 := (Nat.le_log2 hn).mpr h
  calc 2 ^ 52 * 2 ^ excess n = 2 ^ n.log2 := by
        rw [← pow_add, excess]
        congr 1
        omega
    _ ≤ n := Nat.log2_self_le hn

lemma one_le_excess (h : 2 ^ 53 ≤ n) : 1 ≤ excess n := by
  have hn : n ≠ 0 := by
    rintro rfl
    exact absurd h (by norm_num)
  have hlog : 53 ≤ n.log2 := (Nat.le_log2 hn).mpr h
  rw [excess]
  omega

/-- What is not below `2 ^ 53` stays so. -/
lemma le_roundNat (h : 2 ^ 53 ≤ n) : 2 ^ 53 ≤ roundNat n := by
  have hquotient : 2 ^ 52 ≤ divNearest n (2 ^ excess n) := by
    refine le_trans ?_ div_le_divNearest
    rw [Nat.le_div_iff_mul_le (by positivity)]
    exact two_pow_excess_le h
  calc 2 ^ 53 = 2 ^ 1 * 2 ^ 52 := by norm_num
    _ ≤ 2 ^ excess n * divNearest n (2 ^ excess n) :=
        Nat.mul_le_mul (Nat.pow_le_pow_right (by norm_num) (one_le_excess h)) hquotient

/-- **A rounded number is off by at most one part in `2 ^ 53`.** -/
lemma roundNat_bounds (n : ℕ) :
    2 ^ 53 * n ≤ 2 ^ 53 * roundNat n + n ∧ 2 ^ 53 * roundNat n ≤ 2 ^ 53 * n + n := by
  by_cases h : n < 2 ^ 53
  · rw [roundNat_of_lt h]
    omega
  · have hunit := two_pow_excess_le (not_lt.mp h)
    have hnear := divNearest_bounds (a := n) (b := 2 ^ excess n) (by positivity)
    rw [← roundNat] at hnear
    omega

end RoundNat

/-! ### Products and sums -/

section Tracks

variable {x y p b : ℕ}

/-- A value is the number that it stands for, or both are at least `2 ^ 53`. -/
def Tracks (x p : ℕ) : Prop := min x (2 ^ 53) = min p (2 ^ 53)

lemma Tracks.refl (x : ℕ) : Tracks x x := rfl

lemma Tracks.cases (h : Tracks x p) : (x = p ∧ p < 2 ^ 53) ∨ (2 ^ 53 ≤ x ∧ 2 ^ 53 ≤ p) := by
  rw [Tracks] at h
  omega

lemma tracks_of_le (hx : 2 ^ 53 ≤ x) (hp : 2 ^ 53 ≤ p) : Tracks x p := by
  rw [Tracks, min_eq_right hx, min_eq_right hp]

lemma Tracks.round (h : Tracks x p) : Tracks (roundNat x) p := by
  rcases h.cases with ⟨rfl, hlt⟩ | ⟨hx, hp⟩
  · rw [roundNat_of_lt hlt]
    exact .refl x
  · exact tracks_of_le (le_roundNat hx) hp

lemma Tracks.mul (h : Tracks x p) (hb : 1 ≤ b) : Tracks (x * b) (p * b) := by
  rcases h.cases with ⟨rfl, hlt⟩ | ⟨hx, hp⟩
  · exact .refl _
  · exact tracks_of_le (hx.trans (Nat.le_mul_of_pos_right x hb))
      (hp.trans (Nat.le_mul_of_pos_right p hb))

lemma Tracks.add (h : Tracks x p) (b : ℕ) : Tracks (x + b) (p + b) := by
  rw [Tracks] at *
  omega

end Tracks

end Float64

end Data
