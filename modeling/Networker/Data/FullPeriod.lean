/-
Maps that step through all residues of a power of two.

* `affine a c`: one step `x ↦ a x + c`; `iterate_affine_sub`: what `k` steps add, in closed form;
* `two_pow_dvd_geom_iff`: for `a ≡ 1` modulo 4, the geometric sum of `k` terms is as even as `k`;
* `iterate_eq_self_iff`: a map that is affine modulo `2 ^ w`, with an odd increment, is back where
  it started exactly after the multiples of `2 ^ w` steps;
* `existsUnique_iterate_eq`: a map whose period is the number of all values takes each of them once
  a period.
-/
import Mathlib.Dynamics.PeriodicPts.Lemmas
import Mathlib.NumberTheory.Multiplicity
import Mathlib.Tactic

namespace Data

/-! ### Affine maps -/

section Affine

variable {a c : ℤ} {k w : ℕ}

/-- One step. -/
def affine (a c x : ℤ) : ℤ := a * x + c

/-- What `k` steps add. -/
lemma iterate_affine_sub (a c x : ℤ) (k : ℕ) :
    (affine a c)^[k] x - x = (∑ i ∈ Finset.range k, a ^ i) * ((a - 1) * x + c) := by
  induction k with
  | zero => simp
  | succ k ih =>
      have hlast : (affine a c)^[k] x =
          x + (∑ i ∈ Finset.range k, a ^ i) * ((a - 1) * x + c) := by rw [← ih]; ring
      have hgeom : (∑ i ∈ Finset.range k, a ^ i) * (a - 1) = a ^ k - 1 := geom_sum_mul a k
      rw [Function.iterate_succ_apply', hlast, affine, Finset.sum_range_succ]
      linear_combination ((a - 1) * x + c) * hgeom

/-- The sum of `k` powers is divisible by a power of two exactly if `k` is. -/
lemma two_pow_dvd_geom_iff (ha : 4 ∣ a - 1) :
    (2 : ℤ) ^ w ∣ ∑ i ∈ Finset.range k, a ^ i ↔ 2 ^ w ∣ k := by
  rcases eq_or_ne a 1 with rfl | hne
  · simp only [one_pow, Finset.sum_const, Finset.card_range, nsmul_eq_mul, mul_one]
    exact_mod_cast Int.natCast_dvd_natCast
  · have hodd : ¬ (2 : ℤ) ∣ a := by omega
    -- the powers of two in `a ^ k - 1`, counted in two ways
    have hpow := Int.two_pow_sub_pow' (y := 1) k ha hodd
    rw [one_pow, ← geom_sum_mul a k, emultiplicity_mul Int.prime_two, add_comm] at hpow
    have hfinite : FiniteMultiplicity 2 (a - 1) :=
      Int.finiteMultiplicity_iff.mpr ⟨by decide, sub_ne_zero.mpr hne⟩
    have heq : emultiplicity 2 (∑ i ∈ Finset.range k, a ^ i) = emultiplicity (2 : ℤ) k :=
      ENat.add_right_injective_of_ne_top
        (finiteMultiplicity_iff_emultiplicity_ne_top.mp hfinite) hpow
    rw [pow_dvd_iff_le_emultiplicity, heq, ← pow_dvd_iff_le_emultiplicity]
    exact_mod_cast Int.natCast_dvd_natCast

/-- An affine map with an odd increment is back after the multiples of `2 ^ w` steps. -/
lemma two_pow_dvd_iterate_affine_iff (ha : 4 ∣ a - 1) (hc : Odd c) (x : ℤ) :
    (2 : ℤ) ^ w ∣ (affine a c)^[k] x - x ↔ 2 ^ w ∣ k := by
  have hodd : Odd ((a - 1) * x + c) := by
    have heven : Even ((a - 1) * x) :=
      (even_iff_two_dvd.mpr (dvd_trans (by norm_num) ha)).mul_right x
    exact heven.add_odd hc
  have hcoprime : IsCoprime ((2 : ℤ) ^ w) ((a - 1) * x + c) :=
    (Int.isCoprime_two_left.mpr hodd).pow_left
  rw [iterate_affine_sub, ← two_pow_dvd_geom_iff ha]
  exact ⟨hcoprime.dvd_of_dvd_mul_right, fun h => h.mul_right _⟩

end Affine

/-! ### Words -/

section Words

variable {α : Type} {f : α → α} {val : α → ℤ} {a c : ℤ} {w : ℕ}

/-- A map that is affine modulo a number stays so over its steps. -/
lemma val_iterate_modEq {m : ℤ} (hf : ∀ x, val (f x) ≡ affine a c (val x) [ZMOD m]) (k : ℕ)
    (x : α) : val (f^[k] x) ≡ (affine a c)^[k] (val x) [ZMOD m] := by
  induction k with
  | zero => rfl
  | succ k ih =>
      rw [Function.iterate_succ_apply', Function.iterate_succ_apply']
      exact (hf _).trans ((ih.mul_left a).add_right c)

variable (val) in
/-- **A map that is affine modulo `2 ^ w`, with a factor that is 1 modulo 4 and an odd increment,
is back where it started exactly after the multiples of `2 ^ w` steps.** -/
theorem iterate_eq_self_iff (hval : ∀ x y, val x ≡ val y [ZMOD 2 ^ w] → x = y)
    (hf : ∀ x, val (f x) ≡ affine a c (val x) [ZMOD 2 ^ w]) (ha : 4 ∣ a - 1) (hc : Odd c)
    (k : ℕ) (x : α) : f^[k] x = x ↔ 2 ^ w ∣ k := by
  have hback : f^[k] x = x ↔ val x ≡ val (f^[k] x) [ZMOD 2 ^ w] :=
    ⟨fun h => by rw [h], fun h => (hval _ _ h).symm⟩
  have hstep := val_iterate_modEq hf k x
  have hclosed : val x ≡ val (f^[k] x) [ZMOD 2 ^ w] ↔
      val x ≡ (affine a c)^[k] (val x) [ZMOD 2 ^ w] :=
    ⟨fun h => h.trans hstep, fun h => h.trans hstep.symm⟩
  rw [hback, hclosed, Int.modEq_iff_dvd, two_pow_dvd_iterate_affine_iff ha hc]

/-- A map with such steps has this period. -/
lemma minimalPeriod_eq {n : ℕ} {x : α} (h : ∀ k, f^[k] x = x ↔ n ∣ k) :
    Function.minimalPeriod f x = n :=
  Nat.dvd_antisymm (Function.IsPeriodicPt.minimalPeriod_dvd ((h n).mpr dvd_rfl))
    ((h _).mp (Function.isPeriodicPt_minimalPeriod f x))

/-- **A map whose period is the number of all values takes each of them once a period.** -/
theorem existsUnique_iterate_eq [Finite α] {x : α} (h : Function.minimalPeriod f x = Nat.card α)
    (y : α) : ∃! k, k < Nat.card α ∧ f^[k] x = y := by
  have hinj : Function.Injective fun k : Fin (Nat.card α) => f^[k] x := by
    intro i j hij
    exact Fin.ext ((Function.iterate_eq_iterate_iff_of_lt_minimalPeriod
      (i.isLt.trans_eq h.symm) (j.isLt.trans_eq h.symm)).mp hij)
  have hcard : Nat.card (Fin (Nat.card α)) = Nat.card α := Nat.card_fin _
  have hbij := (Nat.bijective_iff_injective_and_card _).mpr ⟨hinj, hcard⟩
  obtain ⟨k, hk, hunique⟩ := hbij.existsUnique y
  refine ⟨k, ⟨k.isLt, hk⟩, fun j hj => ?_⟩
  exact congrArg Fin.val (hunique ⟨j, hj.1⟩ hj.2)

end Words

end Data
