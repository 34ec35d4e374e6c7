/-
Maps of machine words that lose nothing, and indices drawn from words.

* `xorShift_injective`: a word xored with itself, shifted to the right;
* `mul_odd_injective`: a word times an odd one;
* `ncard_mulShift`: how many of the first `n` numbers `z` have the index `z * upper / n`: as many
  as for any other index, up to one.
-/
import Mathlib.Algebra.Order.Floor.Div
import Mathlib.Data.Nat.ModEq
import Mathlib.Data.Set.Card
import Mathlib.Tactic

namespace Data

/-! ### Maps without loss -/

section Words

variable {w s : ℕ}

/-- A word xored with its shift is different for different words. -/
lemma xorShift_injective (hs : 0 < s) : Function.Injective fun z : BitVec w => z ^^^ z >>> s := by
  intro x y h
  -- the difference is its own shift, so it vanishes
  have hself : x ^^^ y = (x ^^^ y) >>> s := by
    have hxor : (x ^^^ x >>> s) ^^^ (y ^^^ y >>> s) = 0#w := by
      rw [show x ^^^ x >>> s = y ^^^ y >>> s from h, BitVec.xor_self]
    rw [BitVec.ushiftRight_xor_distrib, ← BitVec.xor_left_inj (x >>> s ^^^ y >>> s),
      BitVec.xor_self, ← hxor]
    ac_rfl
  have hzero : (x ^^^ y).toNat = 0 := by
    have hdiv : (x ^^^ y).toNat = (x ^^^ y).toNat / 2 ^ s := by
      conv_lhs => rw [hself, BitVec.toNat_ushiftRight, Nat.shiftRight_eq_div_pow]
    by_contra hne
    have hlt := Nat.div_lt_self (Nat.pos_of_ne_zero hne) (Nat.one_lt_two_pow hs.ne')
    omega
  exact BitVec.xor_eq_zero_iff.mp (BitVec.eq_of_toNat_eq (by simpa using hzero))

/-- Products with an odd word are different for different words. -/
lemma mul_odd_injective {m : BitVec w} (hm : Odd m.toNat) :
    Function.Injective fun z : BitVec w => z * m := by
  intro x y h
  have hmod : x.toNat * m.toNat ≡ y.toNat * m.toNat [MOD 2 ^ w] := by
    have hnat := congrArg BitVec.toNat h
    rwa [BitVec.toNat_mul, BitVec.toNat_mul] at hnat
  have hcoprime : Nat.gcd (2 ^ w) m.toNat = 1 := (Nat.coprime_two_left.mpr hm).pow_left w
  have hxy := Nat.ModEq.cancel_right_of_coprime hcoprime hmod
  rw [Nat.ModEq, Nat.mod_eq_of_lt x.isLt, Nat.mod_eq_of_lt y.isLt] at hxy
  exact BitVec.eq_of_toNat_eq hxy

end Words

/-! ### Indices -/

section Indices

variable {n upper i : ℕ}

/-- The numbers with an index lie between two bounds. -/
lemma mulShift_eq_iff (hn : 0 < n) (hupper : 0 < upper) {z : ℕ} :
    z * upper / n = i ↔ z ∈ Finset.Ico (i * n ⌈/⌉ upper) ((i + 1) * n ⌈/⌉ upper) := by
  have hbounds : z * upper / n = i ↔ i ≤ z * upper / n ∧ z * upper / n < i + 1 := by omega
  rw [hbounds, Nat.le_div_iff_mul_le hn, Nat.div_lt_iff_lt_mul hn, Finset.mem_Ico,
    ceilDiv_le_iff_le_smul hupper, ← not_le (a := (i + 1) * n ⌈/⌉ upper),
    ceilDiv_le_iff_le_smul hupper, smul_eq_mul, not_le, Nat.mul_comm upper z]

/-- The quotient that is rounded up. -/
lemma ceilDiv_eq_ite (hupper : 0 < upper) :
    n ⌈/⌉ upper = n / upper + if n % upper = 0 then 0 else 1 := by
  have hdiv := Nat.div_add_mod n upper
  have hmod := Nat.mod_lt n hupper
  rw [Nat.ceilDiv_eq_add_pred_div]
  split_ifs with h
  · rw [Nat.div_eq_of_lt_le]
    · rw [Nat.add_zero, Nat.mul_comm]
      omega
    · rw [Nat.add_zero, Nat.succ_mul, Nat.mul_comm]
      omega
  · rw [Nat.div_eq_of_lt_le]
    · rw [Nat.add_mul, Nat.one_mul, Nat.mul_comm]
      omega
    · rw [Nat.add_mul, Nat.add_mul, Nat.mul_comm]
      omega

/-- The bounds are as far apart as for any other index, up to one. -/
lemma ceilDiv_add_sub (a : ℕ) (hupper : 0 < upper) :
    (a + n) ⌈/⌉ upper - a ⌈/⌉ upper = n / upper ∨
      (a + n) ⌈/⌉ upper - a ⌈/⌉ upper = n ⌈/⌉ upper := by
  have hshift : a + n + upper - 1 = a + upper - 1 + n := by omega
  have hmod := Nat.mod_lt (a + upper - 1) hupper
  rw [ceilDiv_eq_ite hupper (n := n), Nat.ceilDiv_eq_add_pred_div, Nat.ceilDiv_eq_add_pred_div,
    hshift, Nat.add_div hupper]
  generalize (a + upper - 1) / upper = q
  generalize n / upper = r
  split_ifs
  · exact absurd hmod (by omega)
  · exact Or.inr (by omega)
  · exact Or.inl (by omega)
  · exact Or.inl (by omega)

/-- **Every index is drawn from as many numbers as any other, up to one.** -/
theorem ncard_mulShift (hn : 0 < n) (hupper : 0 < upper) (hi : i < upper) :
    {z | z < n ∧ z * upper / n = i}.ncard = n / upper ∨
      {z | z < n ∧ z * upper / n = i}.ncard = n ⌈/⌉ upper := by
  have hset : {z | z < n ∧ z * upper / n = i} =
      ↑(Finset.Ico (i * n ⌈/⌉ upper) ((i + 1) * n ⌈/⌉ upper)) := by
    ext z
    rw [Set.mem_ofPred_eq, Finset.mem_coe, ← mulShift_eq_iff hn hupper, and_iff_right_iff_imp]
    rintro rfl
    by_contra hz
    have hle : upper ≤ z * upper / n := by
      rw [Nat.le_div_iff_mul_le hn, Nat.mul_comm]
      exact Nat.mul_le_mul_right upper (by omega)
    omega
  rw [hset, Set.ncard_coe_finset, Nat.card_Ico, Nat.add_mul, Nat.one_mul]
  exact ceilDiv_add_sub (i * n) hupper

end Indices

end Data
