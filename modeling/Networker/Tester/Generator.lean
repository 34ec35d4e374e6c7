/-
The generator of the bootstrap, over all of its states (`networker-tester/src/stats_rng.rs`).

* `finalize_bijective`: the finalizer loses nothing of a state;
* `minimalPeriod_step`: the states come back after `2 ^ 64` steps and no sooner;
* `boundedIndex`: the index of an output; `ncard_boundedIndex`: every index has as many outputs as
  any other, up to one;
* `generator_uniform`: both together with the order in which the outputs come.
-/
import Mathlib.Data.FinEnum
import Networker.Data.FullPeriod
import Networker.Data.WordMaps
import Networker.Tester.Statistics

namespace Networker

open Data

namespace Statistics

namespace DeterministicRng

/-! ### The finalizer -/

lemma xorShift_injective {s : UInt64} (hs : 0 < s.toNat % 64) :
    Function.Injective fun z : UInt64 => z ^^^ (z >>> s) := by
  intro x y h
  refine UInt64.toBitVec_inj.mp (Data.xorShift_injective hs ?_)
  have hbits := congrArg UInt64.toBitVec h
  simpa using hbits

lemma mul_injective {m : UInt64} (hm : Odd m.toNat) :
    Function.Injective fun z : UInt64 => z * m := by
  intro x y h
  refine UInt64.toBitVec_inj.mp (mul_odd_injective (m := m.toBitVec) hm ?_)
  have hbits := congrArg UInt64.toBitVec h
  simpa using hbits

/-- **The finalizer is a bijection of the words of 64 bits.** -/
lemma finalize_bijective :
    Function.Bijective fun state => (⟨state⟩ : DeterministicRng).finalize := by
  have h30 := xorShift_injective (s := 30) (by decide)
  have h27 := xorShift_injective (s := 27) (by decide)
  have h31 := xorShift_injective (s := 31) (by decide)
  have hfirst := mul_injective (m := 0xbf58476d1ce4e5b9) (by decide)
  have hsecond := mul_injective (m := 0x94d049bb133111eb) (by decide)
  have hinj := h31.comp (hsecond.comp (h27.comp (hfirst.comp h30)))
  exact Finite.injective_iff_bijective.mp hinj

/-! ### The states -/

/-- A generator is its state. -/
def equivState : DeterministicRng ≃ UInt64 := ⟨state, mk, fun _ => rfl, fun _ => rfl⟩

instance : Finite DeterministicRng := .of_equiv _ equivState.symm

lemma card_eq : Nat.card DeterministicRng = 2 ^ 64 := by
  rw [Nat.card_congr (equivState.trans FinEnum.equiv), Nat.card_fin]
  rfl

/-- **The states come back after `2 ^ 64` steps**, and no sooner. -/
lemma minimalPeriod_step (rng : DeterministicRng) : Function.minimalPeriod step rng = 2 ^ 64 := by
  refine minimalPeriod_eq fun k => iterate_eq_self_iff (fun rng => (rng.state.toNat : ℤ))
    (a := 6364136223846793005) (c := 1442695040888963407) ?_ ?_ (by decide) (by decide) k rng
  · intro x y h
    have hmod : x.state.toNat ≡ y.state.toNat [MOD 2 ^ 64] := by exact_mod_cast h
    have hnat := Nat.ModEq.eq_of_lt_of_lt hmod x.state.toNat_lt y.state.toNat_lt
    exact congrArg mk (UInt64.toNat_inj.mp hnat)
  · intro x
    dsimp only [step]
    rw [UInt64.toNat_add, UInt64.toNat_mul, affine, Int.mul_comm]
    push_cast
    exact (Int.mod_modEq _ _).trans ((Int.mod_modEq _ _).add_right _)

/-- The output behind `k` others. -/
def output (rng : DeterministicRng) (k : ℕ) : UInt64 := ((fun r => r.nextU64.2)^[k] rng).nextU64.1

/-- **Every word is one output of a period.** -/
lemma existsUnique_output (rng : DeterministicRng) (z : UInt64) :
    ∃! k, k < 2 ^ 64 ∧ rng.output k = z := by
  obtain ⟨state, rfl⟩ := finalize_bijective.surjective z
  have hperiod : Function.minimalPeriod step rng.step = Nat.card DeterministicRng := by
    rw [minimalPeriod_step, card_eq]
  obtain ⟨k, ⟨hk, hat⟩, hunique⟩ := existsUnique_iterate_eq hperiod ⟨state⟩
  rw [card_eq] at hk
  have houtput (j : ℕ) : rng.output j = (step^[j] rng.step).finalize := by
    rw [← Function.iterate_succ_apply, Function.iterate_succ_apply']
    rfl
  refine ⟨k, ⟨hk, by rw [houtput, hat]⟩, fun j ⟨hj, hz⟩ => hunique j ⟨by rwa [card_eq], ?_⟩⟩
  rw [houtput] at hz
  exact congrArg mk (finalize_bijective.injective hz)

end DeterministicRng

/-! ### Indices -/

/-- The index that an output is mapped to. -/
def boundedIndex (upper : ℕ) (z : UInt64) : ℕ := z.toNat * upper / 2 ^ 64

lemma nextIndex_fst {upper : ℕ} (h : 0 < upper) (rng : DeterministicRng) :
    (rng.nextIndex upper).1 = boundedIndex upper rng.nextU64.1 := by
  rw [DeterministicRng.nextIndex, if_neg h.ne']
  rfl

/-- **Every index has as many outputs as any other, up to one.** -/
lemma ncard_boundedIndex {upper i : ℕ} (h : 0 < upper) (hi : i < upper) :
    {z | boundedIndex upper z = i}.ncard = 2 ^ 64 / upper ∨
      {z | boundedIndex upper z = i}.ncard = 2 ^ 64 ⌈/⌉ upper := by
  have himage : UInt64.toNat '' {z | boundedIndex upper z = i} =
      {z | z < 2 ^ 64 ∧ z * upper / 2 ^ 64 = i} := by
    ext z
    constructor
    · rintro ⟨word, hword, rfl⟩
      exact ⟨word.toNat_lt, hword⟩
    · rintro ⟨hlt, hz⟩
      have hword : (UInt64.ofNat z).toNat = z := UInt64.toNat_ofNat_of_lt' hlt
      exact ⟨UInt64.ofNat z, by rwa [Set.mem_ofPred_eq, boundedIndex, hword], hword⟩
  rw [← Set.ncard_image_of_injective _ fun _ _ => UInt64.toNat_inj.mp, himage]
  exact ncard_mulShift (by norm_num) h hi

/-- **The generator is uniform.**  Indices are below their bound, and each of them has as many
outputs as any other, up to one; the finalizer is a bijection; from every state the states come back
after `2 ^ 64` steps and no sooner, and until then every word is an output once. -/
theorem generator_uniform (upper : ℕ) (hupper : 1 ≤ upper) :
    (∀ rng : DeterministicRng, (rng.nextIndex upper).1 < upper ∧
        (rng.nextIndex upper).1 = boundedIndex upper rng.nextU64.1) ∧
      (∀ i < upper, {z | boundedIndex upper z = i}.ncard = 2 ^ 64 / upper ∨
        {z | boundedIndex upper z = i}.ncard = 2 ^ 64 ⌈/⌉ upper) ∧
      (Function.Bijective fun state => (⟨state⟩ : DeterministicRng).finalize) ∧
      ∀ rng : DeterministicRng,
        Function.minimalPeriod (fun r : DeterministicRng => r.nextU64.2) rng = 2 ^ 64 ∧
          ∀ z, ∃! k, k < 2 ^ 64 ∧ rng.output k = z :=
  ⟨fun rng => ⟨nextIndex_lt rng hupper, nextIndex_fst hupper rng⟩,
    fun _ hi => ncard_boundedIndex hupper hi, DeterministicRng.finalize_bijective,
    fun rng => ⟨rng.minimalPeriod_step, rng.existsUnique_output⟩⟩

/-- For ten values. -/
theorem generator_uniform_ten :
    (∀ rng : DeterministicRng, (rng.nextIndex 10).1 < 10 ∧
        (rng.nextIndex 10).1 = boundedIndex 10 rng.nextU64.1) ∧
      (∀ i < 10, {z | boundedIndex 10 z = i}.ncard = 2 ^ 64 / 10 ∨
        {z | boundedIndex 10 z = i}.ncard = 2 ^ 64 ⌈/⌉ 10) ∧
      (Function.Bijective fun state => (⟨state⟩ : DeterministicRng).finalize) ∧
      ∀ rng : DeterministicRng,
        Function.minimalPeriod (fun r : DeterministicRng => r.nextU64.2) rng = 2 ^ 64 ∧
          ∀ z, ∃! k, k < 2 ^ 64 ∧ rng.output k = z :=
  generator_uniform 10 (by decide)

end Statistics

end Networker
