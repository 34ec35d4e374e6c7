/-
The orders a seed can put the cases of a matrix in
(`benchmarks/orchestrator/src/config.rs`, `shuffle_cases`).

* `swapsOf`: the swaps the generator picks, place by place; `shuffleLoop_eq`: the loop is the
  shuffle with these;
* `testMatrixWithSeed_perm`: every seed gives a permutation of the matrix;
* `swapsOf_parity`: two steps of the generator keep the lowest bit of its state, so the swaps at
  the places 1 and 3 have the same parity;
* `testMatrixWithSeed_ne_skew`: from four cases on, an order that no seed gives;
* `exists_seed_three`: for up to three cases, a seed for every order;
* `testMatrixWithSeed_orders`: when every order of a matrix is some seed's.
-/
import Networker.BenchOrchestrator.BenchmarkConfig
import Mathlib.Data.Nat.Factorial.Basic
import Mathlib.Logic.Function.Iterate
import Mathlib.Tactic.NormNum

namespace Networker

open Data

namespace BenchOrchestrator

open scoped Nat

/-! ### The swaps of a generator -/

/-- One step of the generator. -/
def MatrixRng.next (rng : MatrixRng) : MatrixRng := rng.nextU64.2

/-- The generator after a number of steps. -/
def MatrixRng.after (rng : MatrixRng) (k : ℕ) : MatrixRng := MatrixRng.next^[k] rng

lemma MatrixRng.after_zero (rng : MatrixRng) : rng.after 0 = rng := by
  rw [MatrixRng.after, Function.iterate_zero_apply]

lemma MatrixRng.after_succ (rng : MatrixRng) (k : ℕ) :
    rng.after (k + 1) = rng.next.after k := by
  rw [MatrixRng.after, Function.iterate_succ_apply, MatrixRng.after]

lemma MatrixRng.after_succ' (rng : MatrixRng) (k : ℕ) :
    rng.after (k + 1) = (rng.after k).next := by
  rw [MatrixRng.after, Function.iterate_succ_apply', MatrixRng.after]

/-- The place that the place `idx` is swapped with, in a loop that starts at the place `n`. -/
def swapsOf (rng : MatrixRng) (n idx : ℕ) : ℕ := (rng.after (n + 1 - idx)).state.toNat % (idx + 1)

lemma swapsOf_self (rng : MatrixRng) (n : ℕ) :
    swapsOf rng n n = rng.nextU64.1.toNat % (n + 1) := by
  have hk : n + 1 - n = 0 + 1 := by omega
  rw [swapsOf, hk, MatrixRng.after_succ, MatrixRng.after_zero, MatrixRng.next, MatrixRng.nextU64]

lemma swapsOf_succ {rng : MatrixRng} {n idx : ℕ} (hidx : idx ≤ n) :
    swapsOf rng (n + 1) idx = swapsOf rng.next n idx := by
  have hk : n + 1 + 1 - idx = n + 1 - idx + 1 := by omega
  rw [swapsOf, swapsOf, hk, MatrixRng.after_succ]

lemma swapsOf_chooses (rng : MatrixRng) (n : ℕ) : Chooses (swapsOf rng n) n := by
  intro idx _ _
  have h : swapsOf rng n idx < idx + 1 := Nat.mod_lt _ (Nat.succ_pos idx)
  omega

/-- The loop swaps as the generator says. -/
lemma shuffleLoop_eq (rng : MatrixRng) (n : ℕ) (cases : List TestCase) :
    shuffleLoop n rng cases = shuffle (swapsOf rng n) n cases := by
  induction n generalizing rng cases with
  | zero => rfl
  | succ n ih =>
      have hrest : ∀ idx, 0 < idx → idx ≤ n → swapsOf rng.next n idx = swapsOf rng (n + 1) idx :=
        fun idx _ hidx => (swapsOf_succ hidx).symm
      rw [shuffle, swapsOf_self, ← shuffle_congr hrest]
      exact ih rng.next _

/-- The generator that a seed starts for a matrix. -/
def rngOf (seed : UInt64) (n : ℕ) : MatrixRng := MatrixRng.new (seed ^^^ UInt64.ofNat n)

lemma shuffleCases_eq {cases : List TestCase} (hlen : 0 < cases.length) (seed : UInt64) :
    shuffleCases cases seed =
      shuffle (swapsOf (rngOf seed cases.length) (cases.length - 1)) (cases.length - 1) cases := by
  rw [shuffleCases]
  split
  · rw [show cases.length - 1 = 0 by omega]
    rfl
  · exact shuffleLoop_eq _ _ _

/-- **Every seed gives a permutation of the matrix.** -/
lemma testMatrixWithSeed_perm (cfg : BenchmarkConfig) (seed : UInt64) :
    (cfg.testMatrixWithSeed (some seed)).Perm cfg.testMatrix := by
  rcases Nat.eq_zero_or_pos cfg.cases.length with hnil | hpos
  · rw [List.length_eq_zero_iff] at hnil
    rw [BenchmarkConfig.testMatrix, BenchmarkConfig.testMatrixWithSeed,
      BenchmarkConfig.testMatrixWithSeed, hnil]
    exact List.Perm.refl []
  · rw [BenchmarkConfig.testMatrixWithSeed, shuffleCases_eq hpos]
    exact shuffle_perm (swapsOf_chooses _ _) (by omega)

/-! ### An order that no seed gives -/

/-- A step of the generator changes the lowest bit of its state. -/
lemma next_mod_two (rng : MatrixRng) :
    rng.next.state.toNat % 2 = (rng.state.toNat + 1) % 2 := by
  have hstate : rng.next.state = rng.state * 6364136223846793005 + 1442695040888963407 := by
    rw [MatrixRng.next, MatrixRng.nextU64]
  rw [hstate]
  simp only [UInt64.toNat_add, UInt64.toNat_mul, UInt64.reduceToNat]
  omega

/-- The swaps at the places 1 and 3 are of the same parity: two steps apart, the states have the
same lowest bit. -/
lemma swapsOf_parity (rng : MatrixRng) {n : ℕ} (hn : 3 ≤ n) :
    swapsOf rng n 1 % 2 = swapsOf rng n 3 % 2 := by
  have hk : n + 1 - 1 = n + 1 - 3 + 1 + 1 := by omega
  have h₁ := next_mod_two (rng.after (n + 1 - 3))
  have h₂ := next_mod_two (rng.after (n + 1 - 3)).next
  rw [swapsOf, swapsOf, hk, MatrixRng.after_succ', MatrixRng.after_succ']
  omega

/-- The first places of the matrix change, the place 1 with itself. -/
def skew (idx : ℕ) : ℕ := if idx = 1 then 1 else 0

lemma skew_chooses (n : ℕ) : Chooses skew n := by
  intro idx hpos _
  rw [skew]
  split_ifs <;> omega

/-- **From four cases on there is an order that no seed gives.** -/
lemma testMatrixWithSeed_ne_skew {cfg : BenchmarkConfig} (hdistinct : cfg.testMatrix.Nodup)
    (hlen : 4 ≤ cfg.testMatrix.length) (seed : UInt64) :
    cfg.testMatrixWithSeed (some seed) ≠
      shuffle skew (cfg.testMatrix.length - 1) cfg.testMatrix := by
  have hcases : cfg.testMatrix = cfg.cases := rfl
  rw [hcases] at hdistinct hlen ⊢
  intro heq
  rw [BenchmarkConfig.testMatrixWithSeed, shuffleCases_eq (by omega)] at heq
  have hsame := shuffle_injective hdistinct (by omega) (swapsOf_chooses _ _)
    (skew_chooses _) heq
  have hparity := swapsOf_parity (rngOf seed cfg.cases.length)
    (n := cfg.cases.length - 1) (by omega)
  rw [hsame 1 (by omega) (by omega), hsame 3 (by omega) (by omega)] at hparity
  exact absurd hparity (by decide)

/-! ### A seed for every order of few cases -/

/-- For up to three cases there is a seed for all swaps. -/
lemma exists_seed_three {n : ℕ} (hn : n ≤ 2) {choose : ℕ → ℕ} (hchoose : Chooses choose n) :
    ∃ seed, ∀ idx, 0 < idx → idx ≤ n → swapsOf (rngOf seed (n + 1)) n idx = choose idx := by
  have htwo : ∀ j < 2, ∃ seed ∈ ([0, 1] : List UInt64), swapsOf (rngOf seed 2) 1 1 = j := by
    decide
  have hthree : ∀ j < 3, ∀ k < 2, ∃ seed ∈ ([0, 1, 2, 3, 5, 7] : List UInt64),
      swapsOf (rngOf seed 3) 2 2 = j ∧ swapsOf (rngOf seed 3) 2 1 = k := by
    decide
  obtain rfl | rfl | rfl : n = 0 ∨ n = 1 ∨ n = 2 := by omega
  · exact ⟨0, fun idx hpos hidx => absurd hpos (by omega)⟩
  · have hone := hchoose 1 (by omega) (by omega)
    obtain ⟨seed, -, hseed⟩ := htwo (choose 1) (by omega)
    refine ⟨seed, fun idx hpos hidx => ?_⟩
    obtain rfl : idx = 1 := by omega
    exact hseed
  · have hone := hchoose 1 (by omega) (by omega)
    have htop := hchoose 2 (by omega) (by omega)
    obtain ⟨seed, -, hlast, hfirst⟩ := hthree (choose 2) (by omega) (choose 1) (by omega)
    refine ⟨seed, fun idx hpos hidx => ?_⟩
    obtain rfl | rfl : idx = 1 ∨ idx = 2 := by omega
    · exact hfirst
    · exact hlast

lemma exists_seed {cfg : BenchmarkConfig} (hdistinct : cfg.testMatrix.Nodup)
    (hlen : cfg.testMatrix.length ≤ 3) {order : List TestCase} (hperm : order.Perm cfg.testMatrix) :
    ∃ seed, cfg.testMatrixWithSeed (some seed) = order := by
  have hcases : cfg.testMatrix = cfg.cases := rfl
  rw [hcases] at hdistinct hlen hperm
  rcases Nat.eq_zero_or_pos cfg.cases.length with hnil | hpos
  · rw [List.length_eq_zero_iff] at hnil
    refine ⟨0, ?_⟩
    rw [hnil, List.perm_nil] at hperm
    rw [BenchmarkConfig.testMatrixWithSeed, hnil, hperm]
    rfl
  · obtain ⟨choose, hchoose, horder⟩ := exists_shuffle_eq (n := cfg.cases.length - 1) hdistinct
      hperm (by omega) fun k hk => by
        have hlength := hperm.length_eq
        rw [List.getElem?_eq_none (by omega), List.getElem?_eq_none (by omega)]
    obtain ⟨seed, hseed⟩ := exists_seed_three (by omega) hchoose
    rw [show cfg.cases.length - 1 + 1 = cfg.cases.length by omega] at hseed
    refine ⟨seed, ?_⟩
    rw [BenchmarkConfig.testMatrixWithSeed, shuffleCases_eq hpos, shuffle_congr hseed, horder]

lemma factorial_le_iff (n : ℕ) : n ! ≤ 2 ^ 64 ↔ n ≤ 20 := by
  have h20 : 20 ! ≤ 2 ^ 64 := by decide
  have h21 : 2 ^ 64 < 21 ! := by decide
  refine ⟨fun h => ?_, fun h => (Nat.factorial_le h).trans h20⟩
  by_contra hgt
  have hle := Nat.factorial_le (show 21 ≤ n by omega)
  omega

/-- **When the order of a matrix can be any**: every seed gives a permutation of the matrix, and,
where there are enough seeds, every permutation is some seed's, exactly for up to three cases and
where there are not enough seeds. -/
theorem testMatrixWithSeed_orders (cfg : BenchmarkConfig) (hdistinct : cfg.testMatrix.Nodup) :
    ((∀ seed, (cfg.testMatrixWithSeed (some seed)).Perm cfg.testMatrix) ∧
        (cfg.testMatrix.length ! ≤ 2 ^ 64 → ∀ order : List TestCase, order.Perm cfg.testMatrix →
          ∃ seed, cfg.testMatrixWithSeed (some seed) = order)) ↔
      cfg.testMatrix.length ≤ 3 ∨ 21 ≤ cfg.testMatrix.length := by
  refine ⟨fun h => ?_, fun h => ⟨testMatrixWithSeed_perm cfg, fun hfew order hperm => ?_⟩⟩
  · by_contra hbetween
    push Not at hbetween
    have hperm := shuffle_perm (l := cfg.testMatrix) (skew_chooses _)
      (show cfg.testMatrix.length - 1 < cfg.testMatrix.length by omega)
    obtain ⟨seed, hseed⟩ := h.2 ((factorial_le_iff _).mpr (by omega)) _ hperm
    exact testMatrixWithSeed_ne_skew hdistinct (by omega) seed hseed
  · have hlen := (factorial_le_iff _).mp hfew
    exact exists_seed hdistinct (by omega) hperm

/-! ### Four levels of one language -/

/-- The levels of one language, each run once. -/
def levelsOf (levels : List ℕ) : BenchmarkConfig where
  concurrencyLevels := levels
  «repeat» := 1
  languages :=
    [{ name := "rust", runtime := "axum", path := "implementations/rust-axum",
       buildCmd := "cargo build --release", runCmd := "./target/release/api", port := 3001,
       dockerImage := none }]

lemma levelsOf_nodup {levels : List ℕ} (h : levels.Nodup) : (levelsOf levels).testMatrix.Nodup := by
  have hmap : (levelsOf levels).testMatrix.map TestCase.concurrency = levels := by
    simp [BenchmarkConfig.testMatrix, BenchmarkConfig.testMatrixWithSeed, BenchmarkConfig.cases,
      levelsOf, List.map_flatMap]
  refine List.Nodup.of_map TestCase.concurrency ?_
  rw [hmap]
  exact h

/-- Three levels can be run in every order. -/
theorem testMatrixWithSeed_orders_three :
    (levelsOf [1, 10, 100]).testMatrix.Nodup ∧
      (((∀ seed, ((levelsOf [1, 10, 100]).testMatrixWithSeed (some seed)).Perm
            (levelsOf [1, 10, 100]).testMatrix) ∧
          ((levelsOf [1, 10, 100]).testMatrix.length ! ≤ 2 ^ 64 →
            ∀ order : List TestCase, order.Perm (levelsOf [1, 10, 100]).testMatrix →
              ∃ seed, (levelsOf [1, 10, 100]).testMatrixWithSeed (some seed) = order)) ↔
        (levelsOf [1, 10, 100]).testMatrix.length ≤ 3 ∨
          21 ≤ (levelsOf [1, 10, 100]).testMatrix.length) :=
  ⟨levelsOf_nodup (by decide),
    testMatrixWithSeed_orders (levelsOf [1, 10, 100]) (levelsOf_nodup (by decide))⟩

/-- Four levels are never run in the order 3, 2, 4, 1. -/
theorem testMatrixWithSeed_misses_order :
    (levelsOf [1, 2, 3, 4]).testMatrix.Nodup ∧
      (levelsOf [1, 2, 3, 4]).testMatrix.length ! ≤ 2 ^ 64 ∧
      (levelsOf [3, 2, 4, 1]).testMatrix.Perm (levelsOf [1, 2, 3, 4]).testMatrix ∧
      ∀ seed, (levelsOf [1, 2, 3, 4]).testMatrixWithSeed (some seed) ≠
        (levelsOf [3, 2, 4, 1]).testMatrix := by
  have horder : shuffle skew 3 (levelsOf [1, 2, 3, 4]).testMatrix =
      (levelsOf [3, 2, 4, 1]).testMatrix := rfl
  have hdistinct : (levelsOf [1, 2, 3, 4]).testMatrix.Nodup := levelsOf_nodup (by decide)
  refine ⟨hdistinct, (factorial_le_iff _).mpr (by decide), ?_, fun seed => ?_⟩
  · rw [← horder]
    exact shuffle_perm (skew_chooses 3) (by decide)
  · rw [← horder]
    exact testMatrixWithSeed_ne_skew hdistinct (by decide) seed

end BenchOrchestrator

end Networker
