/-
The statistics of the tester (`stats_rng.rs`, and what `benchmark.rs` and `output/json.rs`
both compute).

* `DeterministicRng`: the generator that is seeded with the values themselves;
* `percentileFromSorted`, `medianFromSorted`: order statistics of sorted values;
* `bootstrapMedianInterval`: the percentile bootstrap interval around the median.
-/
import Mathlib.Data.List.GetD
import Networker.Tester.Attempt

namespace Networker

open Data

namespace Statistics

/-! ### The generator -/

/-- `DeterministicRng`. -/
structure DeterministicRng where
  state : UInt64

namespace DeterministicRng

/-- Rotated to the left by 13 bits. -/
def rotateLeft13 (x : UInt64) : UInt64 := (x <<< 13) ||| (x >>> 51)

/-- One value mixed into the seed. -/
def mix (state : UInt64) (value : Float) : UInt64 :=
  rotateLeft13 (state ^^^ value.toBits * 0xbf58476d1ce4e5b9)

/-- `from_values`. -/
def fromValues (values : List Float) : DeterministicRng :=
  let state := values.foldl mix (0x9e3779b97f4a7c15 ^^^ UInt64.ofNat values.length)
  ⟨if state = 0 then 0x94d049bb133111eb else state⟩

/-- The state after a step. -/
def step (rng : DeterministicRng) : DeterministicRng :=
  ⟨rng.state * 6364136223846793005 + 1442695040888963407⟩

/-- The finalizer of a state. -/
def finalize (rng : DeterministicRng) : UInt64 :=
  let z := rng.state
  let z := (z ^^^ (z >>> 30)) * 0xbf58476d1ce4e5b9
  let z := (z ^^^ (z >>> 27)) * 0x94d049bb133111eb
  z ^^^ (z >>> 31)

/-- `next_u64`. -/
def nextU64 (rng : DeterministicRng) : UInt64 × DeterministicRng := (rng.step.finalize, rng.step)

/-- `next_index`. -/
def nextIndex (rng : DeterministicRng) (upper : ℕ) : ℕ × DeterministicRng :=
  if upper = 0 then (0, rng)
  else
    let (z, rng) := rng.nextU64
    (z.toNat * upper / 2 ^ 64, rng)

end DeterministicRng

/-! ### Order statistics -/

/-- `median_from_sorted`. -/
def medianFromSorted (sorted : List Float) : Float :=
  if sorted.isEmpty then 0.0
  else if sorted.length % 2 = 0 then
    let upper := sorted.length / 2
    (sorted.getD (upper - 1) 0.0 + sorted.getD upper 0.0) / 2.0
  else sorted.getD (sorted.length / 2) 0.0

/-- A value at a rank, between the two values next to it. -/
def interpolate (sorted : List Float) (rank : Float) : Float :=
  let lo := Float64.floorIndex rank
  let hi := Float64.ceilIndex rank
  if lo = hi then sorted.getD lo 0.0
  else
    sorted.getD lo 0.0 +
      (sorted.getD hi 0.0 - sorted.getD lo 0.0) * (rank - Float.ofNat lo)

/-- `percentile_from_sorted`. -/
def percentileFromSorted (sorted : List Float) (percentile : Float) : Float :=
  if sorted.isEmpty then 0.0
  else if sorted.length = 1 then sorted.getD 0 0.0
  else interpolate sorted (percentile / 100.0 * Float.ofNat (sorted.length - 1))

/-! ### The bootstrap -/

/-- A sample of `n` values drawn with replacement. -/
def draw (values : List Float) : ℕ → DeterministicRng → List Float × DeterministicRng
  | 0, rng => ([], rng)
  | n + 1, rng =>
      let (i, rng) := rng.nextIndex values.length
      let (sample, rng) := draw values n rng
      (values.getD i 0.0 :: sample, rng)

/-- The medians of a number of samples. -/
def estimatesFrom (values : List Float) : ℕ → DeterministicRng → List Float
  | 0, _ => []
  | n + 1, rng =>
      let (sample, rng) := draw values values.length rng
      medianFromSorted (Float64.ascending sample) :: estimatesFrom values n rng

/-- The mean of values. -/
def meanOf (values : List Float) : Float := Float64.sum values / Float.ofNat values.length

/-- The variance of values around a mean, for all but one degree of freedom. -/
def varianceOf (mean : Float) (values : List Float) : Float :=
  Float64.sum (values.map fun value => Float64.powi (value - mean) 2) /
    (Float.ofNat values.length - 1.0)

/-- `bootstrap_median_interval`, with the number of samples and the confidence level. -/
def bootstrapMedianInterval (resamples : ℕ) (confidence : Float) (values : List Float) :
    Float × Float × Float :=
  match values with
  | [] => (0.0, 0.0, 0.0)
  | [value] => (0.0, value, value)
  | values =>
      let estimates :=
        Float64.ascending
          (estimatesFrom values resamples (DeterministicRng.fromValues values))
      let standardError := (varianceOf (meanOf estimates) estimates).sqrt
      let tail := (1.0 - confidence) * 50.0
      (standardError, percentileFromSorted estimates tail,
        percentileFromSorted estimates (100.0 - tail))

/-! ### Equal values -/

section Equal

variable {v : Float} {n k : ℕ} {rng : DeterministicRng}

variable (rng) in
/-- An index is below its bound. -/
lemma nextIndex_lt (hn : 0 < n) : (rng.nextIndex n).1 < n := by
  rw [DeterministicRng.nextIndex, if_neg hn.ne']
  have hz : rng.nextU64.1.toNat < 2 ^ 64 := UInt64.toNat_lt _
  exact (Nat.div_lt_iff_lt_mul (by decide)).mpr ((Nat.mul_lt_mul_right hn).mpr hz |>.trans_eq
    (Nat.mul_comm _ _))

lemma getD_replicate (h : k < n) : (List.replicate n v).getD k 0.0 = v := by
  rw [List.getD_eq_getElem _ _ (by simpa using h), List.getElem_replicate]

lemma draw_replicate (hn : 0 < n) :
    (draw (List.replicate n v) k rng).1 = List.replicate k v := by
  induction k generalizing rng with
  | zero => rfl
  | succ k ih =>
      have hlt := nextIndex_lt rng hn
      simp only [draw, List.length_replicate]
      rw [getD_replicate hlt, ih, List.replicate_succ]

/-- The median of equal values. -/
lemma medianFromSorted_replicate (hn : 0 < n) (hv : (v + v) / 2.0 = v) :
    medianFromSorted (List.replicate n v) = v := by
  have hempty : (List.replicate n v).isEmpty = false := by
    simpa [List.isEmpty_replicate] using hn.ne'
  rw [medianFromSorted, hempty, List.length_replicate]
  simp only [Bool.false_eq_true, if_false]
  split
  · rw [getD_replicate (by omega), getD_replicate (by omega), hv]
  · rw [getD_replicate (by omega)]

/-- The samples of equal values have the same median. -/
lemma estimatesFrom_replicate (hn : 0 < n) (hv : (v + v) / 2.0 = v) :
    estimatesFrom (List.replicate n v) k rng = List.replicate k v := by
  induction k generalizing rng with
  | zero => rfl
  | succ k ih =>
      simp only [estimatesFrom, List.length_replicate]
      rw [draw_replicate hn, Float64.ascending_replicate, medianFromSorted_replicate hn hv, ih,
        List.replicate_succ]

/-- A percentile of equal values. -/
lemma percentileFromSorted_replicate {percentile rank : Float} (hn : 1 < n)
    (hrank : percentile / 100.0 * Float.ofNat (n - 1) = rank)
    (hlo : Float64.floorIndex rank < n) (hhi : Float64.ceilIndex rank < n)
    (hv : v + (v - v) * (rank - Float.ofNat (Float64.floorIndex rank)) = v) :
    percentileFromSorted (List.replicate n v) percentile = v := by
  have hempty : (List.replicate n v).isEmpty = false := by
    simpa [List.isEmpty_replicate] using (Nat.zero_lt_of_lt hn).ne'
  rw [percentileFromSorted, hempty, List.length_replicate, if_neg hn.ne', hrank]
  simp only [Bool.false_eq_true, if_false, interpolate]
  rw [getD_replicate hlo, getD_replicate hhi, hv, ite_self]

/-- A number that halving its double and interpolating between it and itself give back. -/
structure Flat (resamples : ℕ) (confidence v : Float) : Prop where
  double : (v + v) / 2.0 = v
  lower : percentileFromSorted (List.replicate resamples v) ((1.0 - confidence) * 50.0) = v
  upper :
    percentileFromSorted (List.replicate resamples v) (100.0 - (1.0 - confidence) * 50.0) = v

/-- The interval around the median of equal values. -/
lemma bootstrapMedianInterval_replicate {resamples : ℕ} {confidence : Float} (hn : 1 < n)
    (hv : Flat resamples confidence v) :
    (bootstrapMedianInterval resamples confidence (List.replicate n v)).2 = (v, v) := by
  obtain ⟨m, rfl⟩ := Nat.exists_eq_add_of_le' hn
  have hestimates : Float64.ascending (estimatesFrom (List.replicate (m + 2) v) resamples
      (DeterministicRng.fromValues (List.replicate (m + 2) v))) = List.replicate resamples v := by
    rw [estimatesFrom_replicate (by omega) hv.double, Float64.ascending_replicate]
  rw [List.replicate_succ, List.replicate_succ] at hestimates ⊢
  simp only [bootstrapMedianInterval]
  rw [hestimates, hv.lower, hv.upper]

end Equal

end Statistics

end Networker
