/-
The multimodality detector (`networker-tester/src/stats_shape.rs`).

* `withoutTukeyOutliers`: the values inside the fences;
* `mvalueAtWidth`: the modal value of one histogram;
* `scan`: the largest modal value while the width doubles up to the range;
* `mvalue`: the modal value of a sample; the loop ends within the given number of steps, or
  there is no result;
* `mvalueWarning`: the text for a modal value.
-/
import Networker.Tester.Statistics

namespace Networker

open Data

namespace StatsShape

/-- `MVALUE_MIN_SAMPLES`. -/
def mvalueMinSamples : ℕ := 15

/-- `MVALUE_SEVERAL_MODES`. -/
def mvalueSeveralModes : Float := 2.8

/-- `MVALUE_BIMODAL`. -/
def mvalueBimodal : Float := 3.2

/-- `MVALUE_MULTIMODAL`. -/
def mvalueMultimodal : Float := 4.2

/-- `interpolated_quartile`. -/
def interpolatedQuartile (sorted : List Float) (q : Float) : Float :=
  if sorted.length = 1 then sorted.getD 0 0.0
  else
    let rank := q * Float.ofNat (sorted.length - 1)
    let lo := Float64.floorIndex rank
    let hi := Float64.ceilIndex rank
    sorted.getD lo 0.0 + (sorted.getD hi 0.0 - sorted.getD lo 0.0) * (rank - Float.ofNat lo)

/-- `without_tukey_outliers`. -/
def withoutTukeyOutliers (sorted : List Float) : List Float :=
  let q1 := interpolatedQuartile sorted 0.25
  let q3 := interpolatedQuartile sorted 0.75
  let iqr := q3 - q1
  let lo := q1 - 1.5 * iqr
  let hi := q3 + 1.5 * iqr
  match sorted.filter fun v => decide (lo ≤ v) && decide (v ≤ hi) with
  | [] => sorted
  | cleaned => cleaned

/-! ### One histogram -/

/-- The values that chain to one before them with gaps of at most a width, and the rest. -/
def chain (width x : Float) : List Float → List Float × List Float
  | [] => ([], [])
  | y :: ys =>
      if y - x ≤ width then
        let (cluster, rest) := chain width y ys
        (y :: cluster, rest)
      else ([], y :: ys)

/-- The heights of the bins of a cluster, which are anchored at its first value. -/
def binHeights (width lo last : Float) (cluster : List Float) : List ℕ :=
  let binCount := min (Float64.floorIndex ((last - lo) / width) + 1) 4096
  (List.range binCount).map fun i =>
    cluster.countP fun v => min (Float64.floorIndex ((v - lo) / width)) (binCount - 1) = i

/-- The empty bins in a gap. -/
def gapBins (width gap : Float) : List ℕ :=
  List.replicate (max 1 (min (Float64.floorIndex (gap / width)) 64)) 0

/-- The heights of the bins of at most `n` clusters. -/
def heightsFrom (width : Float) : ℕ → List Float → List ℕ
  | 0, _ => []
  | _, [] => []
  | n + 1, x :: xs =>
      let (cluster, rest) := chain width x xs
      let last := (x :: cluster).getLastD x
      binHeights width x last (x :: cluster) ++
        match rest with
        | [] => []
        | y :: ys => gapBins width (y - last) ++ heightsFrom width n (y :: ys)

/-- The sum of the steps between adjacent heights, with zero around them. -/
def variation (heights : List ℕ) : Float :=
  let (sum, prev) := heights.foldl (fun (acc : Float × Float) h =>
    (acc.1 + (Float.ofNat h - acc.2).abs, Float.ofNat h)) (0.0, 0.0)
  sum + prev

/-- `mvalue_at_width`. -/
def mvalueAtWidth (sorted : List Float) (width : Float) : Float :=
  let heights := heightsFrom width sorted.length sorted
  let maxHeight := Float.ofNat (heights.max?.getD 1)
  if maxHeight ≤ 0.0 then 2.0 else variation heights / maxHeight

/-! ### The scan -/

/-- The largest modal value while the width doubles, within a number of steps. -/
def scan (cleaned : List Float) (range : Float) : ℕ → Float → Float → Option Float
  | 0, _, _ => none
  | fuel + 1, width, best =>
      if width ≤ range then
        scan cleaned range fuel (width * 2.0)
          (Float64.fmax best (mvalueAtWidth cleaned width))
      else some best

/-- The width the scan starts with. -/
def startWidth (cleaned : List Float) (range : Float) : Float :=
  let n := Float.ofNat cleaned.length
  let mean := Float64.sum cleaned / n
  let variance := Float64.sum (cleaned.map fun v => Float64.powi (v - mean) 2) / n
  let scott := 3.49 * variance.sqrt / n.cbrt
  let width := if 0.0 < scott then scott * 0.75 else range
  let positiveGaps :=
    (cleaned.zipWith (fun a b => b - a) cleaned.tail).filter fun gap => decide (0.0 < gap)
  if 4 ≤ positiveGaps.length then
    let gaps := Float64.ascending positiveGaps
    Float64.fmax width (2.0 * gaps.getD (gaps.length / 2) 0.0)
  else width

/-- `mvalue` of the values inside the fences. -/
def mvalueOfCleaned (fuel : ℕ) (cleaned : List Float) : Option Float :=
  let range := cleaned.getLastD 0.0 - cleaned.headD 0.0
  if cleaned.length < 2 then some 2.0
  else if range ≤ 0.0 then some 2.0
  else
    (scan cleaned range fuel (startWidth cleaned range) 0.0).map fun best =>
      if best == 0.0 then mvalueAtWidth cleaned range else best

/-- `mvalue`. -/
def mvalue (fuel : ℕ) (values : List Float) : Option (Option Float) :=
  let finite := values.filter Float.isFinite
  if finite.length < mvalueMinSamples then some none
  else
    (mvalueOfCleaned fuel (withoutTukeyOutliers (Float64.ascending finite))).map some

/-- Few values have no modal value, and nothing is scanned. -/
lemma mvalue_of_few {fuel : ℕ} {values : List Float} (h : values.length < mvalueMinSamples) :
    mvalue fuel values = some none := by
  have hfinite := List.length_filter_le Float.isFinite values
  rw [mvalue, if_pos (by omega)]

/-- `mvalue_warning`. -/
def mvalueWarning (mvalue : Float) : Option String :=
  if mvalueMultimodal < mvalue then some
    ("Distribution is multimodal (mvalue = " ++ Float64.toFixed 2 mvalue ++
      ") — the summary statistics describe a mixture, not a behaviour; investigate the " ++
      "modes before quoting numbers")
  else if mvalueBimodal < mvalue then some
    ("Distribution is bimodal (mvalue = " ++ Float64.toFixed 2 mvalue ++
      ") — two distinct behaviours are mixed in this case (e.g. a per-connection stall or " ++
      "cache split)")
  else if mvalueSeveralModes < mvalue then some
    ("Distribution may have several modes (mvalue = " ++ Float64.toFixed 2 mvalue ++ ")")
  else none

end StatsShape

end Networker
