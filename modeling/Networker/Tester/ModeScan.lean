/-
Where the scan for modes ends.

* `Unbounded`: the values inside the fences are further apart than any finite number;
* `scan_isSome`: a scan from a positive width ends below an unbounded range;
* `scan_eq_none`: a scan up to an unbounded range does not end;
* `startWidth_pos`: the scan starts with a positive width;
* `mvalue_isSome`, `mvalue_eq_none`: what follows for a sample.
-/
import Networker.Data.FloatDoubling
import Networker.Tester.StatsShape

namespace Networker

open Data

namespace StatsShape

/-- The values that are scanned. -/
def cleanedOf (values : List Float) : List Float :=
  withoutTukeyOutliers (Float64.ascending (values.filter Float.isFinite))

/-- The distance from the first value to the last. -/
def spread (cleaned : List Float) : Float := cleaned.getLastD 0.0 - cleaned.headD 0.0

/-- The values inside the fences are further apart than any finite number. -/
def Unbounded (values : List Float) : Prop :=
  mvalueMinSamples ≤ (values.filter Float.isFinite).length ∧
    (spread (cleanedOf values)).isInf = true ∧ 0.0 < spread (cleanedOf values)

/-- The widths of a scan: every doubling from the least positive number to infinity. -/
def widths : ℕ := 2099

section Scan

variable {cleaned : List Float} {range width best : Float} {fuel : ℕ}

lemma pos_mul_two (h : 0.0 < width) : 0.0 < width * 2.0 :=
  have htwo : (2.0 : Float).toModel.unpack = .finite .positive (2 ^ 52) (-51) (by positivity) := rfl
  Float64.pos_mul h htwo (by norm_num) (by decide)

lemma pos_mul_three_quarters (h : 0.0 < width) : 0.0 < width * 0.75 :=
  have hfactor : (0.75 : Float).toModel.unpack =
      .finite .positive (3 * 2 ^ 51) (-53) (by positivity) := rfl
  Float64.pos_mul h hfactor (by norm_num) (by decide)

/-- A scan from a positive width ends below an unbounded range. -/
lemma scan_isSome (hrange : range.toModel.unpack ≠ .infinity .positive) (hwidth : 0.0 < width)
    (hfuel : 1024 < Float64.scale width.toModel.unpack + fuel) :
    (scan cleaned range fuel width best).isSome := by
  have hpositive := Float64.pos_iff.mp hwidth
  have hbound {w : Float} (hw : 0.0 < w) (h : 1024 ≤ Float64.scale w.toModel.unpack) :
      w.toModel.unpack = .infinity .positive :=
    Float64.eq_infinity_of_scale (Float64.pos_iff.mp hw) (Float64.shape_toModel w).1
      (Float64.shape_toModel w).2 h
  induction fuel generalizing width best with
  | zero =>
      have hinfinite := hbound hwidth (by omega)
      have hscale : Float64.scale (.infinity .positive) = 1024 := rfl
      rw [hinfinite, hscale] at hfuel
      omega
  | succ fuel ih =>
      rw [scan]
      by_cases hle : width ≤ range
      · have hfinite : Float64.scale width.toModel.unpack < 1024 := by
          by_contra hnot
          exact Float64.not_infinity_le (hbound hwidth (by omega)) hrange hle
        have hdoubled := Float64.scale_mul_two hwidth
        rw [if_pos hle]
        refine ih (pos_mul_two hwidth) ?_ (Float64.pos_iff.mp (pos_mul_two hwidth))
        omega
      · rw [if_neg hle]
        rfl

/-- A scan up to an unbounded range does not end. -/
lemma scan_eq_none (hrange : range.toModel.unpack = .infinity .positive) (hwidth : 0.0 < width) :
    scan cleaned range fuel width best = none := by
  induction fuel generalizing width best with
  | zero => rfl
  | succ fuel ih =>
      rw [scan, if_pos (Float64.le_infinity hwidth hrange)]
      exact ih (pos_mul_two hwidth)

variable (cleaned) in
/-- The scan starts with a positive width. -/
lemma startWidth_pos (hrange : 0.0 < range) : 0.0 < startWidth cleaned range := by
  have hfirst : ∀ scott : Float, 0.0 < (if 0.0 < scott then scott * 0.75 else range) := by
    intro scott
    split
    · next h => exact pos_mul_three_quarters h
    · exact hrange
  have hlarger : ∀ {a : Float} (b : Float), 0.0 < a → 0.0 < Float64.fmax a b := by
    intro a b ha
    have hnan : a.isNaN = false := Float64.isNaN_of_pos ha
    rw [Float64.fmax, hnan, Bool.false_or]
    split
    · next h => exact Float64.pos_of_pos_of_lt ha (of_decide_eq_true h)
    · exact ha
  rw [startWidth]
  dsimp only
  split
  · exact hlarger _ (hfirst _)
  · exact hfirst _

end Scan

section Sample

variable {values : List Float}

lemma mvalue_eq (fuel : ℕ) (h : mvalueMinSamples ≤ (values.filter Float.isFinite).length) :
    mvalue fuel values = (mvalueOfCleaned fuel (cleanedOf values)).map some := by
  rw [mvalue, if_neg (by omega)]
  rfl

/-- A sample has a modal value, or too few values for one, unless it is unbounded. -/
lemma mvalue_isSome (h : ¬ Unbounded values) : (mvalue widths values).isSome := by
  by_cases hfew : mvalueMinSamples ≤ (values.filter Float.isFinite).length
  · have hfinite : (spread (cleanedOf values)).toModel.unpack ≠ .infinity .positive :=
      fun hinfinite => h ⟨hfew, Float64.infinite_iff.mpr hinfinite⟩
    rw [mvalue_eq _ hfew, Option.isSome_map, mvalueOfCleaned]
    generalize cleanedOf values = cleaned at *
    show (if cleaned.length < 2 then some 2.0 else if spread cleaned ≤ 0.0 then some 2.0 else
      (scan cleaned (spread cleaned) widths (startWidth cleaned (spread cleaned)) 0.0).map
        _).isSome
    split_ifs with _ hle
    · rfl
    · rfl
    · rw [Option.isSome_map]
      rcases Float64.pos_or_nan_of_not_le hle with hpos | hnan
      · have hstart := startWidth_pos cleaned hpos
        have hscale := Float64.le_scale (Float64.shape_toModel
          (startWidth cleaned (spread cleaned))).1
        exact scan_isSome hfinite hstart (by rw [widths]; omega)
      -- no width is below a range that is not a number
      · rw [widths, scan, if_neg (Float64.not_le_nan hnan)]
        rfl
  · rw [mvalue, if_pos (by omega)]
    rfl

/-- The scan of an unbounded sample does not end. -/
lemma mvalue_eq_none (h : Unbounded values) (htwo : 2 ≤ (cleanedOf values).length) (fuel : ℕ) :
    mvalue fuel values = none := by
  obtain ⟨hfew, hspread⟩ := h
  have hinfinite := Float64.infinite_iff.mp hspread
  rw [mvalue_eq fuel hfew, mvalueOfCleaned]
  generalize cleanedOf values = cleaned at *
  show (if cleaned.length < 2 then some 2.0 else if spread cleaned ≤ 0.0 then some 2.0 else
    (scan cleaned (spread cleaned) fuel (startWidth cleaned (spread cleaned)) 0.0).map
      _).map some = none
  have hzero : (0.0 : Float).toModel.unpack = .zero .positive := rfl
  rw [if_neg (by omega), if_neg (Float64.not_infinity_le hinfinite (by rw [hzero]; nofun)),
    scan_eq_none hinfinite (startWidth_pos cleaned hspread.2)]
  rfl

end Sample

end StatsShape

end Networker
