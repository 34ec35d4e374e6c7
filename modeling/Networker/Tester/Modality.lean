/-
The histogram of the multimodality detector (`mvalue_at_width` of
`networker-tester/src/stats_shape.rs`), over any numbers.

* `chain`, `slot`, `increment`, `clusterCounts`, `gapBins`, `heights`: the function's two loops,
  with `none` for an index out of range;
* `heights_float`: over floats these are the heights of `StatsShape.mvalueAtWidth`, and no index
  is out of range;
* `heights_spec`: every value is counted once;
* `heights_congr`: heights depend on differences and ratios only;
* `asUsize`, `variation`, `mvalueAtWidth`: the modal value in exact arithmetic;
* `slot_eq_iff`: which values a bin holds;
* `mvalueAtWidth_measures`: what the modal value says about the heights.
-/
import Networker.Data.Unimodal
import Networker.Tester.StatsShape
import Mathlib.Data.Rat.Floor
import Mathlib.Algebra.Order.Floor.Ring

namespace Networker

open Data

namespace Modality

section Clusters

variable {K : Type} [Sub K] [LE K] [DecidableLE K] (width : K)

/-- The values that chain to one before them with gaps of at most the width, and the rest. -/
def chain (x : K) : List K → List K × List K
  | [] => ([], [])
  | y :: ys =>
      if y - x ≤ width then (y :: (chain y ys).1, (chain y ys).2)
      else ([], y :: ys)

variable {width}

variable (width) in
lemma length_chain (x : K) (xs : List K) :
    (chain width x xs).1.length + (chain width x xs).2.length = xs.length := by
  induction xs generalizing x with
  | nil => rfl
  | cons y ys ih =>
      rw [chain]
      split
      · dsimp only [List.length_cons]
        have h := ih y
        omega
      · exact Nat.zero_add _

end Clusters

/-! ### Every value of a cluster is counted once -/

section Bins

variable {K : Type} [Sub K] [Div K] (toIndex : K → ℕ) (width : K)

/-- The bin of a value, in a cluster that starts at `lo`. -/
def slot (binCount : ℕ) (lo v : K) : ℕ := min (toIndex ((v - lo) / width)) (binCount - 1)

/-- `counts[idx] += 1`. -/
def increment (counts : List ℕ) (idx : ℕ) : Option (List ℕ) :=
  if idx < counts.length then some (counts.modify idx (· + 1)) else none

/-- The loop over the values of a cluster. -/
def fill (binCount : ℕ) (lo : K) : List K → List ℕ → Option (List ℕ)
  | [], counts => some counts
  | v :: vs, counts =>
      (increment counts (slot toIndex width binCount lo v)).bind (fill binCount lo vs)

/-- `bin_count`. -/
def binCount (lo last : K) : ℕ := min (toIndex ((last - lo) / width) + 1) 4096

/-- The counts of the bins of a cluster, which are anchored at its first value. -/
def clusterCounts (lo last : K) (cluster : List K) : Option (List ℕ) :=
  fill toIndex width (binCount toIndex width lo last) lo cluster
    (List.replicate (binCount toIndex width lo last) 0)

/-- The empty bins in a gap. -/
def gapBins (gap : K) : List ℕ := List.replicate (max 1 (min (toIndex (gap / width)) 64)) 0

variable {toIndex width}

lemma sum_modify_succ {counts : List ℕ} {idx : ℕ} (h : idx < counts.length) :
    (counts.modify idx (· + 1)).sum = counts.sum + 1 := by
  induction counts generalizing idx with
  | nil => exact absurd h (Nat.not_lt_zero idx)
  | cons c counts ih =>
      cases idx with
      | zero =>
          rw [List.modify_zero_cons, List.sum_cons, List.sum_cons]
          omega
      | succ idx =>
          rw [List.modify_succ_cons, List.sum_cons, List.sum_cons, ih (Nat.lt_of_succ_lt_succ h)]
          omega

lemma slot_lt {n : ℕ} {lo v : K} (hn : 0 < n) : slot toIndex width n lo v < n := by
  rw [slot]
  omega

lemma binCount_pos {lo last : K} : 0 < binCount toIndex width lo last := by
  rw [binCount]
  omega

variable (toIndex width) in
/-- No value falls out of range, and each raises one count by one. -/
lemma fill_spec {n : ℕ} (lo : K) (vs : List K) {counts : List ℕ} (hn : 0 < n)
    (hcounts : counts.length = n) :
    ∃ filled, fill toIndex width n lo vs counts = some filled ∧
      filled.sum = counts.sum + vs.length := by
  induction vs generalizing counts with
  | nil => exact ⟨counts, rfl, rfl⟩
  | cons v vs ih =>
      have hidx : slot toIndex width n lo v < counts.length := by
        rw [hcounts]
        exact slot_lt hn
      have hlen : (counts.modify (slot toIndex width n lo v) (· + 1)).length = n := by
        rw [List.length_modify, hcounts]
      obtain ⟨filled, hfill, hsum⟩ := ih hlen
      refine ⟨filled, ?_, ?_⟩
      · rw [fill, increment, if_pos hidx, Option.bind_some, hfill]
      · rw [hsum, sum_modify_succ hidx, List.length_cons]
        omega

variable (toIndex width) in
lemma clusterCounts_spec (lo last : K) (cluster : List K) :
    ∃ counts, clusterCounts toIndex width lo last cluster = some counts ∧
      counts.sum = cluster.length := by
  obtain ⟨filled, hfill, hsum⟩ := fill_spec toIndex width lo cluster binCount_pos
    (List.length_replicate (n := binCount toIndex width lo last) (a := 0))
  refine ⟨filled, hfill, ?_⟩
  rw [hsum, List.sum_replicate, smul_zero, Nat.zero_add]

omit [Sub K] in
lemma sum_gapBins {gap : K} : (gapBins toIndex width gap).sum = 0 := by
  rw [gapBins, List.sum_replicate, smul_zero]

end Bins

/-! ### Every value is counted once -/

section Histogram

variable {K : Type} [Sub K] [Div K] [LE K] [DecidableLE K] (toIndex : K → ℕ) (width : K)

/-- The heights of the bins, cluster after cluster. -/
def heights : List K → Option (List ℕ)
  | [] => some []
  | x :: xs =>
      let cluster := x :: (chain width x xs).1
      let last := cluster.getLastD x
      match _hrest : (chain width x xs).2 with
      | [] => clusterCounts toIndex width x last cluster
      | y :: ys => do
          let counts ← clusterCounts toIndex width x last cluster
          let tail ← heights (y :: ys)
          return counts ++ gapBins toIndex width (y - last) ++ tail
termination_by l => l.length
decreasing_by
  have h := length_chain width x xs
  rw [_hrest] at h
  rw [List.length_cons (a := x)]
  omega

variable {toIndex width}

variable (toIndex) in
/-- The bins of the last cluster. -/
lemma heights_last {x : K} {xs : List K} (hrest : (chain width x xs).2 = []) :
    heights toIndex width (x :: xs) = clusterCounts toIndex width x
      ((x :: (chain width x xs).1).getLastD x) (x :: (chain width x xs).1) := by
  rw [heights]
  split
  · rfl
  · rename_i hcons
    exact absurd (hrest.symm.trans hcons) (by simp)

variable (toIndex) in
/-- The bins of a cluster, of the gap behind it and of the clusters behind the gap. -/
lemma heights_next {x y : K} {xs ys : List K} (hrest : (chain width x xs).2 = y :: ys) :
    heights toIndex width (x :: xs) =
      (clusterCounts toIndex width x ((x :: (chain width x xs).1).getLastD x)
        (x :: (chain width x xs).1)).bind fun counts =>
          (heights toIndex width (y :: ys)).map fun tail => counts ++
            gapBins toIndex width (y - (x :: (chain width x xs).1).getLastD x) ++ tail := by
  rw [heights]
  split
  · rename_i hnil
    exact absurd (hrest.symm.trans hnil) (by simp)
  · rename_i z zs hcons
    obtain ⟨rfl, rfl⟩ := List.cons.inj (hrest.symm.trans hcons)
    simp only [Option.map_eq_bind]
    rfl

variable (toIndex width) in
/-- **Every value is counted in one bin**, and no index is out of range. -/
lemma heights_spec (l : List K) :
    ∃ hs, heights toIndex width l = some hs ∧ hs.sum = l.length := by
  induction l using heights.induct width with
  | case1 =>
      refine ⟨[], ?_, rfl⟩
      rw [heights]
  | case2 x xs hrest =>
      have hlen := length_chain width x xs
      rw [hrest, List.length_nil] at hlen
      obtain ⟨counts, hcounts, hsum⟩ := clusterCounts_spec toIndex width x
        ((x :: (chain width x xs).1).getLastD x) (x :: (chain width x xs).1)
      rw [List.length_cons] at hsum
      exact ⟨counts, (heights_last toIndex hrest).trans hcounts, by rw [List.length_cons]; omega⟩
  | case3 x xs y ys hrest ih =>
      have hlen := length_chain width x xs
      rw [hrest] at hlen
      obtain ⟨counts, hcounts, hsum⟩ := clusterCounts_spec toIndex width x
        ((x :: (chain width x xs).1).getLastD x) (x :: (chain width x xs).1)
      obtain ⟨tail, htail, htsum⟩ := ih
      refine ⟨counts ++ gapBins toIndex width
        (y - (x :: (chain width x xs).1).getLastD x) ++ tail, ?_, ?_⟩
      · rw [heights_next toIndex hrest, hcounts, htail]
        rfl
      · rw [List.length_cons] at hsum
        rw [List.sum_append, List.sum_append, sum_gapBins, htsum, hsum, List.length_cons (a := x)]
        omega

/-! ### What the heights depend on -/

section Congr

variable {L : Type} [Sub L] [Div L] [LE L] [DecidableLE L] {toIndex' : L → ℕ} {width' : L}
  {f : K → L}

omit [Div K] [Div L] in
lemma chain_congr (hle : ∀ x y, f y - f x ≤ width' ↔ y - x ≤ width) (x : K) (xs : List K) :
    chain width' (f x) (xs.map f) =
      ((chain width x xs).1.map f, (chain width x xs).2.map f) := by
  induction xs generalizing x with
  | nil => rfl
  | cons y ys ih =>
      rw [List.map_cons, chain, chain]
      by_cases hy : y - x ≤ width
      · rw [if_pos hy, if_pos ((hle x y).mpr hy), ih y, List.map_cons]
      · rw [if_neg hy, if_neg fun h => hy ((hle x y).mp h), List.map_nil, List.map_cons]

omit [LE K] [LE L] [DecidableLE K] [DecidableLE L] in
lemma fill_congr (hindex : ∀ x y, toIndex' ((f y - f x) / width') = toIndex ((y - x) / width))
    (n : ℕ) (lo : K) (vs : List K) (counts : List ℕ) :
    fill toIndex' width' n (f lo) (vs.map f) counts = fill toIndex width n lo vs counts := by
  induction vs generalizing counts with
  | nil => rfl
  | cons v vs ih =>
      rw [List.map_cons, fill, fill, slot, slot, hindex]
      congr 1
      funext counts
      exact ih counts

omit [LE K] [LE L] [DecidableLE K] [DecidableLE L] in
lemma clusterCounts_congr
    (hindex : ∀ x y, toIndex' ((f y - f x) / width') = toIndex ((y - x) / width))
    (lo last : K) (cluster : List K) :
    clusterCounts toIndex' width' (f lo) (f last) (cluster.map f) =
      clusterCounts toIndex width lo last cluster := by
  rw [clusterCounts, clusterCounts, fill_congr hindex, binCount, binCount, hindex]

variable (toIndex width) in
/-- The heights depend on the differences and the ratios alone. -/
lemma heights_congr (hle : ∀ x y, f y - f x ≤ width' ↔ y - x ≤ width)
    (hindex : ∀ x y, toIndex' ((f y - f x) / width') = toIndex ((y - x) / width)) (l : List K) :
    heights toIndex' width' (l.map f) = heights toIndex width l := by
  have hcluster (x : K) (xs : List K) : f x :: (chain width' (f x) (xs.map f)).1 =
      (x :: (chain width x xs).1).map f := by
    rw [chain_congr hle, List.map_cons]
  have hlast (x : K) (xs : List K) :
      (f x :: (chain width' (f x) (xs.map f)).1).getLastD (f x) =
        f ((x :: (chain width x xs).1).getLastD x) := by
    rw [hcluster, List.getLastD_eq_getLast?, List.getLast?_map, List.getLastD_eq_getLast?,
      Option.getD_map]
  induction l using heights.induct width with
  | case1 => rw [List.map_nil, heights, heights]
  | case2 x xs hrest =>
      have hrest' : (chain width' (f x) (xs.map f)).2 = [] := by
        rw [chain_congr hle, hrest, List.map_nil]
      rw [List.map_cons, heights_last toIndex hrest, heights_last toIndex' hrest', hlast, hcluster,
        clusterCounts_congr hindex]
  | case3 x xs y ys hrest ih =>
      have hrest' : (chain width' (f x) (xs.map f)).2 = f y :: ys.map f := by
        rw [chain_congr hle, hrest, List.map_cons]
      rw [List.map_cons] at ih
      rw [List.map_cons, heights_next toIndex hrest, heights_next toIndex' hrest', hlast, hcluster,
        clusterCounts_congr hindex, ih, gapBins, gapBins, hindex]

end Congr

end Histogram

/-! ### The heights over floats -/

section Floats

lemma chain_float (width x : Float) (xs : List Float) :
    chain width x xs = StatsShape.chain width x xs := by
  induction xs generalizing x with
  | nil => rfl
  | cons y ys ih =>
      rw [chain, StatsShape.chain, ih y]

/-- Counting value after value counts the values of each bin. -/
lemma fill_range {K : Type} [Sub K] [Div K] {toIndex : K → ℕ} {width lo : K} {n : ℕ} (hn : 0 < n)
    (vs : List K) (f : ℕ → ℕ) :
    fill toIndex width n lo vs ((List.range n).map f) =
      some ((List.range n).map fun i =>
        f i + vs.countP fun v => decide (slot toIndex width n lo v = i)) := by
  induction vs generalizing f with
  | nil => rfl
  | cons v vs ih =>
      have hraise : ((List.range n).map f).modify (slot toIndex width n lo v) (· + 1) =
          (List.range n).map fun i => f i + if slot toIndex width n lo v = i then 1 else 0 := by
        refine List.ext_getElem (by simp) fun i hi hi' => ?_
        rw [List.getElem_modify, List.getElem_map, List.getElem_map, List.getElem_range]
        split_ifs <;> rfl
      rw [fill, increment, if_pos, Option.bind_some, hraise, ih]
      · congr 1
        refine List.map_congr_left fun i _ => ?_
        simp only [List.countP_cons, decide_eq_true_eq]
        omega
      · rw [List.length_map, List.length_range]
        exact slot_lt hn

lemma clusterCounts_float (width lo last : Float) (cluster : List Float) :
    clusterCounts Float64.floorIndex width lo last cluster =
      some (StatsShape.binHeights width lo last cluster) := by
  have hzero : List.replicate (binCount Float64.floorIndex width lo last) 0 =
      (List.range (binCount Float64.floorIndex width lo last)).map fun _ => 0 := by
    rw [List.map_const', List.length_range]
  rw [clusterCounts, hzero, fill_range binCount_pos, StatsShape.binHeights]
  congr 1
  refine List.map_congr_left fun i _ => ?_
  rw [Nat.zero_add]
  rfl

/-- With fuel for every cluster the heights are those of the detector. -/
lemma heights_fuel (width : Float) (l : List Float) (n : ℕ) (hn : l.length ≤ n) :
    heights Float64.floorIndex width l = some (StatsShape.heightsFrom width n l) := by
  induction l using heights.induct width generalizing n with
  | case1 =>
      rw [heights]
      cases n <;> rfl
  | case2 x xs hrest =>
      obtain ⟨n, rfl⟩ := Nat.exists_eq_add_one_of_ne_zero (by simp at hn; omega : n ≠ 0)
      rw [heights_last _ hrest, clusterCounts_float, StatsShape.heightsFrom, ← chain_float]
      rw [← Prod.mk.eta (p := chain width x xs), hrest]
      exact congrArg some (List.append_nil _).symm
  | case3 x xs y ys hrest ih =>
      have hlen := length_chain width x xs
      rw [hrest] at hlen
      obtain ⟨n, rfl⟩ := Nat.exists_eq_add_one_of_ne_zero (by simp at hn; omega : n ≠ 0)
      rw [heights_next _ hrest, clusterCounts_float, StatsShape.heightsFrom, ← chain_float,
        ih n (by simp at hn; omega)]
      rw [← Prod.mk.eta (p := chain width x xs), hrest]
      exact congrArg some (List.append_assoc _ _ _)

/-- **Over floats these are the heights of the detector**, which reads and writes no index out of
range. -/
theorem heights_float (width : Float) (l : List Float) :
    heights Float64.floorIndex width l = some (StatsShape.heightsFrom width l.length l) :=
  heights_fuel width l l.length le_rfl

end Floats

/-! ### Exact arithmetic -/

/-- `as usize`: the integer part, within the range of the type. -/
def asUsize (q : ℚ) : ℕ := min ⌊q⌋.toNat (2 ^ 64 - 1)

/-- The loop body of the sum: the sum so far and the height before. -/
def addStep (acc : ℚ × ℚ) (height : ℕ) : ℚ × ℚ := (acc.1 + |(height : ℚ) - acc.2|, (height : ℚ))

/-- The sum of the steps between adjacent heights, with zero around them. -/
def variation (heights : List ℕ) : ℚ :=
  let (sum, prev) := heights.foldl addStep (0, 0)
  sum + prev

/-- `mvalue_at_width`. -/
def mvalueAtWidth (sorted : List ℚ) (width : ℚ) : Option ℚ :=
  (heights asUsize width sorted).map fun heights =>
    let maxHeight : ℚ := (heights.max?.getD 1 : ℕ)
    if maxHeight ≤ 0 then 2 else variation heights / maxHeight

lemma variation_eq_pathLength (heights : List ℕ) :
    variation heights = pathLength 0 (heights.map (Nat.cast : ℕ → ℚ)) := by
  have hfold : ∀ (l : List ℕ) (sum prev : ℚ), 0 ≤ prev →
      (l.foldl addStep (sum, prev)).1 + (l.foldl addStep (sum, prev)).2 =
        sum + pathLength prev (l.map (Nat.cast : ℕ → ℚ)) := by
    intro l
    induction l with
    | nil =>
        intro sum prev hprev
        rw [List.map_nil, pathLength, abs_of_nonneg hprev]
        rfl
    | cons h l ih =>
        intro sum prev _
        rw [List.foldl_cons, List.map_cons, pathLength, addStep, ih _ _ (Nat.cast_nonneg h),
          add_assoc]
  have h := hfold heights 0 0 le_rfl
  rw [zero_add] at h
  exact h

/-- The largest height of a histogram that counts something. -/
lemma exists_max {hs : List ℕ} (hpos : 0 < hs.sum) :
    ∃ m, hs.max? = some m ∧ 0 < m ∧ m ∈ hs ∧ ∀ h ∈ hs, h ≤ m := by
  rcases hmax : hs.max? with _ | m
  · rw [List.max?_eq_none_iff] at hmax
    rw [hmax, List.sum_nil] at hpos
    exact absurd hpos (Nat.lt_irrefl 0)
  · obtain ⟨hmem, hle⟩ := List.max?_eq_some_iff.mp hmax
    refine ⟨m, rfl, ?_, hmem, hle⟩
    by_contra hm
    have hzero : hs.sum = 0 := List.sum_eq_zero fun h hh => by
      have hhm := hle h hh
      omega
    omega

/-- The modal value of heights that count something. -/
lemma mvalueAtWidth_eq {sorted : List ℚ} {width : ℚ} {hs : List ℕ} {m : ℕ}
    (hheights : heights asUsize width sorted = some hs) (hmax : hs.max? = some m) (hm : 0 < m) :
    mvalueAtWidth sorted width = some (variation hs / m) := by
  have hpos : ¬ ((m : ℚ) ≤ 0) := not_le.mpr (Nat.cast_pos.mpr hm)
  rw [mvalueAtWidth, hheights, Option.map_some, hmax, Option.getD_some]
  dsimp only
  rw [if_neg hpos]

lemma mvalueAtWidth_translate (sorted : List ℚ) (width t : ℚ) :
    mvalueAtWidth (sorted.map fun v => v + t) width = mvalueAtWidth sorted width := by
  rw [mvalueAtWidth, mvalueAtWidth, heights_congr asUsize width]
  · exact fun x y => by rw [add_sub_add_right_eq_sub]
  · exact fun x y => by rw [add_sub_add_right_eq_sub]

lemma mvalueAtWidth_scale (sorted : List ℚ) (width : ℚ) {c : ℚ} (hc : 0 < c) :
    mvalueAtWidth (sorted.map fun v => c * v) (c * width) = mvalueAtWidth sorted width := by
  rw [mvalueAtWidth, mvalueAtWidth, heights_congr asUsize width]
  · exact fun x y => by rw [← mul_sub, mul_le_mul_iff_right₀ hc]
  · exact fun x y => by rw [← mul_sub, mul_div_mul_left _ _ hc.ne']

/-- A bin holds the values from its lower edge up to its upper one, in a cluster of no more than
the 4096 bins it may have. -/
lemma slot_eq_iff {width lo last v : ℚ} (hw : 0 < width) (hlo : lo ≤ v) (hlast : v ≤ last)
    (hbins : last < lo + 4096 * width) (i : ℕ) :
    slot asUsize width (binCount asUsize width lo last) lo v = i ↔
      lo + i * width ≤ v ∧ v < lo + (i + 1) * width := by
  have hq : 0 ≤ ⌊(v - lo) / width⌋ := Int.floor_nonneg.mpr (div_nonneg (sub_nonneg.mpr hlo) hw.le)
  have hle : ⌊(v - lo) / width⌋ ≤ ⌊(last - lo) / width⌋ :=
    Int.floor_le_floor (div_le_div_of_nonneg_right (sub_le_sub_right hlast lo) hw.le)
  have hlt : ⌊(last - lo) / width⌋ < 4096 := by
    rw [Int.floor_lt, div_lt_iff₀ hw]
    push_cast
    linarith
  have hslot : slot asUsize width (binCount asUsize width lo last) lo v =
      ⌊(v - lo) / width⌋.toNat := by
    rw [slot, binCount, asUsize, asUsize]
    omega
  rw [hslot]
  calc ⌊(v - lo) / width⌋.toNat = i
      ↔ ⌊(v - lo) / width⌋ = (i : ℤ) := by omega
    _ ↔ (i : ℚ) ≤ (v - lo) / width ∧ (v - lo) / width < i + 1 := by
        rw [Int.floor_eq_iff, Int.cast_natCast]
    _ ↔ lo + i * width ≤ v ∧ v < lo + (i + 1) * width := by
        rw [le_div_iff₀ hw, div_lt_iff₀ hw, le_sub_iff_add_le', sub_lt_iff_lt_add']

/-- **The modal value measures modality**: in exact arithmetic every value is counted in one bin
of the histogram, the modal value is at least 2, and 2 exactly when the heights are unimodal, and
it is the same for values that are translated, or scaled with the width. -/
theorem mvalueAtWidth_measures {sorted : List ℚ} (width : ℚ) (hne : sorted ≠ []) :
    ∃ hs m, heights asUsize width sorted = some hs ∧ hs.sum = sorted.length ∧
      mvalueAtWidth sorted width = some m ∧ 2 ≤ m ∧ (m = 2 ↔ Unimodal hs) ∧
      (∀ t, mvalueAtWidth (sorted.map fun v => v + t) width = some m) ∧
      ∀ c, 0 < c → mvalueAtWidth (sorted.map fun v => c * v) (c * width) = some m := by
  obtain ⟨hs, hheights, hsum⟩ := heights_spec asUsize width sorted
  have hpos : 0 < hs.sum := hsum ▸ List.length_pos_of_ne_nil hne
  obtain ⟨m, hmax, hm, hmem, hle⟩ := exists_max hpos
  have hmq : (0 : ℚ) < m := Nat.cast_pos.mpr hm
  have hvalue := mvalueAtWidth_eq hheights hmax hm
  have hcast : (m : ℚ) ∈ hs.map (Nat.cast : ℕ → ℚ) := List.mem_map_of_mem hmem
  refine ⟨hs, variation hs / m, hheights, hsum, hvalue, ?_, ?_, ?_, ?_⟩
  · rw [le_div_iff₀ hmq, variation_eq_pathLength]
    exact two_mul_le_pathLength hcast
  · rw [div_eq_iff hmq.ne', variation_eq_pathLength,
      ← unimodal_map (f := (Nat.cast : ℕ → ℚ)) Nat.strictMono_cast]
    refine pathLength_eq_iff_unimodal ?_ hcast ?_
    · rintro _ hb
      obtain ⟨h, -, rfl⟩ := List.mem_map.mp hb
      exact Nat.cast_nonneg h
    · rintro _ hb
      obtain ⟨h, hh, rfl⟩ := List.mem_map.mp hb
      exact Nat.cast_le.mpr (hle h hh)
  · exact fun t => by rw [mvalueAtWidth_translate, hvalue]
  · exact fun c hc => by rw [mvalueAtWidth_scale sorted width hc, hvalue]

/-- Two values at one end and one at the other. -/
theorem mvalueAtWidth_measures_apart :
    ([0, 0, 10] : List ℚ) ≠ [] ∧
      ∃ hs m, heights asUsize 1 [0, 0, 10] = some hs ∧ hs.sum = 3 ∧
        mvalueAtWidth [0, 0, 10] 1 = some m ∧ 2 ≤ m ∧ (m = 2 ↔ Unimodal hs) ∧
        (∀ t, mvalueAtWidth (([0, 0, 10] : List ℚ).map fun v => v + t) 1 = some m) ∧
        ∀ c, 0 < c → mvalueAtWidth (([0, 0, 10] : List ℚ).map fun v => c * v) (c * 1) = some m :=
  ⟨List.cons_ne_nil _ _, mvalueAtWidth_measures 1 (List.cons_ne_nil _ _)⟩

end Modality

end Networker
