/-
The losses of a probe train.

* `computeLossPattern`: the runs of lost probes, their number, the longest one and how far
  apart they start;
* `aggregateUdpRtts`: the statistics of the round trips, with the share of the losses;
* `ExactPattern`: what the counts are, by the maximal runs of the timeline;
* `lossPattern_exact`: the counts are exact, from either end, and agree with the share.
-/
import Networker.Data.FloatNat
import Networker.Data.MaximalRuns

namespace Networker

open Data

namespace ProbeMetrics

/-! ### The pattern -/

/-- `MIN_LOSS_PATTERN_PROBES`. -/
def minLossPatternProbes : ℕ := 20

/-- `LossPattern`. -/
structure LossPattern where
  lostCount : ℕ
  lossBurstCount : ℕ
  lossMaxBurst : ℕ
  lossMeanDistance : Option Float
  classification : String

/-- The inner loop: the losses from an index on are counted. -/
def lossRun (rtts : List (Option Float)) (len i : ℕ) : ℕ × ℕ :=
  if h : i < rtts.length then
    if rtts[i].isNone then lossRun rtts (len + 1) (i + 1) else (len, i)
  else (len, i)
termination_by rtts.length - i

lemma lossRun_snd (rtts : List (Option Float)) (len i : ℕ) : i ≤ (lossRun rtts len i).2 := by
  induction len, i using lossRun.induct rtts with
  | case1 len i h hnone ih =>
      rw [lossRun, dif_pos h, if_pos hnone]
      omega
  | case2 len i h hsome => rw [lossRun, dif_pos h, if_neg hsome]
  | case3 len i h => rw [lossRun, dif_neg h]

lemma lossRun_lt {rtts : List (Option Float)} {i : ℕ} (h : i < rtts.length)
    (hnone : rtts[i].isNone = true) : i < (lossRun rtts 0 i).2 := by
  rw [lossRun, dif_pos h, if_pos hnone]
  exact lossRun_snd rtts 1 (i + 1)

/-- The outer loop: the lengths and the starts of the runs of losses. -/
def lossRuns (rtts : List (Option Float)) (burstLengths lossStarts : List ℕ) (i : ℕ) :
    List ℕ × List ℕ :=
  if h : i < rtts.length then
    if hnone : rtts[i].isNone then
      lossRuns rtts (burstLengths ++ [(lossRun rtts 0 i).1]) (lossStarts ++ [i])
        (lossRun rtts 0 i).2
    else lossRuns rtts burstLengths lossStarts (i + 1)
  else (burstLengths, lossStarts)
termination_by rtts.length - i
decreasing_by
  · have hlt := lossRun_lt h hnone
    omega
  · omega

/-- The mean distance of the starts of the runs. -/
def meanLossDistance (lossStarts : List ℕ) : Option Float :=
  if 2 ≤ lossStarts.length then
    some (Float.ofNat (gaps lossStarts).sum / Float.ofNat (gaps lossStarts).length)
  else none

/-- The label of the counts. -/
def classify (lostCount burstCount maxBurst : ℕ) : String :=
  if lostCount = 0 then "no-loss"
  else if 3 ≤ maxBurst then "bursty"
  else if burstCount = 1 ∧ 2 ≤ maxBurst then "single-burst"
  else "random-like"

/-- The pattern of the runs, with its counts as `u32`. -/
def patternOf (burstLengths lossStarts : List ℕ) : LossPattern :=
  let lostCount := burstLengths.sum
  let burstCount := burstLengths.length
  let maxBurst := burstLengths.max?.getD 0
  { lostCount := lostCount % 2 ^ 32
    lossBurstCount := burstCount % 2 ^ 32
    lossMaxBurst := maxBurst % 2 ^ 32
    lossMeanDistance := meanLossDistance lossStarts
    classification := classify lostCount burstCount maxBurst }

/-- `compute_loss_pattern`. -/
def computeLossPattern (rtts : List (Option Float)) : Option LossPattern :=
  if rtts.length < minLossPatternProbes then none
  else
    let (burstLengths, lossStarts) := lossRuns rtts [] [] 0
    some (patternOf burstLengths lossStarts)

/-! ### The round trips -/

/-- `MIN_SAMPLES_P95`. -/
def minSamplesP95 : ℕ := 20

/-- `MIN_SAMPLES_P99`. -/
def minSamplesP99 : ℕ := 100

/-- `RttStats`. -/
structure RttStats where
  min : Float
  avg : Float
  p95 : Float
  jitter : Float
  ipdvP95 : Option Float
  ipdvP99 : Option Float
  lossPercent : Float

/-- `sort_by` with `partial_cmp(..).unwrap()`, which panics where there is no order. -/
def sortByPartialCmp (xs : List Float) : Option (List Float) :=
  if 2 ≤ xs.length ∧ xs.any Float.isNaN = true then none else some (Float64.ascending xs)

/-- `percentile_from_sorted`. -/
def percentileFromSorted (sorted : List Float) (p : Float) : Float :=
  if sorted.length = 1 then sorted.getD 0 0.0
  else
    let rank := p / 100.0 * Float.ofNat (sorted.length - 1)
    let lo := Float64.floorIndex rank
    let hi := Float64.ceilIndex rank
    let frac := rank - Float.ofNat lo
    sorted.getD lo 0.0 + frac * (sorted.getD hi 0.0 - sorted.getD lo 0.0)

/-- The share of the losses, in percent. -/
def lossPercentOf (total received : ℕ) : Float :=
  if 0.0 < Float.ofNat total then
    (Float.ofNat total - Float.ofNat received) / Float.ofNat total * 100.0
  else 100.0

/-- The delay variations of round trips, in the order of the probes. -/
def ipdvSamples (rtts : List Float) : List Float := rtts.zipWith (fun a b => (b - a).abs) rtts.tail

/-- `aggregate_udp_rtts`, `none` where a sort panics. -/
def aggregateUdpRtts (samples : List (Option Float)) : Option RttStats :=
  let rtts := samples.filterMap id
  let loss := lossPercentOf samples.length rtts.length
  if rtts.isEmpty then
    some
      { min := 0.0, avg := 0.0, p95 := 0.0, jitter := 0.0, ipdvP95 := none, ipdvP99 := none
        lossPercent := loss }
  else do
    let ipdv := ipdvSamples rtts
    let jitter := if ipdv.isEmpty then 0.0 else Float64.sum ipdv / Float.ofNat ipdv.length
    let ipdv ← sortByPartialCmp ipdv
    let received := Float.ofNat rtts.length
    let avg := Float64.sum rtts / received
    let sorted ← sortByPartialCmp rtts
    some
      { min := sorted.getD 0 0.0
        avg
        p95 := percentileFromSorted sorted 95.0
        jitter
        ipdvP95 :=
          if minSamplesP95 ≤ ipdv.length then some (percentileFromSorted ipdv 95.0) else none
        ipdvP99 :=
          if minSamplesP99 ≤ ipdv.length then some (percentileFromSorted ipdv 99.0) else none
        lossPercent := loss }

/-! ### The loops -/

/-- Which probes were lost. -/
def lost (rtts : List (Option Float)) : List Bool := rtts.map Option.isNone

section Loops

variable {rtts : List (Option Float)} {i : ℕ}

lemma lost_drop (h : i < rtts.length) :
    (lost rtts).drop i = rtts[i].isNone :: (lost rtts).drop (i + 1) := by
  rw [lost, List.drop_eq_getElem_cons (by simpa using h), List.getElem_map]

/-- The inner loop leaves the index behind the losses it counts. -/
lemma lossRun_spec (len i : ℕ) : ∃ k, lossRun rtts len i = (len + k, i + k) ∧
    (lost rtts).drop i = List.replicate k true ++ (lost rtts).drop (i + k) ∧
      ((lost rtts).drop (i + k))[0]? ≠ some true := by
  induction len, i using lossRun.induct rtts with
  | case1 len i h hnone ih =>
      obtain ⟨k, hrun, hdrop, hnext⟩ := ih
      have hk : i + 1 + k = i + (k + 1) := by omega
      rw [hk] at hrun hdrop hnext
      refine ⟨k + 1, ?_, ?_, hnext⟩
      · rw [lossRun, dif_pos h, if_pos hnone, hrun]
        congr 1
        omega
      · rw [lost_drop h, hnone, hdrop, List.replicate_succ, List.cons_append]
  | case2 len i h hsome =>
      refine ⟨0, by rw [lossRun, dif_pos h, if_neg hsome]; rfl, rfl, ?_⟩
      rw [Nat.add_zero, lost_drop h, List.getElem?_cons_zero]
      simpa using hsome
  | case3 len i h =>
      refine ⟨0, by rw [lossRun, dif_neg h]; rfl, rfl, ?_⟩
      rw [Nat.add_zero, List.drop_eq_nil_of_le (by simpa [lost] using h)]
      exact nofun

/-- The outer loop collects the runs behind an index. -/
lemma lossRuns_spec (burstLengths lossStarts : List ℕ) (i : ℕ) :
    lossRuns rtts burstLengths lossStarts i =
      (burstLengths ++ (runs ((lost rtts).drop i)).map Prod.snd,
        lossStarts ++ ((runs ((lost rtts).drop i)).map (shift i)).map Prod.fst) := by
  induction burstLengths, lossStarts, i using lossRuns.induct rtts with
  | case1 burstLengths lossStarts i h hnone ih =>
      obtain ⟨k, hrun, hdrop, hnext⟩ := lossRun_spec 0 i
      have hlt := lossRun_lt h hnone
      rw [hrun] at ih hlt
      obtain ⟨k, rfl⟩ : ∃ j, k = j + 1 := Nat.exists_eq_add_one.mpr (by omega)
      rw [lossRuns, dif_pos h, dif_pos hnone, hrun, ih, hdrop, runs_replicate_append k hnext,
        List.map_cons, List.map_cons, List.map_cons, map_snd_map_shift, map_shift_map_shift,
        Nat.zero_add, Nat.add_comm (k + 1) i, List.append_assoc, List.append_assoc, shift,
        Nat.zero_add]
      rfl
  | case2 burstLengths lossStarts i h hsome ih =>
      have hfalse : rtts[i].isNone = false := Bool.not_eq_true _ ▸ hsome
      rw [lossRuns, dif_pos h, dif_neg hsome, ih, lost_drop h, hfalse, runs, map_snd_map_shift,
        map_shift_map_shift, Nat.add_comm 1 i]
  | case3 burstLengths lossStarts i h =>
      rw [lossRuns, dif_neg h, List.drop_eq_nil_of_le (by simpa [lost] using h)]
      simp [runs]

/-- The walk over the timeline finds the runs of its losses. -/
lemma lossRuns_zero :
    lossRuns rtts [] [] 0 = ((runs (lost rtts)).map Prod.snd, starts (lost rtts)) := by
  have hshift : (runs (lost rtts)).map (shift 0) = runs (lost rtts) := List.map_id _
  rw [lossRuns_spec, List.drop_zero, hshift, List.nil_append, List.nil_append, starts]

example : lossRuns [none, none, some 1.0, none] [] [] 0 = ([2, 1], [0, 3]) := by decide +kernel

end Loops

/-! ### The counts -/

/-- What the counts of a pattern are. -/
structure ExactPattern (rtts : List (Option Float)) (p : LossPattern) : Prop where
  lostCount : p.lostCount = rtts.countP Option.isNone
  lossBurstCount : p.lossBurstCount = {r : ℕ × ℕ | IsRun (lost rtts) r.1 r.2}.ncard
  lossMaxBurst : IsGreatest (insert 0 {l | ∃ s, IsRun (lost rtts) s l}) p.lossMaxBurst
  lossMeanDistance : 2 ≤ p.lossBurstCount → ∃ first last,
    IsLeast {s | ∃ l, IsRun (lost rtts) s l} first ∧
      IsGreatest {s | ∃ l, IsRun (lost rtts) s l} last ∧
        p.lossMeanDistance =
          some (Float.ofNat (last - first) / Float.ofNat (p.lossBurstCount - 1))
  noDistance : p.lossBurstCount < 2 → p.lossMeanDistance = none

/-- Two patterns with the same counts and the same label. -/
structure SameLosses (p q : LossPattern) : Prop where
  lostCount : p.lostCount = q.lostCount
  lossBurstCount : p.lossBurstCount = q.lossBurstCount
  lossMaxBurst : p.lossMaxBurst = q.lossMaxBurst
  classification : p.classification = q.classification

section Counts

variable {rtts : List (Option Float)} {xs : List Bool}

lemma computeLossPattern_eq (h : minLossPatternProbes ≤ rtts.length) :
    computeLossPattern rtts =
      some (patternOf ((runs (lost rtts)).map Prod.snd) (starts (lost rtts))) := by
  rw [computeLossPattern, if_neg (Nat.not_lt.mpr h), lossRuns_zero]

/-- The largest of a list, or zero. -/
lemma isGreatest_max? (ls : List ℕ) : IsGreatest (insert 0 {l | l ∈ ls}) (ls.max?.getD 0) := by
  cases hmax : ls.max? with
  | none =>
      rw [List.max?_eq_none_iff] at hmax
      subst hmax
      refine ⟨Or.inl rfl, ?_⟩
      rintro l (rfl | hl)
      · exact le_rfl
      · exact absurd hl List.not_mem_nil
  | some m =>
      obtain ⟨hmem, hle⟩ := List.max?_eq_some_iff.mp hmax
      refine ⟨Or.inr hmem, ?_⟩
      rintro l (rfl | hl)
      · exact Nat.zero_le m
      · exact hle l hl

/-- The longest run. -/
lemma isGreatest_maxBurst (xs : List Bool) :
    IsGreatest (insert 0 {l | ∃ s, IsRun xs s l}) (((runs xs).map Prod.snd).max?.getD 0) := by
  have hset : {l | ∃ s, IsRun xs s l} = {l | l ∈ (runs xs).map Prod.snd} := by
    ext l
    rw [Set.mem_ofPred_eq, Set.mem_ofPred_eq, List.mem_map]
    constructor
    · rintro ⟨s, hs⟩
      exact ⟨(s, l), mem_runs.mpr hs, rfl⟩
    · rintro ⟨r, hr, rfl⟩
      exact ⟨r.1, mem_runs.mp hr⟩
  rw [hset]
  exact isGreatest_max? _

/-- There are at most as many runs as losses. -/
lemma length_runs_le (xs : List Bool) : (runs xs).length ≤ xs.length := by
  have hone : ∀ l ∈ (runs xs).map Prod.snd, 1 ≤ l := by
    intro l hl
    obtain ⟨r, hr, rfl⟩ := List.mem_map.mp hl
    exact (mem_runs.mp hr).pos
  have hsum := List.length_le_sum_of_one_le _ hone
  rw [List.length_map, sum_runs] at hsum
  exact hsum.trans List.count_le_length

lemma maxBurst_le (xs : List Bool) : ((runs xs).map Prod.snd).max?.getD 0 ≤ xs.length := by
  rcases (isGreatest_maxBurst xs).1 with h | ⟨s, h⟩
  · rw [h]
    exact Nat.zero_le _
  · exact (Nat.le_add_left _ s).trans h.le_length

/-- The pattern of a timeline that a `u32` counts is exact. -/
lemma exactPattern (hlen : rtts.length < 2 ^ 32) :
    ExactPattern rtts (patternOf ((runs (lost rtts)).map Prod.snd) (starts (lost rtts))) := by
  have hlost : (lost rtts).length = rtts.length := List.length_map _
  have hcount : (lost rtts).count true = rtts.countP Option.isNone := by
    rw [lost, List.count_eq_countP, List.countP_map]
    exact List.countP_congr fun rtt _ => by simp
  have hbursts : (runs (lost rtts)).length % 2 ^ 32 = (runs (lost rtts)).length :=
    Nat.mod_eq_of_lt ((length_runs_le _).trans_lt (hlost ▸ hlen))
  have hstarts : (starts (lost rtts)).length = (runs (lost rtts)).length := List.length_map _
  have hburstCount : (patternOf ((runs (lost rtts)).map Prod.snd)
      (starts (lost rtts))).lossBurstCount = (runs (lost rtts)).length := by
    rw [patternOf, List.length_map, hbursts]
  refine ⟨?_, ?_, ?_, fun h => ?_, fun h => ?_⟩
  · rw [patternOf, sum_runs, hcount]
    exact Nat.mod_eq_of_lt (List.countP_le_length.trans_lt hlen)
  · rw [hburstCount, ncard_isRun]
  · have hle := maxBurst_le (lost rtts)
    rw [patternOf, Nat.mod_eq_of_lt (hle.trans_lt (hlost ▸ hlen))]
    exact isGreatest_maxBurst _
  · rw [hburstCount] at h ⊢
    have hne : starts (lost rtts) ≠ [] := by
      intro hnil
      rw [hnil, List.length_nil] at hstarts
      omega
    obtain ⟨first, last, hfirst, hlast, hsum⟩ := exists_first_last hne
    refine ⟨first, last, hfirst, hlast, ?_⟩
    rw [patternOf, meanLossDistance, if_pos (hstarts ▸ h), hsum, length_gaps, hstarts]
  · rw [hburstCount] at h
    rw [patternOf, meanLossDistance, if_neg (by omega)]

/-- The counts are the same from the other end. -/
lemma sameLosses_reverse (rtts : List (Option Float)) :
    SameLosses (patternOf ((runs (lost rtts)).map Prod.snd) (starts (lost rtts)))
      (patternOf ((runs (lost rtts.reverse)).map Prod.snd) (starts (lost rtts.reverse))) := by
  have hreverse : lost rtts.reverse = (lost rtts).reverse := List.map_reverse
  have hperm := lengths_reverse_perm (lost rtts)
  rw [← hreverse] at hperm
  have hset : {l | l ∈ (runs (lost rtts.reverse)).map Prod.snd} =
      {l | l ∈ (runs (lost rtts)).map Prod.snd} := Set.ext fun l => hperm.mem_iff
  have hmax : ((runs (lost rtts.reverse)).map Prod.snd).max?.getD 0 =
      ((runs (lost rtts)).map Prod.snd).max?.getD 0 := by
    have hgreatest := isGreatest_max? ((runs (lost rtts.reverse)).map Prod.snd)
    rw [hset] at hgreatest
    exact hgreatest.unique (isGreatest_max? _)
  have hsum := hperm.sum_eq
  have hlength := hperm.length_eq
  constructor
  · rw [patternOf, patternOf, hsum]
  · rw [patternOf, patternOf, hlength]
  · rw [patternOf, patternOf, hmax]
  · rw [patternOf, patternOf, hsum, hlength, hmax]

end Counts

/-! ### The share of the losses -/

section Share

variable {rtts : List (Option Float)} {stats : RttStats}

/-- What every returned statistics say of the losses. -/
lemma lossPercent_eq (h : aggregateUdpRtts rtts = some stats) :
    stats.lossPercent = lossPercentOf rtts.length (rtts.filterMap id).length := by
  rw [aggregateUdpRtts] at h
  dsimp only at h
  split at h
  · cases h
    rfl
  · simp only [Option.bind_eq_bind, Option.bind_eq_some_iff] at h
    obtain ⟨ipdv, -, sorted, -, hstats⟩ := h
    cases hstats
    rfl

/-- Numbers are sorted without a panic. -/
lemma sortByPartialCmp_isSome {xs : List Float} (h : ∀ x ∈ xs, x.isNaN = false) :
    (sortByPartialCmp xs).isSome = true := by
  have hnone : ¬ (2 ≤ xs.length ∧ xs.any Float.isNaN = true) := by
    rintro ⟨-, hany⟩
    obtain ⟨x, hx, hnan⟩ := List.any_eq_true.mp hany
    rw [h x hx] at hnan
    exact Bool.noConfusion hnan
  rw [sortByPartialCmp, if_neg hnone]
  rfl

/-- Finite round trips have statistics. -/
lemma aggregateUdpRtts_isSome (h : ∀ rtt ∈ rtts.filterMap id, rtt.isFinite = true) :
    (aggregateUdpRtts rtts).isSome = true := by
  have hipdv : ∀ v ∈ ipdvSamples (rtts.filterMap id), v.isNaN = false := by
    intro v hv
    rw [ipdvSamples, ← List.map_uncurry_zip_eq_zipWith] at hv
    obtain ⟨⟨a, b⟩, hab, rfl⟩ := List.mem_map.mp hv
    obtain ⟨ha, hb⟩ := List.of_mem_zip hab
    exact Float64.isNaN_abs (Float64.isNaN_sub (h b (List.mem_of_mem_tail hb)) (h a ha))
  obtain ⟨ipdv, hipdv⟩ := Option.isSome_iff_exists.mp (sortByPartialCmp_isSome hipdv)
  obtain ⟨sorted, hsorted⟩ := Option.isSome_iff_exists.mp
    (sortByPartialCmp_isSome fun rtt hrtt => Float64.isNaN_of_isFinite (h rtt hrtt))
  rw [aggregateUdpRtts]
  dsimp only
  split
  · rfl
  · rw [hipdv, hsorted]
    rfl

/-- The received probes are the rest of the timeline. -/
lemma length_received (rtts : List (Option Float)) :
    rtts.length = rtts.countP Option.isNone + (rtts.filterMap id).length := by
  induction rtts with
  | nil => rfl
  | cons rtt rtts ih =>
      cases rtt with
      | none =>
          rw [List.length_cons, List.countP_cons_of_pos rfl, List.filterMap_cons_none rfl, ih]
          omega
      | some rtt =>
          rw [List.length_cons, List.countP_cons_of_neg (by simp),
            List.filterMap_cons_some (f := id) (b := rtt) rfl, List.length_cons, ih]
          omega

/-- The share of the losses is their number by the number of the probes. -/
lemma lossPercentOf_eq (hpos : 0 < rtts.length) (hlen : rtts.length < 2 ^ 53) :
    lossPercentOf rtts.length (rtts.filterMap id).length =
      Float.ofNat (rtts.countP Option.isNone) / Float.ofNat rtts.length * 100.0 := by
  have hreceived := length_received rtts
  have htotal : (0.0 : Float) < Float.ofNat rtts.length := by
    rw [Float64.pos_iff, Float64.unpack_ofNat hlen, Float64.natural_of_pos hpos]
    trivial
  have hdiff : rtts.length - (rtts.filterMap id).length = rtts.countP Option.isNone := by omega
  rw [lossPercentOf, if_pos htotal, Float64.ofNat_sub (by omega) hlen, hdiff]

end Share

/-- **The losses of a probe train are exact**: their number, the number of their runs, the
longest one and the mean distance of the starts, the same from the other end but for the
distance, and the share of the losses is that of the statistics of the round trips.

A timeline has as many entries as a `u32` counts. -/
theorem lossPattern_exact (rtts : List (Option Float))
    (hprobes : minLossPatternProbes ≤ rtts.length) (hlen : rtts.length < 2 ^ 32) :
    ∃ p q, computeLossPattern rtts = some p ∧ ExactPattern rtts p ∧
      computeLossPattern rtts.reverse = some q ∧ SameLosses p q ∧
        (∀ stats, aggregateUdpRtts rtts = some stats → stats.lossPercent =
          Float.ofNat p.lostCount / Float.ofNat rtts.length * 100.0) ∧
        ((∀ rtt ∈ rtts.filterMap id, rtt.isFinite = true) →
          (aggregateUdpRtts rtts).isSome = true) := by
  have hexact := exactPattern hlen
  have hreverse : minLossPatternProbes ≤ rtts.reverse.length := by
    rw [List.length_reverse]
    exact hprobes
  have hpos : 0 < rtts.length := (by decide : 0 < minLossPatternProbes).trans_le hprobes
  refine ⟨_, _, computeLossPattern_eq hprobes, hexact, computeLossPattern_eq hreverse,
    sameLosses_reverse rtts, fun stats hstats => ?_, aggregateUdpRtts_isSome⟩
  rw [lossPercent_eq hstats, lossPercentOf_eq hpos (hlen.trans (by norm_num)), hexact.lostCount]

/-- The exact pattern of a train of which every probe is lost. -/
theorem lossPattern_exact_all_lost : ∃ p, computeLossPattern (List.replicate 20 none) = some p ∧
    p.lostCount = 20 := by
  obtain ⟨p, -, hp, hexact, -⟩ :=
    lossPattern_exact (List.replicate 20 none) (by decide) (by decide)
  exact ⟨p, hp, hexact.lostCount.trans (by decide)⟩

end ProbeMetrics

end Networker
