/-
The load stages of the `responsiveness` and `mthroughput` modes: what their interval loops
share.

* `mean`, `variance`, `stable`: the stability criterion;
* `LoadConfig`: the parameters of the ramp; `addConnections`: the connections opened after an
  interval;
* `Delays`: the delays of one stage, and `Delays.timer` the ticks that they give;
* `Meter`: the goodputs and their moving averages; `Meter.Shows`, `Shows.last`: the last moving
  average is what was read over the last intervals, over their nominal length.
-/
import Mathlib.Algebra.BigOperators.Group.List.Basic
import Networker.Data.StoppingLoop
import Networker.Data.TimedArrivals

namespace Networker

open Data

namespace LoadGen

/-! ### The stability criterion -/

def mean (v : List ℚ) : ℚ := if v = [] then 0 else v.sum / v.length

/-- The square of `stddev`. -/
def variance (v : List ℚ) : ℚ :=
  if v.length < 2 then 0 else (v.map fun x => (x - mean v) ^ 2).sum / v.length

/-- The last `n` values. -/
def lastOf (n : ℕ) (v : List ℚ) : List ℚ := v.drop (v.length - n)

/-- There are `mad` values, the last is positive, and the standard deviation of the last `mad`
is below the fraction `sdt` of it. -/
def stable (mad : ℕ) (sdt : ℚ) (v : List ℚ) : Bool :=
  match v.getLast? with
  | none => false
  | some current =>
      decide (mad ≤ v.length ∧ 0 < current ∧ 0 < sdt * current ∧
        variance (lastOf mad v) < (sdt * current) ^ 2)

lemma le_length_of_stable {mad : ℕ} {sdt : ℚ} {v : List ℚ} (h : stable mad sdt v = true) :
    mad ≤ v.length := by
  rw [stable] at h
  cases hlast : v.getLast? with
  | none => simp [hlast] at h
  | some current =>
      simp only [hlast, decide_eq_true_eq] at h
      exact h.1

/-! ### The ramp -/

/-- The parameters of the ramp. -/
structure LoadConfig where
  intervalMs : ℕ
  initialConnections : ℕ
  addPerInterval : ℕ
  maxConnections : ℕ
  mad : ℕ
  sdt : ℚ
  maxDurationMs : ℕ

namespace LoadConfig

variable (cfg : LoadConfig)

/-- The interval of the loop, in milliseconds. -/
def interval : ℕ := max cfg.intervalMs 50

/-- And in seconds. -/
def intervalS : ℚ := cfg.interval / 1000

/-- The cap on the stage, in milliseconds. -/
def cap : ℕ := max cfg.maxDurationMs cfg.intervalMs

/-- The intervals of the moving average. -/
def distance : ℕ := max cfg.mad 2

/-- The connections that the stage starts with. -/
def initial : ℕ := max cfg.initialConnections 1

/-- Rounds after which the cap is reached, whatever the delays. -/
def rounds : ℕ := cfg.cap / cfg.interval + 1

/-- The connections after up to `add` more are opened, of which `granted` succeed before one
fails. -/
def addConnections : ℕ → ℕ → ℕ → ℕ
  | 0, _, conns => conns
  | add + 1, granted, conns =>
      if cfg.maxConnections ≤ conns then conns
      else match granted with
        | 0 => conns
        | granted + 1 => addConnections add granted (conns + 1)

variable {cfg}

lemma interval_pos : 0 < cfg.interval :=
  lt_of_lt_of_le (by norm_num) (le_max_right cfg.intervalMs 50)

lemma intervalS_pos : 0 < cfg.intervalS := by
  have hcast : (0 : ℚ) < cfg.interval := by exact_mod_cast interval_pos
  rw [intervalS]
  positivity

lemma two_le_distance : 2 ≤ cfg.distance := le_max_right _ _

lemma le_addConnections (add granted conns : ℕ) :
    conns ≤ cfg.addConnections add granted conns := by
  induction add generalizing granted conns with
  | zero => exact le_rfl
  | succ add ih =>
      cases granted with
      | zero =>
          rw [addConnections]
          split_ifs <;> exact le_rfl
      | succ granted =>
          rw [addConnections]
          split_ifs
          · exact le_rfl
          · exact conns.le_succ.trans (ih granted (conns + 1))

lemma pred_rounds_lt : cfg.rounds - 1 < cfg.rounds := Nat.lt_succ_self _

/-- As many nominal intervals reach the cap. -/
lemma cap_le_rounds : (cfg.cap : ℚ) / 1000 ≤ cfg.rounds * cfg.intervalS := by
  have hlt : cfg.cap < cfg.rounds * cfg.interval := by
    rw [rounds, mul_comm]
    exact Nat.lt_mul_div_succ cfg.cap interval_pos
  have hcast : (cfg.cap : ℚ) < cfg.rounds * cfg.interval := by exact_mod_cast hlt
  rw [intervalS]
  linarith

end LoadConfig

/-- The delays of a stage, in seconds: how long the round after the tick `k` is away (opening
connections, mostly), how long the tick `k` comes after it is due and awaited, how long the
first connection is under load before the clock of the stage starts, and how long stopping the
load takes; and how many connections can be opened in a row in the round `k`. -/
structure Delays where
  away : ℕ → ℚ
  wake : ℕ → ℚ
  lead : ℚ
  reap : ℚ
  granted : ℕ → ℕ
  away_nonneg : ∀ k, 0 ≤ away k
  wake_nonneg : ∀ k, 0 ≤ wake k
  lead_nonneg : 0 ≤ lead
  reap_nonneg : 0 ≤ reap

namespace Delays

variable (d : Delays) (cfg : LoadConfig)

/-- The ticks of the stage: with `MissedTickBehavior::Delay` a tick that comes more than five
milliseconds late moves the ones after it. -/
def timer : Timer ℚ where
  period := cfg.intervalS
  tolerance := 5 / 1000
  hold := d.away
  wake := d.wake
  period_pos := LoadConfig.intervalS_pos
  tolerance_nonneg := by norm_num
  hold_nonneg := d.away_nonneg
  wake_nonneg := d.wake_nonneg

/-- When the counters are read in the round `k`. -/
def fires (k : ℕ) : ℚ := (d.timer cfg).fires k

/-- `started.elapsed()` at the end of the round `k`. -/
def elapsed (k : ℕ) : ℚ := d.fires cfg k + d.away k

/-- The cap is reached in the round `k`. -/
def capped (k : ℕ) : Bool := decide ((cfg.cap : ℚ) / 1000 ≤ d.elapsed cfg k)

variable {d cfg} {k n : ℕ}

lemma fires_mono (h : k ≤ n) : d.fires cfg k ≤ d.fires cfg n := Timer.fires_monotone h

lemma mul_intervalS_le_fires (k : ℕ) : k * cfg.intervalS ≤ d.fires cfg k :=
  Timer.mul_period_le_fires (τ := d.timer cfg) k

lemma fires_nonneg (k : ℕ) : 0 ≤ d.fires cfg k :=
  (mul_nonneg k.cast_nonneg LoadConfig.intervalS_pos.le).trans (mul_intervalS_le_fires k)

/-- The cap is reached in time. -/
lemma capped_rounds : d.capped cfg cfg.rounds = true := by
  have hfires : cfg.rounds * cfg.intervalS ≤ d.fires cfg cfg.rounds :=
    mul_intervalS_le_fires cfg.rounds
  have haway := d.away_nonneg cfg.rounds
  rw [capped, decide_eq_true_eq, elapsed]
  have hcap := cfg.cap_le_rounds
  linarith

end Delays

/-! ### The goodputs -/

/-- The readings of the byte counters. -/
structure Meter where
  goodputs : List ℚ
  movingAvgs : List ℚ
  lastTotal : ℕ

namespace Meter

variable (cfg : LoadConfig)

/-- Nothing read yet. -/
def empty : Meter := ⟨[], [], 0⟩

/-- The next reading. -/
def read (total : ℕ) (m : Meter) : Meter :=
  let delta := total - m.lastTotal
  let goodputs := m.goodputs ++ [delta / cfg.intervalS]
  ⟨goodputs, m.movingAvgs ++ [mean (lastOf cfg.distance goodputs)], total⟩

/-- The meter after the readings `reads 1`, …, `reads k`. -/
structure Shows (reads : ℕ → ℕ) (k : ℕ) (m : Meter) : Prop where
  goodputs : m.goodputs = (List.range k).map fun i =>
    ((reads (i + 1) - reads i : ℕ) : ℚ) / cfg.intervalS
  length : m.movingAvgs.length = k
  last : 0 < k → m.movingAvgs.getLast? = some (mean (lastOf cfg.distance m.goodputs))
  total : m.lastTotal = reads k

variable {cfg} {reads : ℕ → ℕ} {k : ℕ} {m : Meter}

lemma Shows.empty (h : reads 0 = 0) : Meter.empty.Shows cfg reads 0 where
  goodputs := rfl
  length := rfl
  last := fun hpos => absurd hpos (lt_irrefl 0)
  total := h.symm

lemma Shows.read (h : m.Shows cfg reads k) : (m.read cfg (reads (k + 1))).Shows cfg reads (k + 1) where
  goodputs := by
    rw [Meter.read, h.total]
    simp [h.goodputs, List.range_succ]
  length := by simp [Meter.read, h.length]
  last := by simp [Meter.read]
  total := rfl

/-- The goodputs telescope. -/
lemma sum_goodputs (hmono : Monotone reads) (k : ℕ) :
    ((List.range k).map fun i => ((reads (i + 1) - reads i : ℕ) : ℚ) / cfg.intervalS).sum =
      ((reads k : ℚ) - reads 0) / cfg.intervalS := by
  induction k with
  | zero => simp
  | succ k ih =>
      rw [List.range_succ, List.map_append, List.sum_append, ih, List.map_singleton,
        List.sum_singleton, Nat.cast_sub (hmono k.le_succ)]
      ring

/-- **What the last moving average is**: what was read over the last intervals, over their
nominal length. -/
lemma Shows.last_eq (h : m.Shows cfg reads k) (hmono : Monotone reads) (hk : 0 < k) :
    m.movingAvgs.getLast? = some (((reads k : ℚ) - reads (k - cfg.distance)) /
      (min cfg.distance k * cfg.intervalS)) := by
  have hpos := cfg.two_le_distance
  rw [h.last hk, h.goodputs]
  set goodputs := (List.range k).map fun i =>
    ((reads (i + 1) - reads i : ℕ) : ℚ) / cfg.intervalS with hgoodputs
  have hlen : goodputs.length = k := by simp [hgoodputs]
  have htake : (goodputs.take (k - cfg.distance)).sum =
      ((reads (k - cfg.distance) : ℚ) - reads 0) / cfg.intervalS := by
    rw [hgoodputs, ← List.map_take, List.take_range, min_eq_left (Nat.sub_le _ _),
      sum_goodputs hmono]
  have hall : goodputs.sum = ((reads k : ℚ) - reads 0) / cfg.intervalS := sum_goodputs hmono k
  have hsplit := List.sum_take_add_sum_drop goodputs (k - cfg.distance)
  have hcount : (lastOf cfg.distance goodputs).length = min cfg.distance k := by
    rw [lastOf, List.length_drop, hlen]
    omega
  have hne : lastOf cfg.distance goodputs ≠ [] := by
    rw [← List.length_pos_iff, hcount]
    omega
  rw [mean, if_neg hne, hcount, lastOf, hlen]
  congr 1
  calc (goodputs.drop (k - cfg.distance)).sum / (min cfg.distance k : ℕ)
      = (((reads k : ℚ) - reads (k - cfg.distance)) / cfg.intervalS) /
          (min cfg.distance k : ℕ) := by
        congr 1
        rw [hall, htake] at hsplit
        rw [← sub_eq_iff_eq_add'.mpr hsplit.symm]
        ring
    _ = _ := by
        rw [div_div, mul_comm]

end Meter

end LoadGen

end Networker
