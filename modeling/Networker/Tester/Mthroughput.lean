/-
The load stage of the `mthroughput` mode, and the capacity that it reports.

* `State`, `round`: the interval loop, one round of it;
* `Arrivals`, `Timeline`: what arrives over time on each connection, none of it before the
  connection is opened;
* `loop`, `runDirection`: the stage; `capacity_eq` says what capacity it reports;
* `Punctual`, `punctual_iff`: when the measure window lasts no longer than its nominal length;
* `endsAt_congr`: how a stage ends does not depend on what arrives in the measure window;
* `capacity_le`, `exists_capacity_gt`: the reported capacity against the rate of the arrivals.
-/
import Mathlib.Algebra.BigOperators.Field
import Networker.Tester.LoadGen

namespace Networker

open Data LoadGen

namespace Mthroughput

/-- `MthroughputConfig::from_parts`: the defaults of the ramp. -/
def fromParts : LoadConfig where
  intervalMs := 1000
  initialConnections := 1
  addPerInterval := 1
  maxConnections := 8
  mad := 4
  sdt := 5 / 100
  maxDurationMs := 15000

/-! ### The interval loop -/

structure State where
  meter : Meter
  snapshots : List (List ℕ)
  saturationReached : Bool
  rampDuration : ℚ
  measureTicksLeft : Option ℕ
  conns : ℕ

/-- What a round finds: the byte counter of each connection, the clock, how many connections can
be opened, and whether the cap is reached at its end. -/
structure Round where
  bytes : ℕ → ℕ
  elapsed : ℚ
  granted : ℕ
  capped : Bool

def start (cfg : LoadConfig) : State := ⟨.empty, [], false, 0, none, cfg.initial⟩

/-- A round of the interval loop, and whether it is the last. -/
def round (cfg : LoadConfig) (x : Round) (s : State) : State × Bool :=
  let perConnTotals := (List.range s.conns).map x.bytes
  let s := { s with
    meter := s.meter.read cfg perConnTotals.sum
    snapshots := s.snapshots ++ [perConnTotals] }
  match s.measureTicksLeft with
  | some left =>
      -- the steady measure window: the connection count is frozen
      if left ≤ 1 then (s, true) else ({ s with measureTicksLeft := some (left - 1) }, x.capped)
  | none =>
      if stable cfg.distance cfg.sdt s.meter.movingAvgs then
        ({ s with
            saturationReached := true
            rampDuration := x.elapsed
            measureTicksLeft := some cfg.distance }, x.capped)
      else if s.conns < cfg.maxConnections then
        ({ s with conns := cfg.addConnections cfg.addPerInterval x.granted s.conns }, x.capped)
      else (s, x.capped)

section Round

variable {cfg : LoadConfig} {x x' : Round} {s s' : State} {left : ℕ}

lemma round_snapshots : (round cfg x s).1.snapshots =
    s.snapshots ++ [(List.range s.conns).map x.bytes] := by
  cases h : s.measureTicksLeft <;> simp only [round, h] <;> split_ifs <;> rfl

lemma round_conns : s.conns ≤ (round cfg x s).1.conns := by
  cases h : s.measureTicksLeft <;> simp only [round, h] <;> split_ifs <;>
    simp [LoadConfig.le_addConnections]

/-- The measure window counts down. -/
lemma round_measuring (h : s.measureTicksLeft = some left) :
    (round cfg x s).1.measureTicksLeft = some (if left ≤ 1 then left else left - 1) := by
  simp only [round, h]
  split_ifs <;> rfl

/-- It begins with as many ticks as the moving average has. -/
lemma round_ramping (h : s.measureTicksLeft = none) :
    (round cfg x s).1.measureTicksLeft = none ∨
      (round cfg x s).1.measureTicksLeft = some cfg.distance := by
  simp only [round, h]
  split_ifs <;> simp

/-- A round is the last at the end of the measure window, or when the cap is reached. -/
lemma round_stops : (round cfg x s).2 =
    (s.measureTicksLeft.any (decide <| · ≤ 1) || x.capped) := by
  cases h : s.measureTicksLeft <;> simp only [round, h] <;> split_ifs <;> simp_all

end Round

/-! ### The stage -/

/-- What has arrived on each connection by every moment, in bytes; its counter counts whole
bytes. -/
structure Arrivals (cfg : LoadConfig) (d : Delays) where
  arrived : ℕ → ℚ → ℚ
  mono : ∀ i, Monotone (arrived i)
  whole : ∀ i k, ∃ n : ℕ, arrived i (d.fires cfg k) = n

namespace Arrivals

variable {cfg : LoadConfig} {d : Delays}

/-- The interval loop of a stage. -/
def loop (A : Arrivals cfg d) : StoppingLoop State where
  start := start cfg
  round k := round cfg ⟨fun i => ⌊A.arrived i (d.fires cfg k)⌋₊, d.fires cfg k, d.granted k,
    d.capped cfg k⟩

/-- All that has arrived on the first `m` connections. -/
def total (A : Arrivals cfg d) (m : ℕ) (t : ℚ) : ℚ := ∑ i ∈ Finset.range m, A.arrived i t

/-- Over every window, at most `R` bytes a second arrive, on however many connections. -/
def Within (A : Arrivals cfg d) (R : ℚ) : Prop := ∀ m, AtMost R (A.total m)

end Arrivals

/-- Arrivals on connections that are open: on those that the loop does not have in a round,
nothing has arrived by then. -/
structure Timeline (cfg : LoadConfig) (d : Delays) extends Arrivals cfg d where
  fresh : ∀ k i, (toArrivals.loop.after k).conns ≤ i → arrived i (d.fires cfg (k + 1)) = 0

/-- What a stage reports of its load. -/
structure Direction where
  saturationReached : Bool
  connections : ℕ
  intervals : ℕ
  rampDuration : ℚ
  measureDuration : ℚ
  loadDuration : ℚ
  bytesTransferred : ℕ
  capacityMbps : Option ℚ
  perConnMbps : List ℚ

/-- The load never moved. -/
def unloaded (conns : ℕ) : String :=
  s!"load moved 0 bytes over {conns} connection(s) — refusing to report a " ++
    "0-capacity link as a measurement"

/-- The aggregate over the measure window, and the connections one by one. -/
def measure (cfg : LoadConfig) (s : State) : Option ℚ × List ℚ :=
  let windowTicks := min cfg.distance (s.snapshots.length - 1)
  let windowSecs := windowTicks * cfg.intervalS
  if windowTicks = 0 ∨ windowSecs ≤ 0 then (none, [])
  else
    let last := s.snapshots.getD (s.snapshots.length - 1) []
    let first := s.snapshots.getD (s.snapshots.length - 1 - windowTicks) []
    let perConn := (List.range s.conns).map fun i =>
      ((last.getD i 0 - first.getD i 0 : ℕ) : ℚ) / windowSecs / 10 ^ 6
    let aggregate := perConn.sum
    (if 0 < aggregate then some aggregate else none, perConn)

namespace Arrivals

variable {cfg : LoadConfig} {d : Delays} (A : Arrivals cfg d)

/-- The intervals of the stage. -/
def intervals : ℕ := (A.loop.run cfg.rounds).1

/-- The stage. -/
def runDirection : Except String Direction :=
  let (n, s) := A.loop.run cfg.rounds
  let loadDuration := d.elapsed cfg n
  let bytesTransferred :=
    ∑ i ∈ Finset.range s.conns, ⌊A.arrived i (d.elapsed cfg n + d.reap)⌋₊
  if bytesTransferred = 0 then .error (unloaded s.conns)
  else
    let (capacityMbps, perConnMbps) := measure cfg s
    .ok
      { saturationReached := s.saturationReached
        connections := s.conns
        intervals := n
        rampDuration := if s.saturationReached then s.rampDuration else loadDuration
        measureDuration := min cfg.distance (s.snapshots.length - 1) * cfg.intervalS
        loadDuration, bytesTransferred, capacityMbps, perConnMbps }

/-- The capacity that the stage reports, in megabytes a second. -/
def capacity : Option ℚ := A.runDirection.toOption.bind (·.capacityMbps)

end Arrivals

/-- The tick that opens the measure window. -/
def opened (cfg : LoadConfig) (n : ℕ) : ℕ := n - min cfg.distance (n - 1)

/-- The ticks of the measure window of a stage of `n` intervals are on time. -/
def Punctual (cfg : LoadConfig) (d : Delays) (n : ℕ) : Prop :=
  (d.timer cfg).OnTime (opened cfg n) n

variable {cfg : LoadConfig} {d : Delays} {n k a : ℕ}

variable (cfg) in
lemma opened_lt (h : 1 < n) : 0 < opened cfg n ∧ opened cfg n < n := by
  have hdist := cfg.two_le_distance
  rw [opened]
  omega

/-- The measure window is punctual exactly when it lasts no longer than its nominal length. -/
lemma punctual_iff (h : 1 < n) : Punctual cfg d n ↔
    d.fires cfg n - d.fires cfg (opened cfg n) ≤
      (min cfg.distance (n - 1) : ℕ) * cfg.intervalS := by
  have hiff := Timer.span_le_iff (τ := d.timer cfg) (opened_lt cfg h).2
  have hcount : n - opened cfg n = min cfg.distance (n - 1) := by
    rw [opened]
    omega
  rw [hcount] at hiff
  exact hiff.symm

variable (cfg) in
lemma nominal_pos (h : 1 < n) : (0 : ℚ) < (min cfg.distance (n - 1) : ℕ) * cfg.intervalS := by
  have hdist := cfg.two_le_distance
  have hmin : 0 < min cfg.distance (n - 1) := by omega
  exact mul_pos (by exact_mod_cast hmin) LoadConfig.intervalS_pos

namespace Arrivals

variable {A B : Arrivals cfg d}

/-! ### What the counters show -/

lemma snapshots_eq (A : Arrivals cfg d) (k : ℕ) : (A.loop.after k).snapshots =
    (List.range k).map fun j =>
      (List.range (A.loop.after j).conns).map fun i => ⌊A.arrived i (d.fires cfg (j + 1))⌋₊ := by
  induction k with
  | zero => rfl
  | succ k ih =>
      have hnext : (A.loop.after (k + 1)).snapshots = _ := round_snapshots
      rw [hnext, ih, List.range_succ, List.map_append, List.map_singleton]

lemma conns_mono (A : Arrivals cfg d) : Monotone fun k => (A.loop.after k).conns :=
  monotone_nat_of_le_succ fun _ => round_conns

lemma conns_pos (A : Arrivals cfg d) (k : ℕ) : 0 < (A.loop.after k).conns := by
  have hinitial : 1 ≤ (A.loop.after 0).conns := le_max_right _ _
  exact hinitial.trans (A.conns_mono k.zero_le)

/-! ### How a stage ends -/

lemma stops_eq (A : Arrivals cfg d) (k : ℕ) : A.loop.stops k =
    ((A.loop.after k).measureTicksLeft.any (decide <| · ≤ 1) || d.capped cfg (k + 1)) :=
  round_stops

/-- The cap ends a stage in time. -/
lemma stops_rounds (A : Arrivals cfg d) : A.loop.stops (cfg.rounds - 1) = true := by
  have hcapped : d.capped cfg (cfg.rounds - 1 + 1) = true := Delays.capped_rounds
  rw [stops_eq, hcapped, Bool.or_true]

lemma run_eq (h : A.loop.EndsAt n) : A.loop.run cfg.rounds = (n, A.loop.after n) :=
  StoppingLoop.run_of_stops A.stops_rounds LoadConfig.pred_rounds_lt h

lemma endsAt_intervals (A : Arrivals cfg d) : A.loop.EndsAt A.intervals :=
  StoppingLoop.endsAt_run A.stops_rounds LoadConfig.pred_rounds_lt

/-- The measure window has at least as many ticks left as the moving average has, less those
since the load was last found unstable. -/
lemma many_left (ha : (A.loop.after a).measureTicksLeft = none) (hk : a ≤ k) :
    ∀ left ∈ (A.loop.after k).measureTicksLeft, cfg.distance + a + 1 ≤ left + k := by
  induction k, hk using Nat.le_induction with
  | base => simp [ha]
  | succ k hk ih =>
      intro left hleft
      cases hbefore : (A.loop.after k).measureTicksLeft with
      | none =>
          have hnext : (A.loop.after (k + 1)).measureTicksLeft = none ∨
              (A.loop.after (k + 1)).measureTicksLeft = some cfg.distance :=
            round_ramping hbefore
          rcases hnext with hnext | hnext
          · simp [hnext] at hleft
          · rw [hnext, Option.mem_some_iff] at hleft
            omega
      | some before =>
          have hnext : (A.loop.after (k + 1)).measureTicksLeft = _ := round_measuring hbefore
          have hmany := ih before (by rw [hbefore]; rfl)
          rw [hnext, Option.mem_some_iff] at hleft
          split_ifs at hleft <;> omega

/-- A stage that does not measure yet does not end its window before it is over. -/
lemma stops_of_unsaturated (ha : (A.loop.after a).measureTicksLeft = none) (hak : a ≤ k)
    (hk : k < a + cfg.distance) : A.loop.stops k = d.capped cfg (k + 1) := by
  rw [stops_eq]
  cases hleft : (A.loop.after k).measureTicksLeft with
  | none => rfl
  | some left =>
      have hmany := many_left ha hak left (by rw [hleft]; rfl)
      have hmore : ¬ left ≤ 1 := by omega
      simp [hmore]

/-- Once the window is open, what arrives decides nothing. -/
lemma control_congr (heq : A.loop.after a = B.loop.after a)
    (hopen : (A.loop.after a).measureTicksLeft.isSome) (hk : a ≤ k) :
    (A.loop.after k).measureTicksLeft.isSome ∧
      (A.loop.after k).measureTicksLeft = (B.loop.after k).measureTicksLeft := by
  induction k, hk using Nat.le_induction with
  | base => exact ⟨hopen, by rw [heq]⟩
  | succ k hk ih =>
      obtain ⟨hsome, hsame⟩ := ih
      obtain ⟨left, hleft⟩ := Option.isSome_iff_exists.mp hsome
      have hnextA : (A.loop.after (k + 1)).measureTicksLeft = _ := round_measuring hleft
      have hnextB : (B.loop.after (k + 1)).measureTicksLeft = _ :=
        round_measuring (hsame.symm.trans hleft)
      exact ⟨by rw [hnextA]; rfl, hnextA.trans hnextB.symm⟩

lemma round_congr (hsame : ∀ i, ∀ t ≤ d.fires cfg a, A.arrived i t = B.arrived i t)
    (hk : k < a) : A.loop.round (k + 1) = B.loop.round (k + 1) := by
  funext s
  have hbytes : (fun i => ⌊A.arrived i (d.fires cfg (k + 1))⌋₊) =
      fun i => ⌊B.arrived i (d.fires cfg (k + 1))⌋₊ :=
    funext fun i => by rw [hsame i _ (Delays.fires_mono hk)]
  change round cfg ⟨fun i => ⌊A.arrived i (d.fires cfg (k + 1))⌋₊, _, _, _⟩ s =
    round cfg ⟨fun i => ⌊B.arrived i (d.fires cfg (k + 1))⌋₊, _, _, _⟩ s
  rw [hbytes]

/-- **How a stage ends** does not depend on what arrives in its measure window. -/
lemma endsAt_congr
    (hsame : ∀ i, ∀ t ≤ d.fires cfg (opened cfg n), A.arrived i t = B.arrived i t)
    (h : A.loop.EndsAt n) : B.loop.EndsAt n := by
  have hround : ∀ k < opened cfg n, A.loop.round (k + 1) = B.loop.round (k + 1) :=
    fun k hk => round_congr hsame hk
  have hafter := StoppingLoop.after_congr A.loop B.loop rfl hround
  have hwindow : n - cfg.distance ≤ opened cfg n := by
    rw [opened]
    omega
  refine h.congr fun k hk => ?_
  rcases lt_or_ge k (opened cfg n) with hbefore | hwithin
  · rw [StoppingLoop.stops, StoppingLoop.stops, hafter k hbefore.le, hround k hbefore]
  · have heq := hafter (n - cfg.distance) hwindow
    cases hleft : (A.loop.after (n - cfg.distance)).measureTicksLeft with
    | none =>
        rw [stops_of_unsaturated hleft (by omega) (by omega),
          stops_of_unsaturated (heq ▸ hleft) (by omega) (by omega)]
    | some left =>
        obtain ⟨-, hcontrol⟩ := control_congr (k := k) heq (by rw [hleft]; rfl) (by omega)
        rw [stops_eq, stops_eq, hcontrol]

end Arrivals

namespace Timeline

variable {A : Timeline cfg d} {q R c : ℚ} {m : ℕ}

/-! ### What a stage reports -/

lemma getD_map_range {α : Type*} (f : ℕ → α) (n k : ℕ) (x : α) :
    ((List.range n).map f).getD k x = if k < n then f k else x := by
  rw [List.getD_eq_getElem?_getD, List.getElem?_map]
  split_ifs with h
  · rw [List.getElem?_range h, Option.map_some, Option.getD_some]
  · rw [List.getElem?_eq_none (by simpa using h), Option.map_none, Option.getD_none]

lemma sum_map_range (f : ℕ → ℚ) (n : ℕ) :
    ((List.range n).map f).sum = ∑ i ∈ Finset.range n, f i := by
  induction n with
  | zero => simp
  | succ n ih =>
      rw [List.range_succ, List.map_append, List.sum_append, ih, Finset.sum_range_succ]
      simp

/-- A snapshot has what has arrived by its tick; a connection that is not in it has nothing. -/
lemma snapshot_eq (A : Timeline cfg d) (i : ℕ) (hk : 0 < k) (hkn : k ≤ n) :
    ((((A.loop.after n).snapshots.getD (k - 1) []).getD i 0 : ℕ) : ℚ) =
      A.arrived i (d.fires cfg k) := by
  obtain ⟨k, rfl⟩ : ∃ j, k = j + 1 := ⟨k - 1, by omega⟩
  obtain ⟨m, hm⟩ := A.whole i (k + 1)
  rw [A.snapshots_eq, Nat.add_sub_cancel, getD_map_range, if_pos (by omega), getD_map_range]
  split_ifs with hopen
  · rw [hm, Nat.floor_natCast]
  · rw [A.fresh k i (not_lt.mp hopen), Nat.cast_zero]

/-- What arrives on the connections of a stage in its measure window. -/
def gain (A : Timeline cfg d) (n : ℕ) : ℚ :=
  A.total (A.loop.after n).conns (d.fires cfg n) -
    A.total (A.loop.after n).conns (d.fires cfg (opened cfg n))

/-- The aggregate is what arrives in the measure window, over its nominal length. -/
lemma measure_eq (hn : 1 < n) : (measure cfg (A.loop.after n)).1 =
    if 0 < A.gain n then
      some (A.gain n / ((min cfg.distance (n - 1) : ℕ) * cfg.intervalS) / 10 ^ 6)
    else none := by
  obtain ⟨hfirst, hlt⟩ := opened_lt cfg hn
  have hpos := nominal_pos cfg hn
  have hdist := cfg.two_le_distance
  have hlen : (A.loop.after n).snapshots.length = n := by simp [A.snapshots_eq]
  have hindex : n - 1 - min cfg.distance (n - 1) = opened cfg n - 1 := by
    rw [opened]
    omega
  have hperConn : ∀ i, ((((A.loop.after n).snapshots.getD (n - 1) []).getD i 0 -
      ((A.loop.after n).snapshots.getD (opened cfg n - 1) []).getD i 0 : ℕ) : ℚ) =
      A.arrived i (d.fires cfg n) - A.arrived i (d.fires cfg (opened cfg n)) := by
    intro i
    have hlast := A.snapshot_eq i (by omega : 0 < n) le_rfl
    have hopened := A.snapshot_eq i hfirst hlt.le
    rw [Nat.cast_sub, hlast, hopened]
    have hle := A.mono i (Delays.fires_mono hlt.le : d.fires cfg (opened cfg n) ≤ d.fires cfg n)
    rw [← hlast, ← hopened] at hle
    exact_mod_cast hle
  have haggregate : ((List.range (A.loop.after n).conns).map fun i =>
      ((((A.loop.after n).snapshots.getD (n - 1) []).getD i 0 -
        ((A.loop.after n).snapshots.getD (opened cfg n - 1) []).getD i 0 : ℕ) : ℚ) /
        ((min cfg.distance (n - 1) : ℕ) * cfg.intervalS) / 10 ^ 6).sum =
      A.gain n / ((min cfg.distance (n - 1) : ℕ) * cfg.intervalS) / 10 ^ 6 := by
    simp only [hperConn]
    rw [sum_map_range, ← Finset.sum_div, ← Finset.sum_div, Finset.sum_sub_distrib]
    rfl
  have hwindow : ¬ (min cfg.distance (n - 1) = 0 ∨
      (min cfg.distance (n - 1) : ℕ) * cfg.intervalS ≤ 0) := by
    rw [not_or, not_le]
    exact ⟨by omega, hpos⟩
  rw [measure]
  dsimp only
  rw [hlen, hindex, if_neg hwindow]
  dsimp only
  rw [haggregate]
  simp only [div_pos_iff_of_pos_right (show (0 : ℚ) < 10 ^ 6 by norm_num),
    div_pos_iff_of_pos_right hpos]

/-- **What capacity a stage reports.** -/
lemma capacity_eq (h : A.loop.EndsAt n) : A.capacity =
    if 1 < n ∧ 0 < A.gain n then
      some (A.gain n / ((min cfg.distance (n - 1) : ℕ) * cfg.intervalS) / 10 ^ 6)
    else none := by
  have hmeasure : (measure cfg (A.loop.after n)).1 = if 1 < n ∧ 0 < A.gain n then
      some (A.gain n / ((min cfg.distance (n - 1) : ℕ) * cfg.intervalS) / 10 ^ 6)
      else none := by
    by_cases hn : 1 < n
    · rw [measure_eq hn]
      simp only [hn, true_and]
    · -- one interval has no window
      have hlen : (A.loop.after n).snapshots.length = n := by simp [A.snapshots_eq]
      have hnone : min cfg.distance (n - 1) = 0 := by omega
      rw [measure]
      dsimp only
      rw [hlen, hnone, if_pos (.inl rfl), if_neg (by tauto)]
  rw [Arrivals.capacity, Arrivals.runDirection, Arrivals.run_eq h]
  dsimp only
  by_cases hbytes : ∑ i ∈ Finset.range (A.loop.after n).conns,
      ⌊A.arrived i (d.elapsed cfg n + d.reap)⌋₊ = 0
  · -- nothing at the end, and so nothing in the window
    have hgain : ¬ (1 < n ∧ 0 < A.gain n) := by
      rintro ⟨hn, hgain⟩
      have hzero : A.total (A.loop.after n).conns (d.fires cfg n) = 0 := by
        refine Finset.sum_eq_zero fun i hi => ?_
        obtain ⟨m, hm⟩ := A.whole i n
        have hend : d.fires cfg n ≤ d.elapsed cfg n + d.reap := by
          have haway := d.away_nonneg n
          have hreap := d.reap_nonneg
          rw [Delays.elapsed]
          linarith
        have hle := A.mono i hend
        rw [hm] at hle ⊢
        have hfloor := Nat.le_floor hle
        rw [Finset.sum_eq_zero_iff.mp hbytes i hi, Nat.le_zero] at hfloor
        rw [hfloor, Nat.cast_zero]
      have hstart : 0 ≤ A.total (A.loop.after n).conns (d.fires cfg (opened cfg n)) := by
        refine Finset.sum_nonneg fun i _ => ?_
        obtain ⟨m, hm⟩ := A.whole i (opened cfg n)
        rw [hm]
        exact m.cast_nonneg
      rw [gain, hzero] at hgain
      linarith
    rw [if_pos hbytes, if_neg hgain]
    rfl
  · rw [if_neg hbytes]
    exact hmeasure

/-- **Punctual stages.**  A stage whose measure window is punctual reports no more than the rate
of the arrivals. -/
lemma capacity_le (h : A.loop.EndsAt n) (hpunctual : Punctual cfg d n) (hR : A.Within R)
    (hc : A.capacity = some c) : c * 10 ^ 6 ≤ R := by
  rw [capacity_eq h] at hc
  split_ifs at hc with hload
  obtain ⟨hn, hgain⟩ := hload
  obtain rfl := Option.some.inj hc
  have hpos := nominal_pos cfg hn
  have hle : d.fires cfg (opened cfg n) ≤ d.fires cfg n :=
    Delays.fires_mono (opened_lt cfg hn).2.le
  have hbound : A.gain n ≤ R * ((min cfg.distance (n - 1) : ℕ) * cfg.intervalS) :=
    (hR _).growth_le hle ((punctual_iff hn).mp hpunctual) hgain
  rw [div_mul_cancel₀ _ (by norm_num), div_le_iff₀ hpos]
  exact hbound

/-! ### Another load in the measure window -/

/-- The load as it was up to the window, and in it the rate `q` on the first connection and none
on the others. -/
def busyArrivals (A : Timeline cfg d) (n : ℕ) (q : ℚ) (hq : 0 ≤ q)
    (hwhole : ∀ k ≤ n, ∃ m : ℕ,
      q * max 0 (d.fires cfg k - d.fires cfg (opened cfg n)) = m) : Arrivals cfg d where
  arrived i := spliced (A.arrived i) (d.fires cfg (opened cfg n)) (d.fires cfg n)
    (if i = 0 then q else 0)
  mono i := monotone_spliced (A.mono i) (by split_ifs <;> simp [hq])
  whole i k := by
    have hle : d.fires cfg (opened cfg n) ≤ d.fires cfg n := Delays.fires_mono (Nat.sub_le _ _)
    have hrate : ∀ k ≤ n, ∃ m : ℕ, (if i = 0 then q else 0) *
        max 0 (d.fires cfg k - d.fires cfg (opened cfg n)) = m := by
      intro k hk
      split_ifs
      · exact hwhole k hk
      · exact ⟨0, by simp⟩
    exact exists_natCast_spliced (fun _ _ => Delays.fires_mono) hle (A.whole i)
      (A.whole i (opened cfg n)) hrate k

variable (hq : 0 ≤ q) (hwhole : ∀ k ≤ n, ∃ m : ℕ,
  q * max 0 (d.fires cfg k - d.fires cfg (opened cfg n)) = m)

lemma busyArrivals_of_le (i : ℕ) {t : ℚ} (ht : t ≤ d.fires cfg (opened cfg n)) :
    (A.busyArrivals n q hq hwhole).arrived i t = A.arrived i t :=
  spliced_of_le ht

lemma busyArrivals_total (hm : 0 < m) : (A.busyArrivals n q hq hwhole).total m =
    spliced (A.total m) (d.fires cfg (opened cfg n)) (d.fires cfg n) q := by
  funext t
  have hrate : ∑ i ∈ Finset.range m, (if i = 0 then q else 0) = q := by
    rw [Finset.sum_ite_eq' (Finset.range m) 0 fun _ => q, if_pos (Finset.mem_range.mpr hm)]
  rw [Arrivals.total]
  change ∑ i ∈ Finset.range m, spliced (A.arrived i) _ _ (if i = 0 then q else 0) t = _
  rw [sum_spliced, hrate]
  rfl

lemma busyArrivals_within (hR : A.Within R) (hRq : R ≤ q) :
    (A.busyArrivals n q hq hwhole).Within q := by
  intro m
  rcases Nat.eq_zero_or_pos m with rfl | hm
  · intro s t hst
    simpa [Arrivals.total] using mul_nonneg hq (sub_nonneg.mpr hst)
  · rw [busyArrivals_total hq hwhole hm]
    exact ((hR m).mono hRq).spliced hq le_rfl

/-- No connection is used before it is open. -/
lemma busyArrivals_fresh (hn : 1 < n) (k i : ℕ)
    (hi : ((A.busyArrivals n q hq hwhole).loop.after k).conns ≤ i) :
    (A.busyArrivals n q hq hwhole).arrived i (d.fires cfg (k + 1)) = 0 := by
  obtain ⟨hfirst, -⟩ := opened_lt cfg hn
  have hround : ∀ k < opened cfg n,
      A.loop.round (k + 1) = (A.busyArrivals n q hq hwhole).loop.round (k + 1) :=
    fun k hk => Arrivals.round_congr (fun i t ht => (busyArrivals_of_le hq hwhole i ht).symm) hk
  have hafter := StoppingLoop.after_congr A.loop (A.busyArrivals n q hq hwhole).loop rfl hround
  rcases lt_or_ge k (opened cfg n) with hbefore | hwithin
  · rw [busyArrivals_of_le hq hwhole i (Delays.fires_mono hbefore)]
    exact A.fresh k i (by rw [hafter k hbefore.le]; exact hi)
  · -- not open yet when the window is, and idle in it
    have hclosed : (A.loop.after (opened cfg n - 1)).conns ≤ i := by
      rw [hafter _ (Nat.sub_le _ _)]
      exact ((A.busyArrivals n q hq hwhole).conns_mono (by omega)).trans hi
    have hidle : i ≠ 0 := by
      have hpos := A.conns_pos (opened cfg n - 1)
      omega
    have hzero := A.fresh _ i hclosed
    rw [Nat.sub_add_cancel hfirst] at hzero
    have hlate : d.fires cfg (opened cfg n) ≤ d.fires cfg (k + 1) :=
      Delays.fires_mono (by omega)
    change spliced (A.arrived i) _ _ (if i = 0 then q else 0) _ = 0
    rw [if_neg hidle, spliced, min_eq_right hlate, hzero]
    ring

/-- The load as it was up to the window, and all of it on the first connection in the window. -/
def busy (A : Timeline cfg d) (hn : 1 < n) : Timeline cfg d where
  toArrivals := A.busyArrivals n q hq hwhole
  fresh := busyArrivals_fresh hq hwhole hn

/-- In the window, it is steady. -/
lemma busy_gain (hn : 1 < n) : (A.busy hq hwhole hn).gain n =
    q * (d.fires cfg n - d.fires cfg (opened cfg n)) := by
  have hle : d.fires cfg (opened cfg n) ≤ d.fires cfg n := Delays.fires_mono (opened_lt cfg hn).2.le
  have htotal : (A.busy hq hwhole hn).total ((A.busy hq hwhole hn).loop.after n).conns = _ :=
    busyArrivals_total hq hwhole ((A.busy hq hwhole hn).conns_pos n)
  rw [gain, htotal, spliced_of_mem hle le_rfl, spliced_of_le le_rfl]
  ring

/-- **Late stages.**  Where the measure window of a stage is not punctual, a load that differs in
it only is reported above its rate. -/
lemma exists_capacity_gt (h : A.loop.EndsAt n) (hn : 1 < n) (hlate : ¬ Punctual cfg d n)
    (hR : A.Within R) : ∃ (B : Timeline cfg d) (q c : ℚ), B.Within q ∧
      B.capacity = some c ∧ q < c * 10 ^ 6 := by
  have hpos := nominal_pos cfg hn
  rw [punctual_iff hn, not_le] at hlate
  obtain ⟨q, hRq, hq, hwhole⟩ := exists_whole_rate R
    (fun k => le_max_left 0 (d.fires cfg k - d.fires cfg (opened cfg n))) (n + 1)
  have hwhole' : ∀ k ≤ n, ∃ m : ℕ,
      q * max 0 (d.fires cfg k - d.fires cfg (opened cfg n)) = m :=
    fun k hk => hwhole k (Nat.lt_succ_of_le hk)
  have hsame : ∀ i, ∀ t ≤ d.fires cfg (opened cfg n),
      A.arrived i t = (A.busy hq.le hwhole' hn).arrived i t := fun i t ht =>
    (busyArrivals_of_le hq.le hwhole' i ht).symm
  have hcapacity := capacity_eq (Arrivals.endsAt_congr hsame h)
  rw [busy_gain, if_pos ⟨hn, mul_pos hq (hpos.trans hlate)⟩] at hcapacity
  refine ⟨A.busy hq.le hwhole' hn, q, _, busyArrivals_within hq.le hwhole' hR hRq, hcapacity, ?_⟩
  rw [div_mul_cancel₀ _ (by norm_num), lt_div_iff₀ hpos]
  exact mul_lt_mul_of_pos_left hlate hq

end Timeline

end Mthroughput

end Networker
