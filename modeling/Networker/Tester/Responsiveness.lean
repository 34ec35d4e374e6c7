/-
The load stage of the `responsiveness` mode, and the capacity that it reports.

* `State`, `round`: the interval controller, one round of it;
* `Timeline`: what arrives over time on the load connections, as the counter sees it;
* `loop`, `runDirection`: the stage; `capacity_eq` says what capacity it reports;
* `Punctual`, `punctual_iff`: when the reported intervals last no longer than their nominal
  length;
* `endsAt_congr`: how a stage ends does not depend on what arrives in the reported intervals;
* `capacity_le`, `exists_capacity_gt`: the reported capacity against the rate of the arrivals.
-/
import Networker.Tester.LoadGen

namespace Networker

open Data LoadGen

namespace Responsiveness

/-- `ResponsivenessConfig::from_parts`: the defaults of the ramp. -/
def fromParts : LoadConfig where
  intervalMs := 1000
  initialConnections := 1
  addPerInterval := 1
  maxConnections := 16
  mad := 4
  sdt := 5 / 100
  maxDurationMs := 20000

/-! ### The interval controller -/

structure State where
  meter : Meter
  saturationReached : Bool
  responsivenessStable : Bool
  connCount : ℕ
  saturatedConnections : ℕ
  respValues : List ℚ

/-- What a round finds: the byte counter, how many connections can be opened, the responsiveness
of the latest samples, and whether the cap is reached at its end. -/
structure Round where
  total : ℕ
  granted : ℕ
  value : Option ℚ
  capped : Bool

def start (cfg : LoadConfig) : State := ⟨.empty, false, false, cfg.initial, cfg.initial, []⟩

/-- A round of the interval controller, and whether it is the last. -/
def round (cfg : LoadConfig) (x : Round) (s : State) : State × Bool :=
  let s := { s with meter := s.meter.read cfg x.total }
  if s.saturationReached then
    let s := { s with respValues := s.respValues ++ x.value.toList }
    if stable cfg.distance cfg.sdt s.respValues then
      ({ s with responsivenessStable := true }, true)
    else (s, x.capped)
  else if stable cfg.distance cfg.sdt s.meter.movingAvgs then
    ({ s with saturationReached := true, saturatedConnections := s.connCount }, x.capped)
  else if s.connCount < cfg.maxConnections then
    let conns := cfg.addConnections cfg.addPerInterval x.granted s.connCount
    ({ s with connCount := conns, saturatedConnections := conns }, x.capped)
  else (s, x.capped)

section Round

variable {cfg : LoadConfig} {x x' : Round} {s s' : State}

lemma round_meter : (round cfg x s).1.meter = s.meter.read cfg x.total := by
  simp only [round]
  split_ifs <;> rfl

lemma round_saturated (h : s.saturationReached = true) :
    (round cfg x s).1.saturationReached = true := by
  simp only [round, h, if_true]
  split_ifs <;> rfl

lemma round_respValues : (round cfg x s).1.respValues =
    if s.saturationReached then s.respValues ++ x.value.toList else s.respValues := by
  simp only [round]
  split_ifs <;> rfl

/-- A round is the last when the responsiveness is stable or the cap is reached. -/
lemma round_stops : (round cfg x s).2 = ((s.saturationReached &&
    stable cfg.distance cfg.sdt (s.respValues ++ x.value.toList)) || x.capped) := by
  simp only [round]
  split_ifs with hsat hstable hstable hconns <;> simp_all

end Round

/-! ### The stage -/

/-- What has arrived on the load connections by every moment, in bytes.  The clock of the stage
starts with its ticks; nothing arrives before the load begins, and the counter counts whole
bytes. -/
structure Timeline (cfg : LoadConfig) (d : Delays) where
  arrived : ℚ → ℚ
  mono : Monotone arrived
  before : ∀ t ≤ -d.lead, arrived t = 0
  whole : ∀ k, ∃ n : ℕ, arrived (d.fires cfg k) = n

namespace Timeline

variable {cfg : LoadConfig} {d : Delays}

/-- The byte counter as read in the round `k`, and before the first. -/
def reads (A : Timeline cfg d) : ℕ → ℕ
  | 0 => 0
  | k + 1 => ⌊A.arrived (d.fires cfg (k + 1))⌋₊

/-- The interval loop of a stage, for the responsiveness found in each round. -/
def loop (A : Timeline cfg d) (values : ℕ → Option ℚ) : StoppingLoop State where
  start := start cfg
  round k := round cfg ⟨A.reads k, d.granted k, values k, d.capped cfg k⟩

end Timeline

/-- What a stage reports of its load. -/
structure Direction where
  saturationReached : Bool
  responsivenessStable : Bool
  saturatedConnections : ℕ
  intervals : ℕ
  loadDuration : ℚ
  bytesTransferred : ℕ
  capacityMbps : Option ℚ

/-- The load never moved. -/
def unloaded (conns : ℕ) : String :=
  s!"load generator moved 0 bytes over {conns} connection(s) — refusing to report " ++
    "responsiveness for an unloaded link"

namespace Timeline

variable {cfg : LoadConfig} {d : Delays} (A : Timeline cfg d) (values : ℕ → Option ℚ)

/-- The intervals of the stage. -/
def intervals : ℕ := ((A.loop values).run cfg.rounds).1

/-- The stage. -/
def runDirection : Except String Direction :=
  let (n, s) := (A.loop values).run cfg.rounds
  let bytesTransferred := ⌊A.arrived (d.elapsed cfg n + d.reap)⌋₊
  if bytesTransferred = 0 then .error (unloaded s.connCount)
  else .ok
    { saturationReached := s.saturationReached
      responsivenessStable := s.responsivenessStable
      saturatedConnections := s.saturatedConnections
      intervals := n
      loadDuration := d.elapsed cfg n
      bytesTransferred
      capacityMbps := (s.meter.movingAvgs.getLast?.filter (0 < ·)).map (· / 10 ^ 6) }

/-- The capacity that the stage reports, in megabytes a second. -/
def capacity : Option ℚ := (A.runDirection values).toOption.bind (·.capacityMbps)

end Timeline

/-- When the reported intervals begin: with the load, when they are all there are. -/
def opened (cfg : LoadConfig) (d : Delays) (n : ℕ) : ℚ :=
  if n ≤ cfg.distance then -d.lead else d.fires cfg (n - cfg.distance)

/-- The ticks of the reported intervals of a stage of `n` intervals are on time; the load does
not begin before the clock, when the first interval is among them. -/
def Punctual (cfg : LoadConfig) (d : Delays) (n : ℕ) : Prop :=
  if n ≤ cfg.distance then
    d.lead = 0 ∧ (∀ k < n, (d.timer cfg).late k ≤ (d.timer cfg).tolerance) ∧
      (d.timer cfg).late n = 0
  else (d.timer cfg).OnTime (n - cfg.distance) n

variable {cfg : LoadConfig} {d : Delays} {n k a : ℕ}

lemma neg_lead_le_opened : -d.lead ≤ opened cfg d n := by
  have hlead := d.lead_nonneg
  have hfires : 0 ≤ d.fires cfg (n - cfg.distance) := Delays.fires_nonneg _
  rw [opened]
  split_ifs
  · exact le_rfl
  · linarith

lemma opened_le_fires : opened cfg d n ≤ d.fires cfg n := by
  have hlead := d.lead_nonneg
  have hfires : 0 ≤ d.fires cfg n := Delays.fires_nonneg _
  rw [opened]
  split_ifs
  · linarith
  · exact Delays.fires_mono (Nat.sub_le _ _)

/-- The reported intervals are punctual exactly when they last no longer than their nominal
length. -/
lemma punctual_iff : Punctual cfg d n ↔
    d.fires cfg n - opened cfg d n ≤ (min cfg.distance n : ℕ) * cfg.intervalS := by
  have hdist := cfg.two_le_distance
  rw [Punctual, opened]
  split_ifs with hn
  · have hlead := d.lead_nonneg
    have hfires : n * cfg.intervalS ≤ d.fires cfg n := Delays.mul_intervalS_le_fires n
    have hiff := Timer.fires_le_iff (τ := d.timer cfg) n
    change d.fires cfg n ≤ n * cfg.intervalS ↔ _ at hiff
    rw [← hiff, min_eq_right hn]
    constructor
    · rintro ⟨hzero, hle⟩
      linarith
    · intro hle
      exact ⟨by linarith, by linarith⟩
  · have hiff := Timer.span_le_iff (τ := d.timer cfg) (show n - cfg.distance < n by omega)
    rw [← hiff, min_eq_left (by omega), show n - (n - cfg.distance) = cfg.distance by omega]
    rfl

namespace Timeline

variable {A B : Timeline cfg d} {values : ℕ → Option ℚ} {R c : ℚ}

/-! ### What the counter shows -/

lemma arrived_nonneg (A : Timeline cfg d) (t : ℚ) : 0 ≤ A.arrived t := by
  have hzero : A.arrived (min t (-d.lead)) = 0 := A.before _ (min_le_right _ _)
  rw [← hzero]
  exact A.mono (min_le_left _ _)

lemma reads_mono : Monotone A.reads := monotone_nat_of_le_succ fun k => by
  cases k with
  | zero => exact Nat.zero_le _
  | succ k => exact Nat.floor_mono (A.mono (Delays.fires_mono (Nat.le_succ _)))

/-- Nothing is lost to rounding. -/
lemma reads_eq (hk : 0 < k) : (A.reads k : ℚ) = A.arrived (d.fires cfg k) := by
  obtain ⟨k, rfl⟩ : ∃ j, k = j + 1 := ⟨k - 1, by omega⟩
  obtain ⟨m, hm⟩ := A.whole (k + 1)
  rw [reads, hm, Nat.floor_natCast]

/-- What is read over the reported intervals is what arrives in them. -/
lemma reads_sub (hn : 0 < n) : (A.reads n : ℚ) - A.reads (n - cfg.distance) =
    A.arrived (d.fires cfg n) - A.arrived (opened cfg d n) := by
  rw [reads_eq hn, opened]
  split_ifs with hle
  · rw [show n - cfg.distance = 0 by omega, A.before _ le_rfl]
    simp [reads]
  · rw [reads_eq (show 0 < n - cfg.distance by omega)]

lemma shows (A : Timeline cfg d) (values : ℕ → Option ℚ) (k : ℕ) :
    ((A.loop values).after k).meter.Shows cfg A.reads k := by
  induction k with
  | zero => exact Meter.Shows.empty rfl
  | succ k ih =>
      have hmeter : ((A.loop values).after (k + 1)).meter =
          ((A.loop values).after k).meter.read cfg (A.reads (k + 1)) := round_meter
      rw [hmeter]
      exact ih.read

/-! ### How a stage ends -/

lemma stops_eq (A : Timeline cfg d) (values : ℕ → Option ℚ) (k : ℕ) : (A.loop values).stops k =
    ((((A.loop values).after k).saturationReached &&
      stable cfg.distance cfg.sdt
        (((A.loop values).after k).respValues ++ (values (k + 1)).toList)) ||
      d.capped cfg (k + 1)) :=
  round_stops

/-- The cap ends a stage in time. -/
lemma stops_rounds (A : Timeline cfg d) (values : ℕ → Option ℚ) :
    (A.loop values).stops (cfg.rounds - 1) = true := by
  have hcapped : d.capped cfg (cfg.rounds - 1 + 1) = true := Delays.capped_rounds
  rw [stops_eq, hcapped, Bool.or_true]

lemma run_eq (h : (A.loop values).EndsAt n) :
    (A.loop values).run cfg.rounds = (n, (A.loop values).after n) :=
  StoppingLoop.run_of_stops (stops_rounds A values) LoadConfig.pred_rounds_lt h

lemma endsAt_intervals (A : Timeline cfg d) (values : ℕ → Option ℚ) :
    (A.loop values).EndsAt (A.intervals values) :=
  StoppingLoop.endsAt_run (stops_rounds A values) LoadConfig.pred_rounds_lt

lemma megabytes_eq (rate : ℚ) : ((some rate).filter (0 < ·)).map (· / 10 ^ 6) =
    if 0 < rate then some (rate / 10 ^ 6) else none := by
  by_cases h : 0 < rate <;> simp [Option.filter, h]

lemma nominal_pos (h : (A.loop values).EndsAt n) :
    (0 : ℚ) < (min cfg.distance n : ℕ) * cfg.intervalS := by
  have hdist := cfg.two_le_distance
  have hmin : 0 < min cfg.distance n := by
    obtain ⟨k, rfl, -⟩ := h
    omega
  exact mul_pos (by exact_mod_cast hmin) LoadConfig.intervalS_pos

/-- **What capacity a stage reports**: what arrives in the last intervals, over their nominal
length. -/
lemma capacity_eq (h : (A.loop values).EndsAt n) : A.capacity values =
    if 0 < A.arrived (d.fires cfg n) - A.arrived (opened cfg d n) then
      some ((A.arrived (d.fires cfg n) - A.arrived (opened cfg d n)) /
        ((min cfg.distance n : ℕ) * cfg.intervalS) / 10 ^ 6)
    else none := by
  have hn : 0 < n := by
    obtain ⟨k, rfl, -⟩ := h
    exact k.succ_pos
  have hpos := nominal_pos h
  have hlast := (shows A values n).last_eq reads_mono hn
  rw [reads_sub hn] at hlast
  have hend : A.arrived (d.fires cfg n) ≤ A.arrived (d.elapsed cfg n + d.reap) := by
    refine A.mono ?_
    have haway := d.away_nonneg n
    have hreap := d.reap_nonneg
    rw [Delays.elapsed]
    linarith
  rw [capacity, runDirection, run_eq h]
  dsimp only
  rw [hlast, megabytes_eq]
  simp only [div_pos_iff_of_pos_right hpos]
  by_cases hbytes : ⌊A.arrived (d.elapsed cfg n + d.reap)⌋₊ = 0
  · -- nothing at the end, and so nothing in the last intervals
    have hzero : A.arrived (d.fires cfg n) = 0 := by
      obtain ⟨m, hm⟩ := A.whole n
      rw [hm] at hend ⊢
      have hle := Nat.le_floor hend
      rw [hbytes, Nat.le_zero] at hle
      rw [hle, Nat.cast_zero]
    have hstart := A.arrived_nonneg (opened cfg d n)
    rw [if_pos hbytes, if_neg (by linarith)]
    rfl
  · rw [if_neg hbytes]
    rfl

/-- **Punctual stages.**  A stage whose reported intervals are punctual reports no more than the
rate of the arrivals. -/
lemma capacity_le (h : (A.loop values).EndsAt n) (hpunctual : Punctual cfg d n)
    (hR : AtMost R A.arrived) (hc : A.capacity values = some c) : c * 10 ^ 6 ≤ R := by
  have hpos := nominal_pos h
  rw [capacity_eq h] at hc
  split_ifs at hc with hload
  obtain rfl := Option.some.inj hc
  rw [div_mul_cancel₀ _ (by norm_num), div_le_iff₀ hpos]
  exact hR.growth_le opened_le_fires (punctual_iff.mp hpunctual) hload

/-! ### Another load in the reported intervals -/

lemma respValues_eq_nil (h : ((A.loop values).after k).saturationReached = false) :
    ((A.loop values).after k).respValues = [] := by
  induction k with
  | zero => rfl
  | succ k ih =>
      cases hsat : ((A.loop values).after k).saturationReached with
      | true =>
          have hnext : ((A.loop values).after (k + 1)).saturationReached = true :=
            round_saturated hsat
          exact absurd (h.symm.trans hnext) (by simp)
      | false =>
          have hvalues : ((A.loop values).after (k + 1)).respValues = _ := round_respValues
          rw [hvalues, if_neg (by simp [hsat]), ih hsat]

/-- A value for each round after the one that found the load saturated, at most. -/
lemma few_values (ha : ((A.loop values).after a).saturationReached = false) (hk : a ≤ k) :
    ((A.loop values).after k).saturationReached = false ∨
      ((A.loop values).after k).respValues.length + a + 1 ≤ k := by
  induction k, hk using Nat.le_induction with
  | base => exact .inl ha
  | succ k hk ih =>
      have hvalues : ((A.loop values).after (k + 1)).respValues = _ := round_respValues
      right
      rcases ih with hfresh | hfew
      · rw [hvalues, if_neg (by simp [hfresh]), respValues_eq_nil hfresh, List.length_nil]
        omega
      · have hone : (values (k + 1)).toList.length ≤ 1 := by
          cases values (k + 1) <;> simp
        rw [hvalues]
        split_ifs
        · rw [List.length_append]
          change _ + (values (k + 1)).toList.length + a + 1 ≤ k + 1
          omega
        · omega

/-- A stage whose load is not saturated is not found stable before enough values. -/
lemma stops_of_unsaturated (ha : ((A.loop values).after a).saturationReached = false)
    (hak : a ≤ k) (hk : k < a + cfg.distance) :
    (A.loop values).stops k = d.capped cfg (k + 1) := by
  rw [stops_eq]
  rcases few_values ha hak with hfresh | hfew
  · rw [hfresh, Bool.false_and, Bool.false_or]
  · have hunstable : stable cfg.distance cfg.sdt
        (((A.loop values).after k).respValues ++ (values (k + 1)).toList) = false := by
      by_contra hstable
      have hlen := le_length_of_stable (by simpa using hstable)
      have hone : (values (k + 1)).toList.length ≤ 1 := by
        cases values (k + 1) <;> simp
      rw [List.length_append] at hlen
      omega
    rw [hunstable, Bool.and_false, Bool.false_or]

/-- Once the load is saturated, what arrives decides nothing. -/
lemma control_congr (heq : (A.loop values).after a = (B.loop values).after a)
    (hsat : ((A.loop values).after a).saturationReached = true) (hk : a ≤ k) :
    ((A.loop values).after k).saturationReached = true ∧
      ((B.loop values).after k).saturationReached = true ∧
      ((A.loop values).after k).respValues = ((B.loop values).after k).respValues := by
  induction k, hk using Nat.le_induction with
  | base => exact ⟨hsat, heq ▸ hsat, by rw [heq]⟩
  | succ k hk ih =>
      obtain ⟨hA, hB, hvalues⟩ := ih
      have hnextA : ((A.loop values).after (k + 1)).respValues = _ := round_respValues
      have hnextB : ((B.loop values).after (k + 1)).respValues = _ := round_respValues
      refine ⟨round_saturated hA, round_saturated hB, ?_⟩
      rw [hnextA, hnextB, if_pos hA, if_pos hB, hvalues]

/-- **How a stage ends** does not depend on what arrives in the intervals that it reports. -/
lemma endsAt_congr (hreads : ∀ k ≤ n - cfg.distance, A.reads k = B.reads k)
    (h : (A.loop values).EndsAt n) : (B.loop values).EndsAt n := by
  have hround : ∀ k < n - cfg.distance,
      (A.loop values).round (k + 1) = (B.loop values).round (k + 1) := by
    intro k hk
    funext s
    change round cfg ⟨A.reads (k + 1), _, _, _⟩ s = round cfg ⟨B.reads (k + 1), _, _, _⟩ s
    rw [hreads (k + 1) (by omega)]
  have hafter := StoppingLoop.after_congr (A.loop values) (B.loop values) rfl hround
  refine h.congr fun k hk => ?_
  rcases lt_or_ge k (n - cfg.distance) with hbefore | hwithin
  · rw [StoppingLoop.stops, StoppingLoop.stops, hafter k hbefore.le, hround k hbefore]
  · have heq := hafter _ le_rfl
    cases hsat : ((A.loop values).after (n - cfg.distance)).saturationReached with
    | false =>
        rw [stops_of_unsaturated hsat hwithin (by omega),
          stops_of_unsaturated (heq ▸ hsat) hwithin (by omega)]
    | true =>
        obtain ⟨hA, hB, hvalues⟩ := control_congr heq hsat hwithin
        rw [stops_eq, stops_eq, hA, hB, hvalues]

/-- The load as it was up to the reported intervals, and at the rate `q` in them. -/
def busy (A : Timeline cfg d) (n : ℕ) (q : ℚ) (hq : 0 ≤ q)
    (hwhole : ∀ k ≤ n, ∃ m : ℕ, q * max 0 (d.fires cfg k - opened cfg d n) = m) :
    Timeline cfg d where
  arrived := spliced A.arrived (opened cfg d n) (d.fires cfg n) q
  mono := monotone_spliced A.mono hq
  before t ht := by
    rw [spliced_of_le (ht.trans neg_lead_le_opened), A.before t ht]
  whole k := by
    have hstart : ∃ m : ℕ, A.arrived (opened cfg d n) = m := by
      rw [opened]
      split_ifs
      · exact ⟨0, by rw [A.before _ le_rfl, Nat.cast_zero]⟩
      · exact A.whole _
    exact exists_natCast_spliced (fun _ _ => Delays.fires_mono) opened_le_fires A.whole hstart
      hwhole k

/-- **Late stages.**  Where the reported intervals of a stage are not punctual, a load that
differs in them only is reported above its rate. -/
lemma exists_capacity_gt (h : (A.loop values).EndsAt n) (hlate : ¬ Punctual cfg d n)
    (hR : AtMost R A.arrived) : ∃ (B : Timeline cfg d) (q c : ℚ), AtMost q B.arrived ∧
      B.capacity values = some c ∧ q < c * 10 ^ 6 := by
  have hpos := nominal_pos h
  rw [punctual_iff, not_le] at hlate
  obtain ⟨q, hRq, hq, hwhole⟩ := exists_whole_rate R
    (fun k => le_max_left 0 (d.fires cfg k - opened cfg d n)) (n + 1)
  have hwhole' : ∀ k ≤ n, ∃ m : ℕ, q * max 0 (d.fires cfg k - opened cfg d n) = m :=
    fun k hk => hwhole k (Nat.lt_succ_of_le hk)
  have hreads : ∀ k ≤ n - cfg.distance, A.reads k = (A.busy n q hq.le hwhole').reads k := by
    intro k hk
    cases k with
    | zero => rfl
    | succ k =>
        have hopened : opened cfg d n = d.fires cfg (n - cfg.distance) := if_neg (by omega)
        have hbefore : d.fires cfg (k + 1) ≤ opened cfg d n := by
          rw [hopened]
          exact Delays.fires_mono hk
        rw [reads, reads, busy]
        dsimp only
        rw [spliced_of_le hbefore]
  have hload : (A.busy n q hq.le hwhole').arrived (d.fires cfg n) -
      (A.busy n q hq.le hwhole').arrived (opened cfg d n) =
      q * (d.fires cfg n - opened cfg d n) := by
    rw [busy]
    dsimp only
    rw [spliced_of_mem opened_le_fires le_rfl, spliced_of_le le_rfl]
    ring
  have hcapacity := capacity_eq (endsAt_congr hreads h)
  rw [hload, if_pos (mul_pos hq (hpos.trans hlate))] at hcapacity
  refine ⟨_, q, _, (hR.mono hRq).spliced hq.le le_rfl, hcapacity, ?_⟩
  rw [div_mul_cancel₀ _ (by norm_num), lt_div_iff₀ hpos]
  exact mul_lt_mul_of_pos_left hlate hq

end Timeline

end Responsiveness

end Networker
