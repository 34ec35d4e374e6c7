/-
The capacity that the `responsiveness` and `mthroughput` modes report, against the rate at which
bytes arrive.

* `capacity_sound_iff`: a stage whose reported intervals are punctual reports no more than the
  rate; the stages with given delays all do exactly when they all are punctual;
* `slow_setup_overstated`: a load of a megabyte a second, reported as more after one slow
  connection set-up.
-/
import Networker.Tester.Mthroughput
import Networker.Tester.Responsiveness

namespace Networker

open Data LoadGen

/-- Whatever rate bounds the arrivals bounds the reported capacity. -/
def Responsiveness.Timeline.Sound {cfg : LoadConfig} {d : Delays}
    (A : Responsiveness.Timeline cfg d) (values : ℕ → Option ℚ) : Prop :=
  ∀ R c : ℚ, AtMost R A.arrived → A.capacity values = some c → c * 10 ^ 6 ≤ R

/-- Whatever rate bounds the arrivals on all connections bounds the reported capacity. -/
def Mthroughput.Timeline.Sound {cfg : LoadConfig} {d : Delays}
    (A : Mthroughput.Timeline cfg d) : Prop :=
  ∀ R c : ℚ, A.Within R → A.capacity = some c → c * 10 ^ 6 ≤ R

/-- **Reported capacity.**  In both modes a stage whose reported intervals are punctual reports no
more than the rate of the arrivals, and the stages with given delays report no more than that for
every load exactly when every one of them that reports a capacity is punctual. -/
theorem capacity_sound_iff (cfg : LoadConfig) (d : Delays) (values : ℕ → Option ℚ) :
    (∀ A : Responsiveness.Timeline cfg d,
      Responsiveness.Punctual cfg d (A.intervals values) → A.Sound values) ∧
    ((∀ A : Responsiveness.Timeline cfg d, A.Sound values) ↔
      ∀ (A : Responsiveness.Timeline cfg d) (R : ℚ), AtMost R A.arrived →
        A.capacity values ≠ none → Responsiveness.Punctual cfg d (A.intervals values)) ∧
    (∀ A : Mthroughput.Timeline cfg d, Mthroughput.Punctual cfg d A.intervals → A.Sound) ∧
    ((∀ A : Mthroughput.Timeline cfg d, A.Sound) ↔
      ∀ (A : Mthroughput.Timeline cfg d) (R : ℚ), A.Within R →
        A.capacity ≠ none → Mthroughput.Punctual cfg d A.intervals) := by
  have hresponsiveness : ∀ A : Responsiveness.Timeline cfg d,
      Responsiveness.Punctual cfg d (A.intervals values) → A.Sound values :=
    fun A hpunctual R c hR hc => Responsiveness.Timeline.capacity_le
      (A.endsAt_intervals values) hpunctual hR hc
  have hmthroughput : ∀ A : Mthroughput.Timeline cfg d,
      Mthroughput.Punctual cfg d A.intervals → A.Sound :=
    fun A hpunctual R c hR hc => Mthroughput.Timeline.capacity_le
      A.endsAt_intervals hpunctual hR hc
  refine ⟨hresponsiveness, ⟨?_, ?_⟩, hmthroughput, ⟨?_, ?_⟩⟩
  · intro hsound A R hR _
    by_contra hlate
    obtain ⟨B, q, c, hq, hc, hlt⟩ := Responsiveness.Timeline.exists_capacity_gt
      (A.endsAt_intervals values) hlate hR
    exact absurd (hsound B q c hq hc) (not_le.mpr hlt)
  · intro hpunctual A R c hR hc
    exact hresponsiveness A (hpunctual A R hR (by simp [hc])) R c hR hc
  · intro hsound A R hR hreports
    by_contra hlate
    -- a stage of one interval reports nothing
    have hn : 1 < A.intervals := by
      by_contra hone
      rw [Mthroughput.Timeline.capacity_eq A.endsAt_intervals, if_neg (by tauto)] at hreports
      exact hreports rfl
    obtain ⟨B, q, c, hq, hc, hlt⟩ := Mthroughput.Timeline.exists_capacity_gt
      A.endsAt_intervals hn hlate hR
    exact absurd (hsound B q c hq hc) (not_le.mpr hlt)
  · intro hpunctual A R c hR hc
    exact hmthroughput A (hpunctual A R hR (by simp [hc])) R c hR hc

/-! ### A slow connection set-up -/

/-- Opening the second connection takes `s` seconds; nothing else is late. -/
def slowSetup (s : ℕ) : Delays where
  away k := if k = 1 then s else 0
  wake _ := 0
  lead := 0
  reap := 0
  granted _ := 1
  away_nonneg k := by split_ifs <;> simp
  wake_nonneg _ := le_rfl
  lead_nonneg := le_rfl
  reap_nonneg := le_rfl

/-- The ticks come at whole seconds. -/
lemma slowSetup_whole {cfg : LoadConfig} (hcfg : cfg.intervalS = 1) (s k : ℕ) :
    ∃ due came : ℕ, ((slowSetup s).timer cfg).tick k = ((due : ℚ), (came : ℚ)) := by
  induction k with
  | zero => exact ⟨0, 0, by simp [Timer.tick, Delays.timer, slowSetup]⟩
  | succ k ih =>
      obtain ⟨due, came, heq⟩ := ih
      have hperiod : ((slowSetup s).timer cfg).period = 1 := hcfg
      have hwake : ((slowSetup s).timer cfg).wake (k + 1) = 0 := rfl
      obtain ⟨away, haway⟩ : ∃ away : ℕ, ((slowSetup s).timer cfg).hold k = away := by
        by_cases hk : k = 1
        · exact ⟨s, by simp [Delays.timer, slowSetup, hk]⟩
        · exact ⟨0, by simp [Delays.timer, slowSetup, hk]⟩
      rw [Timer.tick, heq, hperiod, hwake, haway]
      dsimp only
      split_ifs
      · exact ⟨due + 1, max (due + 1) (came + away), by push_cast; simp⟩
      · exact ⟨came + 1, max (came + 1) (came + away), by push_cast; simp⟩

/-- A steady megabyte a second. -/
def megabyte (t : ℚ) : ℚ := 10 ^ 6 * max 0 t

lemma megabyte_monotone : Monotone megabyte := fun s t hst =>
  mul_le_mul_of_nonneg_left (max_le_max_left 0 hst) (by norm_num)

lemma megabyte_atMost : AtMost (10 ^ 6) megabyte := by
  intro s t hst
  have hgrowth : max 0 t - max 0 s ≤ t - s := by
    rcases le_total 0 s with hs | hs
    · rw [max_eq_right hs, max_eq_right (hs.trans hst)]
    · rw [max_eq_left hs]
      have hmax : max 0 t ≤ t - s := max_le (sub_nonneg.mpr hst) (by linarith)
      linarith
  rw [megabyte, megabyte, ← mul_sub]
  exact mul_le_mul_of_nonneg_left hgrowth (by norm_num)

/-- It reaches whole bytes at the ticks. -/
lemma megabyte_whole {cfg : LoadConfig} (hcfg : cfg.intervalS = 1) (s k : ℕ) :
    ∃ n : ℕ, megabyte ((slowSetup s).fires cfg k) = n := by
  obtain ⟨due, came, heq⟩ := slowSetup_whole hcfg s k
  have hfires : (slowSetup s).fires cfg k = came := congrArg Prod.snd heq
  exact ⟨10 ^ 6 * came, by rw [megabyte, hfires, max_eq_right came.cast_nonneg]; push_cast; rfl⟩

/-- The load of the `responsiveness` mode. -/
def downloadLoad : Responsiveness.Timeline Responsiveness.fromParts (slowSetup 18) where
  arrived := megabyte
  mono := megabyte_monotone
  before t ht := by
    have hzero : t ≤ 0 := by simpa [slowSetup] using ht
    rw [megabyte, max_eq_left hzero, mul_zero]
  whole := megabyte_whole (by norm_num [LoadConfig.intervalS, LoadConfig.interval,
    Responsiveness.fromParts]) 18

/-- The load of the `mthroughput` mode, all of it on the first connection. -/
def aggregateArrivals : Mthroughput.Arrivals Mthroughput.fromParts (slowSetup 13) where
  arrived i t := if i = 0 then megabyte t else 0
  mono i := by
    by_cases hi : i = 0
    · simpa [hi] using megabyte_monotone
    · simpa [hi] using monotone_const
  whole i k := by
    split_ifs
    · exact megabyte_whole (by norm_num [LoadConfig.intervalS, LoadConfig.interval,
        Mthroughput.fromParts]) 13 k
    · exact ⟨0, Nat.cast_zero.symm⟩

def aggregateLoad : Mthroughput.Timeline Mthroughput.fromParts (slowSetup 13) where
  toArrivals := aggregateArrivals
  fresh k i hi := by
    have hidle : i ≠ 0 := by
      have hpos := aggregateArrivals.conns_pos k
      omega
    exact if_neg hidle

lemma aggregateLoad_within : aggregateLoad.Within (10 ^ 6) := by
  intro m
  have htotal : aggregateLoad.total m = if 0 < m then megabyte else fun _ => 0 := by
    funext t
    change ∑ i ∈ Finset.range m, (if i = 0 then megabyte t else 0) = _
    rw [Finset.sum_ite_eq' (Finset.range m) 0 fun _ => megabyte t]
    by_cases hm : 0 < m <;> simp [hm]
  rw [htotal]
  split_ifs
  · exact megabyte_atMost
  · intro s t hst
    simpa using hst

/-- The `responsiveness` mode reports six and two thirds of it, the `mthroughput` mode seven. -/
theorem slow_setup_overstated :
    ¬ downloadLoad.Sound (fun _ => none) ∧ ¬ aggregateLoad.Sound := by
  constructor
  · intro hsound
    have hreported : downloadLoad.capacity (fun _ => none) = some (20 / 3) := by decide +kernel
    exact absurd (hsound _ _ megabyte_atMost hreported) (by norm_num)
  · intro hsound
    have hreported : aggregateLoad.capacity = some 7 := by decide +kernel
    exact absurd (hsound _ _ aggregateLoad_within hreported) (by norm_num)

end Networker
