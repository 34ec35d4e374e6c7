/-
The time limit of one invocation of the tester (`RunExecutor.ComputeInvocationDeadline`).

* `fromSeconds`: a duration in ticks of a hundred nanoseconds;
* `computeInvocationDeadline`: the limit that the agent computes;
* `computeInvocationDeadline_eq`: it is the budget, up to a day, unless it overflows;
* `worstSecs`: the time in which all requests of the invocation can time out one by one;
* `LargeEnough`, `deadline_suffices_iff`: when the limit is not below it.
-/
import Networker.Agent.CommandLine
import Networker.Data.NatDouble
import Networker.Tester.TargetRunner

namespace Networker

open Data Float64

namespace RunExecutor

/-! ### Durations -/

/-- `TimeSpan.TicksPerSecond`. -/
def ticksPerSecond : ℕ := 10 ^ 7

/-- A duration of a number of ticks: more than fit are an overflow, and exactly one too many is
the greatest duration. -/
def ofTicks (ticks : ℕ) : Option ℕ :=
  if 2 ^ 63 < ticks then none else if ticks = 2 ^ 63 then some (2 ^ 63 - 1) else some ticks

/-- `TimeSpan.FromSeconds`, of a number that is not negative. -/
def fromSeconds (secs : ℕ) : Option ℕ := ofTicks (roundNat (secs * ticksPerSecond))

/-- `DeadlineSlackSecs`. -/
def deadlineSlackSecs : ℕ := 60

/-- `MaxInvocationDeadline`: a day. -/
def maxInvocationDeadline : ℕ := 24 * 3600 * ticksPerSecond

/-- The seconds that are computed, each step in the 64-bit format. -/
def totalSecs (config : TestConfigView) : ℕ :=
  if 0 < config.maxDurationSecs then
    roundNat (config.maxDurationSecs.toNat + deadlineSlackSecs)
  else
    let timeoutSecs := (timeoutSecs config).toNat
    let runs := (TestConfigView.max1 config.runs).toNat
    let modes := max 1 config.modes.length
    let samples := (TestConfigView.max1 config.samples).toNat
    roundNat (roundNat (roundNat (roundNat (timeoutSecs * runs) * modes) * samples) +
      deadlineSlackSecs)

/-- The smaller one of a duration and a day. -/
def capped (deadline : ℕ) : ℕ :=
  if deadline ≤ maxInvocationDeadline then deadline else maxInvocationDeadline

/-- `ComputeInvocationDeadline`. -/
def computeInvocationDeadline (config : TestConfigView) : Option ℕ :=
  (fromSeconds (totalSecs config)).map capped

section Durations

variable {secs total : ℕ}

/-- The seconds from which on a duration overflows. -/
def overflowSecs : ℕ := 922337203686

lemma capped_eq (deadline : ℕ) : capped deadline = min deadline maxInvocationDeadline := by
  rw [capped]
  split_ifs with h
  · exact (min_eq_left h).symm
  · exact (min_eq_right (by omega)).symm

/-- A duration of many seconds is more than a day, if it does not overflow. -/
lemma fromSeconds_large (h : 2 ^ 53 ≤ total * 10000000) :
    (fromSeconds total).map capped =
      if total < overflowSecs then some maxInvocationDeadline else none := by
  have hday : maxInvocationDeadline = 864000000000 := rfl
  have hticks : 2 ^ 53 ≤ roundNat (total * 10000000) := le_roundNat h
  have hbounds := roundNat_bounds (total * 10000000)
  change (ofTicks (roundNat (total * 10000000))).map capped = _
  generalize roundNat (total * 10000000) = ticks at *
  rw [ofTicks, overflowSecs]
  by_cases hfits : total < 922337203686
  · rw [if_neg (by omega), if_pos hfits]
    split_ifs <;> rw [Option.map_some, capped_eq, min_eq_right (by omega)]
  · rw [if_pos (by omega), if_neg hfits]
    rfl

/-- **A duration is exact up to a day, and overflows where its ticks do not fit.** -/
lemma fromSeconds_of_tracks (h : Tracks total secs) :
    (fromSeconds total).map capped =
      if secs < overflowSecs then some (min (secs * ticksPerSecond) maxInvocationDeadline)
      else none := by
  have hday : maxInvocationDeadline = 864000000000 := rfl
  have hoverflow : overflowSecs = 922337203686 := rfl
  have hticks : ticksPerSecond = 10000000 := rfl
  by_cases hlarge : 2 ^ 53 ≤ total * 10000000
  · rw [fromSeconds_large hlarge]
    rcases h.cases with ⟨rfl, -⟩ | ⟨htotal, hsecs⟩
    · rw [hticks, min_eq_right (by omega)]
    · rw [if_neg (by omega), if_neg (by omega)]
  · have hsame : total = secs := by
      rcases h.cases with ⟨rfl, -⟩ | ⟨htotal, -⟩
      · rfl
      · omega
    subst hsame
    rw [fromSeconds, hticks, roundNat_of_lt (not_le.mp hlarge), ofTicks, if_neg (by omega),
      if_neg (by omega), if_pos (by omega), Option.map_some, capped_eq]

end Durations

/-! ### The budget and the worst case -/

section Deadline

variable (config : TestConfigView)

/-- The seconds in which one task times out in every run and every sample. -/
def taskSecs : ℕ :=
  (timeoutSecs config).toNat * max 1 config.runs.toNat * max 1 config.samples.toNat

/-- The tasks of the tester. -/
def invocationTasks : List (Metrics.Protocol × Option ℕ) :=
  TargetRunner.modeTasks ((tokens config.modes).flatMap Cli.expand).eraseDups
    ((passedSizes config).map UInt32.toNat)

/-- The seconds in which every request of the invocation times out, one after the other: targets,
runs, samples and tasks, and the timeout of one request. -/
def worstSecs : ℕ :=
  (endpointToTargets config).length * config.runs.toNat * max 1 config.samples.toNat *
    (invocationTasks config).length * (timeoutSecs config).toNat

/-- The seconds of the budget. -/
def budgetSecs : ℕ := taskSecs config * max 1 config.modes.length + deadlineSlackSecs

/-- The tasks of all targets that the budget does not count. -/
def excessTasks : ℕ :=
  (endpointToTargets config).length * (invocationTasks config).length - max 1 config.modes.length

/-- The budget can be computed, and it is a day, or what it does not count fits the slack. -/
structure LargeEnough : Prop where
  fits : taskSecs config * max 1 config.modes.length < overflowSecs - deadlineSlackSecs
  covers : config.runs = 0 ∨ 86400 - deadlineSlackSecs ≤ taskSecs config * max 1 config.modes.length ∨
    taskSecs config * excessTasks config ≤ deadlineSlackSecs

variable {config}

lemma tracks_totalSecs (h : config.maxDurationSecs = 0) :
    Tracks (totalSecs config) (budgetSecs config) := by
  have hsecs : budgetSecs config = (timeoutSecs config).toNat * max 1 config.runs.toNat *
      max 1 config.modes.length * max 1 config.samples.toNat + deadlineSlackSecs := by
    rw [budgetSecs, taskSecs]
    ring
  rw [totalSecs, h, if_neg (by decide), hsecs, TestConfigView.toNat_max1, TestConfigView.toNat_max1]
  refine Tracks.round (Tracks.add ?_ _)
  refine Tracks.round (Tracks.mul ?_ (le_max_left 1 _))
  refine Tracks.round (Tracks.mul ?_ (le_max_left 1 _))
  exact Tracks.round (Tracks.refl _)

/-- **The deadline is the budget, up to a day, unless it overflows.** -/
lemma computeInvocationDeadline_eq (h : config.maxDurationSecs = 0) :
    computeInvocationDeadline config =
      if budgetSecs config < overflowSecs then
        some (min (budgetSecs config * ticksPerSecond) maxInvocationDeadline)
      else none :=
  fromSeconds_of_tracks (tracks_totalSecs h)

variable (config) in
/-- The worst case is within the budget if the tasks that the budget does not count fit the
slack. -/
lemma worstSecs_le_iff : worstSecs config ≤ budgetSecs config ↔
    config.runs = 0 ∨ taskSecs config * excessTasks config ≤ deadlineSlackSecs := by
  by_cases hruns : config.runs = 0
  · have hzero : worstSecs config = 0 := by
      rw [worstSecs, hruns]
      simp
    simp [hruns, hzero]
  · have hone : max 1 config.runs.toNat = config.runs.toNat := by
      refine max_eq_right (Nat.one_le_iff_ne_zero.mpr fun hzero => hruns ?_)
      exact UInt32.toNat_inj.mp hzero
    have hworst : worstSecs config = taskSecs config *
        ((endpointToTargets config).length * (invocationTasks config).length) := by
      rw [worstSecs, taskSecs, hone]
      ring
    rw [hworst, budgetSecs, excessTasks, Nat.mul_sub, tsub_le_iff_left, or_iff_right hruns]

/-- A deadline that is the smaller one of the budget and a day is not below the smaller one of the
worst case and a day, if the budget is a day or the worst case is within it. -/
lemma min_le_min_iff : min maxInvocationDeadline (worstSecs config * ticksPerSecond) ≤
      min (budgetSecs config * ticksPerSecond) maxInvocationDeadline ↔
    86400 ≤ budgetSecs config ∨ worstSecs config ≤ budgetSecs config := by
  have hday : maxInvocationDeadline = 864000000000 := rfl
  have hticks : ticksPerSecond = 10000000 := rfl
  rw [hday, hticks]
  omega

/-- **The agent does not stop a tester before all its requests have timed out exactly if the
budget can be computed, and it is a day, or what it does not count fits the slack.** -/
theorem deadline_suffices_iff (h : config.maxDurationSecs = 0) :
    (∃ deadline, computeInvocationDeadline config = some deadline ∧
        min maxInvocationDeadline (worstSecs config * ticksPerSecond) ≤ deadline) ↔
      LargeEnough config := by
  have hoverflow : overflowSecs = 922337203686 := rfl
  have hslack : deadlineSlackSecs = 60 := rfl
  have hbudget : budgetSecs config =
      taskSecs config * max 1 config.modes.length + deadlineSlackSecs := rfl
  have hworst := worstSecs_le_iff config
  rw [computeInvocationDeadline_eq h]
  by_cases hfits : budgetSecs config < overflowSecs
  · simp only [if_pos hfits, Option.some.injEq, exists_eq_left', min_le_min_iff]
    constructor
    · intro hcovers
      refine ⟨by omega, ?_⟩
      rcases hcovers with hday | hle
      · exact Or.inr (Or.inl (by omega))
      · rcases hworst.mp hle with hruns | hexcess
        · exact Or.inl hruns
        · exact Or.inr (Or.inr hexcess)
    · rintro ⟨-, hruns | hday | hexcess⟩
      · exact Or.inr (hworst.mpr (Or.inl hruns))
      · exact Or.inl (by omega)
      · exact Or.inr (hworst.mpr (Or.inr hexcess))
  · simp only [if_neg hfits, reduceCtorEq, false_and, exists_false, false_iff]
    rintro ⟨hlt, -⟩
    omega

end Deadline

/-- Ten runs over HTTP/1.1 of a set of hosts, with a timeout of thirty seconds. -/
def hostsView (hosts : List String) : TestConfigView where
  endpointKind := "network"
  network := some ⟨hosts.headD "", none, hosts⟩
  modes := ["http1"]
  runs := 10
  concurrency := 1
  timeoutMs := 30000
  payloadSizes := []
  insecure := false
  isBenchmark := false
  maxDurationSecs := 0
  laghoundToken := none
  laghoundRoute := none

theorem deadline_suffices_one_host :
    ∃ deadline, computeInvocationDeadline (hostsView ["a.example"]) = some deadline ∧
      min maxInvocationDeadline (worstSecs (hostsView ["a.example"]) * ticksPerSecond) ≤
        deadline :=
  (deadline_suffices_iff rfl).mpr ⟨by decide, Or.inr (Or.inr (by decide))⟩

/-- Three hosts are probed one after the other within a deadline for one. -/
theorem three_hosts_one_budget :
    ¬ ∀ config : TestConfigView, config.maxDurationSecs = 0 →
      ∃ deadline, computeInvocationDeadline config = some deadline ∧
        min maxInvocationDeadline (worstSecs config * ticksPerSecond) ≤ deadline := by
  intro h
  obtain ⟨deadline, hdeadline, hle⟩ := h (hostsView ["a.example", "b.example", "c.example"]) rfl
  have hbudget : budgetSecs (hostsView ["a.example", "b.example", "c.example"]) = 360 := by decide
  have hworst : worstSecs (hostsView ["a.example", "b.example", "c.example"]) = 900 := by decide
  rw [computeInvocationDeadline_eq rfl, hbudget, if_pos (by decide)] at hdeadline
  rw [hworst, ← Option.some.inj hdeadline] at hle
  exact absurd hle (by decide)

end RunExecutor

end Networker
