/-
The record of a run (`TestRun` in `networker-tester/src/metrics.rs`).

* `BenchmarkExecutionPlan`, `BenchmarkNoiseThresholds`: the plan of a benchmark, and the
  thresholds for its publication;
* `TestRun`: a run with its attempts, as far as the artifact is made of it;
* `resolvedAttemptPhases`: the phase of every attempt, its own or by position.
-/
import Networker.Tester.Attempt

namespace Networker

namespace Metrics

/-- `BenchmarkExecutionPlan`. -/
structure BenchmarkExecutionPlan where
  source : String
  minSamples : ℕ
  maxSamples : ℕ
  minDurationMs : ℕ
  targetRelativeError : Option Float
  targetAbsoluteError : Option Float
  pilotSampleCount : ℕ := 0
  pilotElapsedMs : Option Float := none
  stopReason : Option String := none

/-- `BenchmarkNoiseThresholds`. -/
structure BenchmarkNoiseThresholds where
  maxPacketLossPercent : Float := 5.0
  maxJitterRatio : Float := 0.25
  maxRttSpreadRatio : Float := 2.0
  maxCpuBusyPercent : Float := 85.0
  maxCpuStealPercent : Float := 5.0

/-- `BenchmarkStabilityCheck`. -/
structure BenchmarkStabilityCheck where
  successfulSamples : ℕ
  rttP50Ms : Float
  rttP95Ms : Float
  jitterMs : Float
  packetLossPercent : Float

/-- `BenchmarkEnvironmentCheck`. -/
structure BenchmarkEnvironmentCheck where
  successfulSamples : ℕ
  rttP50Ms : Float
  rttP95Ms : Float
  packetLossPercent : Float
  cpuBusyPercent : Option Float := none
  cpuStealPercent : Option Float := none

/-- `NetworkBaseline`. -/
structure NetworkBaseline where
  samples : ℕ
  rttP50Ms : Float
  rttP95Ms : Float

/-- `TestRun`. -/
structure TestRun where
  startedAt : DateTime
  finishedAt : Option DateTime
  benchmarkPhase : Option String := none
  benchmarkScenario : Option String := none
  benchmarkLaunchIndex : Option ℕ := none
  benchmarkWarmupAttemptCount : ℕ := 0
  benchmarkPilotAttemptCount : ℕ := 0
  benchmarkOverheadAttemptCount : ℕ := 0
  benchmarkCooldownAttemptCount : ℕ := 0
  benchmarkExecutionPlan : Option BenchmarkExecutionPlan := none
  benchmarkNoiseThresholds : Option BenchmarkNoiseThresholds := none
  benchmarkStabilityCheck : Option BenchmarkStabilityCheck := none
  benchmarkEnvironmentCheck : Option BenchmarkEnvironmentCheck := none
  baseline : Option NetworkBaseline := none
  clockOffsetMs : Option Float := none
  attempts : List RequestAttempt

namespace TestRun

variable (run : TestRun)

/-- `success_count`. -/
def successCount : ℕ := run.attempts.countP (·.success)

/-- `failure_count`. -/
def failureCount : ℕ := run.attempts.countP fun a => !a.success

/-- `primary_phase`. -/
def primaryPhase : String := run.benchmarkPhase.getD "measured"

/-- The phases that a whole run can be dedicated to. -/
def isSpecial (phase : String) : Bool := phase ∈ ["warmup", "overhead", "pilot", "cooldown"]

/-- The phase of an attempt by its position in the run. -/
def positionalPhase (idx : ℕ) : String :=
  let warmupEnd := run.benchmarkWarmupAttemptCount
  let overheadEnd := warmupEnd + run.benchmarkOverheadAttemptCount
  let pilotEnd := overheadEnd + run.benchmarkPilotAttemptCount
  let cooldownStart := run.attempts.length - run.benchmarkCooldownAttemptCount
  if isSpecial run.primaryPhase then run.primaryPhase
  else if idx < warmupEnd then "warmup"
  else if idx < overheadEnd then "overhead"
  else if idx < pilotEnd then "pilot"
  else if 0 < run.benchmarkCooldownAttemptCount ∧ cooldownStart ≤ idx then "cooldown"
  else run.primaryPhase

/-- `resolved_attempt_phases`. -/
def resolvedAttemptPhases : List String :=
  run.attempts.mapIdx fun idx a => a.phase.getD (run.positionalPhase idx)

lemma length_resolvedAttemptPhases :
    run.resolvedAttemptPhases.length = run.attempts.length := by
  rw [resolvedAttemptPhases, List.length_mapIdx]

/-- Where every attempt carries its phase, the positions are not used. -/
lemma resolvedAttemptPhases_of_tagged (h : ∀ a ∈ run.attempts, a.phase.isSome) :
    run.resolvedAttemptPhases = run.attempts.map fun a => a.phase.getD "" := by
  apply List.ext_getElem
  · rw [length_resolvedAttemptPhases, List.length_map]
  · intro i h1 h2
    have hi : i < run.attempts.length := by rwa [List.length_map] at h2
    obtain ⟨phase, hphase⟩ := Option.isSome_iff_exists.mp (h _ (List.getElem_mem hi))
    simp only [resolvedAttemptPhases, List.getElem_mapIdx, List.getElem_map, hphase,
      Option.getD_some]

end TestRun

end Metrics

end Networker
