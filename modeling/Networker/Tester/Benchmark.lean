/-
The adaptive benchmark plan (`networker-tester/src/benchmark.rs`).

* `ResolvedConfig`: what a run reads of its configuration;
* `benchmarkPilotCriteria`, `benchmarkAdaptiveCriteria`: whether a run has a pilot, and
  whether its length is adaptive;
* `medianErrorBounds`: the median of values and the half width of its interval;
* `benchmarkAdaptiveStatus`: whether the samples so far suffice;
* `deriveMeasuredPlanFromPilot`: the plan that a pilot suggests.
-/
import Mathlib.Data.String.Basic
import Networker.Data.Grouped
import Networker.Tester.Statistics
import Networker.Tester.TestRun

namespace Networker

open Data Metrics Statistics

namespace Benchmark

/-- `ADAPTIVE_BOOTSTRAP_RESAMPLES`. -/
def adaptiveBootstrapResamples : ℕ := 2048

/-- `ADAPTIVE_CONFIDENCE_LEVEL`. -/
def adaptiveConfidenceLevel : Float := 0.95

/-- `DEFAULT_AUTO_TARGET_RELATIVE_ERROR`. -/
def defaultAutoTargetRelativeError : Float := 0.05

/-- `DEFAULT_PILOT_MIN_SAMPLES`. -/
def defaultPilotMinSamples : ℕ := 6

/-- `DEFAULT_PILOT_MAX_SAMPLES`. -/
def defaultPilotMaxSamples : ℕ := 12

/-- `DEFAULT_PILOT_MIN_DURATION_MS`. -/
def defaultPilotMinDurationMs : ℕ := 0

/-- `DEFAULT_OVERHEAD_SAMPLES`. -/
def defaultOverheadSamples : ℕ := 1

/-- `DEFAULT_COOLDOWN_SAMPLES`. -/
def defaultCooldownSamples : ℕ := 1

/-- An HTTP stack to compare. -/
structure HttpStack where
  name : String
  httpPort : ℕ
  httpsPort : ℕ

/-- `ResolvedConfig`, as far as a run reads it to decide what it probes. -/
structure ResolvedConfig where
  runs : ℕ
  retries : ℕ
  samples : ℕ
  connectionReuse : Bool
  httpStacks : List HttpStack := []
  benchmarkMode : Bool
  benchmarkPhase : String := "measured"
  benchmarkScenario : String := "default"
  benchmarkLaunchIndex : ℕ := 0
  benchmarkMinSamples : Option ℕ := none
  benchmarkMaxSamples : Option ℕ := none
  benchmarkMinDurationMs : Option ℕ := none
  benchmarkTargetRelativeError : Option Float := none
  benchmarkTargetAbsoluteError : Option Float := none
  benchmarkPilotMinSamples : Option ℕ := none
  benchmarkPilotMaxSamples : Option ℕ := none
  benchmarkPilotMinDurationMs : Option ℕ := none
  benchmarkOverheadSamples : Option ℕ := none
  benchmarkCooldownSamples : Option ℕ := none
  benchmarkMaxPacketLossPercent : Option Float := none
  benchmarkMaxJitterRatio : Option Float := none
  benchmarkMaxRttSpreadRatio : Option Float := none
  benchmarkMaxCpuBusyPercent : Option Float := none
  benchmarkMaxCpuStealPercent : Option Float := none

/-- A target for an error is a positive finite number (`ResolvedConfig::validate`). -/
def validTarget (target : Float) : Bool := target.isFinite && decide (0.0 < target)

/-- `BenchmarkAdaptiveCriteria`. -/
structure AdaptiveCriteria where
  minSamples : ℕ
  maxSamples : ℕ
  minDurationMs : ℕ
  targetRelativeError : Option Float
  targetAbsoluteError : Option Float

/-- `BenchmarkAdaptiveStopReason`. -/
inductive StopReason
  | accuracyTargetReached
  | maxSamplesReached
deriving DecidableEq

/-- `BenchmarkAdaptiveStatus`. -/
structure AdaptiveStatus where
  completedSamples : ℕ
  elapsedMs : Float
  stopReason : Option StopReason

/-- `MedianErrorBounds`. -/
structure MedianErrorBounds where
  median : Float
  absoluteHalfWidth : Float

/-! ### Criteria -/

/-- A run in the measured phase of a benchmark. -/
def measuredBenchmark (cfg : ResolvedConfig) : Bool :=
  cfg.benchmarkMode && cfg.benchmarkPhase == "measured"

/-- The controls of the measured phase. -/
def controlsRequested (cfg : ResolvedConfig) : Bool :=
  cfg.benchmarkMinSamples.isSome || cfg.benchmarkMaxSamples.isSome ||
    cfg.benchmarkMinDurationMs.isSome || cfg.benchmarkTargetRelativeError.isSome ||
    cfg.benchmarkTargetAbsoluteError.isSome

/-- The controls of the pilot. -/
def pilotRequested (cfg : ResolvedConfig) : Bool :=
  cfg.benchmarkPilotMinSamples.isSome || cfg.benchmarkPilotMaxSamples.isSome ||
    cfg.benchmarkPilotMinDurationMs.isSome

/-- `benchmark_pilot_criteria`, as the criteria without targets that the pilot is run with. -/
def benchmarkPilotCriteria (cfg : ResolvedConfig) : Option AdaptiveCriteria :=
  if !measuredBenchmark cfg || !cfg.httpStacks.isEmpty then none
  else if !pilotRequested cfg && controlsRequested cfg then none
  else
    let defaultPilotMax := max 1 (min cfg.runs defaultPilotMaxSamples)
    let defaultPilotMin := min defaultPilotMax defaultPilotMinSamples
    some
      { minSamples := cfg.benchmarkPilotMinSamples.getD defaultPilotMin
        maxSamples := cfg.benchmarkPilotMaxSamples.getD defaultPilotMax
        minDurationMs := cfg.benchmarkPilotMinDurationMs.getD defaultPilotMinDurationMs
        targetRelativeError := none
        targetAbsoluteError := none }

/-- `benchmark_adaptive_criteria`. -/
def benchmarkAdaptiveCriteria (cfg : ResolvedConfig) : Option AdaptiveCriteria :=
  if !measuredBenchmark cfg || !controlsRequested cfg then none
  else some
    { minSamples := cfg.benchmarkMinSamples.getD cfg.runs
      maxSamples := cfg.benchmarkMaxSamples.getD cfg.runs
      minDurationMs := cfg.benchmarkMinDurationMs.getD 0
      targetRelativeError := cfg.benchmarkTargetRelativeError
      targetAbsoluteError := cfg.benchmarkTargetAbsoluteError }

/-! ### The interval around the median -/

/-- `bootstrap_median_interval`. -/
def bootstrapMedianInterval : List Float → Float × Float × Float :=
  Statistics.bootstrapMedianInterval adaptiveBootstrapResamples adaptiveConfidenceLevel

/-- `median_error_bounds`. -/
def medianErrorBounds (values : List Float) : Option MedianErrorBounds :=
  let sorted := Float64.ascending (values.filter Float.isFinite)
  if sorted.length < 2 then none
  else
    let median := percentileFromSorted sorted 50.0
    let (_, lower, upper) := bootstrapMedianInterval sorted
    some ⟨median, (upper - lower) / 2.0⟩

/-! ### The status of a loop -/

/-- `adaptive_case_id`. -/
def adaptiveCaseId : RequestAttempt → String := caseId

/-- The metric of an attempt that succeeded. -/
def measuredValue (a : RequestAttempt) : Option Float :=
  if a.success then primaryMetricValue a else none

/-- The values of a case. -/
def valuesOf (case : String) (attempts : List RequestAttempt) : List Float :=
  (group adaptiveCaseId case attempts).filterMap measuredValue

/-- `benchmark_attempt_wall_time_ms`. -/
def benchmarkAttemptWallTimeMs (attempts : List RequestAttempt) : Float :=
  match (attempts.map (·.startedAt)).min?,
      (attempts.map fun a => a.finishedAt.getD a.startedAt).max? with
  | some first, some last => ((numMicroseconds (last - first)).map millisOf).getD 0.0
  | _, _ => 0.0

/-- The number of attempts in the case that has the fewest, at most the largest 32-bit
integer. -/
def completedSamples (attempts : List RequestAttempt) : ℕ :=
  min ((((keysOf adaptiveCaseId attempts).map fun case =>
    (group adaptiveCaseId case attempts).length).min?).getD 0) (2 ^ 32 - 1)

/-- The error bounds of a case meet the targets. -/
def withinTargets (criteria : AdaptiveCriteria) (bounds : MedianErrorBounds) : Bool :=
  (criteria.targetRelativeError.all fun target =>
      decide (Float64.epsilon < bounds.median.abs) &&
        decide (bounds.absoluteHalfWidth / bounds.median.abs ≤ target)) &&
    criteria.targetAbsoluteError.all fun target => decide (bounds.absoluteHalfWidth ≤ target)

/-- Every case of the attempts meets the targets. -/
def accuracySatisfied (criteria : AdaptiveCriteria) (attempts : List RequestAttempt) : Bool :=
  if criteria.targetRelativeError.isSome || criteria.targetAbsoluteError.isSome then
    !attempts.isEmpty && (keysOf adaptiveCaseId attempts).all fun case =>
      (medianErrorBounds (valuesOf case attempts)).any (withinTargets criteria)
  else true

/-- `benchmark_adaptive_status`. -/
def benchmarkAdaptiveStatus (criteria : AdaptiveCriteria) (attempts : List RequestAttempt) :
    AdaptiveStatus :=
  let elapsed := benchmarkAttemptWallTimeMs attempts
  let completed := completedSamples attempts
  { completedSamples := completed
    elapsedMs := elapsed
    stopReason :=
      if criteria.maxSamples ≤ completed then some .maxSamplesReached
      else if criteria.minSamples ≤ completed &&
          decide (Float.ofNat criteria.minDurationMs ≤ elapsed) &&
          accuracySatisfied criteria attempts then
        some .accuracyTargetReached
      else none }

/-! ### The plan of a pilot -/

/-- A number rounded up into the positive 32-bit integers. -/
def ceilSamples (x : Float) : ℕ :=
  if x.isNaN then 0 else max 1 (min (Float64.ceilIndex x) (2 ^ 32 - 1))

/-- `estimated_samples_for_error_targets`. -/
def estimatedSamplesForErrorTargets (values : List Float)
    (targetRelativeError targetAbsoluteError : Option Float) : ℕ :=
  let count := max 1 (min values.length (2 ^ 32 - 1))
  let currentN := Float.ofNat count
  match medianErrorBounds values with
  | none => count
  | some bounds =>
      let half := bounds.absoluteHalfWidth
      let estimated :=
        match targetRelativeError with
        | some target =>
            if Float64.epsilon < bounds.median.abs then
              let error := half / bounds.median.abs
              Float64.fmax currentN (currentN * Float64.powi (error / target) 2)
            else currentN
        | none => currentN
      let estimated :=
        match targetAbsoluteError with
        | some target =>
            Float64.fmax estimated (currentN * Float64.powi (half / target) 2)
        | none => estimated
      ceilSamples estimated

/-- The samples the pilot asks for in its most demanding case. -/
def estimatedMaxSamples (cfg : ResolvedConfig) (targetRelativeError targetAbsoluteError :
    Option Float) (pilotAttempts : List RequestAttempt) : ℕ :=
  let estimates := (keysOf adaptiveCaseId pilotAttempts).filterMap fun case =>
    match valuesOf case pilotAttempts with
    | [] => none
    | values =>
        some (estimatedSamplesForErrorTargets values targetRelativeError targetAbsoluteError)
  match estimates.max? with
  | some estimate => max 1 (min estimate (max cfg.runs 1))
  | none => cfg.runs

/-- `derive_measured_plan_from_pilot`. -/
def deriveMeasuredPlanFromPilot (cfg : ResolvedConfig) (pilotAttempts : List RequestAttempt) :
    BenchmarkExecutionPlan :=
  let pilotStatus := benchmarkAdaptiveStatus ⟨1, 2 ^ 32 - 1, 0, none, none⟩ pilotAttempts
  let targetRelativeError :=
    cfg.benchmarkTargetRelativeError.or (some defaultAutoTargetRelativeError)
  let targetAbsoluteError := cfg.benchmarkTargetAbsoluteError
  let estimated :=
    estimatedMaxSamples cfg targetRelativeError targetAbsoluteError pilotAttempts
  let minSamples := cfg.benchmarkMinSamples.getD (max pilotStatus.completedSamples 1)
  { source := if controlsRequested cfg then "pilot-assisted" else "pilot-derived"
    minSamples
    maxSamples := cfg.benchmarkMaxSamples.getD
      (min (max estimated minSamples) (max cfg.runs minSamples))
    minDurationMs := cfg.benchmarkMinDurationMs.getD
      (if pilotStatus.elapsedMs.isNaN then 0
        else min (Float64.ceilIndex pilotStatus.elapsedMs) (2 ^ 64 - 1))
    targetRelativeError
    targetAbsoluteError
    pilotSampleCount := pilotStatus.completedSamples
    pilotElapsedMs := some pilotStatus.elapsedMs }

end Benchmark

end Networker
