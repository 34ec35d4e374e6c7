/-
The benchmark artifact of a run (`networker-tester/src/output/json.rs`).

* `AttemptRecord`: an attempt with its case and its phase;
* `benchmarkSampleForAttempt`, `benchmarkLaunchFromRecords`, `benchmarkSummaryFromAttempts`:
  the sample of an attempt, the launch of a run, the summary of a case;
* `benchmarkDataQuality`: what speaks against a publication;
* `toBenchmarkArtifact`: the artifact, of cases, samples, summaries and one launch.

The scan for modes ends within the given number of steps, or there is no summary.
-/
import Mathlib.Data.String.Basic
import Networker.Data.Grouped
import Networker.Tester.StatsShape
import Networker.Tester.TestRun

namespace Networker

open Data Metrics Statistics

namespace BenchmarkArtifact

/-- `REPORT_CONFIDENCE_LEVEL`. -/
def reportConfidenceLevel : Float := 0.95

/-- `TUKEY_FENCE_MULTIPLIER`. -/
def tukeyFenceMultiplier : Float := 1.5

/-- `BOOTSTRAP_RESAMPLES`. -/
def bootstrapResamples : ℕ := 2048

/-- `bootstrap_median_interval`. -/
def bootstrapMedianInterval : List Float → Float × Float × Float :=
  Statistics.bootstrapMedianInterval bootstrapResamples reportConfidenceLevel

/-- `benchmark_case_id`. -/
def benchmarkCaseId : RequestAttempt → String := caseId

/-! ### Cases -/

/-- `BenchmarkCase`. -/
structure BenchmarkCase where
  id : String
  protocol : String
  payloadBytes : Option ℕ
  httpStack : Option String
  metricName : String
  metricUnit : String
  higherIsBetter : Bool

/-- `protocol_is_throughput`. -/
def protocolIsThroughput : Protocol → Bool
  | .download | .download1 | .download2 | .download3
  | .upload | .upload1 | .upload2 | .upload3
  | .webDownload | .webUpload | .udpDownload | .udpUpload => true
  | _ => false

/-- `metric_unit_for_protocol`. -/
def metricUnitForProtocol (p : Protocol) : String :=
  match p with
  | .rpm | .responsiveness => "RPM"
  | .mthroughput => "MB/s"
  | .path => "hops"
  | .pmtud => "bytes"
  | _ => if protocolIsThroughput p then "MB/s" else "ms"

/-- `protocol_is_higher_better`. -/
def protocolIsHigherBetter (p : Protocol) : Bool :=
  protocolIsThroughput p ||
    match p with
    | .rpm | .responsiveness | .mthroughput => true
    | _ => false

/-- `benchmark_case_for_attempt`. -/
def benchmarkCaseForAttempt (a : RequestAttempt) : BenchmarkCase where
  id := benchmarkCaseId a
  protocol := a.protocol.name
  payloadBytes := attemptPayloadBytes a
  httpStack := a.httpStack
  metricName := primaryMetricLabel a.protocol
  metricUnit := metricUnitForProtocol a.protocol
  higherIsBetter := protocolIsHigherBetter a.protocol

/-- The one text that all texts are, or a text for mixtures, or one for no texts. -/
def common (mixed none : String) : List String → String
  | [] => none
  | first :: rest => if rest.all (· == first) then first else mixed

/-- `aggregate_metric_name`. -/
def aggregateMetricName (cases : List BenchmarkCase) : String :=
  common "Primary metric" "Primary metric" (cases.map (·.metricName))

/-- `aggregate_metric_unit`. -/
def aggregateMetricUnit (cases : List BenchmarkCase) : String :=
  common "mixed" "unknown" (cases.map (·.metricUnit))

/-- The case of all attempts together. -/
def aggregateCase (cases : List BenchmarkCase) : BenchmarkCase where
  id := "aggregate"
  protocol := "aggregate"
  payloadBytes := none
  httpStack := none
  metricName := aggregateMetricName cases
  metricUnit := aggregateMetricUnit cases
  higherIsBetter := cases.all (·.higherIsBetter)

/-! ### Samples and launches -/

/-- `BenchmarkAttemptRecord`. -/
structure AttemptRecord where
  attempt : RequestAttempt
  caseId : String
  phase : String
  launchIndex : ℕ

/-- `BenchmarkSample`. -/
structure BenchmarkSample where
  attemptId : ℕ
  caseId : String
  launchIndex : ℕ
  phase : String
  iterationIndex : ℕ
  success : Bool
  retryCount : ℕ
  inclusionStatus : String
  metricValue : Option Float
  metricUnit : String
  startedAt : DateTime
  finishedAt : Option DateTime
  totalDurationMs : Option Float
  ttfbMs : Option Float

/-- A text with every hyphen replaced. -/
def withoutHyphens (s : String) : String :=
  String.ofList (s.toList.map fun c => if c = '-' then '_' else c)

/-- Whether and why an attempt is part of the summaries. -/
def inclusionStatus (record : AttemptRecord) (primaryPhase : String) : String :=
  if record.phase ≠ primaryPhase then "excluded_phase_" ++ withoutHyphens record.phase
  else if !record.attempt.success then "excluded_failure"
  else if (primaryMetricValue record.attempt).isNone then "excluded_missing_metric"
  else if 0 < record.attempt.retryCount then "included_after_retry"
  else "included"

/-- `benchmark_sample_for_attempt`. -/
def benchmarkSampleForAttempt (primaryPhase : String) (record : AttemptRecord) :
    BenchmarkSample where
  attemptId := record.attempt.attemptId
  caseId := record.caseId
  launchIndex := record.launchIndex
  phase := record.phase
  iterationIndex := record.attempt.sequenceNum
  success := record.attempt.success
  retryCount := record.attempt.retryCount
  inclusionStatus := inclusionStatus record primaryPhase
  metricValue := primaryMetricValue record.attempt
  metricUnit := metricUnitForProtocol record.attempt.protocol
  startedAt := record.attempt.startedAt
  finishedAt := record.attempt.finishedAt
  totalDurationMs := record.attempt.totalDurationMs
  ttfbMs := record.attempt.results.http.map HttpResult.ttfbMs

/-- `BenchmarkLaunch`. -/
structure BenchmarkLaunch where
  launchIndex : ℕ
  scenario : String
  primaryPhase : String
  startedAt : DateTime
  finishedAt : Option DateTime
  phasesPresent : List String
  sampleCount : ℕ
  primarySampleCount : ℕ
  warmupSampleCount : ℕ
  successCount : ℕ
  failureCount : ℕ

/-- A phase added to the phases, unless it is there. -/
def addPhase (phases : List String) (phase : String) : List String :=
  if phase ∈ phases then phases else phases ++ [phase]

/-- The phases of a run, in the order of their first appearance. -/
def phasesPresent (run : Metrics.TestRun) (records : List AttemptRecord) (primaryPhase : String) :
    List String :=
  let checks :=
    if run.benchmarkEnvironmentCheck.isSome || run.baseline.isSome then ["environment-check"]
    else []
  let checks :=
    if run.benchmarkStabilityCheck.isSome then addPhase checks "stability-check" else checks
  match (records.map (·.phase)).foldl addPhase checks with
  | [] => [primaryPhase]
  | phases => phases

/-- The records of the primary phase. -/
def primaryRecords (records : List AttemptRecord) (primaryPhase : String) :
    List AttemptRecord :=
  records.filter fun record => record.phase == primaryPhase

/-- `benchmark_launch_from_records`. -/
def benchmarkLaunchFromRecords (run : Metrics.TestRun) (records : List AttemptRecord)
    (scenario primaryPhase : String) (launchIndex : ℕ) : BenchmarkLaunch :=
  let primary := primaryRecords records primaryPhase
  let successCount := primary.countP (·.attempt.success)
  { launchIndex
    scenario
    primaryPhase
    startedAt := run.startedAt
    finishedAt := run.finishedAt
    phasesPresent := phasesPresent run records primaryPhase
    sampleCount := records.length
    primarySampleCount := primary.length
    warmupSampleCount := records.countP (·.phase == "warmup")
    successCount
    failureCount := primary.length - successCount }

/-! ### Summaries -/

/-- `BenchmarkSummary`. -/
structure BenchmarkSummary where
  case : BenchmarkCase
  sampleCount : ℕ
  includedSampleCount : ℕ
  excludedSampleCount : ℕ
  successCount : ℕ
  failureCount : ℕ
  bytesTransferred : ℕ
  wallTimeMs : Float
  rps : Float
  min : Float
  mean : Float
  p5 : Float
  p25 : Float
  p50 : Float
  p75 : Float
  p95 : Float
  p99 : Float
  p999 : Float
  max : Float
  stddev : Float
  standardError : Float
  variance : Float
  cv : Float
  iqr : Float
  lowerFence : Float
  upperFence : Float
  lowOutlierCount : ℕ
  highOutlierCount : ℕ
  outlierCount : ℕ
  skewness : Float
  kurtosis : Float
  mvalue : Option Float
  mad : Float
  ci95Lower : Float
  ci95Upper : Float
  relativeMarginOfError : Float
  qualityTier : String
  latencyMeanMs : Option Float
  latencyP50Ms : Option Float
  latencyP99Ms : Option Float
  latencyP999Ms : Option Float
  latencyMaxMs : Option Float

/-- `quality_tier_for_cv`. -/
def qualityTierForCv (cv : Float) : String :=
  if !cv.isFinite then "unknown"
  else if cv ≤ 0.03 then "excellent"
  else if cv ≤ 0.08 then "good"
  else if cv ≤ 0.15 then "fair"
  else "unreliable"

/-- `wall_time_ms`. -/
def wallTimeMs (timestamps : List DateTime) : Float :=
  match timestamps.min?, timestamps.max? with
  | some first, some last => ((numMicroseconds (last - first)).map millisOf).getD 0.0
  | _, _ => 0.0

/-- The values that the summary of attempts includes, sorted. -/
def includedValues (attempts : List RequestAttempt) : List Float :=
  Float64.ascending (attempts.filterMap fun a =>
    if a.success then primaryMetricValue a else none)

/-- The mean of the included values. -/
def mean (values : List Float) : Float := if values.isEmpty then 0.0 else meanOf values

/-- The variance of the included values. -/
def variance (values : List Float) : Float :=
  if 1 < values.length then varianceOf (mean values) values else 0.0

/-- The coefficient of variation of the included values. -/
def cv (values : List Float) : Float :=
  if Float64.epsilon < (mean values).abs then (variance values).sqrt / (mean values).abs else 0.0

/-- The half width of an interval relative to the median. -/
def relativeMargin (p50 lower upper : Float) : Float :=
  if Float64.epsilon < p50.abs then (upper - lower) / 2.0 / p50.abs else 0.0

/-- A central moment of the included values. -/
def moment (values : List Float) (n : ℕ) : Float :=
  Float64.sum (values.map fun value => Float64.powi (value - mean values) n) /
    Float.ofNat values.length

/-- `benchmark_summary_from_attempts`. -/
def benchmarkSummaryFromAttempts (fuel : ℕ) (case : BenchmarkCase)
    (attempts : List RequestAttempt) : Option BenchmarkSummary :=
  let values := includedValues attempts
  let timestamps := attempts.flatMap fun a => a.startedAt :: a.finishedAt.toList
  let wall := wallTimeMs timestamps
  let average := mean values
  let stddev := (variance values).sqrt
  let p25 := percentileFromSorted values 25.0
  let p50 := percentileFromSorted values 50.0
  let p75 := percentileFromSorted values 75.0
  let p99 := percentileFromSorted values 99.0
  let p999 := percentileFromSorted values 99.9
  let largest := values.getLastD 0.0
  let iqr := p75 - p25
  let lowerFence := p25 - iqr * tukeyFenceMultiplier
  let upperFence := p75 + iqr * tukeyFenceMultiplier
  let lowOutlierCount := values.countP fun v => decide (v < lowerFence)
  let highOutlierCount := values.countP fun v => decide (upperFence < v)
  let deviations := Float64.ascending (values.map fun v => (v - p50).abs)
  let (standardError, ci95Lower, ci95Upper) := bootstrapMedianInterval values
  let latency (value : Float) : Option Float :=
    if case.metricUnit == "ms" then some value else none
  (StatsShape.mvalue fuel values).map fun mvalue =>
    { case
      sampleCount := attempts.length
      includedSampleCount := values.length
      excludedSampleCount := attempts.length - values.length
      successCount := attempts.countP (·.success)
      failureCount := attempts.countP fun a => !a.success
      bytesTransferred := (attempts.map attemptBytesTransferred).sum
      wallTimeMs := wall
      rps := if 0.0 < wall then Float.ofNat attempts.length / (wall / 1000.0) else 0.0
      min := values.headD 0.0
      mean := average
      p5 := percentileFromSorted values 5.0
      p25
      p50
      p75
      p95 := percentileFromSorted values 95.0
      p99
      p999
      max := largest
      stddev
      standardError
      variance := variance values
      cv := cv values
      iqr
      lowerFence
      upperFence
      lowOutlierCount
      highOutlierCount
      outlierCount := lowOutlierCount + highOutlierCount
      skewness := if 2 < values.length ∧ Float64.epsilon < stddev then
        moment values 3 / Float64.powi stddev 3 else 0.0
      kurtosis := if 3 < values.length ∧ Float64.epsilon < stddev then
        moment values 4 / Float64.powi stddev 4 - 3.0 else 0.0
      mvalue
      mad := medianFromSorted deviations
      ci95Lower
      ci95Upper
      relativeMarginOfError := relativeMargin p50 ci95Lower ci95Upper
      qualityTier := if values.isEmpty then "unknown" else qualityTierForCv (cv values)
      latencyMeanMs := latency average
      latencyP50Ms := latency p50
      latencyP99Ms := latency p99
      latencyP999Ms := latency p999
      latencyMaxMs := latency largest }

/-! ### Data quality -/

/-- What speaks for caution, and what speaks against a publication. -/
structure Findings where
  warnings : List String := []
  publicationBlockers : List String := []

/-- Findings behind others. -/
def Findings.and (a b : Findings) : Findings :=
  ⟨a.warnings ++ b.warnings, a.publicationBlockers ++ b.publicationBlockers⟩

/-- Many findings, one behind the other. -/
def Findings.all : List Findings → Findings := List.foldl Findings.and {}

/-- A warning, if there is a reason. -/
def warnIf (c : Bool) (text : String) : Findings := { warnings := if c then [text] else [] }

/-- A blocker, if there is a reason. -/
def blockIf (c : Bool) (text : String) : Findings :=
  { publicationBlockers := if c then [text] else [] }

/-- A text that is both a warning and a blocker. -/
def both (text : String) : Findings := ⟨[text], [text]⟩

/-- `packet_loss_exceeds_threshold`. -/
def packetLossExceedsThreshold (packetLossPercent thresholdPercent : Float) : Bool :=
  if thresholdPercent ≤ 0.0 then decide (0.0 < packetLossPercent)
  else decide (thresholdPercent ≤ packetLossPercent)

/-- A reading relative to the median round trip, or a default without one. -/
def ratioTo (p50 reading default : Float) : Float := if 0.0 < p50 then reading / p50 else default

/-- The text of a threshold that was exceeded. -/
def exceeds (what : String) (digits : ℕ) (reading threshold : Float) (unit : String) : String :=
  what ++ " " ++ Float64.toFixed digits reading ++ unit ++
    " exceeds the configured publication threshold " ++ Float64.toFixed digits threshold ++ unit

/-- The noise of a stability check. -/
def stabilityNoise (t : BenchmarkNoiseThresholds) (s : BenchmarkStabilityCheck) :
    String × Findings :=
  if s.successfulSamples = 0 then
    ("high", both "Stability-check did not collect any successful RTT samples")
  else
    let spread := ratioTo s.rttP50Ms s.rttP95Ms 1.0
    let jitter := ratioTo s.rttP50Ms s.jitterMs 0.0
    let lossy := packetLossExceedsThreshold s.packetLossPercent t.maxPacketLossPercent
    let jittery := decide (t.maxJitterRatio ≤ jitter)
    let spreadOut := decide (t.maxRttSpreadRatio ≤ spread)
    let level :=
      if lossy || jittery || spreadOut then "high"
      else if decide (0.0 < s.packetLossPercent) || decide (0.10 ≤ jitter) ||
          decide (1.3 ≤ spread) then "medium"
      else "low"
    (level,
      (warnIf (decide (1.0 ≤ s.packetLossPercent)) ("Stability-check observed " ++
          Float64.toFixed 1 s.packetLossPercent ++ "% packet loss")).and <|
        (blockIf lossy (exceeds "Stability-check packet loss" 1 s.packetLossPercent
          t.maxPacketLossPercent "%")).and <|
        (warnIf (decide (0.10 ≤ jitter)) "Stability-check detected elevated RTT jitter").and <|
        (blockIf jittery (exceeds "Stability-check jitter ratio" 2 jitter
          t.maxJitterRatio "")).and <|
        (warnIf (decide (1.3 ≤ spread)) "Stability-check detected elevated RTT spread").and <|
        blockIf spreadOut (exceeds "Stability-check RTT spread ratio" 2 spread
          t.maxRttSpreadRatio ""))

/-- The noise that the spread of round trips shows. -/
def spreadNoise (t : BenchmarkNoiseThresholds) (ratio : Float) (high moderate what : String) :
    String × Findings :=
  if t.maxRttSpreadRatio ≤ ratio then
    ("high", (warnIf true high).and
      (blockIf true (exceeds what 2 ratio t.maxRttSpreadRatio "")))
  else if 1.3 ≤ ratio then ("medium", warnIf true moderate)
  else ("low", {})

/-- The noise of an environment check. -/
def environmentNoise (t : BenchmarkNoiseThresholds) (e : BenchmarkEnvironmentCheck) :
    String × Findings :=
  let loss := "Environment-check observed " ++ Float64.toFixed 1 e.packetLossPercent ++
    "% packet loss"
  if e.successfulSamples = 0 then
    ("high", both "Environment-check did not collect any successful RTT samples")
  else if packetLossExceedsThreshold e.packetLossPercent t.maxPacketLossPercent then
    ("high", (warnIf true loss).and (blockIf true (exceeds "Environment-check packet loss" 1
      e.packetLossPercent t.maxPacketLossPercent "%")))
  else if 0.0 < e.packetLossPercent then ("medium", warnIf true loss)
  else
    spreadNoise t (ratioTo e.rttP50Ms e.rttP95Ms 1.0)
      "High environment-check RTT spread detected"
      "Moderate environment-check RTT spread detected" "Environment-check RTT spread ratio"

/-- The noise of a baseline. -/
def baselineNoise (t : BenchmarkNoiseThresholds) : Option NetworkBaseline → String × Findings
  | none => ("medium", warnIf true "No network baseline recorded")
  | some baseline =>
      if baseline.samples = 0 then
        ("high", both "Baseline RTT measurement did not collect samples")
      else
        spreadNoise t (ratioTo baseline.rttP50Ms baseline.rttP95Ms 1.0)
          "High baseline RTT spread detected" "Moderate baseline RTT spread detected"
          "Baseline RTT spread ratio"

/-- The noise level, and what was found: of the stability check, else of the environment
check, else of the baseline. -/
def noise (t : BenchmarkNoiseThresholds) (run : Metrics.TestRun) : String × Findings :=
  match run.benchmarkStabilityCheck, run.benchmarkEnvironmentCheck with
  | some stability, _ => stabilityNoise t stability
  | none, some environment => environmentNoise t environment
  | none, none => baselineNoise t run.baseline

/-- A CPU reading of the environment check. -/
def cpuFinding (what : String) (threshold : Float) (reading : Option Float) : Findings :=
  match reading with
  | some reading =>
      if threshold ≤ reading then
        (warnIf true ("Environment-check observed " ++ Float64.toFixed 1 reading ++ "% tester " ++
          what)).and (blockIf true (exceeds ("Environment-check tester " ++ what) 1 reading
            threshold "%"))
      else {}
  | none => {}

/-- The CPU readings of the environment check. -/
def cpuFindings (t : BenchmarkNoiseThresholds) (run : Metrics.TestRun) : Findings :=
  match run.benchmarkEnvironmentCheck with
  | some environment =>
      (cpuFinding "CPU busy" t.maxCpuBusyPercent environment.cpuBusyPercent).and
        (cpuFinding "CPU steal" t.maxCpuStealPercent environment.cpuStealPercent)
  | none => {}

/-- A clock that is off. -/
def clockFindings (run : Metrics.TestRun) : Findings :=
  match run.clockOffsetMs with
  | some offset => warnIf (decide (100.0 < offset.abs)) ("Client clock is " ++
      Float64.toFixed 0 offset ++ " ms off the NTP reference — timestamps and cross-host " ++
      "comparisons carry this offset")
  | none => {}

/-- What is found in the summary of one case. -/
def caseFindings (label : String → String) (case : BenchmarkSummary) : Findings :=
  let warn (c : Bool) (text : String) := warnIf c (label text)
  let block (c : Bool) (text : String) := blockIf c (label text)
  (warn (decide (0 < case.failureCount)) (Text.ofNat case.failureCount ++
      " failed attempts were excluded from the primary metric summary")).and <|
    (block (decide (0 < case.failureCount)) "Measured phase contained failed attempts").and <|
    (warn (decide (0.15 < case.cv)) "High sample variability detected").and <|
    (block (decide (0.10 < case.cv))
      "Sample variability exceeds the publication threshold").and <|
    (warn (decide (0 < case.outlierCount)) (Text.ofNat case.outlierCount ++
      " measured samples were flagged outside Tukey 1.5xIQR fences")).and <|
    (warn (decide (0.10 < case.relativeMarginOfError))
      "Confidence interval is wide relative to the median").and <|
    (block (decide (0.05 < case.relativeMarginOfError))
      "Confidence interval is too wide for publication-ready claims").and <|
    (warn (decide (1.0 < case.kurtosis))
      "Heavy-tailed distribution detected in the primary metric").and <|
    (warn (decide (1.0 < case.skewness.abs))
      "Skewed distribution detected in the primary metric").and <|
    match case.mvalue with
    | some mvalue =>
        (Findings.mk ((StatsShape.mvalueWarning mvalue).map label).toList []).and
          (block (decide (StatsShape.mvalueBimodal < mvalue))
            "Primary metric distribution is multimodal (mixed behaviours)")
    | none => {}

/-- A message with the case it is about, if there are several. -/
def caseLabel (multiCase : Bool) (case : BenchmarkSummary) (message : String) : String :=
  if multiCase then "[" ++ case.case.id ++ "] " ++ message else message

/-- Whether the case with the fewest samples has enough. -/
def sufficiencyOf (worstIncluded : ℕ) : String :=
  if 100 ≤ worstIncluded then "adequate" else if 30 ≤ worstIncluded then "marginal"
  else "insufficient"

/-- What is found about the number of samples. -/
def sufficiencyFindings (worstIncluded : ℕ) : Findings :=
  let worst := Text.ofNat worstIncluded
  let warning :=
    if 100 ≤ worstIncluded then []
    else if 30 ≤ worstIncluded then
      ["Sample count is marginal for publication-quality claims (worst case n=" ++ worst ++
        "; p99/p999 are not tail estimates below n=100 — the values are kept but " ++
        "indistinguishable from the max)"]
    else
      ["Insufficient included samples for strong benchmark claims (worst case n=" ++ worst ++
        "; tail percentiles p95 and beyond are not tail estimates at this size)"]
  (Findings.mk warning []).and (blockIf (sufficiencyOf worstIncluded != "adequate")
    ("Sample sufficiency is " ++ sufficiencyOf worstIncluded ++ " rather than adequate"))

/-- `BenchmarkDataQuality`. -/
structure BenchmarkDataQuality where
  noiseLevel : String
  sampleStabilityCv : Float
  sufficiency : String
  warnings : List String
  publicationReady : Bool
  confidenceLevel : Float
  relativeMarginOfError : Float
  qualityTier : String
  lowOutlierCount : ℕ
  highOutlierCount : ℕ
  outlierCount : ℕ
  publicationBlockers : List String

/-- The summaries that are judged: of the cases, or of everything where there is no case. -/
def judged (perCase : List BenchmarkSummary) (aggregate : BenchmarkSummary) :
    List BenchmarkSummary :=
  if perCase.isEmpty then [aggregate] else perCase

/-- The number of samples of the case that has the fewest. -/
def worstIncluded (cases : List BenchmarkSummary) : ℕ :=
  ((cases.map (·.includedSampleCount)).min?).getD 0

/-- Everything that is found about a run and its cases. -/
def findings (run : Metrics.TestRun) (cases : List BenchmarkSummary) : Findings :=
  let t := run.benchmarkNoiseThresholds.getD {}
  (noise t run).2.and <| (cpuFindings t run).and <| (clockFindings run).and <|
    (Findings.all (cases.map fun case =>
      caseFindings (caseLabel (decide (1 < cases.length)) case) case)).and <|
    sufficiencyFindings (worstIncluded cases)

/-- `benchmark_data_quality`. -/
def benchmarkDataQuality (run : Metrics.TestRun) (perCase : List BenchmarkSummary)
    (aggregate : BenchmarkSummary) : BenchmarkDataQuality :=
  let cases := judged perCase aggregate
  let found := findings run cases
  let stability := (cases.map (·.cv)).foldl Float64.fmax 0.0
  let low := (cases.map (·.lowOutlierCount)).sum
  let high := (cases.map (·.highOutlierCount)).sum
  { noiseLevel := (noise (run.benchmarkNoiseThresholds.getD {}) run).1
    sampleStabilityCv := stability
    sufficiency := sufficiencyOf (worstIncluded cases)
    warnings := found.warnings
    publicationReady := found.publicationBlockers.isEmpty
    confidenceLevel := reportConfidenceLevel
    relativeMarginOfError := (cases.map (·.relativeMarginOfError)).foldl Float64.fmax 0.0
    qualityTier := qualityTierForCv stability
    lowOutlierCount := low
    highOutlierCount := high
    outlierCount := low + high
    publicationBlockers := found.publicationBlockers }

/-! ### The artifact -/

/-- `BenchmarkMethodology`, as far as it is read off the run. -/
structure BenchmarkMethodology where
  phaseModel : String
  samplePhase : String
  scenario : String
  launchCount : ℕ
  phasesPresent : List String
  confidenceLevel : Float
  executionPlan : Option BenchmarkExecutionPlan
  noiseThresholds : Option BenchmarkNoiseThresholds

/-- `BenchmarkDiagnostics`. -/
structure BenchmarkDiagnostics where
  rawAttemptCount : ℕ
  rawSuccessCount : ℕ
  rawFailureCount : ℕ

/-- `BenchmarkArtifact`. -/
structure Artifact where
  methodology : BenchmarkMethodology
  launches : List BenchmarkLaunch
  cases : List BenchmarkCase
  samples : List BenchmarkSample
  summaries : List BenchmarkSummary
  dataQuality : BenchmarkDataQuality
  diagnostics : BenchmarkDiagnostics
  summary : BenchmarkSummary

/-- The attempts of a run with their cases and phases. -/
def attemptRecords (run : Metrics.TestRun) : List AttemptRecord :=
  run.resolvedAttemptPhases.zipWith (fun phase attempt =>
    { attempt
      caseId := benchmarkCaseId attempt
      phase
      launchIndex := run.benchmarkLaunchIndex.getD 0 }) run.attempts

/-- The cases of attempts, each as its first attempt has it, in the order of their ids. -/
def casesOf (attempts : List RequestAttempt) : List BenchmarkCase :=
  (keysOf benchmarkCaseId attempts).filterMap fun id =>
    (attempts.find? fun a => benchmarkCaseId a == id).map benchmarkCaseForAttempt

/-- The attempts of a case in the primary phase. -/
def matchingAttempts (records : List AttemptRecord) (primaryPhase id : String) :
    List RequestAttempt :=
  (records.filter fun record =>
    decide (record.caseId = id) && record.phase == primaryPhase).map (·.attempt)

/-- The attempts of the primary phase. -/
def aggregateAttempts (records : List AttemptRecord) (primaryPhase : String) :
    List RequestAttempt :=
  (primaryRecords records primaryPhase).map (·.attempt)

/-- `phase_model_for`. -/
def phaseModelFor (phasesPresent : List String) : String :=
  if phasesPresent.isEmpty then "single-run-measured" else Text.join "->" phasesPresent

/-- The artifact of a run with a phase and a scenario. -/
def artifactOf (fuel : ℕ) (run : Metrics.TestRun) (primaryPhase scenario : String) :
    Option Artifact := do
  let records := attemptRecords run
  let cases := casesOf run.attempts
  let summaries ← cases.mapM fun case =>
    benchmarkSummaryFromAttempts fuel case (matchingAttempts records primaryPhase case.id)
  let summary ← benchmarkSummaryFromAttempts fuel (aggregateCase cases)
    (aggregateAttempts records primaryPhase)
  let launch := benchmarkLaunchFromRecords run records scenario primaryPhase
    (run.benchmarkLaunchIndex.getD 0)
  return {
    methodology :=
      { phaseModel := phaseModelFor launch.phasesPresent
        samplePhase := primaryPhase
        scenario
        launchCount := 1
        phasesPresent := launch.phasesPresent
        confidenceLevel := reportConfidenceLevel
        executionPlan := run.benchmarkExecutionPlan
        noiseThresholds := run.benchmarkNoiseThresholds }
    launches := [launch]
    cases
    samples := records.map (benchmarkSampleForAttempt primaryPhase)
    summaries
    dataQuality := benchmarkDataQuality run summaries summary
    diagnostics :=
      { rawAttemptCount := run.attempts.length
        rawSuccessCount := run.successCount
        rawFailureCount := run.failureCount }
    summary }

/-- `to_benchmark_artifact`; there is no result yet while a scan for modes goes on. -/
def toBenchmarkArtifact (fuel : ℕ) (run : Metrics.TestRun) : Except String (Option Artifact) :=
  match run.benchmarkPhase, run.benchmarkScenario with
  | none, _ => .error "benchmark artifact requires benchmark_phase"
  | some _, none => .error "benchmark artifact requires benchmark_scenario"
  | some primaryPhase, some scenario => .ok (artifactOf fuel run primaryPhase scenario)

end BenchmarkArtifact

end Networker
