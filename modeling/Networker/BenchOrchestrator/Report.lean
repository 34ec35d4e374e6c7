/-
What a benchmark run keeps and how its results are summarised
(`benchmarks/orchestrator/src/types.rs`, `reporter/stats.rs`, `reporter/assembly.rs`).

* `BenchmarkResult`, `BenchmarkRun`: the results of the cycles and the reruns that were scheduled;
* `MetricSummary`, `summariseMetric`: the statistics of one metric over repeats, on the generator
  and the order statistics that are shared with the tester;
* `CaseKey`, `groupOf`, `scenarioResults`: the results of a case and of a scenario;
* `summariseScenario`, `summariseCase`, `summariseResults`: the summaries, the fastest case first;
* `mem_summariseResults`: there is one summary for every case with results.

The counts are natural numbers, but for the count of repeats, which has its 32 bits.
-/
import Networker.Data.Grouped
import Networker.Tester.Statistics
import Mathlib.Data.String.Basic

namespace Networker

open Data

namespace BenchOrchestrator

/-! ### Results -/

/-- `BenchmarkEnvironmentFingerprint`. -/
structure Fingerprint where
  clientOs : Option String := none
  clientArch : Option String := none
  clientCpuCores : Option ℕ := none
  clientRegion : Option String := none
  serverOs : Option String := none
  serverArch : Option String := none
  serverCpuCores : Option ℕ := none
  serverRegion : Option String := none
  networkType : Option String := none
  baselineRttP50Ms : Option Float := none
  baselineRttP95Ms : Option Float := none

/-- `NetworkMetrics`, as far as the report depends on it. -/
structure NetworkMetrics where
  rps : Float := 0.0
  latencyMeanMs : Float := 0.0
  latencyP50Ms : Float := 0.0
  latencyP99Ms : Float := 0.0
  latencyP999Ms : Float := 0.0
  latencyMaxMs : Float := 0.0
  errorCount : ℕ := 0
  totalRequests : ℕ := 0
  phasesPresent : List String := []

/-- `ResourceMetrics`, as far as the summaries depend on it. -/
structure ResourceMetrics where
  peakRssBytes : ℕ := 0
  avgCpuFraction : Float := 0.0

/-- `BenchmarkResult`, with the one number that is read of its start-up and of its binary. -/
structure BenchmarkResult where
  language : String
  runtime : String
  concurrency : ℕ
  repeatIndex : ℕ
  scenario : String
  environment : Fingerprint := {}
  network : NetworkMetrics := {}
  resources : ResourceMetrics := {}
  timeToFirstResponseMs : Float := 0.0
  binarySizeBytes : ℕ := 0

/-- `BenchmarkScheduledRerun`. -/
structure ScheduledRerun where
  language : String
  runtime : String
  concurrency : ℕ
  repeatIndex : ℕ
  reasons : List String

/-- `BenchmarkBaseline`. -/
structure Baseline where
  language : String
  runtime : Option String

/-- `BenchmarkRun`, without its times and settings. -/
structure BenchmarkRun where
  scheduledReruns : List ScheduledRerun := []
  baseline : Option Baseline := none
  results : List BenchmarkResult := []

/-! ### One metric -/

/-- `MetricSummary`. -/
structure MetricSummary where
  sampleCount : ℕ := 0
  min : Float := 0.0
  mean : Float := 0.0
  median : Float := 0.0
  max : Float := 0.0
  stddev : Float := 0.0
  cv : Float := 0.0
  standardError : Float := 0.0
  variance : Float := 0.0
  iqr : Float := 0.0
  lowerFence : Float := 0.0
  upperFence : Float := 0.0
  lowOutlierCount : ℕ := 0
  highOutlierCount : ℕ := 0
  outlierCount : ℕ := 0
  skewness : Float := 0.0
  kurtosis : Float := 0.0
  mad : Float := 0.0
  ci95Lower : Float := 0.0
  ci95Upper : Float := 0.0
  relativeMarginOfError : Float := 0.0
  qualityTier : String := ""

/-- `quality_tier_for_cv`. -/
def qualityTierForCv (cv : Float) : String :=
  if !cv.isFinite then "unknown"
  else if cv ≤ 0.03 then "excellent"
  else if cv ≤ 0.08 then "good"
  else if cv ≤ 0.15 then "fair"
  else "unreliable"

/-- The sum of powers of the deviations from a mean. -/
def powerSum (values : List Float) (mean : Float) (n : ℕ) : Float :=
  Float64.sum (values.map fun value => Float64.powi (value - mean) n)

/-- The summary of finite values in ascending order, of which there is one at least. -/
def summariseSorted (values : List Float) : MetricSummary :=
  let count := Float.ofNat values.length
  let mean := Float64.sum values / count
  let median := Statistics.medianFromSorted values
  let variance := if 1 < values.length then powerSum values mean 2 / (count - 1.0) else 0.0
  let stddev := variance.sqrt
  let cv := if Float64.epsilon < mean.abs then stddev / mean.abs else 0.0
  let p25 := Statistics.percentileFromSorted values 25.0
  let p75 := Statistics.percentileFromSorted values 75.0
  let iqr := p75 - p25
  let lowerFence := p25 - iqr * 1.5
  let upperFence := p75 + iqr * 1.5
  let lowOutlierCount := values.countP fun value => decide (value < lowerFence)
  let highOutlierCount := values.countP fun value => decide (upperFence < value)
  let deviations := Float64.ascending (values.map fun value => (value - median).abs)
  let (standardError, ci95Lower, ci95Upper) := Statistics.bootstrapMedianInterval 2048 0.95 values
  { sampleCount := values.length
    min := values.headD 0.0
    mean
    median
    max := values.getLastD 0.0
    stddev
    cv
    standardError
    variance
    iqr
    lowerFence
    upperFence
    lowOutlierCount
    highOutlierCount
    outlierCount := lowOutlierCount + highOutlierCount
    skewness := if 2 < values.length ∧ Float64.epsilon < stddev then
      powerSum values mean 3 / count / Float64.powi stddev 3 else 0.0
    kurtosis := if 3 < values.length ∧ Float64.epsilon < stddev then
      powerSum values mean 4 / count / Float64.powi stddev 4 - 3.0 else 0.0
    mad := Statistics.medianFromSorted deviations
    ci95Lower
    ci95Upper
    relativeMarginOfError := if Float64.epsilon < median.abs then
      (ci95Upper - ci95Lower) / 2.0 / median.abs else 0.0
    qualityTier := qualityTierForCv cv }

/-- `summarise_metric`. -/
def summariseMetric (values : List Float) : MetricSummary :=
  match Float64.ascending (values.filter Float.isFinite) with
  | [] => {}
  | sorted => summariseSorted sorted

/-! ### Cases and scenarios -/

/-- `CaseKey`, in its order: by language, then runtime, then concurrency. -/
abbrev CaseKey := String ×ₗ String ×ₗ ℕ

def CaseKey.of (language runtime : String) (concurrency : ℕ) : CaseKey :=
  toLex (language, toLex (runtime, concurrency))

def CaseKey.language (key : CaseKey) : String := (ofLex key).1
def CaseKey.runtime (key : CaseKey) : String := (ofLex (ofLex key).2).1
def CaseKey.concurrency (key : CaseKey) : ℕ := (ofLex (ofLex key).2).2

/-- The case of a result. -/
def BenchmarkResult.key (result : BenchmarkResult) : CaseKey :=
  .of result.language result.runtime result.concurrency

/-- The case of a rerun. -/
def ScheduledRerun.key (rerun : ScheduledRerun) : CaseKey :=
  .of rerun.language rerun.runtime rerun.concurrency

/-- The results of a case. -/
def groupOf (results : List BenchmarkResult) (key : CaseKey) : List BenchmarkResult :=
  group BenchmarkResult.key key results

/-- `result_scenario`. -/
def resultScenario (result : BenchmarkResult) : String :=
  if result.scenario = "" ∨ result.scenario = "unknown" then
    if result.network.totalRequests ≤ 100 then "cold" else "warm"
  else result.scenario

/-- `scenario_results`. -/
def scenarioResults (results : List BenchmarkResult) (scenario : String) : List BenchmarkResult :=
  results.filter fun result => resultScenario result == scenario

/-! ### Summaries -/

/-- `ScenarioSummary`. -/
structure ScenarioSummary where
  scenario : String
  repeatCount : ℕ
  repeatIndices : List ℕ
  rps : MetricSummary
  latencyMeanMs : MetricSummary
  latencyP50Ms : MetricSummary
  latencyP99Ms : MetricSummary
  latencyP999Ms : MetricSummary
  latencyMaxMs : MetricSummary
  errorRatePct : MetricSummary
  avgCpuFraction : MetricSummary
  peakRssBytes : MetricSummary
  timeToFirstResponseMs : MetricSummary
  binarySizeBytes : MetricSummary

/-- `BenchmarkCaseSummary`. -/
structure CaseSummary where
  caseLabel : String
  language : String
  runtime : String
  concurrency : ℕ
  warm : Option ScenarioSummary
  cold : Option ScenarioSummary

/-- `error_rate_pct`. -/
def errorRatePct (result : BenchmarkResult) : Float :=
  if result.network.totalRequests = 0 then 0.0
  else Float.ofNat result.network.errorCount / Float.ofNat result.network.totalRequests * 100.0

/-- The repeats that results are of, each once and in ascending order. -/
def repeatIndicesOf (results : List BenchmarkResult) : List ℕ :=
  ((results.map (·.repeatIndex)).insertionSort (· ≤ ·)).dedup

/-- `summarise_scenario`, whose count of repeats has 32 bits. -/
def summariseScenario (results : List BenchmarkResult) (scenario : String) :
    Option ScenarioSummary :=
  if results.isEmpty then none
  else some
    { scenario
      repeatCount := (repeatIndicesOf results).length % 2 ^ 32
      repeatIndices := repeatIndicesOf results
      rps := summariseMetric (results.map (·.network.rps))
      latencyMeanMs := summariseMetric (results.map (·.network.latencyMeanMs))
      latencyP50Ms := summariseMetric (results.map (·.network.latencyP50Ms))
      latencyP99Ms := summariseMetric (results.map (·.network.latencyP99Ms))
      latencyP999Ms := summariseMetric (results.map (·.network.latencyP999Ms))
      latencyMaxMs := summariseMetric (results.map (·.network.latencyMaxMs))
      errorRatePct := summariseMetric (results.map errorRatePct)
      avgCpuFraction := summariseMetric (results.map (·.resources.avgCpuFraction))
      peakRssBytes := summariseMetric (results.map fun r => Float.ofNat r.resources.peakRssBytes)
      timeToFirstResponseMs := summariseMetric (results.map (·.timeToFirstResponseMs))
      binarySizeBytes := summariseMetric (results.map fun r => Float.ofNat r.binarySizeBytes) }

/-- The summary of the results of a case. -/
def summariseCase (key : CaseKey) (results : List BenchmarkResult) : CaseSummary where
  caseLabel := key.language ++ " c=" ++ Text.ofNat key.concurrency
  language := key.language
  runtime := key.runtime
  concurrency := key.concurrency
  warm := summariseScenario (scenarioResults results "warm") "warm"
  cold := summariseScenario (scenarioResults results "cold") "cold"

/-- `primary_rps`. -/
def primaryRps (summary : CaseSummary) : Float :=
  match summary.warm, summary.cold with
  | some warm, _ => warm.rps.median
  | none, some cold => cold.rps.median
  | none, none => 0.0

/-- `summarise_results`: the summary of every case, in descending order of their rates. -/
def summariseResults (results : List BenchmarkResult) : List CaseSummary :=
  ((keysOf BenchmarkResult.key results).map fun key =>
    summariseCase key (groupOf results key)).insertionSort fun a b => ¬ primaryRps a < primaryRps b

/-! ### The summaries of a run -/

@[simp] lemma CaseKey.language_of {language runtime : String} {concurrency : ℕ} :
    (CaseKey.of language runtime concurrency).language = language := rfl

@[simp] lemma CaseKey.runtime_of {language runtime : String} {concurrency : ℕ} :
    (CaseKey.of language runtime concurrency).runtime = runtime := rfl

@[simp] lemma CaseKey.concurrency_of {language runtime : String} {concurrency : ℕ} :
    (CaseKey.of language runtime concurrency).concurrency = concurrency := rfl

lemma CaseKey.ext_iff {a b : CaseKey} :
    a = b ↔ a.language = b.language ∧ a.runtime = b.runtime ∧ a.concurrency = b.concurrency := by
  refine ⟨fun h => h ▸ ⟨rfl, rfl, rfl⟩, fun ⟨hl, hr, hc⟩ => ?_⟩
  exact Prod.ext hl (Prod.ext hr hc)

lemma mem_groupOf {results : List BenchmarkResult} {key : CaseKey} {result : BenchmarkResult} :
    result ∈ groupOf results key ↔ result ∈ results ∧ result.key = key := mem_group

lemma mem_scenarioResults {results : List BenchmarkResult} {scenario : String}
    {result : BenchmarkResult} :
    result ∈ scenarioResults results scenario ↔
      result ∈ results ∧ resultScenario result = scenario := by
  rw [scenarioResults, List.mem_filter, beq_iff_eq]

lemma mem_repeatIndicesOf {results : List BenchmarkResult} {index : ℕ} :
    index ∈ repeatIndicesOf results ↔ ∃ result ∈ results, result.repeatIndex = index := by
  rw [repeatIndicesOf, List.mem_dedup, List.mem_insertionSort, List.mem_map]

lemma summariseResults_perm (results : List BenchmarkResult) :
    (summariseResults results).Perm ((keysOf BenchmarkResult.key results).map fun key =>
      summariseCase key (groupOf results key)) :=
  List.perm_insertionSort _ _

/-- The key of a summary. -/
def CaseSummary.key (summary : CaseSummary) : CaseKey :=
  .of summary.language summary.runtime summary.concurrency

lemma key_summariseCase {key : CaseKey} {results : List BenchmarkResult} :
    (summariseCase key results).key = key := rfl

/-- No two summaries are of one case. -/
lemma summariseResults_pairwise (results : List BenchmarkResult) :
    (summariseResults results).Pairwise fun a b => a.key ≠ b.key := by
  refine ((summariseResults_perm results).pairwise_iff fun h => h.symm).mpr ?_
  rw [List.pairwise_map]
  exact nodup_keysOf

/-- **There is one summary for every case with results.** -/
lemma mem_summariseResults {results : List BenchmarkResult} {summary : CaseSummary} :
    summary ∈ summariseResults results ↔
      ∃ key, groupOf results key ≠ [] ∧ summary = summariseCase key (groupOf results key) := by
  rw [(summariseResults_perm results).mem_iff, List.mem_map]
  refine exists_congr fun key => and_congr ?_ eq_comm
  rw [mem_keysOf]
  refine ⟨fun ⟨r, hr, hkey⟩ => List.ne_nil_of_mem (mem_groupOf.mpr ⟨hr, hkey⟩), fun hne => ?_⟩
  obtain ⟨r, hr⟩ := List.exists_mem_of_ne_nil _ hne
  exact ⟨r, mem_groupOf.mp hr⟩

end BenchOrchestrator

end Networker
