/-
The comparisons of a benchmark run with its baseline
(`benchmarks/orchestrator/src/reporter/comparison.rs`).

* `environmentComparabilityNotes`: what makes two environments not comparable;
* `buildComparisonMetric`, `buildScenarioComparison`: the ratios and verdicts of two groups of
  results;
* `baselineFor`, `comparisonOf`, `buildComparisons`: one comparison for every case outside of
  the baseline, which has ratios and verdicts where it is comparable.
-/
import Networker.BenchOrchestrator.Report

namespace Networker

open Data

namespace BenchOrchestrator

/-- `MAX_COMPARABLE_RTT_RATIO`. -/
def maxComparableRttRatio : Float := 1.5

/-- `case_key_matches_baseline`. -/
def caseKeyMatchesBaseline (key : CaseKey) (baseline : Baseline) : Bool :=
  Text.eqIgnoreCase key.language baseline.language &&
    match baseline.runtime with
    | some runtime => Text.eqIgnoreCase key.runtime runtime
    | none => true

/-! ### Environments -/

/-- `BenchmarkEnvironmentFingerprint::is_empty`. -/
def Fingerprint.isEmpty (environment : Fingerprint) : Bool :=
  environment.clientOs.isNone && environment.clientArch.isNone &&
    environment.clientCpuCores.isNone && environment.clientRegion.isNone &&
    environment.serverOs.isNone && environment.serverArch.isNone &&
    environment.serverCpuCores.isNone && environment.serverRegion.isNone &&
    environment.networkType.isNone && environment.baselineRttP50Ms.isNone &&
    environment.baselineRttP95Ms.isNone

/-- The note on two values that differ. -/
def differs (label candidate baseline : String) : String :=
  s!"{label} differs ({candidate} vs {baseline})"

/-- The note on two values that are known and not the same. -/
def optionalMismatch {α : Type} (same : α → α → Bool) (text : α → String) (label : String)
    (candidate baseline : Option α) : List String :=
  match candidate, baseline with
  | some candidate, some baseline =>
      if same candidate baseline then [] else [differs label (text candidate) (text baseline)]
  | _, _ => []

/-- `push_optional_string_mismatch`. -/
def optionalStringMismatch : String → Option String → Option String → List String :=
  optionalMismatch Text.eqIgnoreCase id

/-- `push_optional_u32_mismatch`. -/
def optionalNatMismatch : String → Option ℕ → Option ℕ → List String :=
  optionalMismatch (· == ·) Text.ofNat

/-- `materially_different_ratio`. -/
def materiallyDifferentRatio (candidate baseline : Option Float) : Option Float :=
  match candidate, baseline with
  | some candidate, some baseline =>
      if candidate ≤ Float64.epsilon ∨ baseline ≤ Float64.epsilon then none
      else some (Float64.fmax candidate baseline / Float64.fmin candidate baseline)
  | _, _ => none

/-- The notes on one round-trip time, with those for a time that is missing. -/
def rttNotes (percentile : String) (missing : List String) (candidate baseline : Option Float) :
    List String :=
  match materiallyDifferentRatio candidate baseline with
  | none => missing
  | some ratio =>
      if maxComparableRttRatio < ratio then
        let candidateMs := Float64.toFixed 2 (candidate.getD 0.0)
        let baselineMs := Float64.toFixed 2 (baseline.getD 0.0)
        [s!"baseline RTT {percentile} differs materially ({candidateMs} ms vs {baselineMs} ms)"]
      else []

/-- The notes on the two types of network. -/
def networkTypeNotes (candidate baseline : Option String) : List String :=
  match candidate, baseline with
  | some candidate, some baseline =>
      if Text.eqIgnoreCase candidate baseline then []
      else [differs "network type" candidate baseline]
  | _, _ => ["network type is missing from the benchmark environment fingerprint"]

/-- The notes on a fingerprint without a field. -/
def missingFingerprintNotes (candidate baseline : Fingerprint) : List String :=
  (if candidate.isEmpty then ["candidate benchmark environment fingerprint is missing"] else []) ++
    if baseline.isEmpty then ["baseline benchmark environment fingerprint is missing"] else []

/-- The notes on two fingerprints, field by field. -/
def fieldNotes (candidate baseline : Fingerprint) : List String :=
  optionalStringMismatch "client OS" candidate.clientOs baseline.clientOs ++
  optionalStringMismatch "client architecture" candidate.clientArch baseline.clientArch ++
  optionalNatMismatch "client CPU cores" candidate.clientCpuCores baseline.clientCpuCores ++
  optionalStringMismatch "client region" candidate.clientRegion baseline.clientRegion ++
  optionalStringMismatch "server OS" candidate.serverOs baseline.serverOs ++
  optionalStringMismatch "server architecture" candidate.serverArch baseline.serverArch ++
  optionalNatMismatch "server CPU cores" candidate.serverCpuCores baseline.serverCpuCores ++
  optionalStringMismatch "server region" candidate.serverRegion baseline.serverRegion ++
  networkTypeNotes candidate.networkType baseline.networkType ++
  rttNotes "p50" ["baseline RTT p50 is missing from the benchmark environment fingerprint"]
    candidate.baselineRttP50Ms baseline.baselineRttP50Ms ++
  rttNotes "p95" [] candidate.baselineRttP95Ms baseline.baselineRttP95Ms

/-- `environment_comparability_notes`. -/
def environmentComparabilityNotes (candidate baseline : Fingerprint) : List String :=
  match missingFingerprintNotes candidate baseline with
  | [] => ((fieldNotes candidate baseline).insertionSort (· ≤ ·)).dedup
  | notes => notes

/-! ### Ratios and verdicts -/

/-- `ComparisonMetricSummary`. -/
structure ComparisonMetric where
  higherIsBetter : Bool
  candidateSummary : MetricSummary
  baselineSummary : MetricSummary
  absoluteDelta : Float
  percentDelta : Float
  ratio : Float
  ratioSummary : MetricSummary
  effectSize : Float
  verdict : String

/-- `ScenarioComparison`. -/
structure ScenarioComparison where
  scenario : String
  sharedRepeatCount : ℕ
  throughput : ComparisonMetric
  latencyP99 : ComparisonMetric

/-- The last result of a repeat. -/
def resultOfRepeat (results : List BenchmarkResult) (index : ℕ) : Option BenchmarkResult :=
  results.reverse.find? fun result => result.repeatIndex == index

/-- `paired_ratio_values`. -/
def pairedRatioValues (candidates baselines : List BenchmarkResult)
    (metric : BenchmarkResult → Float) : List Float :=
  (repeatIndicesOf candidates).filterMap fun index =>
    match resultOfRepeat candidates index, resultOfRepeat baselines index with
    | some candidate, some baseline =>
        if (metric baseline).abs ≤ Float64.epsilon then none
        else some (metric candidate / metric baseline)
    | _, _ => none

/-- `cohens_d`. -/
def cohensD (candidate baseline : List Float) : Float :=
  if candidate.length < 2 ∨ baseline.length < 2 then 0.0
  else
    let mean := fun values : List Float => Float64.sum values / Float.ofNat values.length
    let variance := fun values : List Float =>
      powerSum values (mean values) 2 / (Float.ofNat values.length - 1.0)
    let pooledVariance :=
      (Float.ofNat (candidate.length - 1) * variance candidate +
        Float.ofNat (baseline.length - 1) * variance baseline) /
          Float.ofNat (candidate.length + baseline.length - 2)
    if pooledVariance ≤ Float64.epsilon then 0.0
    else (mean candidate - mean baseline) / pooledVariance.sqrt

/-- `confidence_intervals_overlap`. -/
def confidenceIntervalsOverlap (a b : MetricSummary) : Bool :=
  decide (a.ci95Lower ≤ b.ci95Upper) && decide (b.ci95Lower ≤ a.ci95Upper)

/-- `build_comparison_metric`. -/
def buildComparisonMetric (candidates baselines : List BenchmarkResult) (higherIsBetter : Bool)
    (metric : BenchmarkResult → Float) (lowerVerdict higherVerdict : String) :
    ComparisonMetric :=
  let candidateSummary := summariseMetric (candidates.map metric)
  let baselineSummary := summariseMetric (baselines.map metric)
  let absoluteDelta := candidateSummary.median - baselineSummary.median
  let known := decide (Float64.epsilon < baselineSummary.median.abs)
  let percentDelta := if known then absoluteDelta / baselineSummary.median * 100.0 else 0.0
  { higherIsBetter
    candidateSummary
    baselineSummary
    absoluteDelta
    percentDelta
    ratio := if known then candidateSummary.median / baselineSummary.median else 0.0
    ratioSummary := summariseMetric (pairedRatioValues candidates baselines metric)
    effectSize := cohensD (candidates.map metric) (baselines.map metric)
    verdict :=
      if candidates.isEmpty || baselines.isEmpty then "insufficient data"
      else if percentDelta.abs ≤ 5.0 ∧
          confidenceIntervalsOverlap candidateSummary baselineSummary then "same within 5%"
      else if higherIsBetter then
        if 0.0 ≤ percentDelta then higherVerdict else lowerVerdict
      else if percentDelta ≤ 0.0 then lowerVerdict
      else higherVerdict }

/-- `build_scenario_comparison`, whose count of shared repeats has 32 bits. -/
def buildScenarioComparison (candidates baselines : List BenchmarkResult) (scenario : String) :
    Option ScenarioComparison :=
  if candidates.isEmpty || baselines.isEmpty then none
  else some
    { scenario
      sharedRepeatCount :=
        (pairedRatioValues candidates baselines (·.network.rps)).length % 2 ^ 32
      throughput := buildComparisonMetric candidates baselines true (·.network.rps)
        "slower" "faster"
      latencyP99 := buildComparisonMetric candidates baselines false (·.network.latencyP99Ms)
        "lower latency" "higher latency" }

/-! ### Comparisons -/

/-- `BenchmarkComparison`. -/
structure Comparison where
  caseLabel : String
  language : String
  runtime : String
  concurrency : ℕ
  baselineCaseLabel : String
  comparable : Bool
  comparabilityNotes : List String
  warm : Option ScenarioComparison
  cold : Option ScenarioComparison

/-- The summary that a case is compared with. -/
def baselineFor (summaries : List CaseSummary) (baseline : Baseline) (concurrency : ℕ) :
    Option CaseSummary :=
  summaries.find? fun candidate =>
    candidate.concurrency == concurrency && caseKeyMatchesBaseline candidate.key baseline

/-- The notes on the environments of the first results of two cases. -/
def firstNotes (candidates baselines : List BenchmarkResult) : List String :=
  match candidates.head?, baselines.head? with
  | some candidate, some baseline =>
      environmentComparabilityNotes candidate.environment baseline.environment
  | _, _ => ["candidate or baseline benchmark result is missing"]

/-- The comparison of the results of two cases. -/
def compareCases (summary baselineSummary : CaseSummary)
    (candidates baselines : List BenchmarkResult) : Comparison :=
  let comparabilityNotes := firstNotes candidates baselines
  let comparable := comparabilityNotes.isEmpty
  let compareScenario := fun scenario =>
    if comparable then
      buildScenarioComparison (scenarioResults candidates scenario)
        (scenarioResults baselines scenario) scenario
    else none
  { caseLabel := summary.caseLabel
    language := summary.language
    runtime := summary.runtime
    concurrency := summary.concurrency
    baselineCaseLabel := baselineSummary.caseLabel
    comparable
    comparabilityNotes
    warm := compareScenario "warm"
    cold := compareScenario "cold" }

/-- The comparison of a case, if it is not the baseline and has one. -/
def comparisonOf (results : List BenchmarkResult) (summaries : List CaseSummary)
    (baseline : Baseline) (summary : CaseSummary) : Option Comparison :=
  if caseKeyMatchesBaseline summary.key baseline then none
  else
    match baselineFor summaries baseline summary.concurrency with
    | none => none
    | some base =>
        match groupOf results summary.key, groupOf results base.key with
        | [], _ => none
        | _, [] => none
        | candidates, baselines => some (compareCases summary base candidates baselines)

/-- The ratio that comparisons are sorted by. -/
def Comparison.warmRatio (comparison : Comparison) : Float :=
  match comparison.warm with
  | some warm => warm.throughput.ratio
  | none => 0.0

/-- A comparison does not come after another. -/
def Comparison.before (a b : Comparison) : Bool :=
  match a.comparable, b.comparable with
  | true, false => true
  | false, true => false
  | _, _ =>
      decide (b.warmRatio < a.warmRatio) ||
        (!decide (a.warmRatio < b.warmRatio) && decide (a.caseLabel ≤ b.caseLabel))

/-- `build_comparisons`. -/
def buildComparisons (results : List BenchmarkResult) (summaries : List CaseSummary)
    (baseline : Baseline) : List Comparison :=
  (summaries.filterMap (comparisonOf results summaries baseline)).insertionSort
    fun a b => a.before b = true

/-- The comparisons of the report on a run. -/
def comparisonsOf (run : BenchmarkRun) : List Comparison :=
  match run.baseline with
  | some baseline => buildComparisons run.results (summariseResults run.results) baseline
  | none => []

/-! ### The comparisons that are made -/

variable {results : List BenchmarkResult} {baseline : Baseline}

/-- The key of a comparison. -/
def Comparison.key (comparison : Comparison) : CaseKey :=
  .of comparison.language comparison.runtime comparison.concurrency

lemma baselineFor_spec {concurrency : ℕ} {base : CaseSummary}
    (h : baselineFor (summariseResults results) baseline concurrency = some base) :
    base ∈ summariseResults results ∧ base.concurrency = concurrency ∧
      caseKeyMatchesBaseline base.key baseline = true := by
  have hmem := List.mem_of_find?_eq_some h
  have hfound := List.find?_some h
  rw [Bool.and_eq_true, beq_iff_eq] at hfound
  exact ⟨hmem, hfound⟩

/-- A case in the summaries has results. -/
lemma groupOf_ne_nil {summary : CaseSummary} (h : summary ∈ summariseResults results) :
    groupOf results summary.key ≠ [] := by
  obtain ⟨key, hne, rfl⟩ := mem_summariseResults.mp h
  rwa [key_summariseCase]

/-- **A case outside of the baseline is compared with the baseline case of its concurrency.** -/
lemma mem_buildComparisons {comparison : Comparison} :
    comparison ∈ buildComparisons results (summariseResults results) baseline ↔
      ∃ summary ∈ summariseResults results, caseKeyMatchesBaseline summary.key baseline = false ∧
        ∃ base, baselineFor (summariseResults results) baseline summary.concurrency = some base ∧
          comparison =
            compareCases summary base (groupOf results summary.key) (groupOf results base.key) := by
  rw [buildComparisons, List.mem_insertionSort, List.mem_filterMap]
  refine exists_congr fun summary => and_congr_right fun hsummary => ?_
  rw [comparisonOf]
  cases hkey : caseKeyMatchesBaseline summary.key baseline with
  | true => simp
  | false =>
      cases hbase : baselineFor (summariseResults results) baseline summary.concurrency with
      | none => simp
      | some base =>
          obtain ⟨r, rs, hresults⟩ := List.exists_cons_of_ne_nil (groupOf_ne_nil hsummary)
          obtain ⟨b, bs, hbases⟩ :=
            List.exists_cons_of_ne_nil (groupOf_ne_nil (baselineFor_spec hbase).1)
          simp [hresults, hbases, eq_comm]

end BenchOrchestrator

end Networker
