/-
The report on a benchmark run and when it is ready for publication
(`benchmarks/orchestrator/src/reporter/assembly.rs`).

* `collectObservedPhases`, `buildRecommendations`: the checks, with the texts of what is missing;
* `buildReport`: the report, ready if nothing is recommended;
* `Accounts`: which results the summaries are made of, each of them in one summary;
* `Ready`: what a report that is ready has passed;
* `report_gated`: every report accounts for its results, and is ready exactly if it has passed;
* `poolRun`: phases are observed over the run, and a result of another scenario has no summary.
-/
import Networker.BenchOrchestrator.Comparison

namespace Networker

open Data

namespace BenchOrchestrator

/-! ### The phases -/

/-- A phase that is not observed yet. -/
def observe (observed : List String) (phase : String) : List String :=
  if observed.any (· == phase) then observed else observed ++ [phase]

/-- `collect_observed_phases`. -/
def collectObservedPhases (run : BenchmarkRun) : List String :=
  run.results.foldl (fun observed result => result.network.phasesPresent.foldl observe observed) []

/-- The phases that a run is asked for, each with the text if it is missing. -/
def phaseChecks : List (String × String) :=
  (["environment-check", "stability-check", "pilot", "measured"].map fun phase =>
    (phase, s!"Observed benchmark lifecycle is missing `{phase}`; " ++
      "rerun with the full benchmark preset before publication.")) ++
  [("cooldown", "Cooldown phase is missing from the observed lifecycle; " ++
    "collect post-measured cooldown samples for publication-grade runs.")]

/-! ### The scenarios -/

/-- The scenarios of a case that have a summary. -/
def CaseSummary.scenarios (summary : CaseSummary) : List ScenarioSummary :=
  [summary.warm, summary.cold].filterMap id

/-- `scenario_label`. -/
def scenarioLabel (summary : CaseSummary) (scenario : String) : String :=
  summary.language ++ " " ++ scenario ++ " c=" ++ Text.ofNat summary.concurrency

/-- A scenario with few repeats. -/
def ScenarioSummary.lowRepeats (scenario : ScenarioSummary) : Bool :=
  decide (scenario.repeatCount < 3)

/-- A scenario whose repeats vary. -/
def ScenarioSummary.unstable (scenario : ScenarioSummary) : Bool :=
  scenario.rps.qualityTier == "unreliable" || scenario.latencyP99Ms.qualityTier == "unreliable"

/-- A scenario with wide confidence intervals. -/
def ScenarioSummary.wideCi (scenario : ScenarioSummary) : Bool :=
  decide (0.05 < scenario.rps.relativeMarginOfError) ||
    decide (0.05 < scenario.latencyP99Ms.relativeMarginOfError)

/-- The labels of the scenarios that a check finds. -/
def labelsOf (check : ScenarioSummary → Bool) (summaries : List CaseSummary) : List String :=
  summaries.flatMap fun summary =>
    (summary.scenarios.filter check).map fun scenario => scenarioLabel summary scenario.scenario

/-- What is said of labels, if there are any. -/
def listed (text : String) : List String → List String
  | [] => []
  | labels => [text ++ " for: " ++ String.intercalate ", " labels ++ "."]

/-! ### The report -/

/-- `build_recommendations`. -/
def buildRecommendations (run : BenchmarkRun) (caseSummaries : List CaseSummary)
    (comparisons : List Comparison) : List String :=
  let observedPhases := collectObservedPhases run
  ((phaseChecks.filter fun check => !observedPhases.any (· == check.1)).map (·.2)) ++
  listed "Repeat count is below the default publication target (3)"
    (labelsOf ScenarioSummary.lowRepeats caseSummaries) ++
  listed "Repeat variance remains unreliable" (labelsOf ScenarioSummary.unstable caseSummaries) ++
  listed "Confidence intervals remain wider than the default 5% publication target"
    (labelsOf ScenarioSummary.wideCi caseSummaries) ++
  listed ("Baseline comparisons are not publication-grade because benchmark environments " ++
      "do not match closely enough")
    ((comparisons.filter fun comparison => !comparison.comparable).map fun comparison =>
      comparison.caseLabel ++ " vs " ++ comparison.baselineCaseLabel)

/-- `BenchmarkReport` and its `ReportAggregation`, without the time. -/
structure BenchmarkReport where
  formatVersion : String := "1.1"
  run : BenchmarkRun
  groupedBy : List String := ["language", "runtime", "concurrency", "scenario"]
  rankingMetric : String := "warm req/s"
  primaryEstimator : String := "median"
  confidenceLevel : Float := 0.95
  outlierPolicy : String :=
    "Tukey 1.5xIQR fences flag outliers for audit while repeated-launch summaries " ++
      "keep all launches and avoid cherry-picking."
  uncertaintyMethod : String :=
    "Percentile bootstrap confidence intervals around the median with deterministic resampling."
  antiCherryPickingPolicy : String :=
    "Case summaries aggregate repeated launches by scenario; raw results are retained " ++
      "and no single best run is used for ranking."
  publicationReady : Bool
  rerunRecommended : Bool
  recommendations : List String
  caseSummaries : List CaseSummary
  comparisons : List Comparison

/-- `build_report`. -/
def buildReport (run : BenchmarkRun) : BenchmarkReport :=
  let caseSummaries := summariseResults run.results
  let comparisons := comparisonsOf run
  let recommendations := buildRecommendations run caseSummaries comparisons
  let publicationReady := recommendations.isEmpty
  { run, publicationReady, rerunRecommended := !publicationReady, recommendations, caseSummaries
    comparisons }

/-! ### What is checked -/

/-- The results of which a summary is made: those of the warm and of the cold scenario. -/
def Summarised (result : BenchmarkResult) : Prop :=
  resultScenario result = "warm" ∨ resultScenario result = "cold"

instance (result : BenchmarkResult) : Decidable (Summarised result) :=
  inferInstanceAs (Decidable (_ ∨ _))

/-- The results of a scenario of a case. -/
def resultsOf (run : BenchmarkRun) (key : CaseKey) (scenario : String) : List BenchmarkResult :=
  scenarioResults (groupOf run.results key) scenario

/-- The summaries of a report are of the results of a run, each in one of them. -/
structure Accounts (run : BenchmarkRun) (report : BenchmarkReport) : Prop where
  apart : report.caseSummaries.Pairwise fun a b => a.key ≠ b.key
  warm : ∀ summary ∈ report.caseSummaries,
    summary.warm = summariseScenario (resultsOf run summary.key "warm") "warm"
  cold : ∀ summary ∈ report.caseSummaries,
    summary.cold = summariseScenario (resultsOf run summary.key "cold") "cold"
  counted : (report.caseSummaries.flatMap fun summary =>
      resultsOf run summary.key "warm" ++ resultsOf run summary.key "cold").Perm
    (run.results.filter fun result => decide (Summarised result))
  repeats : ∀ summary ∈ report.caseSummaries, ∀ scenario ∈ summary.scenarios,
    scenario.repeatCount = ((resultsOf run summary.key scenario.scenario).map
      (·.repeatIndex)).toFinset.card % 2 ^ 32
  summarised : ∀ result ∈ run.results, Summarised result →
    ∃ summary ∈ report.caseSummaries, summary.key = result.key ∧
      ∃ scenario ∈ summary.scenarios, scenario.scenario = resultScenario result

/-- A summary of a scenario that is fit for publication. -/
structure Publishable (scenario : ScenarioSummary) : Prop where
  repeats : 3 ≤ scenario.repeatCount
  rps : scenario.rps.qualityTier ≠ "unreliable"
  p99 : scenario.latencyP99Ms.qualityTier ≠ "unreliable"
  rpsMargin : ¬ 0.05 < scenario.rps.relativeMarginOfError
  p99Margin : ¬ 0.05 < scenario.latencyP99Ms.relativeMarginOfError

/-- What a report that is ready for publication has passed. -/
structure Ready (run : BenchmarkRun) (report : BenchmarkReport) : Prop where
  phases : ∀ phase ∈ ["environment-check", "stability-check", "pilot", "measured", "cooldown"],
    ∃ result ∈ run.results, phase ∈ result.network.phasesPresent
  scenarios : ∀ summary ∈ report.caseSummaries, ∀ scenario ∈ summary.scenarios,
    Publishable scenario
  comparable : ∀ comparison ∈ report.comparisons, comparison.comparable = true

/-! ### The recommendations -/

section Recommendations

variable {run : BenchmarkRun} {phase : String}

lemma mem_foldl_observe {observed phases : List String} :
    phase ∈ phases.foldl observe observed ↔ phase ∈ observed ∨ phase ∈ phases := by
  induction phases generalizing observed with
  | nil => simp
  | cons p phases ih =>
      have hstep : phase ∈ observe observed p ↔ phase ∈ observed ∨ phase = p := by
        rw [observe]
        split_ifs with h
        · rw [List.any_beq', List.contains_iff_mem] at h
          refine ⟨Or.inl, ?_⟩
          rintro (hp | rfl)
          · exact hp
          · exact h
        · rw [List.mem_append, List.mem_singleton]
      rw [List.foldl_cons, ih, hstep, List.mem_cons, or_assoc]

/-- A phase is observed if one result went through it. -/
lemma mem_collectObservedPhases :
    phase ∈ collectObservedPhases run ↔
      ∃ result ∈ run.results, phase ∈ result.network.phasesPresent := by
  have hfold (results : List BenchmarkResult) (observed : List String) :
      phase ∈ results.foldl (fun observed result =>
          result.network.phasesPresent.foldl observe observed) observed ↔
        phase ∈ observed ∨ ∃ result ∈ results, phase ∈ result.network.phasesPresent := by
    induction results generalizing observed with
    | nil => simp
    | cons result results ih =>
        rw [List.foldl_cons, ih, mem_foldl_observe, or_assoc, List.exists_mem_cons_iff]
  rw [collectObservedPhases, hfold, or_iff_right List.not_mem_nil]

lemma listed_eq_nil {text : String} {labels : List String} :
    listed text labels = [] ↔ labels = [] := by
  cases labels with
  | nil => exact iff_of_true rfl rfl
  | cons label labels => exact iff_of_false (List.cons_ne_nil _ _) (List.cons_ne_nil _ _)

lemma labelsOf_eq_nil {check : ScenarioSummary → Bool} {summaries : List CaseSummary} :
    labelsOf check summaries = [] ↔
      ∀ summary ∈ summaries, ∀ scenario ∈ summary.scenarios, check scenario = false := by
  rw [labelsOf, List.flatMap_eq_nil_iff]
  refine forall₂_congr fun summary _ => ?_
  rw [List.map_eq_nil_iff, List.filter_eq_nil_iff]
  exact forall₂_congr fun scenario _ => iff_of_eq (Bool.not_eq_true _)

lemma publishable_iff {scenario : ScenarioSummary} :
    Publishable scenario ↔ scenario.lowRepeats = false ∧ scenario.unstable = false ∧
      scenario.wideCi = false := by
  rw [ScenarioSummary.lowRepeats, ScenarioSummary.unstable, ScenarioSummary.wideCi,
    Bool.or_eq_false_iff, Bool.or_eq_false_iff, beq_eq_false_iff_ne, beq_eq_false_iff_ne,
    decide_eq_false_iff_not, decide_eq_false_iff_not, decide_eq_false_iff_not, Nat.not_lt]
  constructor
  · rintro ⟨hrepeats, hrps, hp99, hrpsMargin, hp99Margin⟩
    exact ⟨hrepeats, ⟨hrps, hp99⟩, hrpsMargin, hp99Margin⟩
  · rintro ⟨hrepeats, ⟨hrps, hp99⟩, hrpsMargin, hp99Margin⟩
    exact ⟨hrepeats, hrps, hp99, hrpsMargin, hp99Margin⟩

/-- No phase is asked for if every one is observed. -/
lemma missing_eq_nil :
    (phaseChecks.filter fun check =>
        !(collectObservedPhases run).any (· == check.1)).map (·.2) = [] ↔
      ∀ phase ∈ ["environment-check", "stability-check", "pilot", "measured", "cooldown"],
        ∃ result ∈ run.results, phase ∈ result.network.phasesPresent := by
  have hphases : phaseChecks.map (·.1) =
      ["environment-check", "stability-check", "pilot", "measured", "cooldown"] := rfl
  rw [← hphases, List.map_eq_nil_iff, List.filter_eq_nil_iff, List.forall_mem_map]
  refine forall₂_congr fun check _ => ?_
  rw [Bool.not_eq_true', Bool.not_eq_false, List.any_beq', List.contains_iff_mem,
    mem_collectObservedPhases]

/-- **Nothing is recommended exactly if every check has passed.** -/
lemma recommendations_eq_nil :
    (buildReport run).recommendations = [] ↔ Ready run (buildReport run) := by
  have hcomparable (comparisons : List Comparison) :
      ((comparisons.filter fun comparison => !comparison.comparable).map fun comparison =>
        comparison.caseLabel ++ " vs " ++ comparison.baselineCaseLabel) = [] ↔
          ∀ comparison ∈ comparisons, comparison.comparable = true := by
    rw [List.map_eq_nil_iff, List.filter_eq_nil_iff]
    exact forall₂_congr fun comparison _ => by simp
  show buildRecommendations run (summariseResults run.results) (comparisonsOf run) = [] ↔ _
  rw [buildRecommendations, List.append_eq_nil_iff, List.append_eq_nil_iff, List.append_eq_nil_iff,
    List.append_eq_nil_iff, listed_eq_nil, listed_eq_nil, listed_eq_nil, listed_eq_nil,
    labelsOf_eq_nil, labelsOf_eq_nil, labelsOf_eq_nil, missing_eq_nil, hcomparable]
  constructor
  · rintro ⟨⟨⟨⟨hphases, hrepeats⟩, htiers⟩, hmargins⟩, hcomparisons⟩
    exact ⟨hphases, fun summary hsummary scenario hscenario => publishable_iff.mpr
      ⟨hrepeats summary hsummary scenario hscenario, htiers summary hsummary scenario hscenario,
        hmargins summary hsummary scenario hscenario⟩, hcomparisons⟩
  · rintro ⟨hphases, hscenarios, hcomparisons⟩
    have hall summary hsummary scenario hscenario :=
      publishable_iff.mp (hscenarios summary hsummary scenario hscenario)
    exact ⟨⟨⟨⟨hphases, fun summary hsummary scenario hscenario =>
        (hall summary hsummary scenario hscenario).1⟩,
      fun summary hsummary scenario hscenario => (hall summary hsummary scenario hscenario).2.1⟩,
      fun summary hsummary scenario hscenario => (hall summary hsummary scenario hscenario).2.2⟩,
      hcomparisons⟩

end Recommendations

/-! ### The results behind the summaries -/

section Results

variable {run : BenchmarkRun} {results : List BenchmarkResult}

lemma scenarioResults_perm (results : List BenchmarkResult) :
    (scenarioResults results "warm" ++ scenarioResults results "cold").Perm
      (results.filter fun result => decide (Summarised result)) := by
  have hsplit := List.filter_append_perm (fun result => resultScenario result == "warm")
    (results.filter fun result => decide (Summarised result))
  have hwarm : (results.filter fun result => decide (Summarised result)).filter
      (fun result => resultScenario result == "warm") = scenarioResults results "warm" := by
    rw [List.filter_filter]
    refine List.filter_congr fun result _ => ?_
    by_cases h : resultScenario result = "warm" <;> simp [Summarised, h]
  have hcold : (results.filter fun result => decide (Summarised result)).filter
      (fun result => !(resultScenario result == "warm")) = scenarioResults results "cold" := by
    rw [List.filter_filter]
    refine List.filter_congr fun result _ => ?_
    by_cases h : resultScenario result = "warm"
    · simp [h]
    · simp [Summarised, h, beq_eq_decide]
  rwa [hwarm, hcold] at hsplit

/-- **The scenarios of the cases together are the results that are summarised.** -/
lemma counted_perm (results : List BenchmarkResult) :
    ((summariseResults results).flatMap fun summary =>
      scenarioResults (groupOf results summary.key) "warm" ++
        scenarioResults (groupOf results summary.key) "cold").Perm
      (results.filter fun result => decide (Summarised result)) := by
  have hgroup (key : CaseKey) : (groupOf results key).filter (fun r => decide (Summarised r)) =
      group BenchmarkResult.key key (results.filter fun r => decide (Summarised r)) := by
    rw [groupOf, group, group, List.filter_comm]
  have hkey : ∀ r ∈ results.filter (fun r => decide (Summarised r)),
      r.key ∈ keysOf BenchmarkResult.key results :=
    fun r hr => mem_keysOf.mpr ⟨r, List.mem_of_mem_filter hr, rfl⟩
  refine ((summariseResults_perm results).flatMap_right _).trans ?_
  rw [List.flatMap_map]
  refine (List.Perm.flatMap_left _ fun key _ => ?_).trans (flatMap_group_perm nodup_keysOf hkey)
  rw [← hgroup]
  exact scenarioResults_perm _

lemma mem_scenarios {summary : CaseSummary} {scenario : ScenarioSummary} :
    scenario ∈ summary.scenarios ↔ summary.warm = some scenario ∨ summary.cold = some scenario := by
  rw [CaseSummary.scenarios, List.mem_filterMap]
  simp [eq_comm]

lemma summariseScenario_spec {scenario : String} {summary : ScenarioSummary}
    (h : summariseScenario results scenario = some summary) :
    summary.scenario = scenario ∧
      summary.repeatCount = (results.map (·.repeatIndex)).toFinset.card % 2 ^ 32 := by
  rw [summariseScenario] at h
  split_ifs at h
  cases h
  refine ⟨rfl, ?_⟩
  show (repeatIndicesOf results).length % 2 ^ 32 = _
  rw [repeatIndicesOf, ← List.card_toFinset,
    List.toFinset_eq_of_perm _ _ (List.perm_insertionSort _ _)]

/-- **Every report accounts for its results.** -/
lemma accounts (run : BenchmarkRun) : Accounts run (buildReport run) where
  apart := summariseResults_pairwise run.results
  warm := by
    intro summary hsummary
    obtain ⟨key, -, rfl⟩ := mem_summariseResults.mp hsummary
    rfl
  cold := by
    intro summary hsummary
    obtain ⟨key, -, rfl⟩ := mem_summariseResults.mp hsummary
    rfl
  counted := counted_perm run.results
  repeats := by
    intro summary hsummary scenario hscenario
    obtain ⟨key, -, rfl⟩ := mem_summariseResults.mp hsummary
    rcases mem_scenarios.mp hscenario with h | h
    · obtain ⟨hname, hcount⟩ := summariseScenario_spec h
      rw [hname]
      exact hcount
    · obtain ⟨hname, hcount⟩ := summariseScenario_spec h
      rw [hname]
      exact hcount
  summarised := by
    intro result hresult hscenario
    have hgroup : result ∈ groupOf run.results result.key := mem_groupOf.mpr ⟨hresult, rfl⟩
    refine ⟨summariseCase result.key (groupOf run.results result.key),
      mem_summariseResults.mpr ⟨_, List.ne_nil_of_mem hgroup, rfl⟩, rfl, ?_⟩
    have hsome (scenario : String) (h : resultScenario result = scenario) :
        ∃ s, summariseScenario (resultsOf run result.key scenario) scenario = some s := by
      have hmem : result ∈ resultsOf run result.key scenario :=
        mem_scenarioResults.mpr ⟨hgroup, h⟩
      rw [summariseScenario, if_neg (by simpa using List.ne_nil_of_mem hmem)]
      exact ⟨_, rfl⟩
    rcases hscenario with h | h
    · obtain ⟨s, hs⟩ := hsome _ h
      exact ⟨s, mem_scenarios.mpr (Or.inl hs), (summariseScenario_spec hs).1.trans h.symm⟩
    · obtain ⟨s, hs⟩ := hsome _ h
      exact ⟨s, mem_scenarios.mpr (Or.inr hs), (summariseScenario_spec hs).1.trans h.symm⟩

end Results

/-- **The report accounts for every warm and every cold result, and is ready for publication
exactly if it has passed every check**: each phase was observed in the run, each scenario summary
has three repeats, is not unreliable and has no wide margin, and each comparison is comparable. -/
theorem report_gated (run : BenchmarkRun) :
    Accounts run (buildReport run) ∧
      ((buildReport run).publicationReady = true ↔ Ready run (buildReport run)) :=
  ⟨accounts run, List.isEmpty_iff.trans recommendations_eq_nil⟩

/-- A result of a case, of which nothing but the phases was measured. -/
def launched (language : String) (repeatIndex : ℕ) (scenario : String) (phases : List String) :
    BenchmarkResult :=
  { language, runtime := "", concurrency := 1, repeatIndex, scenario
    network := { phasesPresent := phases } }

/-- A run of which one launch went through the phases, with a case of another scenario. -/
def poolRun : BenchmarkRun :=
  { results :=
      [launched "rust" 0 "warm"
          ["environment-check", "stability-check", "pilot", "measured", "cooldown"],
        launched "rust" 1 "warm" [], launched "rust" 2 "warm" [], launched "go" 0 "burst" []] }

/-- The report is ready, with launches that went through no phase, a case without a summary and a
result that no summary counts. -/
theorem poolRun_ready : (buildReport poolRun).publicationReady = true ∧
    (∃ result ∈ poolRun.results, Summarised result ∧
      "pilot" ∉ result.network.phasesPresent) ∧
    (∃ summary ∈ (buildReport poolRun).caseSummaries, summary.scenarios = []) ∧
    ((buildReport poolRun).caseSummaries.flatMap fun summary =>
      resultsOf poolRun summary.key "warm" ++ resultsOf poolRun summary.key "cold").length <
        poolRun.results.length := by
  refine ⟨by decide +kernel, ⟨launched "rust" 1 "warm" [], by simp [poolRun], Or.inl rfl, ?_⟩,
    ?_, by decide +kernel⟩
  · exact List.not_mem_nil
  · have hgroup : groupOf poolRun.results (.of "go" "" 1) = [launched "go" 0 "burst" []] := rfl
    refine ⟨summariseCase (.of "go" "" 1) (groupOf poolRun.results (.of "go" "" 1)),
      mem_summariseResults.mpr ⟨_, by simp [hgroup], rfl⟩, ?_⟩
    rw [hgroup]
    rfl

end BenchOrchestrator

end Networker
