/-
The benchmark command and its automatic reruns (`benchmarks/orchestrator/src/main.rs`).

* `AutoRerunSettings`, `resolveAutoRerunSettings`: the policy, which is refused with an empty
  target or an empty budget;
* `rerunReasons`, `nextRepeatIndex`, `collectAutoRerunTargets`: which cases are run again, why
  and with which index;
* `runCaseCycle`, `rerunPass`, `rerunLoop`: the cycles, and the passes until there is no target;
* `uniqueLanguages`, `languageLoop`, `cmdRun`: the loop over the languages of the matrix.

The loop has fuel for its passes, and no result where that is not enough; indices have 32 bits and
wrap, as in a release build.
-/
import Networker.BenchOrchestrator.BenchmarkConfig
import Networker.BenchOrchestrator.Report

namespace Networker

open Data

namespace BenchOrchestrator

/-! ### The policy -/

/-- `AutoRerunSettings`. -/
structure AutoRerunSettings where
  targetRepeatCount : ℕ
  maxAdditionalRepeats : ℕ
  maxRelativeMarginOfError : Float
  target_pos : 0 < targetRepeatCount
  additional_pos : 0 < maxAdditionalRepeats

/-- `resolve_auto_rerun_settings`. -/
def resolveAutoRerunSettings (poorQuality : Bool) (target additional : Option ℕ)
    (margin : Option Float) : Except String (Option AutoRerunSettings) :=
  if !poorQuality && target.isNone && additional.isNone && margin.isNone then .ok none
  else if htarget : 0 < target.getD 3 then
    if hadditional : 0 < additional.getD 2 then
      if (margin.getD 0.05).isFinite && decide (0.0 < margin.getD 0.05) then
        .ok (some ⟨target.getD 3, additional.getD 2, margin.getD 0.05, htarget, hadditional⟩)
      else .error "auto rerun max relative margin must be a positive finite number"
    else .error "auto rerun max additional repeats must be > 0"
  else .error "auto rerun target repeat count must be > 0"

/-! ### Which cases are run again -/

/-- `AutoRerunTarget`. -/
structure AutoRerunTarget where
  concurrency : ℕ
  repeatIndex : ℕ
  reasons : List String

/-- What a scenario falls short of. -/
def scenarioReasons (settings : AutoRerunSettings) (scenario : ScenarioSummary) : List String :=
  (if scenario.repeatCount < settings.targetRepeatCount then
      [scenario.scenario ++ " repeat count " ++ Text.ofNat scenario.repeatCount ++
        " below target " ++ Text.ofNat settings.targetRepeatCount]
    else []) ++
  (if scenario.rps.qualityTier == "unreliable" ||
      scenario.latencyP99Ms.qualityTier == "unreliable" then
      [scenario.scenario ++ " variance remains unreliable"]
    else []) ++
  if decide (settings.maxRelativeMarginOfError < scenario.rps.relativeMarginOfError) ||
      decide (settings.maxRelativeMarginOfError < scenario.latencyP99Ms.relativeMarginOfError) then
    [scenario.scenario ++ " confidence interval exceeds " ++
      Float64.toFixed 0 (settings.maxRelativeMarginOfError * 100.0) ++ "% target"]
  else []

/-- Why a case is to be run again, in order and each reason once. -/
def rerunReasons (settings : AutoRerunSettings) (summary : CaseSummary) : List String :=
  (((summary.warm.toList ++ summary.cold.toList).flatMap (scenarioReasons settings)).insertionSort
    (· ≤ ·)).dedup

/-- The indices of the reruns of a case. -/
def rerunIndices (scheduledReruns : List ScheduledRerun) (key : CaseKey) : List ℕ :=
  (scheduledReruns.filter fun rerun => rerun.key = key).map (·.repeatIndex)

/-- `next_repeat_index`: one more than any index of the case's results and reruns. -/
def nextRepeatIndex (scheduledReruns : List ScheduledRerun) (initialRepeatCount : ℕ)
    (summary : CaseSummary) : ℕ :=
  match ((summary.warm.toList ++ summary.cold.toList).flatMap (·.repeatIndices) ++
      rerunIndices scheduledReruns summary.key).max? with
  | some index => (index + 1) % 2 ^ 32
  | none => initialRepeatCount

/-- The rerun of a case, if it has a reason and its budget is not used up. -/
def rerunTarget (settings : AutoRerunSettings) (scheduledReruns : List ScheduledRerun)
    (initialRepeatCount : ℕ) (summary : CaseSummary) : Option AutoRerunTarget :=
  let reasons := rerunReasons settings summary
  let repeatIndex := nextRepeatIndex scheduledReruns initialRepeatCount summary
  if reasons.isEmpty then none
  else if settings.maxAdditionalRepeats ≤ repeatIndex - initialRepeatCount then none
  else some { concurrency := summary.concurrency, repeatIndex, reasons }

/-- `collect_auto_rerun_targets`. -/
def collectAutoRerunTargets (run : BenchmarkRun) (language runtime : String)
    (initialRepeatCount : ℕ) (settings : AutoRerunSettings) : List AutoRerunTarget :=
  let languageResults := run.results.filter fun result =>
    result.language = language ∧ result.runtime = runtime
  ((summariseResults languageResults).filterMap
    (rerunTarget settings run.scheduledReruns initialRepeatCount)).insertionSort
      fun a b => toLex (a.concurrency, a.repeatIndex) ≤ toLex (b.concurrency, b.repeatIndex)

/-! ### Cycles -/

/-- What a cold and a warm phase that succeed bring. -/
structure Measurement where
  coldNetwork : NetworkMetrics := {}
  coldEnvironment : Fingerprint := {}
  warmNetwork : NetworkMetrics := {}
  warmEnvironment : Fingerprint := {}
  resources : Option ResourceMetrics := none

/-- The language that is deployed, with the size of its binary. -/
structure Deployed where
  name : String
  runtime : String
  binarySizeBytes : ℕ

/-- The two results of a cycle. -/
def cycleResults (lang : Deployed) (m : Measurement) (concurrency repeatIndex : ℕ) :
    List BenchmarkResult :=
  let result (scenario : String) (environment : Fingerprint) (network : NetworkMetrics) :
      BenchmarkResult :=
    { language := lang.name
      runtime := lang.runtime
      concurrency
      repeatIndex
      scenario
      environment
      network
      binarySizeBytes := lang.binarySizeBytes }
  [result "cold" m.coldEnvironment m.coldNetwork,
    { result "warm" m.warmEnvironment m.warmNetwork with resources := m.resources.getD {} }]

/-- `run_case_cycle`, with what the cycle brings unless it fails. -/
def runCaseCycle (lang : Deployed) (outcome : Option Measurement) (concurrency repeatIndex : ℕ)
    (run : BenchmarkRun) : BenchmarkRun :=
  match outcome with
  | some m => { run with results := run.results ++ cycleResults lang m concurrency repeatIndex }
  | none => run

/-- The target is put down as scheduled. -/
def scheduleRerun (lang : Deployed) (target : AutoRerunTarget) (run : BenchmarkRun) :
    BenchmarkRun :=
  let rerun : ScheduledRerun :=
    { language := lang.name
      runtime := lang.runtime
      concurrency := target.concurrency
      repeatIndex := target.repeatIndex
      reasons := target.reasons }
  { run with scheduledReruns := run.scheduledReruns ++ [rerun] }

/-- One rerun: it is scheduled, and its cycle is run. -/
def runTarget (lang : Deployed) (rerun : ℕ → Option Measurement) (run : BenchmarkRun)
    (target : AutoRerunTarget) : BenchmarkRun :=
  runCaseCycle lang (rerun run.scheduledReruns.length) target.concurrency target.repeatIndex
    (scheduleRerun lang target run)

/-- The passes over a language, until there is no target. -/
def rerunLoop (lang : Deployed) (initialRepeatCount : ℕ) (settings : AutoRerunSettings)
    (rerun : ℕ → Option Measurement) : ℕ → BenchmarkRun → Option BenchmarkRun
  | 0, _ => none
  | fuel + 1, run =>
      match collectAutoRerunTargets run lang.name lang.runtime initialRepeatCount settings with
      | [] => some run
      | targets =>
          rerunLoop lang initialRepeatCount settings rerun fuel
            (targets.foldl (runTarget lang rerun) run)

/-! ### The command -/

/-- The languages of test cases under names not seen, each once. -/
def uniqueLanguagesFrom (seen : List String) : List TestCase → List LanguageEntry
  | [] => []
  | case :: rest =>
      let key := case.language.name ++ "|" ++ case.language.runtime
      if key ∈ seen then uniqueLanguagesFrom seen rest
      else case.language :: uniqueLanguagesFrom (key :: seen) rest

/-- `unique_languages`. -/
def uniqueLanguages (cases : List TestCase) : List LanguageEntry := uniqueLanguagesFrom [] cases

/-- What comes of the set-up of a language: the command stops before it (it is cancelled, or there
is no machine), its deployment fails, or it is ready. -/
inductive LanguageSetup
  | stopped
  | failed
  | ready (binarySizeBytes : ℕ)

/-- What the set-ups and the cycles of the matrix bring, by the place of the language among the
languages and of the cycle among its cycles. -/
structure MatrixOutcomes where
  setup : ℕ → LanguageSetup
  initial : ℕ → ℕ → Option Measurement

/-- `language_cases`. -/
def languageCases (cases : List TestCase) (lang : LanguageEntry) : List TestCase :=
  cases.filter fun case => case.language.name = lang.name ∧ case.language.runtime = lang.runtime

/-- The cycles of the matrix for a language, from the place `i` on. -/
def initialCycles (lang : Deployed) (initial : ℕ → Option Measurement) :
    ℕ → List TestCase → BenchmarkRun → BenchmarkRun
  | _, [], run => run
  | i, case :: rest, run =>
      initialCycles lang initial (i + 1) rest
        (runCaseCycle lang (initial i) case.concurrency case.repeatIndex run)

/-- The languages from the place `i` on; the run as the loop leaves it. -/
def languageLoop (fuel : ℕ) (cfg : BenchmarkConfig) (settings : Option AutoRerunSettings)
    (cases : List TestCase) (outcomes : MatrixOutcomes) (rerun : ℕ → Option Measurement) :
    ℕ → List LanguageEntry → BenchmarkRun → Option BenchmarkRun
  | _, [], run => some run
  | i, lang :: rest, run =>
      match outcomes.setup i with
      | .stopped => some run
      | .failed => languageLoop fuel cfg settings cases outcomes rerun (i + 1) rest run
      | .ready binarySizeBytes =>
          let deployed : Deployed := ⟨lang.name, lang.runtime, binarySizeBytes⟩
          let run := initialCycles deployed (outcomes.initial i) 0 (languageCases cases lang) run
          let run := match settings with
            | none => some run
            | some settings => rerunLoop deployed cfg.repeat settings rerun fuel run
          run.bind (languageLoop fuel cfg settings cases outcomes rerun (i + 1) rest)

/-- `cmd_run`, with what the reruns bring by the order in which they are scheduled. -/
def cmdRun (fuel : ℕ) (cfg : BenchmarkConfig) (settings : Option AutoRerunSettings)
    (seed : Option UInt64) (outcomes : MatrixOutcomes) (rerun : ℕ → Option Measurement) :
    Option BenchmarkRun :=
  let cases := cfg.testMatrixWithSeed seed
  let baseline := cfg.baselineLanguage.map fun language =>
    { language, runtime := cfg.baselineRuntime : Baseline }
  languageLoop fuel cfg settings cases outcomes rerun 0 (uniqueLanguages cases) { baseline }

end BenchOrchestrator

end Networker
