/-
The benchmark cycle (`benchmarks/orchestrator/src/executor/cycle.rs` and `benchmark.rs`).

* `Outcomes`: what every command, callback and check of a run brings;
* `languageWork`, `pairWork`: what is run for a language, and whether it succeeded;
* `runLanguages`: the languages of a testbed; `runApplicationMatrix`: its proxies, each with
  all languages;
* `acquireLoop`, `executeTestbedApplication`: the lock of the tester around the matrix;
* `executeTestbed`, `executeDashboardBenchmark`: one testbed, and the whole run.

The counters are 32-bit numbers that wrap, as in a release build.
-/
import Networker.BenchOrchestrator.DashboardConfig

namespace Networker

open Data

namespace BenchOrchestrator

/-! ### Outcomes -/

/-- The points at which a run checks whether it is cancelled. -/
inductive Moment
  | beforeTestbed (testbed : ℕ)
  | beforeLanguage (testbed language : ℕ)
  | dashboard (testbed language : ℕ)
  | beforeProxy (testbed proxy : ℕ)
  | beforePair (testbed proxy language : ℕ)
  | testbedStatus (testbed read : ℕ)
  | atEnd
deriving DecidableEq

/-- What is run for a language. -/
inductive Step
  | deploy
  | benchmark (k : ℕ)
  | report (k : ℕ)
  | loadWorkloads
  | workload (k : ℕ)
  | workloadReport (k : ℕ)
deriving DecidableEq

/-- What the steps for a language bring, and the number of API workloads. -/
structure Trial where
  ok : Step → Bool
  workloads : ℕ

/-- `AcquireOutcome`. -/
inductive AcquireOutcome
  | acquired
  | needsStart
  | transient (state : String)
  | upgrading
  | alreadyLockedBy (other : String)
  | errored
  | gone
  | notIdle (state : String)
deriving DecidableEq

/-- What the commands on a testbed bring. -/
structure TestbedTrials where
  /-- The VM, if it is resolved, and whether it was provisioned for the run. -/
  resolveVm : Option Bool
  sshReady : Bool
  checkCancelled : ℕ → Option Bool
  language : ℕ → Trial
  /-- The id of the configuration is a UUID, and the database has a tester for it. -/
  testerFound : Bool
  tryAcquire : ℕ → Option AcquireOutcome
  ensureRunning : ℕ → Bool
  tokenDeployed : Bool
  pastDeadline : ℕ → Bool
  proxyDeployed : ℕ → Bool
  pair : ℕ → ℕ → Trial
  /-- A panic in the matrix, behind a number of its events. -/
  panicAfter : Option ℕ

/-- What a run meets. The flag for a cancellation is raised from outside, and stays up. -/
structure Outcomes where
  raised : Moment → Bool
  stays : ∀ m, raised m = true → raised .atEnd = true
  testbed : ℕ → TestbedTrials

/-- What was run for a language of a testbed, behind a proxy or not. -/
structure Attempt where
  testbed : ℕ
  proxy : Option ℕ
  language : ℕ
  steps : List (Step × Bool)
deriving DecidableEq

/-- Every step that was run succeeded. -/
def Attempt.succeeded (a : Attempt) : Bool := a.steps.all (·.2)

/-- What a run does, without its log lines and progress messages. -/
inductive Event
  | attempt (a : Attempt)
  | cancelled (m : Moment)
  | status (testbed : ℕ) (status : String)
  | terminalStatus (status : String)
  | teardown (testbed : ℕ)
deriving DecidableEq

/-! ### One language -/

/-- Steps that were run, and whether they count as a success. -/
structure Work where
  ok : Bool
  steps : List (Step × Bool)

/-- Work after work. -/
def Work.and (a b : Work) : Work := ⟨a.ok && b.ok, a.steps ++ b.steps⟩

/-- Nothing to do. -/
def Work.nothing : Work := ⟨true, []⟩

variable (trial : Trial)

/-- One step by itself. -/
def runStep (step : Step) : Work := ⟨trial.ok step, [(step, trial.ok step)]⟩

/-- A step, and its report if it succeeded. -/
def runAndReport (run report : Step) : Work :=
  if trial.ok run then (runStep trial run).and (runStep trial report) else runStep trial run

/-- Many steps, each with its report. A failure stops none of the others. -/
def runEach (run report : ℕ → Step) (n : ℕ) : Work :=
  (List.range n).foldl (fun work k => work.and (runAndReport trial (run k) (report k)))
    Work.nothing

/-- `run_apibench_suite`. -/
def runApibenchSuite (language : String) : Work :=
  if !languageSupportsApibench language then Work.nothing
  else if !trial.ok .loadWorkloads then runStep trial .loadWorkloads
  else (runStep trial .loadWorkloads).and
    (runEach trial .workload .workloadReport trial.workloads)

/-- The API workloads, if they are asked for. -/
def apibench (methodology : MethodologyConfig) (language : String) : Work :=
  if apibenchRequested methodology then runApibenchSuite trial language else Work.nothing

/-- A language on a testbed: its server, the tester and the API workloads. -/
def languageWork (methodology : MethodologyConfig) (language : String) : Work :=
  if !trial.ok .deploy then runStep trial .deploy
  else
    ((runStep trial .deploy).and
      (if (testerModes methodology).isEmpty then Work.nothing
        else runAndReport trial (.benchmark 0) (.report 0))).and
      (apibench trial methodology language)

/-- A language behind a proxy: its server, the HTTP versions of the proxy and the API
workloads. -/
def pairWork (methodology : MethodologyConfig) (proxy language : String) : Work :=
  if !trial.ok .deploy then runStep trial .deploy
  else
    ((runStep trial .deploy).and (runEach trial .benchmark .report
      (effectiveHttpVersionsForProxy proxy methodology.modes).length)).and
      (apibench trial methodology language)

/-! ### The loops of a testbed -/

/-- The counters of a testbed, and what was done so far. -/
structure Tally where
  completed : UInt32 := 0
  failed : UInt32 := 0
  events : List Event := []

namespace Tally

variable (tally : Tally)

/-- An event is added. -/
def log (e : Event) : Tally := { tally with events := tally.events ++ [e] }

/-- A language is counted as completed or failed. -/
def count (testbed : ℕ) (proxy : Option ℕ) (language : ℕ) (work : Work) : Tally :=
  { completed := if work.ok then tally.completed + 1 else tally.completed
    failed := if work.ok then tally.failed else tally.failed + 1
    events := tally.events ++ [.attempt ⟨testbed, proxy, language, work.steps⟩] }

end Tally

section Loops

variable (config : DashboardBenchmarkConfig) (o : Outcomes) (i : ℕ)

/-- The languages of a testbed, until a check says that the run is cancelled. -/
def runLanguages : List (String × ℕ) → Tally → Tally
  | [], tally => tally
  | (language, j) :: rest, tally =>
      if o.raised (.beforeLanguage i j) then tally.log (.cancelled (.beforeLanguage i j))
      else if (o.testbed i).checkCancelled j = some true then
        tally.log (.cancelled (.dashboard i j))
      else
        runLanguages rest (tally.count i none j
          (languageWork ((o.testbed i).language j) config.methodology language))

/-- The languages behind a proxy. -/
def runPairs (proxy : String × ℕ) : List (String × ℕ) → Tally → Tally
  | [], tally => tally
  | (language, j) :: rest, tally =>
      if o.raised (.beforePair i proxy.2 j) then
        tally.log (.cancelled (.beforePair i proxy.2 j))
      else
        runPairs proxy rest (tally.count i (some proxy.2) j
          (pairWork ((o.testbed i).pair proxy.2 j) config.methodology proxy.1 language))

/-- The proxies of a testbed, until the run is cancelled or the deadline has passed. -/
def runProxies (testbed : TestbedConfig) : List (String × ℕ) → Tally → Tally
  | [], tally => tally
  | proxy :: rest, tally =>
      if o.raised (.beforeProxy i proxy.2) then tally.log (.cancelled (.beforeProxy i proxy.2))
      else if (o.testbed i).pastDeadline proxy.2 then tally
      else if !(o.testbed i).proxyDeployed proxy.2 then
        -- The languages that are not run behind the proxy count as failed.
        runProxies testbed rest
          { tally with failed := tally.failed + UInt32.ofNat testbed.languages.length }
      else runProxies testbed rest (runPairs config o i proxy (matrixLanguages testbed) tally)

/-- The status of a testbed behind its loops. -/
def testbedStatus (tally : Tally) : String :=
  if decide (0 < tally.completed) && tally.failed == 0 && !o.raised (.testbedStatus i 0) then
    "completed"
  else if o.raised (.testbedStatus i 1) then "cancelled"
  else "completed_with_errors"

/-- The proxies times the languages that the testbed can run. -/
def totalCombinations (testbed : TestbedConfig) : UInt32 :=
  UInt32.ofNat (testbed.proxies.length * (matrixLanguages testbed).length)

/-- `run_application_matrix`. -/
def runApplicationMatrix (testbed : TestbedConfig) : Tally :=
  if !(o.testbed i).tokenDeployed then { failed := totalCombinations testbed }
  else
    let tally := runProxies config o i testbed testbed.proxies.zipIdx {}
    tally.log (.status i (testbedStatus o i tally))

end Loops

/-! ### The lock of the tester -/

/-- How the loop for the lock ends. -/
inductive LockEnd
  | acquired
  | queued
  | failed
deriving DecidableEq

/-- The loop for the lock: at most `left` more tries. -/
def acquireLoop (trials : TestbedTrials) : ℕ → ℕ → LockEnd
  | 0, _ => .failed
  | left + 1, attempt =>
      match trials.tryAcquire attempt with
      | none => .failed
      | some .acquired => .acquired
      | some .needsStart =>
          if trials.ensureRunning attempt then acquireLoop trials left (attempt + 1)
          else .failed
      | some (.transient _) => .queued
      | some .upgrading => .queued
      | some (.alreadyLockedBy _) => .queued
      | some .errored => .failed
      | some .gone => .failed
      | some (.notIdle _) => .queued

/-- The number of tries for the lock. -/
def maxAttempts : ℕ := 20

/-- How the lock flow of a testbed ends. -/
def lockEnd (trials : TestbedTrials) : LockEnd := acquireLoop trials maxAttempts 1

/-- `TestbedOutcome`. -/
structure TestbedOutcome where
  testbedId : String
  languagesCompleted : UInt32
  languagesFailed : UInt32
  provisionedVm : Bool

/-- The end of a testbed: its outcome, unless it failed, and its events. -/
structure TestbedEnd where
  outcome : Option TestbedOutcome
  events : List Event

/-- The status that an application benchmark leaves in the database. -/
def applicationStatus (completed failed : UInt32) : String :=
  if 0 < completed ∧ failed = 0 then "completed"
  else if completed = 0 ∧ failed = 0 then "completed"
  else if completed = 0 then "failed"
  else "completed_with_errors"

section Testbed

variable (config : DashboardBenchmarkConfig) (o : Outcomes) (i : ℕ)

/-- `execute_testbed_application`. -/
def executeTestbedApplication (testbed : TestbedConfig) (provisioned : Bool) : TestbedEnd :=
  if !(o.testbed i).testerFound then ⟨none, []⟩
  else
    match lockEnd (o.testbed i) with
    | .failed => ⟨none, [.terminalStatus "failed"]⟩
    | .queued => ⟨some ⟨testbed.testbedId, 0, 0, provisioned⟩, [.terminalStatus "queued"]⟩
    | .acquired =>
        let tally := runApplicationMatrix config o i testbed
        match (o.testbed i).panicAfter with
        | some n => ⟨none, tally.events.take n ++ [.terminalStatus "failed"]⟩
        | none =>
            ⟨some ⟨testbed.testbedId, tally.completed, tally.failed, provisioned⟩,
              tally.events ++ [.terminalStatus (applicationStatus tally.completed tally.failed)]⟩

/-- `execute_testbed`. -/
def executeTestbed (testbed : TestbedConfig) : TestbedEnd :=
  match (o.testbed i).resolveVm with
  | none => ⟨none, []⟩
  | some provisioned =>
      if provisioned && !(o.testbed i).sshReady then ⟨none, []⟩
      else if config.isApplication then
        executeTestbedApplication config o i testbed provisioned
      else
        let tally := runLanguages config o i testbed.languages.zipIdx {}
        ⟨some ⟨testbed.testbedId, tally.completed, tally.failed, provisioned⟩,
          tally.events ++ [.status i (testbedStatus o i tally)]⟩

/-- A testbed that failed, or one of whose languages failed. -/
def TestbedEnd.anyFailure (e : TestbedEnd) : Bool :=
  match e.outcome with
  | some outcome => decide (0 < outcome.languagesFailed)
  | none => true

/-- The VM that was provisioned for a testbed is torn down, if that is asked for. -/
def teardown (e : TestbedEnd) : List Event :=
  match e.outcome with
  | some outcome =>
      if config.autoTeardown && outcome.provisionedVm then [.teardown i] else []
  | none => []

end Testbed

/-! ### The run -/

/-- A run so far: whether there was any failure, and its events. -/
structure Progress where
  anyFailure : Bool := false
  events : List Event := []

/-- A run with what it reports at its end (`callback.complete`). -/
structure Run where
  events : List Event
  status : String
  errorMessage : Option String

section Run

variable (config : DashboardBenchmarkConfig) (o : Outcomes)

/-- The testbeds of a run, until it is cancelled. -/
def runTestbeds : List (TestbedConfig × ℕ) → Progress → Progress
  | [], progress => progress
  | (testbed, i) :: rest, progress =>
      if o.raised (.beforeTestbed i) then
        { progress with events := progress.events ++ [.cancelled (.beforeTestbed i)] }
      else
        let e := executeTestbed config o i testbed
        runTestbeds rest
          { anyFailure := progress.anyFailure || e.anyFailure
            events := progress.events ++ (e.events ++ teardown config i e) }

/-- `execute_dashboard_benchmark`. -/
def executeDashboardBenchmark : Run :=
  let progress := runTestbeds config o config.testbeds.zipIdx {}
  { events := progress.events
    status :=
      if o.raised .atEnd then "cancelled"
      else if progress.anyFailure then "completed_with_errors"
      else "completed"
    errorMessage :=
      if progress.anyFailure then some "One or more testbeds had errors" else none }

end Run

end BenchOrchestrator

end Networker
