/-
One run of the tester against a target (`networker-tester/src/target_runner.rs`, with
`log_attempt` and `published_logical_attempts` of `dispatch.rs`).

* `Probes`: what every probe of a run brings, and in which order concurrent probes end;
* `sampleTries`: the tries of one sample; `burst`, `stackBurst`: the samples of one mode;
* `publishedLogicalAttempts`: the attempts that remain of the tries;
* `collectIteration`: every mode once; `phaseLoop`: the iterations of a phase;
* `executionPlan`: the plan of the measured loop;
* `runForTarget`: warm-ups, overhead, pilot, measured loop, cooldown and HTTP stacks.
-/
import Networker.Tester.Benchmark

namespace Networker

open Data Metrics Benchmark

namespace TargetRunner

/-! ### Probes -/

/-- Where a probe is made: to warm up a connection, or as a try of a sample of a burst. -/
inductive Site
  | warmup2
  | warmup3
  | tryAt (burst sample k : ℕ)
deriving DecidableEq

/-- A number for every site. -/
def siteId : Site → ℕ
  | .warmup2 => 0
  | .warmup3 => 1
  | .tryAt burst sample k => 2 + Nat.pair (Nat.pair burst sample) k

lemma siteId_injective : Function.Injective siteId := by
  intro s t h
  cases s <;> cases t <;> simp only [siteId] at h <;> try omega
  · rfl
  · rfl
  · obtain ⟨hpair, rfl⟩ := Nat.pair_eq_pair.mp (Nat.add_left_cancel h)
    obtain ⟨rfl, rfl⟩ := Nat.pair_eq_pair.mp hpair
    rfl

/-- What a probe brings. -/
structure Outcome where
  attemptId : ℕ
  startedAt : DateTime
  finishedAt : Option DateTime
  success : Bool
  results : SubResults := {}

/-- A mode to probe: its burst and its first sequence number. -/
structure Task where
  burst : ℕ
  baseSeq : ℕ
  protocol : Protocol
  payload : Option ℕ

/-- The probes of a run. Every attempt has an id of its own (`Uuid::new_v4`), and the modes
that run concurrently end in some order. -/
structure Probes where
  outcome : Site → Outcome
  fresh : Function.Injective fun s => (outcome s).attemptId
  completion : List Task → List Task
  complete : ∀ tasks, (completion tasks).Perm tasks
  stackAvailable : ℕ → Bool

/-- The probes may end in the order in which they were started. -/
lemma Probes.perm_id (tasks : List Task) : (id tasks).Perm tasks := List.Perm.refl tasks

/-- The attempt of a probe (`dispatch_once`, `warmup_pageload2`, `run_pageload2_warm` and
their HTTP/3 siblings). -/
def dispatch (env : Probes) (site : Site) (protocol : Protocol) (seq : ℕ) : RequestAttempt :=
  let o := env.outcome site
  { attemptId := o.attemptId
    protocol
    sequenceNum := seq
    startedAt := o.startedAt
    finishedAt := o.finishedAt
    success := o.success
    results := o.results }

/-! ### One sample -/

/-- The retries behind an attempt: while it fails and there are retries left. -/
def retriesFrom (probe : ℕ → RequestAttempt) (last : RequestAttempt) :
    ℕ → ℕ → List RequestAttempt
  | _, 0 => []
  | k, left + 1 =>
      if last.success then [] else probe k :: retriesFrom probe (probe k) (k + 1) left

/-- The tries of one sample. -/
def sampleTries (probe : ℕ → RequestAttempt) (retries : ℕ) : List RequestAttempt :=
  probe 0 :: retriesFrom probe (probe 0) 1 retries

/-- The samples of a burst. -/
def samplesOf (cfg : ResolvedConfig) : ℕ := max cfg.samples 1

/-- The tries of a task, sample by sample. The retries of a sample have its number. -/
def burst (cfg : ResolvedConfig) (env : Probes) (t : Task) : List (List RequestAttempt) :=
  (List.range (samplesOf cfg)).map fun i =>
    sampleTries (fun k =>
      { dispatch env (.tryAt t.burst i k) t.protocol (t.baseSeq + i) with
        retryCount := k
        sampleIndex := i }) cfg.retries

/-- The tries against an HTTP stack, sample by sample. Every try has a number of its own. -/
def stackBurst (cfg : ResolvedConfig) (env : Probes) (stack : HttpStack) (number : ℕ)
    (protocol : Protocol) : List ℕ → ℕ → List (List RequestAttempt)
  | [], _ => []
  | i :: is, seq =>
      let tries := sampleTries (fun k =>
        { dispatch env (.tryAt number i k) protocol (seq + k) with
          retryCount := k
          sampleIndex := i
          httpStack := some stack.name }) cfg.retries
      tries :: stackBurst cfg env stack number protocol is (seq + tries.length)

/-- One attempt added to the published ones: a retry replaces what it retried. -/
def publishStep (published : List RequestAttempt) (a : RequestAttempt) : List RequestAttempt :=
  match published.getLast? with
  | some prev =>
      if prev.sampleIndex = a.sampleIndex then published.dropLast ++ [a] else published ++ [a]
  | none => [a]

/-- `published_logical_attempts`. -/
def publishedLogicalAttempts (attempts : List RequestAttempt) : List RequestAttempt :=
  attempts.foldl publishStep []

/-! ### One iteration -/

/-- The state of a run: the next sequence number, the number of bursts so far, the attempts
whose events are on the stream (`log_attempt`) and the attempts of the artifact. -/
structure RunState where
  seq : ℕ := 0
  bursts : ℕ := 0
  logged : List RequestAttempt := []
  allAttempts : List RequestAttempt := []

/-- The phase an attempt is tagged with (`benchmark_phase_tag`). -/
def benchmarkPhaseTag (cfg : ResolvedConfig) (loopPhase : String) : Option String :=
  if !cfg.benchmarkMode then none
  else if Metrics.TestRun.isSpecial cfg.benchmarkPhase then some cfg.benchmarkPhase
  else some loopPhase

/-- Attempts with a phase. -/
def tagged (tag : Option String) (attempts : List RequestAttempt) : List RequestAttempt :=
  attempts.map fun a => { a with phase := tag }

/-- The protocols that are probed once for each payload size. -/
def hasPayload : Protocol → Bool
  | .download | .download1 | .download2 | .download3
  | .upload | .upload1 | .upload2 | .upload3
  | .webDownload | .webUpload | .udpDownload | .udpUpload => true
  | _ => false

/-- `mode_tasks`. -/
def modeTasks (modes : List Protocol) (payloadSizes : List ℕ) : List (Protocol × Option ℕ) :=
  modes.flatMap fun p =>
    if hasPayload p then payloadSizes.map fun size => (p, some size) else [(p, none)]

/-- The tasks of an iteration, each with its sequence numbers. -/
def tasksOf (cfg : ResolvedConfig) (st : RunState) (modes : List (Protocol × Option ℕ)) :
    List Task :=
  modes.mapIdx fun i m => ⟨st.bursts + i, st.seq + i * samplesOf cfg, m.1, m.2⟩

/-- The tasks in the order in which they end: consecutive tasks of one protocol run
concurrently, the groups behind each other. -/
def finished (env : Probes) (tasks : List Task) : List Task :=
  (tasks.splitBy fun a b => decide (a.protocol = b.protocol)).flatMap env.completion

/-- `collect_iteration`: the attempts it publishes, and the state behind it. -/
def collectIteration (cfg : ResolvedConfig) (env : Probes) (modes : List (Protocol × Option ℕ))
    (st : RunState) : List RequestAttempt × RunState :=
  let raws := (finished env (tasksOf cfg st modes)).map fun t => (burst cfg env t).flatten
  (raws.flatMap publishedLogicalAttempts,
    { st with
      seq := st.seq + modes.length * samplesOf cfg
      bursts := st.bursts + modes.length
      logged := st.logged ++ raws.flatten })

/-- An iteration of a phase, with its attempts in the artifact. -/
def phaseIteration (cfg : ResolvedConfig) (env : Probes) (modes : List (Protocol × Option ℕ))
    (phase : String) (st : RunState) : List RequestAttempt × RunState :=
  let (published, st) := collectIteration cfg env modes st
  let published := tagged (benchmarkPhaseTag cfg phase) published
  (published, { st with allAttempts := st.allAttempts ++ published })

/-! ### Loops -/

/-- How a loop ends: its attempts, how many iterations it made, and why it stopped. -/
structure LoopEnd where
  attempts : List RequestAttempt
  completed : ℕ
  stopReason : Option StopReason
  state : RunState

/-- The iterations of a phase: at most `left` more, and none behind the one whose attempts
let the criteria stop the loop. -/
def phaseLoop (cfg : ResolvedConfig) (env : Probes) (modes : List (Protocol × Option ℕ))
    (phase : String) (criteria : Option AdaptiveCriteria) :
    ℕ → ℕ → List RequestAttempt → RunState → LoopEnd
  | 0, completed, attempts, st => ⟨attempts, completed, none, st⟩
  | left + 1, completed, attempts, st =>
      let (published, st) := phaseIteration cfg env modes phase st
      let attempts := attempts ++ published
      match criteria.bind fun c => (benchmarkAdaptiveStatus c attempts).stopReason with
      | some reason => ⟨attempts, completed + 1, some reason, st⟩
      | none => phaseLoop cfg env modes phase criteria left (completed + 1) attempts st

/-- The loop of a phase, from its start. -/
def runPhase (cfg : ResolvedConfig) (env : Probes) (modes : List (Protocol × Option ℕ))
    (phase : String) (criteria : Option AdaptiveCriteria) (iterations : ℕ) (st : RunState) :
    LoopEnd :=
  phaseLoop cfg env modes phase criteria iterations 0 [] st

/-- The iterations of the overhead or the cooldown phase. -/
def sideRuns (cfg : ResolvedConfig) (configured : Option ℕ) (default : ℕ) : ℕ :=
  if measuredBenchmark cfg then configured.getD default else 0

/-- The plan of the measured loop. -/
def executionPlan (cfg : ResolvedConfig) (pilotAttempts : List RequestAttempt) :
    Option BenchmarkExecutionPlan :=
  if !pilotAttempts.isEmpty then some (deriveMeasuredPlanFromPilot cfg pilotAttempts)
  else
    match benchmarkAdaptiveCriteria cfg with
    | some c => some
        { source := "explicit"
          minSamples := c.minSamples
          maxSamples := c.maxSamples
          minDurationMs := c.minDurationMs
          targetRelativeError := c.targetRelativeError
          targetAbsoluteError := c.targetAbsoluteError }
    | none =>
        if measuredBenchmark cfg then some
          { source := "fixed-count"
            minSamples := cfg.runs
            maxSamples := cfg.runs
            minDurationMs := 0
            targetRelativeError := none
            targetAbsoluteError := none }
        else none

/-- The criteria of a plan. -/
def criteriaOf (plan : BenchmarkExecutionPlan) : AdaptiveCriteria where
  minSamples := plan.minSamples
  maxSamples := plan.maxSamples
  minDurationMs := plan.minDurationMs
  targetRelativeError := plan.targetRelativeError
  targetAbsoluteError := plan.targetAbsoluteError

/-- The text for the end of the measured loop. -/
def stopText : Option StopReason → String
  | some .accuracyTargetReached => "accuracy_target_reached"
  | some .maxSamplesReached => "max_samples_reached"
  | none => "sample_budget_exhausted"

/-! ### HTTP stacks -/

/-- The modes that are compared between HTTP stacks. -/
def isStackMode : Protocol → Bool
  | .pageLoad | .pageLoad2 | .pageLoad3 => true
  | .browser | .browser1 | .browser2 | .browser3 => true
  | _ => false

/-- One mode against a stack. -/
def stackProbe (cfg : ResolvedConfig) (env : Probes) (stack : HttpStack) (st : RunState)
    (protocol : Protocol) : RunState :=
  let raw :=
    (stackBurst cfg env stack st.bursts protocol (List.range (samplesOf cfg)) st.seq).flatten
  { seq := st.seq + raw.length
    bursts := st.bursts + 1
    logged := st.logged ++ raw
    allAttempts := st.allAttempts ++
      tagged (benchmarkPhaseTag cfg cfg.benchmarkPhase) (publishedLogicalAttempts raw) }

/-- All runs against a stack, unless it is not available. -/
def stackRuns (cfg : ResolvedConfig) (env : Probes) (modes : List Protocol) (st : RunState)
    (stack : HttpStack × ℕ) : RunState :=
  if env.stackAvailable stack.2 then
    (List.replicate cfg.runs (modes.filter isStackMode)).flatten.foldl
      (stackProbe cfg env stack.1) st
  else st

/-! ### The run -/

/-- The warm-up of a connection. -/
def warmup (cfg : ResolvedConfig) (env : Probes) (site : Site) (protocol : Protocol)
    (st : RunState) : RunState :=
  let a := { dispatch env site protocol st.seq with phase := benchmarkPhaseTag cfg "warmup" }
  { st with
    seq := st.seq + 1
    logged := st.logged ++ [a]
    allAttempts := st.allAttempts ++ [a] }

/-- The warm-ups of a run. -/
def warmups (cfg : ResolvedConfig) (env : Probes) (modes : List Protocol) : RunState :=
  let st : RunState := {}
  let st := if cfg.connectionReuse && modes.contains .pageLoad2 then
    warmup cfg env .warmup2 .pageLoad2 st else st
  if cfg.connectionReuse && modes.contains .pageLoad3 then
    warmup cfg env .warmup3 .pageLoad3 st else st

/-- What is measured around the run, and ends up in its record. -/
structure Surroundings where
  startedAt : DateTime
  finishedAt : DateTime
  benchmarkStabilityCheck : Option BenchmarkStabilityCheck
  benchmarkEnvironmentCheck : Option BenchmarkEnvironmentCheck
  baseline : Option NetworkBaseline
  clockOffsetMs : Option Float

/-- The phases of a run. -/
structure Phases where
  warmedUp : RunState
  overhead : LoopEnd
  pilot : LoopEnd
  plan : Option BenchmarkExecutionPlan
  measured : LoopEnd
  cooldown : LoopEnd
  last : RunState

/-- The phases of a run, one behind the other. -/
def phases (cfg : ResolvedConfig) (env : Probes) (modes : List Protocol)
    (payloadSizes : List ℕ) : Phases :=
  let tasks := modeTasks modes payloadSizes
  let warmedUp := warmups cfg env modes
  let overhead := runPhase cfg env tasks "overhead" none
    (sideRuns cfg cfg.benchmarkOverheadSamples defaultOverheadSamples) warmedUp
  let pilotCriteria := benchmarkPilotCriteria cfg
  let pilot := runPhase cfg env tasks "pilot" pilotCriteria
    ((pilotCriteria.map (·.maxSamples)).getD 0) overhead.state
  let plan := executionPlan cfg pilot.attempts
  let criteria := if measuredBenchmark cfg then plan.map criteriaOf else none
  let measured := runPhase cfg env tasks cfg.benchmarkPhase criteria
    ((criteria.map (·.maxSamples)).getD cfg.runs) pilot.state
  let cooldown := runPhase cfg env tasks "cooldown" none
    (sideRuns cfg cfg.benchmarkCooldownSamples defaultCooldownSamples) measured.state
  let last := cfg.httpStacks.zipIdx.foldl (stackRuns cfg env modes) cooldown.state
  { warmedUp, overhead, pilot, plan, measured, cooldown, last }

/-- The noise thresholds of a configuration. -/
def noiseThresholds (cfg : ResolvedConfig) : BenchmarkNoiseThresholds :=
  let default : BenchmarkNoiseThresholds := {}
  { maxPacketLossPercent :=
      cfg.benchmarkMaxPacketLossPercent.getD default.maxPacketLossPercent
    maxJitterRatio := cfg.benchmarkMaxJitterRatio.getD default.maxJitterRatio
    maxRttSpreadRatio := cfg.benchmarkMaxRttSpreadRatio.getD default.maxRttSpreadRatio
    maxCpuBusyPercent := cfg.benchmarkMaxCpuBusyPercent.getD default.maxCpuBusyPercent
    maxCpuStealPercent := cfg.benchmarkMaxCpuStealPercent.getD default.maxCpuStealPercent }

/-- What is recorded of a benchmark alone. -/
def inBenchmark {α : Type} (cfg : ResolvedConfig) (a : α) : Option α :=
  if cfg.benchmarkMode then some a else none

/-- The number of attempts of a phase, at most the largest 32-bit integer. -/
def phaseCount (attempts : List RequestAttempt) : ℕ := min attempts.length (2 ^ 32 - 1)

/-- The record of a run. -/
def testRun (cfg : ResolvedConfig) (around : Surroundings) (p : Phases) : Metrics.TestRun where
  startedAt := around.startedAt
  finishedAt := some around.finishedAt
  benchmarkPhase := inBenchmark cfg cfg.benchmarkPhase
  benchmarkScenario := inBenchmark cfg cfg.benchmarkScenario
  benchmarkLaunchIndex := inBenchmark cfg cfg.benchmarkLaunchIndex
  benchmarkWarmupAttemptCount := (inBenchmark cfg (p.warmedUp.allAttempts.length % 2 ^ 32)).getD 0
  benchmarkPilotAttemptCount := (inBenchmark cfg (phaseCount p.pilot.attempts)).getD 0
  benchmarkOverheadAttemptCount := (inBenchmark cfg (phaseCount p.overhead.attempts)).getD 0
  benchmarkCooldownAttemptCount := (inBenchmark cfg (phaseCount p.cooldown.attempts)).getD 0
  benchmarkExecutionPlan := (inBenchmark cfg (p.plan.map fun plan =>
    { plan with stopReason := some (stopText p.measured.stopReason) })).join
  benchmarkNoiseThresholds := inBenchmark cfg (noiseThresholds cfg)
  benchmarkStabilityCheck := around.benchmarkStabilityCheck
  benchmarkEnvironmentCheck := around.benchmarkEnvironmentCheck
  baseline := around.baseline
  clockOffsetMs := around.clockOffsetMs
  attempts := p.last.allAttempts

/-- `run_for_target`: the events on the stream, and the record of the run. -/
def runForTarget (cfg : ResolvedConfig) (env : Probes) (around : Surroundings)
    (modes : List Protocol) (payloadSizes : List ℕ) : List RequestAttempt × Metrics.TestRun :=
  let p := phases cfg env modes payloadSizes
  (p.last.logged, testRun cfg around p)

end TargetRunner

end Networker
