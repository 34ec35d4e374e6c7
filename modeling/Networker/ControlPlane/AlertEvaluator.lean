/-
Alert evaluation behind a `run_finished` frame (`AlertEvaluator.cs`, `AlertRuleLogic.cs`,
`RunMetricProvider.cs`, `AgentMessageProcessor.OnRunFinished`).

* `breaches`, `windowBreached`, `nextTransition`: the pure decisions;
* `AlertWorld`: the rules, runs and events, and what the probe results say of a run;
* `getMetric`: a metric of a run, with the latencies read once for each evaluation;
* `Handler.advance`: the frame is handled, one statement after the other;
* `alerting`: handlers side by side, new runs, and writes to runs and rules by others.

Events are in the order in which they were inserted.  Delivery is not modelled beyond the time
that it takes, and metrics and comparators are those that the database accepts.
-/
import Networker.Concurrency.Machine
import Networker.ControlPlane.Entities
import Networker.Data.Float64
import Networker.Data.Table

namespace Networker

open Data Concurrency

namespace Alerting

/-! ### The decisions -/

/-- `AlertRuleLogic.Metrics`. -/
inductive Metric
  | p95Ms
  | meanMs
  | errorRate
  | successRate
  deriving DecidableEq

/-- `AlertRuleLogic.Comparators`. -/
inductive Comparator
  | gt
  | lt
  deriving DecidableEq

inductive AlertState
  | firing
  | resolved
  deriving DecidableEq

/-- `Breaches`. -/
def breaches : Comparator → Float → Float → Bool
  | .gt, value, threshold => threshold < value
  | .lt, value, threshold => value < threshold

/-- `MinWindowRuns`. -/
def minWindowRuns : ℕ := 1

/-- `WindowBreached`. -/
def windowBreached (newestFirstValues : List (Option Float)) (windowRuns : ℕ)
    (comparator : Comparator) (threshold : Float) : Bool :=
  if windowRuns < minWindowRuns ∨ newestFirstValues.length < windowRuns then false
  else (newestFirstValues.take windowRuns).all (·.any (breaches comparator · threshold))

/-- `NextTransition`. -/
def nextTransition : Bool → Bool → Option AlertState
  | false, true => some .firing
  | true, false => some .resolved
  | _, _ => none

/-- `SuccessRate`. -/
def successRate (successCount failureCount : ℤ) : Option Float :=
  if successCount + failureCount ≤ 0 then none
  else some (Float.ofInt successCount / Float.ofInt (successCount + failureCount))

/-- `ErrorRate`. -/
def errorRate (successCount failureCount : ℤ) : Option Float :=
  if successCount + failureCount ≤ 0 then none
  else some (Float.ofInt failureCount / Float.ofInt (successCount + failureCount))

/-! ### The database -/

structure AlertRule where
  ruleId : Guid
  projectId : String
  testConfigId : Option Guid
  metric : Metric
  comparator : Comparator
  threshold : Float
  windowRuns : ℕ
  enabled : Bool
  deriving DecidableEq

/-- The columns of `test_run` that alerting reads. -/
structure RunRow where
  id : Guid
  projectId : String
  testConfigId : Guid
  status : RunStatus
  successCount : ℤ
  failureCount : ℤ
  createdAt : ℕ
  deriving DecidableEq

instance : Keyed RunRow := ⟨RunRow.id⟩

structure AlertEvent where
  ruleId : Guid
  runId : Guid
  firedAt : ℕ
  state : AlertState
  deriving DecidableEq

/-- What the probe results of a run say of its latency. -/
structure Latency where
  meanMs : Option Float
  p95Ms : Option Float
  deriving DecidableEq

/-- What is read of a run in the window of another one. -/
structure Sample where
  id : Guid
  successCount : ℤ
  failureCount : ℤ
  createdAt : ℕ
  deriving DecidableEq

def RunRow.sample (r : RunRow) : Sample := ⟨r.id, r.successCount, r.failureCount, r.createdAt⟩

/-- `AlertEvaluator.TerminalStatuses`. -/
def isTerminalStatus : RunStatus → Bool
  | .completed | .failed => true
  | _ => false

/-! ### An evaluation -/

/-- Where a handler of `run_finished` stands. -/
inductive Stage
  /-- In front of the guarded update of the status. -/
  | finish (status : RunStatus) (reported : Option (ℤ × ℤ))
  /-- In front of the update of the counts. -/
  | counts (reported : ℤ × ℤ)
  | readRun
  | readRules
  | readPriors (rules : List AlertRule)
  /-- In front of the next rule. -/
  | rule (priors : List Sample) (rules : List AlertRule)
  /-- In front of the metric of a prior run. -/
  | measure (priors : List Sample) (rules : List AlertRule) (rule : AlertRule)
      (values : List (Option Float)) (left : List Sample)
  | readLast (priors : List Sample) (rules : List AlertRule) (rule : AlertRule) (breached : Bool)
  | insert (priors : List Sample) (rules : List AlertRule) (rule : AlertRule)
      (breached currentlyFiring : Bool) (transition : AlertState)
  | deliver (priors : List Sample) (rules : List AlertRule)
  | ended
  deriving DecidableEq

/-- A handler of `run_finished`, with the row that its evaluation has read. -/
structure Handler where
  run : Guid
  stage : Stage
  row : Option RunRow := none
  latencyCache : List (Guid × Latency) := []

def Handler.goto (h : Handler) (stage : Stage) : Handler := { h with stage := stage }

structure AlertWorld where
  clock : ℕ
  rules : List AlertRule
  runs : Table RunRow
  latencies : Guid → Latency
  events : List AlertEvent
  handlers : List Handler
  /-- The run on which the state of a rule and a config was decided last. -/
  shown : Guid → Guid → Option RunRow

namespace AlertWorld

variable (w : AlertWorld)

/-- The samples of the terminal runs of a config. -/
def terminalRuns (config : Guid) : List Sample :=
  (w.runs.select fun r => r.testConfigId == config && isTerminalStatus r.status).map RunRow.sample

/-- The prior terminal runs of the config, the newest first. -/
def priorRuns (row : RunRow) : List Sample :=
  ((w.terminalRuns row.testConfigId).filter fun s =>
    s.id != row.id && s.createdAt ≤ row.createdAt).insertionSort fun a b => b.createdAt ≤ a.createdAt

def configOf (run : Guid) : Option Guid := (w.runs.find? run).map (·.testConfigId)

/-- The events of a rule on the runs of a config. -/
def eventsOf (rule config : Guid) : List AlertEvent :=
  w.events.filter fun e => e.ruleId == rule && w.configOf e.runId == some config

end AlertWorld

/-- The event with the latest `FiredAt`. -/
def latest (events : List AlertEvent) : Option AlertEvent :=
  events.foldl (fun best e => if best.all (·.firedAt < e.firedAt) then some e else best) none

namespace AlertWorld

variable (w : AlertWorld)

/-- The last recorded state of a rule and a config is `firing`. -/
def firing (rule config : Guid) : Bool :=
  (latest (w.eventsOf rule config)).any (·.state == .firing)

def onRun (run : Guid) (f : RunRow → RunRow) (hf : ∀ r, Keyed.key (f r) = Keyed.key r) :
    AlertWorld :=
  { w with runs := w.runs.update run (fun _ => true) f hf }

def setStatus (run : Guid) (status : RunStatus) : AlertWorld :=
  w.onRun run (fun r => { r with status := status }) fun _ => rfl

def setCounts (run : Guid) (counts : ℤ × ℤ) : AlertWorld :=
  w.onRun run (fun r => { r with successCount := counts.1, failureCount := counts.2 }) fun _ => rfl

/-- The state of the rule and the config of the run is that of the run. -/
def showRun (rule : Guid) (row : RunRow) : AlertWorld :=
  { w with
    shown := Function.update w.shown rule
      (Function.update (w.shown rule) row.testConfigId (some row)) }

/-- An event is inserted, later than all others. -/
def insertEvent (rule : Guid) (row : RunRow) (state : AlertState) : AlertWorld :=
  { w.showRun rule row with
    events := w.events ++ [⟨rule, row.id, w.clock, state⟩], clock := w.clock + 1 }

end AlertWorld

section Evaluate

variable (w : AlertWorld)

/-- `GetLatencyAsync`. -/
def getLatency (cache : List (Guid × Latency)) (run : Guid) : Latency × List (Guid × Latency) :=
  match cache.lookup run with
  | some latency => (latency, cache)
  | none => (w.latencies run, (run, w.latencies run) :: cache)

/-- A metric, from the counts or from the latency. -/
def metricOf (successCount failureCount : ℤ) (latency : Latency) : Metric → Option Float
  | .successRate => successRate successCount failureCount
  | .errorRate => errorRate successCount failureCount
  | .meanMs => latency.meanMs
  | .p95Ms => latency.p95Ms

/-- The metric is one of the probe results. -/
def Metric.isLatency : Metric → Bool
  | meanMs | p95Ms => true
  | _ => false

/-- `GetAsync`. -/
def getMetric (cache : List (Guid × Latency)) (s : Sample) (metric : Metric) :
    Option Float × List (Guid × Latency) :=
  if metric.isLatency then
    let read := getLatency w cache s.id
    (metricOf s.successCount s.failureCount read.1 metric, read.2)
  else (metricOf s.successCount s.failureCount ⟨none, none⟩ metric, cache)

/-- A rule is evaluated for a run. -/
def AlertRule.matchesRun (rule : AlertRule) (row : RunRow) : Bool :=
  rule.projectId == row.projectId && rule.enabled &&
    rule.testConfigId.all (· == row.testConfigId)

/-- `rules.Max(r => r.WindowRuns)`. -/
def maxWindow (rules : List AlertRule) : ℕ := (rules.map AlertRule.windowRuns).foldr max 0

/-- The handler goes on with its evaluation. -/
def Handler.evaluate (h : Handler) (row : RunRow) : AlertWorld × Handler :=
  match h.stage with
  | .readRules =>
      let rules := w.rules.filter (·.matchesRun row)
      (w, h.goto (if rules.isEmpty then .ended else .readPriors rules))
  | .readPriors rules =>
      let priors := if 1 < maxWindow rules then (w.priorRuns row).take (maxWindow rules - 1) else []
      (w, h.goto (.rule priors rules))
  | .rule _ [] => (w, h.goto .ended)
  | .rule priors (rule :: rules) =>
      let read := getMetric w h.latencyCache row.sample rule.metric
      (w, { h with
        latencyCache := read.2
        stage := match read.1 with
          | none => .rule priors rules
          | some value =>
              .measure priors rules rule [some value] (priors.take (rule.windowRuns - 1)) })
  | .measure priors rules rule values [] =>
      (w, h.goto (.readLast priors rules rule
        (windowBreached values rule.windowRuns rule.comparator rule.threshold)))
  | .measure priors rules rule values (prior :: left) =>
      let read := getMetric w h.latencyCache prior rule.metric
      (w, { h with
        latencyCache := read.2, stage := .measure priors rules rule (values ++ [read.1]) left })
  | .readLast priors rules rule breached =>
      let currentlyFiring := w.firing rule.ruleId row.testConfigId
      match nextTransition currentlyFiring breached with
      | none => (w.showRun rule.ruleId row, h.goto (.rule priors rules))
      | some transition =>
          (w, h.goto (.insert priors rules rule breached currentlyFiring transition))
  | .insert priors rules rule _ _ transition =>
      (w.insertEvent rule.ruleId row transition, h.goto (.deliver priors rules))
  | .deliver priors rules => (w, h.goto (.rule priors rules))
  | _ => (w, h.goto .ended)

/-- The handler goes on. -/
def Handler.advance (h : Handler) : AlertWorld × Handler :=
  match h.stage with
  | .finish status reported =>
      if (w.runs.find? h.run).any (!·.status.terminal) then
        (w.setStatus h.run status, h.goto (reported.elim .readRun .counts))
      else (w, h.goto .ended)
  | .counts reported => (w.setCounts h.run reported, h.goto .readRun)
  | .readRun =>
      match (w.runs.find? h.run).filter fun r => isTerminalStatus r.status with
      | none => (w, h.goto .ended)
      | some row => (w, { h with row := some row, stage := .readRules })
  | _ =>
      match h.row with
      | some row => h.evaluate w row
      | none => (w, h.goto .ended)

end Evaluate

/-! ### All evaluations side by side -/

inductive AlertMove
  | runFinished (run : Guid) (status : RunStatus) (reported : Option (ℤ × ℤ))
  /-- A handler goes on. -/
  | step (i : ℕ)
  | createRun (config : Guid) (createdAt : ℕ)
  | setStatus (run : Guid) (status : RunStatus)
  | setCounts (run : Guid) (counts : ℤ × ℤ)
  | setLatency (run : Guid) (latency : Latency)
  | setRules (rules : List AlertRule)

section Machine

variable (projectOf : Guid → String)

/-- A run of a config that was just launched. -/
def newRun (config createdAt : ℕ) (id : Guid) : RunRow :=
  ⟨id, projectOf config, config, .queued, 0, 0, createdAt⟩

namespace AlertMove

def exec : AlertMove → AlertWorld → AlertWorld
  | .runFinished run status reported, w =>
      { w with handlers := w.handlers ++ [{ run := run, stage := .finish status reported }] }
  | .step i, w =>
      match w.handlers[i]? with
      | none => w
      | some h =>
          let after := h.advance w
          { after.1 with handlers := w.handlers.set i after.2 }
  | .createRun config createdAt, w =>
      { w with runs := w.runs.insert (newRun projectOf config createdAt) fun _ => rfl }
  | .setStatus run status, w => w.setStatus run status
  | .setCounts run counts, w => w.setCounts run counts
  | .setLatency run latency, w =>
      { w with latencies := Function.update w.latencies run latency }
  | .setRules rules, w => { w with rules := rules }

/-- Runs have distinct creation times, and rules distinct ids. -/
def can : AlertMove → AlertWorld → Bool
  | .createRun _ createdAt, w => w.runs.rows.all (·.createdAt != createdAt)
  | .setRules rules, _ => (rules.map AlertRule.ruleId).Nodup
  | _, _ => true

end AlertMove

/-- The alerting of a control plane. -/
def alerting : Machine AlertMove AlertWorld := .of (AlertMove.exec projectOf) AlertMove.can

end Machine

/-- No run has been created yet. -/
def AlertWorld.start (rules : List AlertRule) : AlertWorld where
  clock := 0
  rules := rules
  runs := .empty
  latencies _ := ⟨none, none⟩
  events := []
  handlers := []
  shown _ _ := none

end Alerting

end Networker
