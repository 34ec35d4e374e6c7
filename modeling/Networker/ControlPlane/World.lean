/-
The shared state of the control plane and the statements that change it.

* `World`: the database, the agent registry, the frames sent to agents, the event
  bus, the detached deploy attempts and the parts of the outside world the
  services look at;
* `RunWrite`, `DeploymentWrite`: the guarded `UPDATE`s of `test_run` and
  `deployment`, one constructor for each place in the source, each with its
  guard (`WHERE`) and its assignments (`SET`);
* `Stmt`, `Stmt.exec`: the atomic statements and what they do;
* `Svc`: a service routine, a process over these statements.
-/
import Networker.Concurrency.Interleave
import Networker.ControlPlane.Entities

namespace Networker

open Data Concurrency

/-! ### The shared state -/

/-- What is sent to an agent over its connection. -/
inductive ControlFrame
  | assignRun (runId : Guid) (run config : Json)
  | cancelRun (runId : Guid)

/-- A frame that reached the connection of an agent. -/
structure Delivery where
  agent : Guid
  frame : ControlFrame

/-- What is published on the event bus. -/
inductive DashboardEvent
  | jobUpdate (jobId : Guid) (status : String) (agentId : Option Guid)
      (startedAt finishedAt : Option Time)
  | attemptResult (jobId : Guid) (attempt : Json)
  | jobComplete (jobId runId : Guid) (successCount failureCount : ℤ)
  | agentStatus (agentId : Guid) (status : String) (lastHeartbeat : Option Time)
  | deployLog (deploymentId : Guid) (line stream : String)
  | deployComplete (deploymentId : Guid) (status : String) (endpointIps : List String)

/-- A persisted probe attempt of a run. -/
structure Attempt where
  attemptId : Guid
  runId : Guid
  body : Json

/-- How far a detached run of the deploy runner is. -/
inductive Phase
  | queued | driving | over
  deriving DecidableEq, Repr

/-- A detached run of the deploy runner (`Task.Run`) on a deployment. -/
structure DeployAttempt where
  deploymentId : Guid
  deployJson : Json
  phase : Phase

/-- A backgrounded cloud teardown of a deployment's endpoints. -/
structure VmTeardown where
  deploymentId : Guid
  provider : String
  region : Option String
  endpoints : List String

/-- The state the services share. -/
structure World where
  now : Time
  runs : Table TestRun
  configs : Table TestConfig
  agents : Table Agent
  testers : Table ProjectTester
  accounts : Table CloudAccount
  deployments : Table Deployment
  artifacts : Table BenchmarkArtifact
  attempts : List Attempt
  /-- The agents in the connection registry, in its enumeration order. -/
  online : List Guid
  /-- Registered agents whose socket fails on the next send. -/
  broken : List Guid
  outbox : List Delivery
  /-- Delivered assignments whose `worker_id` stamp has not been written yet. -/
  unstamped : List (Guid × Guid)
  bus : List DashboardEvent
  /-- Every detached deploy attempt of this process, by attempt number. -/
  drivers : List DeployAttempt
  vmTeardowns : List VmTeardown
  /-- The host and port pairs that accept a TCP connection. -/
  listening : List (String × ℤ)

namespace World

/-- The world of a freshly started control plane. -/
def initial : World where
  now := 0
  runs := .empty
  configs := .empty
  agents := .empty
  testers := .empty
  accounts := .empty
  deployments := .empty
  artifacts := .empty
  attempts := []
  online := []
  broken := []
  outbox := []
  unstamped := []
  bus := []
  drivers := []
  vmTeardowns := []
  listening := []

/-- The world of a control plane that has just been started over the database of `w`. -/
def restarted (w : World) : World :=
  { w with online := [], broken := [], outbox := [], unstamped := [], bus := [], drivers := [],
           vmTeardowns := [] }

/-- Whether a frame sent to the agent now reaches its connection. -/
def reachable (w : World) (agent : Guid) : Bool :=
  w.online.contains agent && !w.broken.contains agent

/-- The configuration a run refers to. -/
def configOf (w : World) (r : TestRun) : Option TestConfig := w.configs.find? r.testConfigId

/-- Some attempt of the runner on the deployment has not ended. -/
def inFlight (w : World) (d : Guid) : Bool :=
  w.drivers.any fun a => a.deploymentId == d && a.phase != .over

end World

/-! ### Updates of `test_run` -/

/-- The `UPDATE test_run … WHERE id = …` statements of the source. -/
inductive RunWrite
  /-- `TryAssignAsync`: stamp the executing agent. -/
  | stampAssignment (agent : Guid) (tester : Option Guid)
  /-- `CancelAsync`. -/
  | cancel (now : Time)
  /-- `OnRunStarted`. -/
  | runStarted (agent : Guid) (tester : Option Guid) (startedAt : Time)
  /-- `OnRunProgress`. -/
  | runProgress (success failure : ℤ)
  /-- `OnAttemptEvent`. -/
  | attemptHeartbeat
  /-- `OnRunFinished`: the terminal status. -/
  | runFinished (status : RunStatus) (envelope : Option Json)
  /-- `OnRunFinished`: the end-of-run counters. -/
  | finalCounts (success failure : ℤ)
  /-- `OnRunFinished`: attempts were measured but none was persisted. -/
  | attemptsLost (msg : String)
  /-- `OnRunFinished`: link the artifact. -/
  | linkArtifact (artifact : Guid)
  /-- `OnError`. -/
  | agentError (msg : String)
  /-- `WatchdogService`: a stale `running` run. -/
  | reapRunning (msg : String) (now : Time)
  /-- `WatchdogService`: a stale `queued` run. -/
  | reapQueued (msg : String) (now : Time)
  /-- `WatchdogService`: a `provisioning` run whose deployment is gone. -/
  | reapProvisioning (msg : String) (now : Time)
  /-- `KickOneAsync`: the cloud account is not active. -/
  | accountGate (why : String)
  /-- `KickOneAsync`: link the deployment and flip to `provisioning`. -/
  | linkDeployment (deployment : Guid)
  /-- `HandleProvisioningRunAsync`: re-queue for a fresh kick. -/
  | retryProvisioning (attempt : ℕ) (backoff : Time) (note : String)
  /-- The orchestrator fails the run, whatever its status is. -/
  | failProvisioning (msg : String)
  /-- `PromoteAsync`: re-queue the run, whatever its status is. -/
  | requeuePromoted

namespace RunWrite

/-- The status condition of the statement's `WHERE`. -/
def guard : RunWrite → TestRun → Bool
  | stampAssignment .., r => r.status == .queued || r.status == .running
  | cancel .., r => r.status == .queued || r.status == .running || r.status == .provisioning
  | runStarted .., r => !r.status.terminal
  | runProgress .., _ => true
  | attemptHeartbeat, _ => true
  | runFinished .., r => !r.status.terminal
  | finalCounts .., _ => true
  | attemptsLost .., _ => true
  | linkArtifact .., _ => true
  | agentError .., r => !r.status.terminal
  | reapRunning .., r => r.status == .running
  | reapQueued .., r => r.status == .queued
  | reapProvisioning .., r => r.status == .provisioning
  | accountGate .., r => r.status == .queued
  | linkDeployment .., r => r.status == .queued && r.provisioningDeploymentId.isNone
  | retryProvisioning .., r => r.status == .provisioning
  | failProvisioning .., _ => true
  | requeuePromoted, _ => true

/-- The assignments of the statement, executed at `t`. -/
def set (t : Time) : RunWrite → TestRun → TestRun
  | stampAssignment agent tester, r => { r with workerId := some agent, testerId := tester }
  | cancel now, r => { r with status := .cancelled, finishedAt := some now }
  | runStarted agent tester startedAt, r =>
      { r with status := .running, startedAt := some startedAt, workerId := some agent,
               testerId := tester, lastHeartbeat := some t }
  | runProgress success failure, r =>
      { r with successCount := success, failureCount := failure, lastHeartbeat := some t }
  | attemptHeartbeat, r => { r with lastHeartbeat := some t }
  | runFinished status envelope, r =>
      { r with status := status, clientEnvelope := envelope, finishedAt := some t }
  | finalCounts success failure, r =>
      { r with successCount := success, failureCount := failure }
  | attemptsLost msg, r => { r with errorMessage := some msg }
  | linkArtifact artifact, r => { r with artifactId := some artifact }
  | agentError msg, r =>
      { r with status := .failed, errorMessage := some msg, finishedAt := some t }
  | reapRunning msg now, r =>
      { r with status := .failed, errorMessage := some msg, finishedAt := some now }
  | reapQueued msg now, r =>
      { r with status := .failed, errorMessage := some msg, finishedAt := some now }
  | reapProvisioning msg now, r =>
      { r with status := .failed, errorMessage := some msg, finishedAt := some now }
  | accountGate why, r =>
      { r with status := .failed, errorMessage := some why, finishedAt := some t }
  | linkDeployment deployment, r =>
      { r with status := .provisioning, provisioningDeploymentId := some deployment }
  | retryProvisioning attempt backoff note, r =>
      { r with status := .queued, provisioningDeploymentId := none,
               provisionAttempts := attempt, nextProvisionAttemptAt := some (t + backoff),
               errorMessage := some note }
  | failProvisioning msg, r =>
      { r with status := .failed, errorMessage := some msg, finishedAt := some t }
  | requeuePromoted, r => { r with status := .queued, lastHeartbeat := some t }

@[simp] lemma id_set (t : Time) (w : RunWrite) (r : TestRun) : (w.set t r).id = r.id := by
  cases w <;> rfl

lemma key_set (t : Time) (w : RunWrite) (r : TestRun) :
    Keyed.key (w.set t r) = Keyed.key r := id_set t w r

end RunWrite

/-! ### Updates of `deployment` -/

/-- What `FinishAsync` is called with. -/
structure FinishArgs where
  success : Bool
  ips : List String
  hosts : Option (List (Option String))
  log : Option String
  error : Option String
  exitCode : Option ℤ
  failedStep : Option String

/-- `endpoint_hosts` stays parallel to `endpoint_ips`, null where the provider gave
no DNS name, and is omitted when nothing was recorded. -/
def FinishArgs.hostsJson (a : FinishArgs) : Option Json :=
  match a.hosts with
  | none => none
  | some hosts =>
      if hosts.any fun h => h.any fun s => s != "" then
        some (.arr ((List.range a.ips.length).map fun i =>
          match hosts[i]? with
          | some (some h) => if h = "" then .null else .str h
          | _ => .null))
      else none

/-- The `UPDATE deployment … WHERE id = …` statements of the source. -/
inductive DeploymentWrite
  /-- `SetStatusAsync(…, "running")`. -/
  | setRunning (now : Time)
  /-- `FinishAsync`. -/
  | finish (args : FinishArgs) (now : Time)
  /-- `FlushLogPeriodicallyAsync`. -/
  | flushLog (log : String)
  /-- `StampInstallStartAsync`. -/
  | stampInstallStart
  /-- The stop endpoint saves the tracked row it has read. -/
  | stop (now : Time)
  /-- `WatchdogService`: a deployment past its own budget. -/
  | reap (status : DeploymentStatus) (basisBefore : Time) (error : String) (now : Time)
  /-- `TeardownFinishedRunsAsync`: claim the row for teardown. -/
  | claimTeardown (prior : DeploymentStatus)
  /-- The retry arms: release the dead deployment's slot. -/
  | releaseFailed

namespace DeploymentWrite

/-- The condition of the statement's `WHERE`, besides the id. -/
def guard : DeploymentWrite → Deployment → Bool
  | setRunning .., _ => true
  | finish .., _ => true
  | flushLog .., _ => true
  | stampInstallStart, d => d.status == .running
  | stop .., _ => true
  | reap status basisBefore _ _, d => d.status == status && d.ageBasis < basisBefore
  | claimTeardown prior, d => d.status == prior
  | releaseFailed, d => d.status == .failed

/-- The assignments of the statement, executed at `t`. -/
def set (t : Time) : DeploymentWrite → Deployment → Deployment
  | setRunning now, d => { d with status := .running, startedAt := some now }
  | finish a now, d =>
      if a.success then
        { d with status := .completed, log := a.log, endpointIps := some (.arr (a.ips.map .str)),
                 endpointHosts := a.hostsJson, errorMessage := a.error, exitCode := a.exitCode,
                 failedStep := none, finishedAt := some now }
      else
        { d with status := .failed, log := a.log, errorMessage := a.error,
                 exitCode := a.exitCode, failedStep := a.failedStep, finishedAt := some now }
  | flushLog log, d => { d with log := some log }
  | stampInstallStart, d => { d with startedAt := some t }
  | stop now, d => { d with status := .cancelled, finishedAt := some now }
  | reap _ _ error now, d =>
      { d with status := .failed, errorMessage := some error, finishedAt := some now }
  | claimTeardown _, d => { d with status := .tornDown, finishedAt := d.finishedOr t }
  | releaseFailed, d => { d with status := .tornDown, finishedAt := d.finishedOr t }

@[simp] lemma id_set (t : Time) (w : DeploymentWrite) (d : Deployment) :
    (w.set t d).deploymentId = d.deploymentId := by
  cases w with
  | finish a now => by_cases h : a.success <;> simp [set, h]
  | _ => rfl

lemma key_set (t : Time) (w : DeploymentWrite) (d : Deployment) :
    Keyed.key (w.set t d) = Keyed.key d := id_set t w d

end DeploymentWrite

/-! ### Statements -/

/-- What an added deployment is built from. -/
structure DeploymentSpec where
  name : String
  config : Json
  createdBy : Option Guid
  projectId : String
  cloudAccountId : Option Guid

/-- The atomic statements: one database statement, one send, one publication or
one move of the outside world each. -/
inductive Stmt
  /-- A query: the state stays as it is. -/
  | query
  | insertRun (config : TestConfig) (comparisonGroupId testerId : Option Guid) (now : Time)
  | updateRun (run : Guid) (write : RunWrite)
  | insertAttempt (attempt : Attempt)
  | insertArtifact (run : Guid) (document : Json)
  | promoteConfig (config : Guid) (endpoint workload : Json)
  | insertDeployment (spec : DeploymentSpec) (now : Time)
  | updateDeployment (deployment : Guid) (write : DeploymentWrite)
  | deleteDeployment (deployment : Guid) (projectId : Option String)
  /-- `FinishAsync` by the numbered attempt, which ends with it. -/
  | finishAttempt (attempt : ℕ) (deployment : Guid) (args : FinishArgs) (now : Time)
  | spawnDeploy (deployment : Guid) (deployJson : Json)
  | beginAttempt (attempt : ℕ)
  /-- The attempt ends with an unhandled exception. -/
  | abandonAttempt (attempt : ℕ)
  | spawnVmTeardown (teardown : VmTeardown)
  /-- `AssignRunAsync`: delivered if the agent's connection takes the frame. -/
  | sendAssign (agent run : Guid) (runJson configJson : Json)
  | sendCancel (agent run : Guid)
  | publish (event : DashboardEvent)
  /-- Time passes. -/
  | elapse (span : Time)
  | connect (agent : Guid)
  | disconnect (agent : Guid)
  | breakSocket (agent : Guid)
  | setPower (tester : Guid) (powerState : String)
  | setListening (listening : List (String × ℤ))

/-- What happens outside the control plane. -/
def Stmt.isEnvironment : Stmt → Bool
  | .elapse _ | .connect _ | .disconnect _ | .breakSocket _ | .setPower _ _ | .setListening _ =>
      true
  | _ => false

/-- An agent row after a connect or a disconnect. -/
def Agent.mark (status : String) (heartbeat : Option Time) (a : Agent) : Agent :=
  { a with status := status, lastHeartbeat := heartbeat.or a.lastHeartbeat }

lemma Agent.key_mark (status : String) (heartbeat : Option Time) (a : Agent) :
    Keyed.key (a.mark status heartbeat) = Keyed.key a := rfl

/-- A tester row after a change of its power state. -/
def ProjectTester.power (powerState : String) (t : Time) (p : ProjectTester) : ProjectTester :=
  { p with powerState := powerState, updatedAt := t }

lemma ProjectTester.key_power (powerState : String) (t : Time) (p : ProjectTester) :
    Keyed.key (p.power powerState t) = Keyed.key p := rfl

/-- A config row after its promotion to a network endpoint. -/
def TestConfig.promoted (endpoint workload : Json) (t : Time) (c : TestConfig) : TestConfig :=
  { c with endpointRef := endpoint, endpointKind := "network", workload := workload,
           updatedAt := t }

lemma TestConfig.key_promoted (endpoint workload : Json) (t : Time) (c : TestConfig) :
    Keyed.key (c.promoted endpoint workload t) = Keyed.key c := rfl

/-- An added artifact row. -/
def newArtifact (run : Guid) (document : Json) (t : Time) (id : Guid) : BenchmarkArtifact :=
  ⟨id, run, document, t⟩

lemma key_newArtifact (run : Guid) (document : Json) (t : Time) (id : Guid) :
    Keyed.key (newArtifact run document t id) = id := rfl

/-- Advance the phase of one deploy attempt. -/
def setPhase (k : ℕ) (p : Phase) (ds : List DeployAttempt) : List DeployAttempt :=
  ds.modify k fun a => { a with phase := p }

/-- The row `LaunchAsync` adds. -/
def newRun (cfg : TestConfig) (group tester : Option Guid) (now : Time) (id : Guid) : TestRun where
  id := id
  testConfigId := cfg.id
  projectId := cfg.projectId
  status := .queued
  startedAt := none
  finishedAt := none
  successCount := 0
  failureCount := 0
  errorMessage := none
  artifactId := none
  testerId := tester
  workerId := none
  lastHeartbeat := none
  createdAt := now
  comparisonGroupId := group
  provisioningDeploymentId := none
  provisionAttempts := 0
  nextProvisionAttemptAt := none
  clientEnvelope := none

lemma key_newRun (cfg : TestConfig) (group tester : Option Guid) (now : Time) (id : Guid) :
    Keyed.key (newRun cfg group tester now id) = id := rfl

/-- The row `KickOneAsync` and the create endpoint add. -/
def newDeployment (spec : DeploymentSpec) (now : Time) (id : Guid) : Deployment where
  deploymentId := id
  name := spec.name
  status := .pending
  config := spec.config
  createdBy := spec.createdBy
  createdAt := now
  startedAt := none
  finishedAt := none
  endpointIps := none
  endpointHosts := none
  errorMessage := none
  log := none
  projectId := spec.projectId
  cloudAccountId := spec.cloudAccountId
  recoveryAttempts := 0
  exitCode := none
  failedStep := none

lemma key_newDeployment (spec : DeploymentSpec) (now : Time) (id : Guid) :
    Keyed.key (newDeployment spec now id) = id := rfl

/-- Write one run. -/
def updateRuns (run : Guid) (write : RunWrite) (w : World) : Table TestRun :=
  w.runs.update run write.guard (write.set w.now) (write.key_set w.now)

/-- Write one deployment. -/
def updateDeployments (d : Guid) (write : DeploymentWrite) (w : World) : Table Deployment :=
  w.deployments.update d write.guard (write.set w.now) (write.key_set w.now)

/-- The assignments still to be stamped after a write of a run. -/
def stampedBy (run : Guid) : RunWrite → List (Guid × Guid) → List (Guid × Guid)
  | .stampAssignment agent _, us => us.erase (run, agent)
  | _, us => us

/-- What a statement does to the shared state. -/
def Stmt.exec : Stmt → World → World
  | query, w => w
  | insertRun cfg group tester now, w =>
      { w with runs := w.runs.insert (newRun cfg group tester now)
                 (key_newRun cfg group tester now) }
  | updateRun run write, w =>
      { w with runs := updateRuns run write w, unstamped := stampedBy run write w.unstamped }
  | insertAttempt a, w =>
      if w.attempts.any fun b => b.attemptId == a.attemptId then w
      else { w with attempts := w.attempts ++ [a] }
  | insertArtifact run document, w =>
      { w with artifacts := w.artifacts.insert (newArtifact run document w.now)
                 (key_newArtifact run document w.now) }
  | promoteConfig config endpoint workload, w =>
      { w with configs := w.configs.update config (fun _ => true)
                 (TestConfig.promoted endpoint workload w.now)
                 (TestConfig.key_promoted endpoint workload w.now) }
  | insertDeployment spec now, w =>
      { w with deployments := w.deployments.insert (newDeployment spec now)
                 (key_newDeployment spec now) }
  | updateDeployment d write, w => { w with deployments := updateDeployments d write w }
  | deleteDeployment d projectId, w =>
      { w with deployments := w.deployments.delete d fun x =>
                 projectId.all fun p => x.projectId == p }
  | finishAttempt k d args now, w =>
      { w with deployments := updateDeployments d (.finish args now) w,
               drivers := setPhase k .over w.drivers }
  | spawnDeploy d deployJson, w => { w with drivers := w.drivers ++ [⟨d, deployJson, .queued⟩] }
  | beginAttempt k, w => { w with drivers := setPhase k .driving w.drivers }
  | abandonAttempt k, w => { w with drivers := setPhase k .over w.drivers }
  | spawnVmTeardown t, w => { w with vmTeardowns := w.vmTeardowns ++ [t] }
  | sendAssign agent run runJson configJson, w =>
      if w.reachable agent then
        { w with outbox := w.outbox ++ [⟨agent, .assignRun run runJson configJson⟩],
                 unstamped := w.unstamped ++ [(run, agent)] }
      else w
  | sendCancel agent run, w =>
      if w.reachable agent then { w with outbox := w.outbox ++ [⟨agent, .cancelRun run⟩] }
      else w
  | publish e, w => { w with bus := w.bus ++ [e] }
  | elapse span, w => { w with now := w.now + max span 0 }
  | connect agent, w =>
      { w with online := if w.online.contains agent then w.online else w.online ++ [agent],
               broken := w.broken.filter (· != agent),
               agents := w.agents.update agent (fun _ => true)
                 (Agent.mark "online" (some w.now)) (Agent.key_mark "online" (some w.now)),
               bus := w.bus ++ [.agentStatus agent "online" (some w.now)] }
  | disconnect agent, w =>
      { w with online := w.online.filter (· != agent),
               agents := w.agents.update agent (fun _ => true) (Agent.mark "offline" none)
                 (Agent.key_mark "offline" none),
               bus := w.bus ++ [.agentStatus agent "offline" none] }
  | breakSocket agent, w => { w with broken := agent :: w.broken }
  | setPower tester powerState, w =>
      { w with testers := w.testers.update tester (fun _ => true)
                 (ProjectTester.power powerState w.now) (ProjectTester.key_power powerState w.now) }
  | setListening listening, w => { w with listening := listening }

@[simp] lemma exec_query (w : World) : Stmt.exec .query w = w := rfl

/-! ### Service routines -/

/-- What the process is configured with, and the code outside the repository the
services call. -/
structure Host where
  /-- `CredentialCipher.Decrypt`; `none` where it throws. -/
  decrypt : Sealed → Option String
  /-- The zone `ResolveGcpDeployZoneAsync` finds for credentials and a region. -/
  gcpZone : Sealed → String → Option String
  /-- `DockerProviderOptions.Enabled`. -/
  dockerEnabled : Bool
  /-- `MaxConcurrentAutoProvisions`. -/
  maxConcurrentAutoProvisions : ℕ
  maxConcurrent_pos : 0 < maxConcurrentAutoProvisions
  /-- `NoProgressCutoff`; `none` where the sweep is disabled. -/
  noProgressCutoff : Option Time
  /-- The invariant upper-case and lower-case maps of the platform. -/
  casing : Text.Casing

/-- The host without configuration: nothing decrypts, five deployments at once. -/
def Host.plain : Host where
  decrypt _ := none
  gcpZone _ _ := none
  dockerEnabled := false
  maxConcurrentAutoProvisions := 5
  maxConcurrent_pos := by decide
  noProgressCutoff := some (minutes 15)
  casing := .ascii

/-- What a routine raises. -/
inductive SvcError
  /-- An accessor or a writer of the JSON layer raised. -/
  | fault (f : Fault)
  /-- `RunDispatchNotFoundException`. -/
  | notFound (message : String)
  /-- A tracked row is gone when it is saved. -/
  | concurrency
  deriving DecidableEq, Repr

/-- A service routine. -/
abbrev Svc (α : Type) : Type := Proc Stmt SvcError World α

namespace Svc

/-- Read off the current state. -/
def read {α : Type} (f : World → α) : Svc α := .issue .query f

/-- Execute a statement. -/
def exec (l : Stmt) : Svc Unit := .issue l fun _ => ()

/-- Execute a guarded update of a run and report whether it affected the row. -/
def updateRun (run : Guid) (write : RunWrite) : Svc Bool :=
  .issue (.updateRun run write) fun w => w.runs.hits run write.guard

/-- Execute a guarded update of a deployment and report whether it affected the
row. -/
def updateDeployment (d : Guid) (write : DeploymentWrite) : Svc Bool :=
  .issue (.updateDeployment d write) fun w => w.deployments.hits d write.guard

/-- Publish an event. -/
def publish (e : DashboardEvent) : Svc Unit := exec (.publish e)

/-- Raise what the JSON layer raises. -/
def lift {α : Type} : Except Fault α → Svc α
  | .ok a => .ret a
  | .error f => .raise (.fault f)

end Svc

end Networker
