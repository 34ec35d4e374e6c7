/-
The provisioning orchestrator (`Provisioning/ProvisioningOrchestrator.cs`).

* `activeProvisions`, `kickCandidates`, `kickOne`, `kickPendingRuns`: kick queued
  runs with a pending endpoint while there is capacity;
* `retryOrFail`, `gateReadiness`, `promote`, `handleProvisioningRun`,
  `promoteProvisioningRuns`: resolve provisioning runs whose deployment ended;
* `teardownCandidates`, `teardownOne`, `teardownFinishedRuns`: release the
  deployments of finished runs;
* `orchestratorTick`: one tick.
-/
import Networker.ControlPlane.Deployments

namespace Networker

open Data Concurrency

namespace ProvisioningOrchestrator

def kickBatchLimit : ℕ := 25

def maxProvisionAttempts : ℕ := 4

def teardownGrace : Time := minutes 3

def failedReleaseAllowance : Time := minutes 12

def readinessGrace : Time := minutes 6

/-! ### Kick -/

/-- The deployment a run is linked to, unless it is torn down. -/
def heldDeployment (w : World) (r : TestRun) : Option Deployment :=
  (r.provisioningDeploymentId.bind w.deployments.find?).filter fun d => d.status != .tornDown

/-- The links from runs to deployments that are not torn down. -/
def activeProvisions (w : World) : ℕ :=
  (w.runs.select fun r => (heldDeployment w r).isSome).length

/-- Queued, unlinked, past any backoff, with a pending endpoint. -/
def isKickable (now : Time) (w : World) (r : TestRun) : Bool :=
  r.status == .queued && r.provisioningDeploymentId.isNone &&
    (r.nextProvisionAttemptAt.all fun t => t ≤ now) &&
    (w.configOf r).any fun c => c.endpointKind == "pending"

/-- The batch of a kick pass, at most `limit` runs, oldest first. -/
def kickCandidates (now : Time) (limit : ℕ) (w : World) : List (TestRun × TestConfig) :=
  ((oldest TestRun.createdAt (w.runs.select (isKickable now w))).take
    (min kickBatchLimit limit)).filterMap fun r => (w.configOf r).map fun c => (r, c)

/-- The provider and the zone of a kick; a run whose account is not active is
failed on the spot. -/
def resolveProvider (h : Host) (run : TestRun) (pending : PendingEndpoint) :
    Svc (Option (String × Option String)) :=
  if isDocker pending.provider then
    .ret (if h.dockerEnabled then some ("docker", none) else none)
  else do
    match ← Svc.read fun w => pending.cloudAccountId.bind w.accounts.find? with
    | none => return none
    | some acct =>
        if acct.provider = "" then return none else
        match notActiveReason acct.name acct.status acct.validationError with
        | some why =>
            let _ ← Svc.updateRun run.id (.accountGate why)
            return none
        | none =>
            let gcpZone := if acct.provider = "gcp" then h.gcpZone acct.credentials pending.region
              else none
            return some (acct.provider, gcpZone)

/-- Add the deployment, link the run, and start the runner; when the link fails the
row is dropped again. -/
def kickDeployment (run : TestRun) (spec : DeploymentSpec) : Svc Bool := do
  let now ← Svc.read World.now
  let deploymentId ← .issue (.insertDeployment spec now) fun w => w.deployments.next
  if ← Svc.updateRun run.id (.linkDeployment deploymentId) then
    Svc.exec (.spawnDeploy deploymentId spec.config)
    return true
  else
    Svc.exec (.deleteDeployment deploymentId none)
    return false

/-- `KickOneAsync`. -/
def kickOne (h : Host) (run : TestRun) (cfg : TestConfig) : Svc Bool :=
  match parsePending cfg.endpointRef with
  | none => .ret false
  | some pending => do
      match ← resolveProvider h run pending with
      | none => return false
      | some (provider, gcpZone) =>
          kickDeployment run
            { name := "auto-" ++ cfg.name ++ "-" ++ shortId run.id
              config := buildDeployJson pending provider cfg.name run.id gcpZone
              createdBy := cfg.createdBy
              projectId := cfg.projectId
              cloudAccountId := pending.cloudAccountId }

/-- The body of the kick loop: an exception skips the run. -/
def kickGuarded (h : Host) (c : TestRun × TestConfig) : Svc Bool :=
  (kickOne h c.1 c.2).rescue fun _ => .ret false

/-- `KickPendingRunsAsync`. -/
def kickPendingRuns (h : Host) : Svc ℕ := do
  let active ← Svc.read activeProvisions
  if h.maxConcurrentAutoProvisions ≤ active then return 0 else
  let now ← Svc.read World.now
  let candidates ← Svc.read (kickCandidates now (h.maxConcurrentAutoProvisions - active))
  Proc.count (kickGuarded h) candidates

/-! ### Promote -/

/-- Re-queue the run for a fresh kick and release the failed deployment, or fail the
run once its attempts are used up. -/
def retryOrFail (runId deploymentId : Guid) (backoff : ℕ → Time) (note : ℕ → String)
    (exhausted : String) : Svc Bool := do
  let attempts ← Svc.read fun w => (w.runs.find? runId).elim 0 TestRun.provisionAttempts
  if attempts < maxProvisionAttempts then
    let attempt := attempts + 1
    let _ ← Svc.updateRun runId (.retryProvisioning attempt (backoff attempt) (note attempt))
    let _ ← Svc.updateDeployment deploymentId .releaseFailed
    return true
  else
    let _ ← Svc.updateRun runId (.failProvisioning exhausted)
    return true

/-- The note on a run whose provisioning was killed by infrastructure. -/
def interruptedNote (neverStarted : Bool) (attempt : ℕ) : String :=
  (if neverStarted then "Provisioning was reaped before its install ever started"
    else "Control-plane restart interrupted provisioning") ++
  " — retry " ++ Text.ofNat attempt ++ "/" ++ Text.ofNat maxProvisionAttempts ++
  " scheduled in 1m"

def interruptedExhausted (neverStarted : Bool) : String :=
  if neverStarted then
    "Provisioning was reaped " ++ Text.ofNat maxProvisionAttempts ++
      " times before its install could start — check control-plane health, then relaunch the run"
  else
    "Provisioning was interrupted by control-plane restarts " ++ Text.ofNat maxProvisionAttempts ++
      " times — relaunch the run once the release wave settles"

/-- The backoff after a quota failure grows with the attempts. -/
def quotaBackoff (attempt : ℕ) : Time := minutes (min (4 * (attempt : ℤ)) 12)

def quotaNote (attempt : ℕ) : String :=
  "Cloud capacity quota hit — retry " ++ Text.ofNat attempt ++ "/" ++
    Text.ofNat maxProvisionAttempts ++ " scheduled in " ++ wholeMinutes (quotaBackoff attempt) ++
    "m (capacity frees as other cells finish)"

def quotaExhausted : String :=
  "Cloud capacity quota exceeded after " ++ Text.ofNat maxProvisionAttempts ++
    " attempts — raise the subscription's regional vCPU/IP quota (the deploy log has the " ++
    "Azure request link) or lower NETWORKER_MAX_CONCURRENT_PROVISIONS"

/-- The arm of a failed deployment. -/
def handleFailedDeployment (runId : Guid) (deployment : Deployment) : Svc Bool :=
  let msg := deployment.errorMessage.getD "deployment failed"
  if ProvisioningFailureClassifier.isRetryableInfrastructureKill msg then
    let neverStarted := ProvisioningFailureClassifier.isNeverStartedReap msg
    retryOrFail runId deployment.deploymentId (fun _ => minutes 1) (interruptedNote neverStarted)
      (interruptedExhausted neverStarted)
  else if ProvisioningFailureClassifier.isQuotaFailure deployment.log (some msg) then
    retryOrFail runId deployment.deploymentId quotaBackoff quotaNote quotaExhausted
  else do
    let _ ← Svc.updateRun runId (.failProvisioning ("Provisioning failed: " ++ msg))
    return true

inductive ReadinessOutcome
  | ready | deferred | failedTerminally
  deriving DecidableEq

/-- `GateReadinessAsync`: wait for the port within the grace, then fail the run. -/
def gateReadiness (runId : Guid) (deployment : Deployment) (host : String) (port : ℤ) :
    Svc ReadinessOutcome := do
  if ← Svc.read fun w => w.listening.contains (host, port) then return .ready else
  let now ← Svc.read World.now
  let since := (deployment.finishedAt.or deployment.startedAt).getD now
  if now - since ≤ readinessGrace then return .deferred else
  let _ ← Svc.updateRun runId (.failProvisioning
    ("Provisioned endpoint " ++ host ++ ":" ++ Text.ofInt port ++ " never became reachable within " ++
      wholeMinutes readinessGrace ++ "m"))
  return .failedTerminally

/-- Re-queue a promoted run. -/
def requeue (runId : Guid) : Svc Unit := do
  let _ ← Svc.updateRun runId .requeuePromoted
  return ()

/-- Promote a run whose config was rewritten before: only the gate is left. -/
def promoteRewritten (runId : Guid) (deployment : Deployment) (endpointRef : Json) : Svc Unit :=
  match tryParseNetworkHostPort endpointRef with
  | none => requeue runId
  | some (host, port) => do
      if (← gateReadiness runId deployment host port) == .ready then requeue runId else return ()

/-- Rewrite the config to the provisioned endpoint and re-queue the run. -/
def promoteFresh (runId : Guid) (deployment : Deployment) (cfg : TestConfig)
    (pending : PendingEndpoint) : Svc Unit :=
  match EndpointAddressing.preferredHost deployment.endpointIps deployment.endpointHosts with
  | none => do
      let _ ← Svc.updateRun runId
        (.failProvisioning "Provisioning completed but captured no endpoint IPs")
      return ()
  | some host => do
      let port := proxyHttpsPort pending.proxyStack
      if (← gateReadiness runId deployment host port) == .ready then
        Svc.exec (.promoteConfig cfg.id
          (.obj [("kind", .str "network"), ("host", .str host), ("port", .int port)])
          (withInsecureWorkload cfg.workload))
        requeue runId
      else return ()

/-- `PromoteAsync`. -/
def promote (runId testConfigId : Guid) (deployment : Deployment) : Svc Unit := do
  match ← Svc.read fun w => w.configs.find? testConfigId with
  | none => return ()
  | some cfg =>
      match parsePending cfg.endpointRef with
      | none => promoteRewritten runId deployment cfg.endpointRef
      | some pending => promoteFresh runId deployment cfg pending

/-- `HandleProvisioningRunAsync`. -/
def handleProvisioningRun (runId testConfigId deploymentId : Guid) : Svc Bool := do
  match ← Svc.read fun w => w.deployments.find? deploymentId with
  | none => return false
  | some deployment =>
      match deployment.status with
      | .completed =>
          promote runId testConfigId deployment
          return true
      | .failed => handleFailedDeployment runId deployment
      | .cancelled =>
          let _ ← Svc.updateRun runId (.failProvisioning "Provisioning cancelled")
          return true
      | _ => return false

/-- The provisioning runs with their links, read in one query. -/
def provisioningPairs (w : World) : List (Guid × Guid × Guid) :=
  (w.runs.select fun r => r.status == .provisioning).filterMap fun r =>
    r.provisioningDeploymentId.map fun d => (r.id, r.testConfigId, d)

/-- The body of the promote loop: an exception skips the run. -/
def handleGuarded (p : Guid × Guid × Guid) : Svc Bool :=
  (handleProvisioningRun p.1 p.2.1 p.2.2).rescue fun _ => .ret false

/-- `PromoteProvisioningRunsAsync`. -/
def promoteProvisioningRuns : Svc ℕ := do
  let pairs ← Svc.read provisioningPairs
  Proc.count handleGuarded pairs

/-! ### Teardown -/

/-- A finished run with the deployment it holds. -/
structure TeardownCandidate where
  runId : Guid
  runFinishedAt : Time
  dep : Deployment

/-- The terminal runs past the grace that hold a deployment, oldest finish first. -/
def teardownCandidates (graceCutoff : Time) (w : World) : List TeardownCandidate :=
  let pairs := (w.runs.select fun r => r.status.terminal).filterMap fun r =>
    match r.finishedAt, heldDeployment w r with
    | some f, some d => if f < graceCutoff then some ⟨r.id, f, d⟩ else none
    | _, _ => none
  (oldest TeardownCandidate.runFinishedAt
    (oldest (fun c => (c.runId : ℤ)) pairs)).take kickBatchLimit

/-- The endpoint references of the runs that have not ended. -/
def activeRefs (w : World) : List String :=
  (w.runs.select fun r => !r.status.terminal).filterMap fun r =>
    (w.configOf r).map fun c => c.endpointRef.render

/-- A failed or cancelled deployment is held until the reaper had its chance. -/
def heldForReaper (now : Time) (c : TeardownCandidate) : Bool :=
  (c.dep.status == .failed || c.dep.status == .cancelled) &&
    now - failedReleaseAllowance < c.runFinishedAt

/-- Start the background teardown of a claimed deployment, if there is something to
tear down. -/
def spawnTeardown (dep : Deployment) (hosts : List String) : Svc Unit := do
  let (provider, region) ← Svc.read
    (DeploymentWriteEndpoints.teardownInputs dep.cloudAccountId dep.config)
  match provider.filter (· != "") with
  | some p =>
      if hosts.isEmpty then return () else
      Svc.exec (.spawnVmTeardown ⟨dep.deploymentId, p, region, hosts⟩)
  | none => return ()

/-- The body of the teardown loop: the claim is pinned to the status that was read. -/
def teardownOne (refs : List String) (c : TeardownCandidate) : Svc Bool := do
  let now ← Svc.read World.now
  if heldForReaper now c then return false else
  let hosts := EndpointAddressing.allHosts c.dep.endpointIps c.dep.endpointHosts
  if hosts.any fun host => refs.any fun ref => Text.containsIgnoreCase ref host then return false
  else
    if ← Svc.updateDeployment c.dep.deploymentId (.claimTeardown c.dep.status) then
      spawnTeardown c.dep hosts
      return true
    else return false

/-- `TeardownFinishedRunsAsync`. -/
def teardownFinishedRuns : Svc ℕ := do
  let now ← Svc.read World.now
  let candidates ← Svc.read (teardownCandidates (now - teardownGrace))
  if candidates.isEmpty then return 0 else
  let refs ← Svc.read activeRefs
  Proc.count (teardownOne refs) candidates

/-- `TickAsync`. -/
def orchestratorTick (h : Host) : Svc Unit := do
  let _ ← kickPendingRuns h
  let _ ← promoteProvisioningRuns
  let _ ← teardownFinishedRuns
  return ()

end ProvisioningOrchestrator

end Networker
