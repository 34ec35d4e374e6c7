/-
The stale-job watchdog (`Background/WatchdogService.cs`).

* the cutoffs and the user-facing messages;
* `staleRunning`, `staleQueued`, `staleDeployments`, `staleProvisioning`: the four
  candidate queries;
* `reapRunningOne`, `reapQueuedOne`, `reapDeploymentOne`, `reapProvisioningOne`: the
  loop bodies, each with an update that pins the status it has read;
* `watchdogTick`: one tick, the sweeps in the order of the source.
-/
import Networker.ControlPlane.Provisioning

namespace Networker

open Data Concurrency

namespace WatchdogService

/-! ### Cutoffs and messages -/

def runningStaleCutoff : Time := seconds 120

def queuedCutoff : Time := seconds 300

def wakeInFlightGrace : Time := minutes 15

def provisioningOrphanCutoff : Time := minutes 30

def deploymentBudgetSlack : Time := minutes 5

def runningReapedError : String :=
  "Agent disconnected — tester may have been deleted or restarted"

def queuedReapedError : String :=
  "No runner claimed this job within 5 minutes — check that at least one agent is online for this workspace"

def provisioningOrphanError : String :=
  "Provisioning stalled — the deployment was lost or never finished; no VM was provisioned"

def noProgressError (noProgressFor : Time) : String :=
  "Run made no progress for " ++ wholeMinutes noProgressFor ++
    " minutes while its agent stayed online — the tester process appears wedged; " ++
    "the run was failed so the runner could be released."

/-- `DeploymentReapCutoffFor`. -/
def deploymentReapCutoffFor (deployJson : Json) : Except Fault Time :=
  (deployTimeoutFor deployJson).map fun t => t + deploymentBudgetSlack

/-- `NeverStartedReapedErrorFor`. -/
def neverStartedReapedErrorFor (deployJson : Json) : Except Fault String :=
  (deployTimeoutFor deployJson).map fun budget =>
    ProvisioningFailureClassifier.neverStartedReapPrefix ++ " — it sat pending past its " ++
      wholeMinutes budget ++ "m budget with no deploy driver (control-plane crash or lost driver); " ++
      "the linked run is retried automatically"

/-- `DeploymentReapedErrorFor`. -/
def deploymentReapedErrorFor (deployJson : Json) (recoveredFromRestart : Bool) :
    Except Fault String :=
  (deployTimeoutFor deployJson).bind fun budget =>
    (languageCountFor deployJson).map fun languages =>
      let langNote :=
        if languages = 0 then "stack-only"
        else if languages = 1 then "1 language"
        else Text.ofNat languages ++ " languages"
      let msg := "Deployment did not finish within its " ++ wholeMinutes budget ++ "m budget (" ++
        langNote ++ ")"
      if recoveredFromRestart then
        msg ++ " — a control-plane restart interrupted it mid-deploy and the recovery re-run " ++
          "also ran out of time"
      else msg

/-! ### Stale `running` runs -/

/-- Silent for longer than the cutoff. -/
def isStaleRunning (staleBefore : Time) (r : TestRun) : Bool :=
  r.status == .running &&
    (r.lastHeartbeat.any (· < staleBefore) ||
      (r.lastHeartbeat.isNone && r.startedAt.any (· < staleBefore)))

def staleRunning (now : Time) (w : World) : List TestRun :=
  w.runs.select (isStaleRunning (now - runningStaleCutoff))

/-- A run whose agent is online is reaped only past the no-progress cutoff. -/
def reapRunningOne (h : Host) (now : Time) (run : TestRun) : Svc Bool := do
  let agentOnline ← Svc.read fun w => run.workerId.any fun a => w.online.contains a
  let lastProgress := (run.lastHeartbeat.or run.startedAt).getD run.createdAt
  let noProgressFor := now - lastProgress
  let slow := match h.noProgressCutoff with
    | none => true
    | some cutoff => noProgressFor < cutoff
  if agentOnline && slow then return false else
  let reapError := if agentOnline then noProgressError noProgressFor else runningReapedError
  if ← Svc.updateRun run.id (.reapRunning reapError now) then
    Svc.publish (.jobUpdate run.id "failed" run.workerId none (some now))
    return true
  else return false

/-! ### Stale `queued` runs -/

/-- A runner that is being woken up, within the grace. -/
def anyWaking (now : Time) (w : World) : Bool :=
  w.testers.rows.any fun t => t.powerState == "starting" && now - wakeInFlightGrace ≤ t.updatedAt

def isStaleQueued (now : Time) (w : World) (r : TestRun) : Bool :=
  r.status == .queued && r.claimableSince < now - queuedCutoff &&
    (w.configOf r).any fun c => c.endpointKind != "pending"

def staleQueued (now : Time) (w : World) : List Guid :=
  (w.runs.select (isStaleQueued now w)).map TestRun.id

def reapQueuedOne (now : Time) (runId : Guid) : Svc Bool := do
  if ← Svc.updateRun runId (.reapQueued queuedReapedError now) then
    Svc.publish (.jobUpdate runId "failed" none none (some now))
    return true
  else return false

/-- The queued sweep: skipped while any agent is online or a wake is in flight. -/
def sweepQueued (now : Time) : Svc ℕ := do
  if ← Svc.read fun w => !w.online.isEmpty then return 0 else
  if ← Svc.read (anyWaking now) then return 0 else
  let stuckQueued ← Svc.read (staleQueued now)
  Proc.count (reapQueuedOne now) stuckQueued

/-! ### Stale deployments -/

def isStaleDeployment (now : Time) (d : Deployment) : Bool :=
  (d.status == .pending || d.status == .running) &&
    d.ageBasis < now - (baseDeployTimeout + deploymentBudgetSlack)

def staleDeployments (now : Time) (w : World) : List Deployment :=
  w.deployments.select (isStaleDeployment now)

/-- A `pending` deployment never ran an installer and is reaped with the retryable
message, a `running` one with the terminal one. -/
def reapDeploymentOne (now : Time) (dep : Deployment) : Svc Bool := do
  let reapCutoff ← Svc.lift (deploymentReapCutoffFor dep.config)
  if now - dep.ageBasis < reapCutoff then return false else
  let reapError ← Svc.lift <|
    if dep.status == .pending then neverStartedReapedErrorFor dep.config
    else deploymentReapedErrorFor dep.config (0 < dep.recoveryAttempts)
  Svc.updateDeployment dep.deploymentId (.reap dep.status (now - reapCutoff) reapError now)

/-! ### Orphaned `provisioning` runs -/

def isStaleProvisioning (now : Time) (r : TestRun) : Bool :=
  r.status == .provisioning && r.createdAt < now - provisioningOrphanCutoff

def staleProvisioning (now : Time) (w : World) : List (Guid × Option Guid) :=
  (w.runs.select (isStaleProvisioning now)).map fun r => (r.id, r.provisioningDeploymentId)

/-- A run with a live deployment row is left to the orchestrator. -/
def reapProvisioningOne (now : Time) (run : Guid × Option Guid) : Svc Bool := do
  if ← Svc.read fun w => run.2.any fun d => (w.deployments.find? d).isSome then return false else
  if ← Svc.updateRun run.1 (.reapProvisioning provisioningOrphanError now) then
    Svc.publish (.jobUpdate run.1 "failed" none none (some now))
    return true
  else return false

/-! ### The tick -/

/-- `TickAsync`. -/
def watchdogTick (h : Host) : Svc Unit := do
  let now ← Svc.read World.now
  let running ← Svc.read (staleRunning now)
  let _ ← Proc.count (reapRunningOne h now) running
  let _ ← sweepQueued now
  let stuckDeployments ← Svc.read (staleDeployments now)
  let _ ← Proc.count (reapDeploymentOne now) stuckDeployments
  let provisioningRuns ← Svc.read (staleProvisioning now)
  let _ ← Proc.count (reapProvisioningOne now) provisioningRuns
  return ()

end WatchdogService

end Networker
