/-
The clocks of one deployment: the timer of the deploy runner and the age of its row.

* `reapWrite`: the update the deployment sweep of the watchdog decides on;
  `reapDeploymentOne_eq` says that the loop body issues it and nothing else;
* `RunnerAttempt`: how far a run of `install.sh` is, with the moment its timer was armed;
* `DeployTimeline`: the row, the attempts, the stamps under way and a sweep;
* `TimelineStep`, `deployTimeline`: spawn, flip, arming, the re-anchor at the install phase
  and its stamp, the recovery claim, the other writers and the sweep, in any order.
-/
import Networker.Concurrency.Machine
import Networker.ControlPlane.DeploymentRecovery
import Networker.ControlPlane.Deployments
import Networker.ControlPlane.Watchdog

namespace Networker

open Data Concurrency

/-! ### The decision of the sweep -/

namespace WatchdogService

/-- The message of a reap. -/
def reapErrorFor (dep : Deployment) : Except Fault String :=
  if dep.status == .pending then neverStartedReapedErrorFor dep.config
  else deploymentReapedErrorFor dep.config (0 < dep.recoveryAttempts)

/-- What the loop body of the deployment sweep writes to a row it has read. -/
def reapWrite (now : Time) (dep : Deployment) : Except Fault (Option DeploymentWrite) := do
  let reapCutoff ← deploymentReapCutoffFor dep.config
  if now - dep.ageBasis < reapCutoff then return none else
  let reapError ← reapErrorFor dep
  return some (.reap dep.status (now - reapCutoff) reapError now)

lemma lift_bind {α β : Type} (x : Except Fault α) (f : α → Except Fault β) :
    Svc.lift (x >>= f) = Svc.lift x >>= fun a => Svc.lift (f a) := by
  cases x <;> rfl

/-- The loop body issues that write. -/
lemma reapDeploymentOne_eq (now : Time) (dep : Deployment) :
    reapDeploymentOne now dep = Svc.lift (reapWrite now dep) >>= fun write =>
      write.elim (.ret false) (Svc.updateDeployment dep.deploymentId) := by
  rw [reapDeploymentOne, reapWrite, lift_bind, Proc.bind_assoc]
  congr 1
  funext cutoff
  by_cases hearly : now - dep.ageBasis < cutoff
  · rw [if_pos hearly, if_pos hearly]
    rfl
  · rw [if_neg hearly, if_neg hearly, lift_bind, Proc.bind_assoc]
    rfl

end WatchdogService

/-! ### The attempts -/

/-- How far an attempt of the deploy runner with `install.sh` is. -/
inductive AttemptStage
  | launched
  /-- `SetStatusAsync` has read the clock. -/
  | flipping (stamp : Time)
  /-- The row is flipped; credentials are staged and the deploy file is read. -/
  | running (stamp : Time)
  /-- The timer was armed at `armedAt`; the row carries a stamp for the arming at
  `stampedAt`.  The first line of the install phase has been seen, or not yet. -/
  | installing (armedAt stampedAt : Time) (installPhaseStarted : Bool)
  | over
  deriving DecidableEq

structure RunnerAttempt where
  deployJson : Json
  stage : AttemptStage

namespace RunnerAttempt

/-- `DeployTimeoutFor`, of the document the attempt was given. -/
def timeout? (a : RunnerAttempt) : Option Time := (deployTimeoutFor a.deployJson).toOption

/-- `ShellInstallAsync` arms its timer; a document it cannot read fails the launch. -/
def arm (now : Time) (a : RunnerAttempt) : RunnerAttempt :=
  match a.stage with
  | .running _ => if a.timeout?.isSome then { a with stage := .installing now now false } else a
  | _ => a

/-- `OnInstallPhaseStarted`: re-arm the timer, unless it has fired. -/
def rearm (now : Time) (a : RunnerAttempt) : RunnerAttempt :=
  match a.stage with
  | .installing armedAt stampedAt _ =>
      let fired := a.timeout?.any fun timeout => armedAt + timeout < now
      { a with stage := .installing (if fired then armedAt else now) stampedAt true }
  | _ => a

/-- The row carries a stamp for the current arming. -/
def stamped (a : RunnerAttempt) : RunnerAttempt :=
  match a.stage with
  | .installing armedAt _ started => { a with stage := .installing armedAt armedAt started }
  | _ => a

/-- The first line of the install phase is still to come. -/
def awaitsInstall (a : RunnerAttempt) : Bool :=
  match a.stage with
  | .installing _ _ started => !started
  | _ => false

end RunnerAttempt

/-! ### The timeline -/

/-- A tick of the watchdog: the clock it has read and the row its query has returned. -/
structure Sweep where
  now : Time
  stuck : Option Deployment

/-- The query over the deployments returns the row or leaves it out. -/
def Sweep.read (row : Deployment) (sweep : Sweep) : Sweep :=
  { sweep with stuck := some row |>.filter (WatchdogService.isStaleDeployment sweep.now) }

/-- A deployment with all that ages and ends it. -/
structure DeployTimeline where
  now : Time
  row : Deployment
  attempts : List RunnerAttempt
  /-- The attempts whose install start is being stamped. -/
  stamping : List ℕ
  sweep : Option Sweep

namespace DeployTimeline

/-- A row without attempts, stamps and sweeps. -/
def fresh (now : Time) (row : Deployment) : DeployTimeline := ⟨now, row, [], [], none⟩

def onAttempt (k : ℕ) (f : RunnerAttempt → RunnerAttempt) (s : DeployTimeline) : DeployTimeline :=
  { s with attempts := s.attempts.modify k f }

/-- A stamp is no longer under way. -/
def endStamp (k : ℕ) (s : DeployTimeline) : DeployTimeline :=
  { s with stamping := s.stamping.erase k }

/-- A guarded update of the row. -/
def write (u : DeploymentWrite) (s : DeployTimeline) : DeployTimeline :=
  if u.guard s.row then { s with row := u.set s.now s.row } else s

end DeployTimeline

inductive TimelineStep
  | elapse (ticks : ℕ)
  /-- A run of the stored document, or of the one the update endpoint derives from it. -/
  | launch (updated : Bool)
  /-- `SetStatusAsync` reads the clock. -/
  | readClock (k : ℕ)
  /-- `SetStatusAsync` writes. -/
  | setRunning (k : ℕ)
  | arm (k : ℕ)
  | installPhaseStarted (k : ℕ)
  /-- `StampInstallStartAsync`. -/
  | stampInstallStart (k : ℕ)
  /-- Its update fails, and the error is swallowed. -/
  | loseStamp (k : ℕ)
  /-- `FinishAsync`. -/
  | finish (k : ℕ) (args : FinishArgs)
  /-- The attempt ends without a write, with its process. -/
  | vanish (k : ℕ)
  /-- The recovery pass claims the row it has read, at the time it has read. -/
  | claim (c : DeploymentRecoveryService.Candidate) (now : Time)
  | flushLog (log : String)
  /-- The stop endpoint. -/
  | stop (now : Time)
  | claimTeardown (prior : DeploymentStatus)
  | releaseFailed
  /-- A tick of the watchdog reads the clock. -/
  | tick
  /-- Its query over the deployments. -/
  | select
  /-- The body of its loop. -/
  | reap

namespace TimelineStep

open DeployTimeline

/-- The stage of an attempt. -/
def stageOf (k : ℕ) (s : DeployTimeline) : Option AttemptStage :=
  s.attempts[k]?.map RunnerAttempt.stage

/-- The document of a launch. -/
def documentOf (updated : Bool) (config : Json) : Option Json :=
  if updated then (DeploymentWriteEndpoints.updateConfig config).toOption else some config

/-- The write the sweep decides on. -/
def reapOf (s : DeployTimeline) : Option DeploymentWrite := do
  let sweep ← s.sweep
  let dep ← sweep.stuck
  (← (WatchdogService.reapWrite sweep.now dep).toOption)

/-- What a step does. -/
def exec : TimelineStep → DeployTimeline → DeployTimeline
  | elapse ticks, s => { s with now := s.now + ticks }
  | launch updated, s =>
      match documentOf updated s.row.config with
      | some j => { s with attempts := s.attempts ++ [⟨j, .launched⟩] }
      | none => s
  | readClock k, s => s.onAttempt k fun a => { a with stage := .flipping s.now }
  | setRunning k, s =>
      match stageOf k s with
      | some (.flipping stamp) =>
          (s.write (.setRunning stamp)).onAttempt k fun a => { a with stage := .running stamp }
      | _ => s
  | arm k, s => s.onAttempt k (RunnerAttempt.arm s.now)
  | installPhaseStarted k, s =>
      { s.onAttempt k (RunnerAttempt.rearm s.now) with stamping := k :: s.stamping }
  | stampInstallStart k, s =>
      let landed := s.endStamp k
      if DeploymentWrite.stampInstallStart.guard s.row then
        (landed.write .stampInstallStart).onAttempt k RunnerAttempt.stamped
      else landed
  | loseStamp k, s => s.endStamp k
  | finish k args, s =>
      (s.write (.finish args s.now)).onAttempt k fun a => { a with stage := .over }
  | vanish k, s => s.onAttempt k fun a => { a with stage := .over }
  | claim c now, s =>
      if DeploymentRecoveryService.claimGuard c s.row then
        { s with row := DeploymentRecoveryService.claimSet c now s.row }
      else s
  | flushLog log, s => s.write (.flushLog log)
  | stop now, s => s.write (.stop now)
  | claimTeardown prior, s => s.write (.claimTeardown prior)
  | releaseFailed, s => s.write .releaseFailed
  | tick, s => { s with sweep := some ⟨s.now, none⟩ }
  | select, s => { s with sweep := s.sweep.map fun sweep => sweep.read s.row }
  | reap, s => { (reapOf s).elim s s.write with sweep := none }

/-- When a step is possible. -/
def can : TimelineStep → DeployTimeline → Bool
  | readClock k, s => stageOf k s == some .launched
  | arm k, s => (stageOf k s).any fun | .running _ => true | _ => false
  | installPhaseStarted k, s => s.attempts[k]?.any RunnerAttempt.awaitsInstall
  | stampInstallStart k, s | loseStamp k, s => s.stamping.contains k
  | finish k _, s | vanish k, s => (stageOf k s).any fun stage => stage != .over
  | claim _ now, s | stop now, s => decide (now ≤ s.now)
  | _, _ => true

end TimelineStep

/-- The deployment as a machine. -/
def deployTimeline : Machine TimelineStep DeployTimeline :=
  .of TimelineStep.exec TimelineStep.can

end Networker
