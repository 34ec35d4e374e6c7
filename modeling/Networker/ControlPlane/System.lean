/-
The control plane as a system of interleaved tasks.

* `Task`: what may run: requests, agent frames, the leader-locked ticks and the
  detached deploy attempts;
* `controlPlane`: the system; a tick is started only while no other tick of its
  kind runs, and a deploy attempt only once;
* `Sys`, `Move`, `Run.after`: its configurations, decisions and schedules.
-/
import Networker.ControlPlane.AgentFrames
import Networker.ControlPlane.Dispatch
import Networker.ControlPlane.Orchestrator
import Networker.ControlPlane.OrphanReaper
import Networker.ControlPlane.Watchdog

namespace Networker

open Data Concurrency

/-- The tasks of the control plane. -/
inductive Task
  | launch (config : Guid) (comparisonGroup tester : Option Guid)
  | dispatch (run : Guid)
  | redispatch
  | cancel (run : Guid)
  | frame (agent : Guid) (frame : AgentFrame)
  | watchdog
  | orchestrator
  | reaper (resources : List OrphanReaper.RawResource)
  | deploy (attempt deployment : Guid) (outcome : DeployRunner.Outcome)
  | createDeployment (projectId name : String) (config : Json) (createdBy : Option Guid)
  | stopDeployment (projectId : String) (deployment : Guid)
  | updateDeployment (projectId : String) (deployment : Guid)
  | deleteDeployment (projectId : String) (deployment : Guid)

namespace Task

/-- Discard the result of a routine. -/
def discard {α : Type} (p : Svc α) : Svc Unit := p >>= fun _ => .ret ()

/-- The routine a task runs. -/
def code (h : Host) : Task → Svc Unit
  | launch config group tester => discard (RunDispatcher.launch h config group tester)
  | dispatch run => RunDispatcher.dispatchRun h run
  | redispatch => discard (RunDispatcher.redispatchQueued h)
  | cancel run => RunDispatcher.cancelRun run
  | frame agent f => AgentMessageProcessor.handleFrame agent f
  | watchdog => WatchdogService.watchdogTick h
  | orchestrator => ProvisioningOrchestrator.orchestratorTick h
  | reaper resources => discard (OrphanReaper.selectOrphans h resources)
  | deploy k d outcome => DeployRunner.runDeployment k d outcome
  | createDeployment projectId name config createdBy =>
      discard (DeploymentWriteEndpoints.createAndSpawn (fun _ => []) projectId name config createdBy)
  | stopDeployment projectId d => DeploymentWriteEndpoints.stopDeployment projectId d
  | updateDeployment projectId d => DeploymentWriteEndpoints.updateDeployment projectId d
  | deleteDeployment projectId d => DeploymentWriteEndpoints.deleteDeployment projectId d

/-- Starting a deploy attempt takes it off the queue of detached attempts. -/
def entry : Task → Stmt
  | deploy k _ _ => .beginAttempt k
  | _ => .query

/-- The leader lock a tick runs under. -/
def isRedispatch : Task → Bool
  | redispatch => true
  | _ => false

def isWatchdog : Task → Bool
  | watchdog => true
  | _ => false

def isOrchestrator : Task → Bool
  | orchestrator => true
  | _ => false

def isReaper : Task → Bool
  | reaper _ => true
  | _ => false

/-- A tick waits for its leader lock, a deploy attempt runs once. -/
def admits (live : List Task) (t : Task) (w : World) : Bool :=
  match t with
  | redispatch => !live.any isRedispatch
  | watchdog => !live.any isWatchdog
  | orchestrator => !live.any isOrchestrator
  | reaper _ => !live.any isReaper
  | deploy k d _ =>
      w.drivers[k]?.any fun a => a.deploymentId == d && a.phase == .queued
  | _ => true

end Task

/-- The control plane on a host. -/
def controlPlane (h : Host) : System Stmt SvcError World Task where
  exec := Stmt.exec
  code := Task.code h
  entry := Task.entry
  admits := Task.admits
  moves l _ := l.isEnvironment

/-- A configuration of the control plane. -/
abbrev Sys : Type := System.Config Stmt SvcError World Task

/-- One decision of a schedule. -/
abbrev Move : Type := System.Action Stmt Task

/-- The configurations some schedule leads to from a fresh start in `w`. -/
def Reachable (h : Host) (w : World) (c : Sys) : Prop :=
  ∃ as, c = (controlPlane h).after (.fresh w) as

/-- Let a thread take up to `n` steps; steps past its end do nothing. -/
def steps (thread n : ℕ) : List Move := List.replicate n (.step thread)

end Networker
