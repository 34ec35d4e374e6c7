/-
The power states of the runners (`AutoShutdownService.cs`, `TesterRecovery.cs`, and what
`AgentMessageProcessor.OnHeartbeat` writes to `project_tester`).

* `PowerWorld`: the shared state, the other columns of `project_tester`, the sweep and the
  recovery scans that are under way, and how often each power state was written;
* `PowerWorld.sweepStep`: `SweepAsync`, one statement or cloud call after the other;
* `PowerWorld.recover`: `HandleStuckTransientsAsync` on the next row that it has selected;
* `runnerPower`: sweeps, scans, heartbeats and all other services side by side.

A sweep is started only while no other one runs (the leader lock).  Its context tracks the
testers that it loads: a tester that is loaded again keeps the values of the first time.
-/
import Networker.Concurrency.Machine
import Networker.ControlPlane.World

namespace Networker

open Data Concurrency

namespace RunnerPower

/-! ### The rows -/

/-- The other columns of `project_tester` that the services read. -/
structure RunnerColumns where
  projectId : String
  name : String
  allocation : String
  autoShutdownEnabled : Bool
  autoShutdownLocalHour : ℤ
  nextShutdownAt : Option Time
  shutdownDeferralCount : ℤ
  autoProbeEnabled : Bool

/-- A tester as the context of a sweep has loaded it first. -/
structure Tracked where
  testerId : Guid
  powerState : String
  allocation : String
  autoShutdownLocalHour : ℤ
  shutdownDeferralCount : ℤ

/-- What a call of the compute provisioner comes back with. -/
structure ProvisionResult where
  success : Bool
  exitCode : Option ℤ

/-- The CLI has exited with an error; without an exit code it is missing. -/
def ProvisionResult.realFailure (res : ProvisionResult) : Bool :=
  !res.success && res.exitCode.isSome

/-- The loop that a wake belongs to, with what is left of it. -/
inductive WakeArm
  | pinned (left : List Tracked)
  | unpinned (left : List String)

/-- Where a sweep stands.  An operation remembers which write of the power state was its own. -/
inductive SweepStage
  | release
  | readToWake
  /-- In front of the claim of `TryWakeAsync`. -/
  | wake (tester : Tracked) (arm : WakeArm)
  /-- `StartAsync` is called. -/
  | start (tester : Tracked) (mark : ℕ) (arm : WakeArm)
  | rollback (tester : Tracked) (mark : ℕ) (arm : WakeArm)
  | readProjects
  | readWaking (project : String) (left : List String)
  | readCandidate (project : String) (left : List String)
  | readDrained
  /-- `HandleDueTesterAsync` begins. -/
  | load (tester : Guid) (left : List Guid)
  | recheck (tester : Tracked) (left : List Guid)
  | defer (tester : Tracked) (left : List Guid)
  | flip (tester : Tracked) (left : List Guid)
  /-- `DeallocateAsync` is called. -/
  | deallocate (tester : Tracked) (mark : ℕ) (left : List Guid)
  /-- In front of the final write, or of the rollback if the call has failed. -/
  | finish (tester : Tracked) (mark : ℕ) (failed : Bool) (left : List Guid)
  | ended

/-- What follows a wake. -/
def afterWake : WakeArm → SweepStage
  | .pinned (tester :: left) => .wake tester (.pinned left)
  | .pinned [] => .readProjects
  | .unpinned (project :: left) => .readWaking project left
  | .unpinned [] => .readDrained

/-- What follows a due tester. -/
def afterDue : List Guid → SweepStage
  | tester :: left => .load tester left
  | [] => .ended

structure Sweep where
  now : Time
  stage : SweepStage
  tracked : List Tracked

/-- A row of the recovery scan, with the number of the write that it has seen. -/
structure StuckRow where
  testerId : Guid
  powerState : String
  autoProbeEnabled : Bool
  mark : ℕ

structure PowerWorld where
  world : World
  columns : Guid → RunnerColumns
  sweep : Sweep
  /-- The rows that are left to each recovery scan. -/
  scans : List (List StuckRow)
  /-- How often the power state of a runner was written. -/
  writes : Guid → ℕ
  /-- A sweep has begun to shut the runner down, and it has not been running since. -/
  down : Guid → Bool

namespace PowerWorld

variable (w : PowerWorld)

/-- The power state of a runner. -/
def power (t : Guid) : Option String := (w.world.testers.find? t).map (·.powerState)

/-- A guarded update of `power_state`. -/
def setPower (t : Guid) (guard : ProjectTester → Bool) (state : String) (at' : Time) :
    PowerWorld :=
  if w.world.testers.hits t guard then
    { w with
      world := { w.world with
        testers := w.world.testers.update t guard (ProjectTester.power state at')
          (ProjectTester.key_power state at') }
      writes := Function.update w.writes t (w.writes t + 1)
      down := if state = "running" then Function.update w.down t false else w.down }
  else w

/-- An update of the columns beside `power_state`. -/
def setColumns (t : Guid) (columns : RunnerColumns) (at' : Time) : PowerWorld :=
  { w with
    world := { w.world with
      testers := w.world.testers.update t (fun _ => true) (fun r => { r with updatedAt := at' })
        fun _ => rfl }
    columns := Function.update w.columns t columns }

def go (stage : SweepStage) : PowerWorld := { w with sweep := { w.sweep with stage := stage } }

/-! ### What a sweep reads -/

/-- A queued, provisioning or running run. -/
def isPending (r : TestRun) : Bool :=
  r.status == .queued || r.status == .provisioning || r.status == .running

/-- A pending run is pinned to the runner. -/
def holdsRun (t : Guid) : Bool :=
  w.world.runs.rows.any fun r => r.testerId == some t && isPending r

def isOff (r : ProjectTester) : Bool := r.powerState == "stopped" || r.powerState == "deallocated"

/-- The stopped testers that queued runs are pinned to. -/
def toWake : List ProjectTester :=
  w.world.testers.select fun t =>
    isOff t && w.world.runs.rows.any fun r => r.testerId == some t.testerId && r.status == .queued

/-- The projects with unpinned queued runs and no online agent. -/
def projectsNeedingRunner : List String :=
  (((w.world.runs.select fun r => r.status == .queued && r.testerId.isNone).map
    TestRun.projectId).eraseDups).filter fun pid =>
      !w.world.agents.rows.any fun a => a.projectId == pid && a.status == "online"

def alreadyWaking (pid : String) : Bool :=
  w.world.testers.rows.any fun t =>
    (w.columns t.testerId).projectId == pid && t.powerState == "starting"

/-- The stopped idle tester of a project whose name comes first. -/
def candidate (byName : String → String → Bool) (pid : String) : Option ProjectTester :=
  ((w.world.testers.select fun t =>
    (w.columns t.testerId).projectId == pid && isOff t &&
      (w.columns t.testerId).allocation == "idle").insertionSort fun a b =>
        byName (w.columns a.testerId).name (w.columns b.testerId).name = true).head?

/-- The testers that are due and drained. -/
def drained (now : Time) : List ProjectTester :=
  w.world.testers.select fun t =>
    (w.columns t.testerId).autoShutdownEnabled &&
      (w.columns t.testerId).nextShutdownAt.any (· < now) && t.powerState == "running" &&
      (w.columns t.testerId).allocation == "idle" && !w.holdsRun t.testerId

/-- The entity that the context of the sweep has for a row. -/
def attach (row : ProjectTester) : Tracked :=
  (w.sweep.tracked.find? (·.testerId == row.testerId)).getD
    { testerId := row.testerId
      powerState := row.powerState
      allocation := (w.columns row.testerId).allocation
      autoShutdownLocalHour := (w.columns row.testerId).autoShutdownLocalHour
      shutdownDeferralCount := (w.columns row.testerId).shutdownDeferralCount }

/-- The context tracks the rows. -/
def track (rows : List ProjectTester) : PowerWorld :=
  { w with sweep := { w.sweep with
      tracked := w.sweep.tracked ++ (rows.filter fun row =>
        w.sweep.tracked.all (·.testerId != row.testerId)).map w.attach } }

/-! ### A sweep -/

/-- `StuckStartingTimeout`. -/
def stuckStartingTimeout : Time := minutes 20

/-- Testers that have been starting for too long are released. -/
def releaseStuck : PowerWorld :=
  (w.world.testers.rows.map ProjectTester.testerId).foldl (fun v t =>
    v.setPower t (fun r => r.powerState == "starting" &&
      r.updatedAt < w.sweep.now - stuckStartingTimeout) "stopped" w.sweep.now) w

/-- `DeferralDelay`. -/
def deferralDelay : Time := minutes 5

/-- `DeferAsync`. -/
def deferShutdown (tester : Tracked) : PowerWorld :=
  w.setColumns tester.testerId
    { w.columns tester.testerId with
      shutdownDeferralCount := min (tester.shutdownDeferralCount + 1) 32767
      nextShutdownAt := some (w.world.now + deferralDelay) }
    w.world.now

def day : Time := 24 * (60 * minutes 1)

/-- `NextShutdownAtUtc`; days begin at multiples of `day`. -/
def nextShutdownAtUtc (localHour : ℤ) (now : Time) : Time :=
  let hour := max 0 (min localHour 23)
  let todayTarget := now / day * day + hour * (60 * minutes 1)
  if now < todayTarget then todayTarget else todayTarget + day

/-- The next statement or cloud call of the sweep; `res` is what a cloud call returns. -/
def sweepStep (byName : String → String → Bool) (res : ProvisionResult) : PowerWorld :=
  match w.sweep.stage with
  | .release => w.releaseStuck.go .readToWake
  | .readToWake => (w.track w.toWake).go (afterWake (.pinned (w.toWake.map w.attach)))
  | .wake tester arm =>
      if w.world.testers.hits tester.testerId (·.powerState == tester.powerState) then
        (w.setPower tester.testerId (·.powerState == tester.powerState) "starting" w.world.now).go
          (.start tester (w.writes tester.testerId + 1) arm)
      else w.go (afterWake arm)
  | .start tester mark arm =>
      w.go (if res.realFailure then .rollback tester mark arm else afterWake arm)
  | .rollback tester _ arm =>
      (w.setPower tester.testerId (·.powerState == "starting") tester.powerState w.world.now).go
        (afterWake arm)
  | .readProjects => w.go (afterWake (.unpinned w.projectsNeedingRunner))
  | .readWaking pid left =>
      w.go (if w.alreadyWaking pid then afterWake (.unpinned left) else .readCandidate pid left)
  | .readCandidate pid left =>
      match w.candidate byName pid with
      | none => w.go (afterWake (.unpinned left))
      | some row => (w.track [row]).go (.wake (w.attach row) (.unpinned left))
  | .readDrained =>
      (w.track (w.drained w.sweep.now)).go
        (afterDue ((w.drained w.sweep.now).map ProjectTester.testerId))
  | .load t left =>
      match w.world.testers.find? t with
      | none => w.go (afterDue left)
      | some row =>
          let tester := w.attach row
          (w.track [row]).go
            (if tester.powerState == "running" && tester.allocation == "idle" then
              .recheck tester left
            else .defer tester left)
  | .recheck tester left =>
      w.go (if w.holdsRun tester.testerId then .defer tester left else .flip tester left)
  | .defer tester left => (w.deferShutdown tester).go (afterDue left)
  | .flip tester left =>
      if w.world.testers.hits tester.testerId (·.powerState == "running") then
        let flipped :=
          w.setPower tester.testerId (·.powerState == "running") "stopping" w.world.now
        { flipped with down := Function.update flipped.down tester.testerId true }.go
          (.deallocate tester (w.writes tester.testerId + 1) left)
      else w.go (afterDue left)
  | .deallocate tester mark left => w.go (.finish tester mark res.realFailure left)
  | .finish tester _ true left =>
      (w.setPower tester.testerId (fun _ => true) "running" w.world.now).go (afterDue left)
  | .finish tester _ false left =>
      ((w.setPower tester.testerId (fun _ => true) "stopped" w.world.now).setColumns
        tester.testerId
        { w.columns tester.testerId with
          nextShutdownAt := some (nextShutdownAtUtc tester.autoShutdownLocalHour w.world.now)
          shutdownDeferralCount := 0 }
        w.world.now).go (afterDue left)
  | .ended => w

/-- A statement or a call of the sweep throws: a due tester is skipped, anything else ends the
sweep. -/
def sweepThrows : PowerWorld :=
  match w.sweep.stage with
  | .load _ left | .recheck _ left | .defer _ left | .flip _ left | .deallocate _ _ left
  | .finish _ _ _ left => w.go (afterDue left)
  | _ => w.go .ended

/-! ### A recovery scan -/

/-- `StuckThresholdMinutes`. -/
def stuckThreshold : Time := minutes 30

def isTransient (state : String) : Bool :=
  state == "starting" || state == "stopping" || state == "upgrading" || state == "provisioning"

/-- The rows that `HandleStuckTransientsAsync` selects. -/
def stuckRows : List StuckRow :=
  (w.world.testers.select fun t =>
    isTransient t.powerState && t.updatedAt < w.world.now - stuckThreshold).map fun t =>
      ⟨t.testerId, t.powerState, (w.columns t.testerId).autoProbeEnabled, w.writes t.testerId⟩

/-- `AzurePowerToRow`. -/
def azurePowerToRow (casing : Text.Casing) (azureState : String) : String :=
  let contains (sub : String) : Bool := decide (sub.toList <:+: Text.lower casing azureState)
  if contains "running" then "running"
  else if contains "deallocated" || contains "stopped" then "stopped"
  else if contains "starting" then "starting"
  else if contains "stopping" || contains "deallocating" then "stopping"
  else "error"

/-- What the scan writes for a row: the probe raises, is not available, or reports a state. -/
def resolvedState (casing : Text.Casing) (row : StuckRow)
    (probed : Except Unit (Option String)) : String :=
  if row.autoProbeEnabled then
    match probed with
    | .ok (some azureState) => azurePowerToRow casing azureState
    | _ => "error"
  else "error"

/-- The next row of a scan is probed and written. -/
def recover (casing : Text.Casing) (i : ℕ) (probed : Except Unit (Option String)) : PowerWorld :=
  match w.scans[i]? with
  | some (row :: left) =>
      { w.setPower row.testerId (fun _ => true) (resolvedState casing row probed) w.world.now with
        scans := w.scans.set i left }
  | _ => w

/-! ### Heartbeats -/

/-- A heartbeat of an agent that is bound to the runner: the VM is up. -/
def reconcile (t : Guid) : PowerWorld :=
  w.setPower t (fun r => r.powerState == "stopped" || r.powerState == "stopping" ||
    r.powerState == "starting") "running" w.world.now

/-- A heartbeat, for a runner that no task of this process is provisioning. -/
def reconcileProvisioning (t : Guid) : PowerWorld :=
  w.setPower t (fun r => r.powerState == "provisioning") "running" w.world.now

end PowerWorld

/-! ### All side by side -/

inductive PowerMove
  | startSweep
  | sweep (res : ProvisionResult)
  | sweepThrows
  | scan
  | recover (i : ℕ) (probed : Except Unit (Option String))
  | scanThrows (i : ℕ)
  | reconcile (t : Guid)
  | reconcileProvisioning (t : Guid)
  | setColumns (t : Guid) (columns : RunnerColumns)
  /-- A statement of another service, or a move of the outside world. -/
  | other (l : Stmt)
  | restart

namespace PowerMove

def exec (casing : Text.Casing) (byName : String → String → Bool) :
    PowerMove → PowerWorld → PowerWorld
  | .startSweep, w => { w with sweep := ⟨w.world.now, .release, []⟩ }
  | .sweep res, w => w.sweepStep byName res
  | .sweepThrows, w => w.sweepThrows
  | .scan, w => { w with scans := w.scans ++ [w.stuckRows] }
  | .recover i probed, w => w.recover casing i probed
  | .scanThrows i, w => { w with scans := w.scans.set i [] }
  | .reconcile t, w => w.reconcile t
  | .reconcileProvisioning t, w => w.reconcileProvisioning t
  | .setColumns t columns, w => w.setColumns t columns w.world.now
  | .other l, w => { w with world := l.exec w.world }
  | .restart, w =>
      { w with world := w.world.restarted, sweep := ⟨w.world.now, .ended, []⟩, scans := [] }

/-- The tester that an agent is bound to. -/
def boundTester (w : World) (agent : Guid) : Option Guid :=
  (w.agents.find? agent).bind Agent.testerId

/-- A claim is stamped after its assignment was delivered, and both claims name the tester of
the agent. -/
def canStmt : Stmt → World → Bool
  | .setPower .., _ => false
  | .updateRun run (.stampAssignment agent tester), w =>
      w.unstamped.contains (run, agent) && tester == boundTester w agent
  | .updateRun _ (.runStarted agent tester _), w => tester == boundTester w agent
  | _, _ => true

/-- One sweep at a time. -/
def can : PowerMove → PowerWorld → Bool
  | .startSweep, w => match w.sweep.stage with
      | .ended => true
      | _ => false
  | .other l, w => canStmt l w.world
  | _, _ => true

end PowerMove

/-- The services of a control plane that write power states, with all others. -/
def runnerPower (casing : Text.Casing) (byName : String → String → Bool) :
    Machine PowerMove PowerWorld :=
  .of (PowerMove.exec casing byName) PowerMove.can

/-- Runners, agents and configs, and nothing under way. -/
def PowerWorld.start (testers : Table ProjectTester) (columns : Guid → RunnerColumns)
    (agents : Table Agent) (configs : Table TestConfig) : PowerWorld where
  world := { World.initial with testers := testers, agents := agents, configs := configs }
  columns := columns
  sweep := ⟨0, .ended, []⟩
  scans := []
  writes _ := 0
  down _ := false

end RunnerPower

end Networker
