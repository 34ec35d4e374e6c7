/-
The worker of an agent: assigned runs, their tasks and their handles
(`Networker.Agent/AgentWorker.cs`).

* `RunTask`, `TaskStage`: the task of a started run, by the statement it has executed
  last;
* `Loop`: where the receive loop stands; it handles one frame after the other;
* `Worker`: the running map, the recently finished runs, the slots and the tasks;
* `AgentWorker.handleAssignRun`, `tryAdd`, `handleCancelRun`, `cancelAllRuns`, `cancelNext`:
  the handlers of the receive loop;
* `AgentWorker.statement`: the statements of a task;
* `WorkerStep`, `agentWorker`: the machine of the worker.
-/
import Networker.Concurrency.Machine
import Networker.ControlPlane.Entities
import Networker.Data.RecentSet

namespace Networker

open Data Concurrency

/-- The number of a task: its place in the order the tasks were started in. -/
abbrev TaskId : Type := ℕ

/-- Where the task of a run stands. -/
inductive TaskStage
  /-- Scheduled, the body has not begun. -/
  | queued
  /-- Waiting for a run slot. -/
  | waiting
  /-- Holding a slot, the executor runs. -/
  | executing
  /-- The run is remembered as finished. -/
  | recorded
  /-- The slot is given back. -/
  | released
  | ended
  deriving DecidableEq

/-- A started run with its cancellation source. -/
structure RunTask where
  run : Guid
  cancelled : Bool
  disposed : Bool
  stage : TaskStage

namespace RunTask

/-- `RunHandle.Cancel`: a disposed source ignores it. -/
def cancel (t : RunTask) : RunTask := { t with cancelled := t.cancelled || !t.disposed }

/-- `RunHandle.Dispose`. -/
def dispose (t : RunTask) : RunTask := { t with disposed := true }

/-- The task has not ended. -/
def alive (t : RunTask) : Bool := t.stage != .ended

/-- The task holds a run slot. -/
def holds (t : RunTask) : Bool := t.stage == .executing || t.stage == .recorded

end RunTask

/-- Where the receive loop stands. -/
inductive Loop
  | receiving
  /-- The run is not among the recently finished ones and is about to be added. -/
  | assigning (run : Guid)
  /-- Cancelling the runs of a snapshot of the running map. -/
  | aborting (left : List (Guid × TaskId))
  deriving DecidableEq

/-- `MaxConcurrentRuns`. -/
def maxConcurrentRuns : ℕ := 4

/-- `RecentlyFinishedCapacity`. -/
def recentlyFinishedCapacity : ℕ := 128

/-- The state of the worker. -/
structure Worker where
  loop : Loop
  /-- The token of the connection is cancelled. -/
  disconnected : Bool
  running : Guid → Option TaskId
  recentlyFinished : RecentSet Guid recentlyFinishedCapacity
  /-- The free slots of `_runSlots`. -/
  runSlots : ℕ
  tasks : List RunTask
  /-- The runs remembered as finished so far, the newest one first. -/
  completions : List Guid

namespace Worker

/-- A worker that has just started. -/
def started : Worker where
  loop := .receiving
  disconnected := false
  running _ := none
  recentlyFinished := .empty _
  runSlots := maxConcurrentRuns
  tasks := []
  completions := []

/-- Change the task under a number. -/
def onTask (k : TaskId) (f : RunTask → RunTask) (w : Worker) : Worker :=
  { w with tasks := w.tasks.modify k f }

/-- The task under a number moves on. -/
def enter (k : TaskId) (stage : TaskStage) (w : Worker) : Worker :=
  w.onTask k fun t => { t with stage := stage }

/-- `_running.TryRemove`, with what is done to the task of the removed handle. -/
def tryRemove (run : Guid) (f : RunTask → RunTask) (w : Worker) : Worker :=
  match w.running run with
  | none => w
  | some k => { w with running := fun r => if r = run then none else w.running r }.onTask k f

end Worker

namespace AgentWorker

open Worker

/-! ### The receive loop -/

/-- `HandleAssignRun` up to the check of the recently finished runs. -/
def handleAssignRun (run : Guid) (w : Worker) : Worker :=
  if run ∈ w.recentlyFinished then w else { w with loop := .assigning run }

/-- The rest of `HandleAssignRun`: a run that is in the running map is ignored, another one
gets a handle and a task. -/
def tryAdd (run : Guid) (w : Worker) : Worker :=
  match w.running run with
  | some _ => { w with loop := .receiving }
  | none =>
      { w with loop := .receiving
               running := fun r => if r = run then some w.tasks.length else w.running r
               tasks := w.tasks ++ [⟨run, w.disconnected, false, .queued⟩] }

/-- `HandleCancelRun`. -/
def handleCancelRun (run : Guid) (w : Worker) : Worker :=
  w.tryRemove run fun t => t.cancel.dispose

/-- The snapshot `CancelAllRuns` iterates over. -/
def snapshot (w : Worker) : List (Guid × TaskId) :=
  w.tasks.zipIdx.filterMap fun p =>
    if w.running p.1.run = some p.2 then some (p.1.run, p.2) else none

def cancelAllRuns (w : Worker) : Worker := { w with loop := .aborting (snapshot w) }

/-- The body of the loop of `CancelAllRuns`; behind the last run the loop receives again,
over a new connection where the old one is gone. -/
def cancelNext (left : List (Guid × TaskId)) (w : Worker) : Worker :=
  match left with
  | [] => { w with loop := .receiving, disconnected := false }
  | (run, k) :: left =>
      { (w.onTask k RunTask.cancel).tryRemove run RunTask.dispose with loop := .aborting left }

/-- The token of the connection is cancelled, and with it the sources linked to it. -/
def disconnect (w : Worker) : Worker :=
  { w with disconnected := true, tasks := w.tasks.map RunTask.cancel }

/-! ### The task of a run -/

/-- The next statement of a task. -/
def statement (k : TaskId) (t : RunTask) (w : Worker) : Worker :=
  match t.stage with
  -- the token of a disposed source raises, and a cancelled one ends the wait at once
  | .queued => if t.disposed || t.cancelled then w.enter k .ended else w.enter k .waiting
  | .waiting =>
      if t.cancelled then w.enter k .ended
      else if 0 < w.runSlots then { w.enter k .executing with runSlots := w.runSlots - 1 }
      else w
  | .executing =>
      { w.enter k .recorded with recentlyFinished := w.recentlyFinished.add t.run
                                 completions := t.run :: w.completions }
  | .recorded => { w.enter k .released with runSlots := w.runSlots + 1 }
  -- the handle is looked up by the run
  | .released => (w.enter k .ended).tryRemove t.run RunTask.dispose
  | .ended => w

/-- Execute the next statement of a task. -/
def advance (k : TaskId) (w : Worker) : Worker :=
  match w.tasks[k]? with
  | some t => statement k t w
  | none => w

end AgentWorker

/-! ### The worker -/

/-- What may happen next. -/
inductive WorkerStep
  /-- An `assign_run` frame is handled. -/
  | assignRun (run : Guid)
  /-- The handler of an `assign_run` goes on. -/
  | tryAdd
  /-- A `cancel_run` frame is handled. -/
  | cancelRun (run : Guid)
  /-- The token of the connection is cancelled. -/
  | disconnect
  /-- A `shutdown` frame is handled, or the connection has ended. -/
  | cancelAllRuns
  /-- The loop over the running map goes on. -/
  | cancelNext
  | advance (k : TaskId)

namespace WorkerStep

def exec : WorkerStep → Worker → Worker
  | assignRun run, w => AgentWorker.handleAssignRun run w
  | tryAdd, w =>
      match w.loop with
      | .assigning run => AgentWorker.tryAdd run w
      | _ => w
  | cancelRun run, w => AgentWorker.handleCancelRun run w
  | disconnect, w => AgentWorker.disconnect w
  | cancelAllRuns, w => AgentWorker.cancelAllRuns w
  | cancelNext, w =>
      match w.loop with
      | .aborting left => AgentWorker.cancelNext left w
      | _ => w
  | advance k, w => AgentWorker.advance k w

/-- The receive loop handles one frame after the other. -/
def possible : WorkerStep → Worker → Bool
  | assignRun _, w | cancelRun _, w | cancelAllRuns, w =>
      match w.loop with
      | .receiving => true
      | _ => false
  | _, _ => true

end WorkerStep

/-- The worker of an agent. -/
def agentWorker : Machine WorkerStep Worker := .of WorkerStep.exec WorkerStep.possible

end Networker
