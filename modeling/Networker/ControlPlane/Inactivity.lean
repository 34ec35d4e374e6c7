/-
The lifecycle of workspaces (`InactivityService.cs` and the endpoints that write the same rows).

* `Workspace`, `WorkspaceWarning`: the rows of `project` and `workspace_warning`;
* `effectiveLastActivity`, `decideLiveAction`, `decideSuspendedAction`: the thresholds;
* `Pass`: a sweep under way, with the rows it has read and the warnings it could not store;
* `Lifecycle`: the database, the sweeps of all replicas, and the requests between two statements;
* `LifecycleStep`, `lifecycle`: the machine; a sweep does one statement at a time.
-/
import Networker.Concurrency.Machine
import Networker.ControlPlane.Entities

namespace Networker

open Data Concurrency

/-! ### The rows -/

/-- A span in days. -/
def days (n : ℤ) : Time := n * 864000000000

/-- A row of `project`. -/
structure Workspace where
  projectId : Guid
  updatedAt : Time
  deletedAt : Option Time
  deleteProtection : Bool
  deriving DecidableEq

instance : Keyed Workspace := ⟨Workspace.projectId⟩

/-- `InactivityWarningType` and `HardDeleteNoticeType`. -/
inductive WarningType
  | inactivity90d
  | hardDelete5d
  deriving DecidableEq

/-- A row of `workspace_warning`. -/
structure WorkspaceWarning where
  projectId : Guid
  warningType : WarningType
  sentAt : Time
  deriving DecidableEq

/-- A live workspace as a sweep reads it. -/
structure LiveRow where
  projectId : Guid
  updatedAt : Time
  lastRunAt : Option Time
  deriving DecidableEq

/-- A suspended workspace as a sweep reads it. -/
structure SuspendedRow where
  projectId : Guid
  deletedAt : Time
  deriving DecidableEq

/-! ### The thresholds -/

namespace InactivityService

def warnAfterDays : ℤ := 90
def suspendAfterDays : ℤ := 120
def hardDeleteNoticeAfterDays : ℤ := 360
def hardDeleteAfterDays : ℤ := 365

inductive LifecycleAction
  | none
  | warn
  | suspend
  deriving DecidableEq

inductive SuspendedAction
  | none
  | noticeHardDelete
  | hardDelete
  deriving DecidableEq

/-- `TotalDays` is compared with whole days, which the ticks decide. -/
def decideLiveAction (lastActivity : Time) (warningSentAt : Option Time) (now : Time) :
    LifecycleAction :=
  if now - lastActivity < days warnAfterDays then .none
  else
    match warningSentAt with
    | none => .warn
    | some sent =>
        if days suspendAfterDays ≤ now - lastActivity ∧
            days (suspendAfterDays - warnAfterDays) ≤ now - sent then .suspend
        else .none

def decideSuspendedAction (deletedAt : Time) (hasDeleteNotice : Bool) (now : Time) :
    SuspendedAction :=
  if days hardDeleteAfterDays ≤ now - deletedAt then .hardDelete
  else if days hardDeleteNoticeAfterDays ≤ now - deletedAt ∧ hasDeleteNotice = false then
    .noticeHardDelete
  else .none

def effectiveLastActivity (projectUpdatedAt : Time) (lastRunCreatedAt : Option Time) : Time :=
  match lastRunCreatedAt with
  | none => projectUpdatedAt
  | some run => if projectUpdatedAt < run then run else projectUpdatedAt

end InactivityService

open InactivityService

/-! ### The sweeps -/

/-- Where `RunPassAsync` is. -/
inductive PassStage
  | starting
  /-- The live workspaces are read. -/
  | listed
  | live
  | suspended
  | over
  deriving DecidableEq

/-- A sweep: its clock, the rows it has read and has still to handle, the warnings it has read,
and those its context still tracks since they could not be stored. -/
structure Pass where
  now : Time
  stage : PassStage
  live : List LiveRow
  warnings : List WorkspaceWarning
  suspended : List SuspendedRow
  tracked : List WorkspaceWarning
  deriving DecidableEq

namespace Pass

/-- `inactivityWarnedAt`. -/
def inactivityWarnedAt (pass : Pass) (projectId : Guid) : Option Time :=
  (pass.warnings.find? fun w => w.warningType == .inactivity90d && w.projectId == projectId).map
    WorkspaceWarning.sentAt

/-- `deleteNoticed`. -/
def deleteNoticed (pass : Pass) (projectId : Guid) : Bool :=
  pass.warnings.any fun w => w.warningType == .hardDelete5d && w.projectId == projectId

end Pass

/-- How a call to the database ends: it may raise although the statement took effect. -/
inductive CallEnd
  | done
  | raised
  | unacknowledged
  deriving DecidableEq

/-- The statement took effect. -/
def CallEnd.took : CallEnd → Bool
  | .raised => false
  | _ => true

/-- The database, the sweeps, and the requests between their two statements. -/
structure Lifecycle where
  clock : Time
  projects : Table Workspace
  warnings : List WorkspaceWarning
  /-- `created_at` of the runs of each workspace. -/
  runs : List (Guid × Time)
  passes : List Pass
  /-- Workspaces restored whose warnings are still there. -/
  restoring : List Guid
  /-- Workspaces that a request has checked and is about to suspend or to delete. -/
  softDeletes : List Guid
  hardDeletes : List Guid

namespace Lifecycle

def start : Lifecycle := ⟨0, .empty, [], [], [], [], [], []⟩

/-- The row of a workspace. -/
def row (st : Lifecycle) (id : Guid) : Option Workspace := st.projects.find? id

def updateProject (st : Lifecycle) (id : Guid) (p : Workspace → Bool) (f : Workspace → Workspace)
    (hf : ∀ w, Keyed.key (f w) = Keyed.key w) : Lifecycle :=
  { st with projects := st.projects.update id p f hf }

/-- The latest run of a workspace. -/
def lastRunAt (st : Lifecycle) (id : Guid) : Option Time :=
  ((st.runs.filter fun r => r.1 == id).map Prod.snd).max?

/-! ### The columns that are written -/

def setUpdatedAt (now : Time) (w : Workspace) : Workspace := { w with updatedAt := now }

def setDeletedAt (deletedAt : Option Time) (w : Workspace) : Workspace :=
  { w with deletedAt := deletedAt }

def setProtection (value : Bool) (w : Workspace) : Workspace := { w with deleteProtection := value }

def newProject (now : Time) (id : Guid) : Workspace := ⟨id, now, none, false⟩

lemma key_setUpdatedAt {now : Time} (w : Workspace) :
    Keyed.key (setUpdatedAt now w) = Keyed.key w := rfl

lemma key_setDeletedAt {deletedAt : Option Time} (w : Workspace) :
    Keyed.key (setDeletedAt deletedAt w) = Keyed.key w := rfl

lemma key_setProtection {value : Bool} (w : Workspace) :
    Keyed.key (setProtection value w) = Keyed.key w := rfl

lemma key_newProject {now : Time} (id : Guid) : Keyed.key (newProject now id) = id := rfl

/-- `deleted_at` is set where it is null. -/
def suspend (st : Lifecycle) (id : Guid) (now : Time) : Lifecycle :=
  st.updateProject id (fun w => w.deletedAt.isNone) (setDeletedAt (some now)) key_setDeletedAt

/-- `WorkspaceCascade.HardDeleteAsync`. -/
def hardDelete (st : Lifecycle) (id : Guid) : Lifecycle :=
  { st with
    projects := st.projects.delete id fun _ => true
    warnings := st.warnings.filter fun w => w.projectId != id
    runs := st.runs.filter fun r => r.1 != id }

/-! ### `RunPassAsync` -/

/-- The live workspaces without protection. -/
def liveRows (st : Lifecycle) : List LiveRow :=
  (st.projects.select fun w => w.deletedAt.isNone && !w.deleteProtection).map fun w =>
    ⟨w.projectId, w.updatedAt, st.lastRunAt w.projectId⟩

/-- The suspended workspaces without protection. -/
def suspendedRows (st : Lifecycle) : List SuspendedRow :=
  (st.projects.select fun w => !w.deleteProtection).filterMap fun w =>
    w.deletedAt.map fun deletedAt => ⟨w.projectId, deletedAt⟩

/-- A warning needs its workspace, and there is one of each type for a workspace. -/
def insertWarning (st : Lifecycle) (w : WorkspaceWarning) : Option Lifecycle :=
  if (st.row w.projectId).isSome && !st.warnings.any fun v =>
      v.projectId == w.projectId && v.warningType == w.warningType then
    some { st with warnings := st.warnings ++ [w] }
  else none

/-- `SaveChangesAsync` stores all the tracked warnings or none of them. -/
def saveChanges (tracked : List WorkspaceWarning) (st : Lifecycle) : Option Lifecycle :=
  tracked.foldlM insertWarning st

def setPass (st : Lifecycle) (i : ℕ) (pass : Pass) : Lifecycle :=
  { st with passes := st.passes.set i pass }

/-- A statement of a sweep that has come to a stage. -/
def atStage (i : ℕ) (stage : PassStage) (f : Pass → Lifecycle → Lifecycle) (st : Lifecycle) :
    Lifecycle :=
  match st.passes[i]? with
  | none => st
  | some pass => if pass.stage = stage then f pass st else st

/-- A warning is added to the context, and the context is saved.  A save that raises leaves the
warning in the context. -/
def addWarning (i : ℕ) (w : WorkspaceWarning) (e : CallEnd) (pass : Pass) (st : Lifecycle) :
    Lifecycle :=
  let tracked := pass.tracked ++ [w]
  match st.saveChanges tracked with
  | none => st.setPass i { pass with tracked := tracked }
  | some st' =>
      if e = .done then st'.setPass i { pass with tracked := [] }
      else (if e.took then st' else st).setPass i { pass with tracked := tracked }

/-- The loop body for a live workspace. -/
def sweepLive (i : ℕ) (e : CallEnd) (pass : Pass) (st : Lifecycle) : Lifecycle :=
  match pass.live with
  | [] => st
  | ws :: rest =>
      let pass := { pass with live := rest }
      match decideLiveAction (effectiveLastActivity ws.updatedAt ws.lastRunAt)
          (pass.inactivityWarnedAt ws.projectId) pass.now with
      | .none => st.setPass i pass
      | .warn => st.addWarning i ⟨ws.projectId, .inactivity90d, pass.now⟩ e pass
      | .suspend => (if e.took then st.suspend ws.projectId pass.now else st).setPass i pass

/-- The loop body for a suspended workspace. -/
def sweepSuspended (i : ℕ) (e : CallEnd) (pass : Pass) (st : Lifecycle) : Lifecycle :=
  match pass.suspended with
  | [] => st
  | ws :: rest =>
      let pass := { pass with suspended := rest }
      match decideSuspendedAction ws.deletedAt (pass.deleteNoticed ws.projectId) pass.now with
      | .none => st.setPass i pass
      | .noticeHardDelete => st.addWarning i ⟨ws.projectId, .hardDelete5d, pass.now⟩ e pass
      | .hardDelete => (if e.took then st.hardDelete ws.projectId else st).setPass i pass

end Lifecycle

/-! ### The machine -/

/-- What a sweep, a request or the clock does next. -/
inductive LifecycleStep
  | tick (span : ℕ)
  | createProject
  | updateProject (id : Guid)
  | createRun (id : Guid)
  /-- A run goes with its configuration. -/
  | deleteRun (k : ℕ)
  | suspend (id : Guid)
  /-- The first statement of a restore. -/
  | restore (id : Guid)
  | clearWarnings (k : ℕ)
  /-- The save of a request that has read `seen`. -/
  | protect (id : Guid) (seen : Bool)
  | checkSoftDelete (id : Guid)
  | softDelete (k : ℕ)
  | checkHardDelete (id : Guid)
  | hardDelete (k : ℕ) (e : CallEnd)
  | startPass
  | readLive (i : ℕ)
  | readWarnings (i : ℕ)
  | sweepLive (i : ℕ) (e : CallEnd)
  | readSuspended (i : ℕ)
  | sweepSuspended (i : ℕ) (e : CallEnd)
  /-- A sweep returns, or a read raises, or the host stops. -/
  | stopPass (i : ℕ)
  deriving DecidableEq

namespace LifecycleStep

open Lifecycle

def exec : LifecycleStep → Lifecycle → Lifecycle
  | tick span, st => { st with clock := st.clock + span }
  | createProject, st =>
      { st with projects := st.projects.insert (newProject st.clock) key_newProject }
  | updateProject id, st =>
      st.updateProject id (fun _ => true) (setUpdatedAt st.clock) key_setUpdatedAt
  | createRun id, st => { st with runs := st.runs ++ [(id, st.clock)] }
  | deleteRun k, st => { st with runs := st.runs.eraseIdx k }
  | suspend id, st => st.suspend id st.clock
  | restore id, st =>
      { st.updateProject id (fun _ => true) (setDeletedAt none) key_setDeletedAt with
        restoring := st.restoring ++ [id] }
  | clearWarnings k, st =>
      match st.restoring[k]? with
      | none => st
      | some id =>
          { st with
            warnings := st.warnings.filter fun w => w.projectId != id
            restoring := st.restoring.eraseIdx k }
  | protect id seen, st =>
      st.updateProject id (fun _ => true) (setProtection (!seen)) key_setProtection
  | checkSoftDelete id, st => { st with softDeletes := st.softDeletes ++ [id] }
  | softDelete k, st =>
      match st.softDeletes[k]? with
      | none => st
      | some id =>
          { st.updateProject id (fun _ => true) (setDeletedAt (some st.clock)) key_setDeletedAt with
            softDeletes := st.softDeletes.eraseIdx k }
  | checkHardDelete id, st => { st with hardDeletes := st.hardDeletes ++ [id] }
  | hardDelete k e, st =>
      match st.hardDeletes[k]? with
      | none => st
      | some id =>
          { (if e.took then st.hardDelete id else st) with
            hardDeletes := st.hardDeletes.eraseIdx k }
  | startPass, st => { st with passes := st.passes ++ [⟨st.clock, .starting, [], [], [], []⟩] }
  | readLive i, st => st.atStage i .starting fun pass st =>
      st.setPass i { pass with stage := .listed, live := st.liveRows }
  | readWarnings i, st => st.atStage i .listed fun pass st =>
      st.setPass i { pass with stage := .live, warnings := st.warnings }
  | sweepLive i e, st => st.atStage i .live (Lifecycle.sweepLive i e)
  | readSuspended i, st => st.atStage i .live fun pass st =>
      if pass.live = [] then
        st.setPass i { pass with stage := .suspended, suspended := st.suspendedRows }
      else st
  | sweepSuspended i e, st => st.atStage i .suspended (Lifecycle.sweepSuspended i e)
  | stopPass i, st =>
      match st.passes[i]? with
      | none => st
      | some pass => st.setPass i { pass with stage := .over }

/-- The checks of the requests; a run needs its workspace. -/
def can : LifecycleStep → Lifecycle → Bool
  | createRun id, st => (st.row id).isSome
  | checkSoftDelete id, st => (st.row id).any fun w => !w.deleteProtection && w.deletedAt.isNone
  | checkHardDelete id, st => (st.row id).any fun w => !w.deleteProtection && w.deletedAt.isSome
  | _, _ => true

/-- The sweep whose statement it is. -/
def pass? : LifecycleStep → Option ℕ
  | readLive i | readWarnings i | sweepLive i _ | readSuspended i | sweepSuspended i _
  | stopPass i => some i
  | _ => none

end LifecycleStep

/-- The workspaces of a control plane with any number of replicas. -/
def lifecycle : Machine LifecycleStep Lifecycle := .of LifecycleStep.exec LifecycleStep.can

end Networker
