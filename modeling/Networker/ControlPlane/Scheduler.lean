/-
The scheduler of recurring runs (`Background/SchedulerService.cs`,
`Background/ScheduleTiming.cs`) and the endpoints that edit schedules.

* `TestSchedule`, `Cron`, `nextFireUtc`: a schedule and the time it is due next;
* `DbContext`: what the unit of work of one tick has added and modified and not saved;
* `SchedulerWorld`: the shared state, with a log of the runs created for occurrences;
* `SchedulerStmt`: the statements of a tick, what happens next to it, and the
  availability of the database, which may go and come at any statement;
* `SchedulerService.launchAsync`, `SchedulerService.tickAsync`: a launch inside a tick and
  the tick; `scheduler`: the system of ticks.
-/
import Networker.ControlPlane.Dispatch

namespace Networker

open Data Concurrency

/-! ### Schedules -/

/-- `test_schedule`, as far as the scheduler reads and writes it. -/
structure TestSchedule where
  id : Guid
  testConfigId : Guid
  cronExpr : String
  timezone : String
  enabled : Bool
  lastFiredAt : Option Time
  lastRunId : Option Guid
  nextFireAt : Option Time

instance : Keyed TestSchedule := ⟨TestSchedule.id⟩

/-- The cron library and the time-zone database. -/
structure Cron where
  /-- A parsed expression, with or without a field for seconds. -/
  Expression : Type
  Zone : Type
  parse : String → Bool → Option Expression
  utc : Zone
  zone : String → Option Zone
  next : Expression → Zone → Time → Option Time
  /-- The next occurrence is strictly after the anchor. -/
  next_after : ∀ e z t t', next e z t = some t' → t < t'

namespace ScheduleTiming

/-- The number of fields of a cron expression. -/
def fieldCount (cronExpr : String) : ℕ :=
  ((Text.splitOn ' ' (Text.trimChars cronExpr.toList)).filter fun f => !f.isEmpty).length

/-- `NextFireUtc`. -/
def nextFireUtc (C : Cron) (cronExpr timezone : String) (fromUtc : Time) : Option Time :=
  if Text.isBlank cronExpr then none else
    match C.parse (Text.trim cronExpr) (6 ≤ fieldCount cronExpr) with
    | none => none
    | some cron =>
        match if Text.isBlank timezone then some C.utc else C.zone timezone with
        | none => none
        | some tz => C.next cron tz fromUtc

lemma lt_of_nextFireUtc {C : Cron} {cronExpr timezone : String} {t t' : Time}
    (h : nextFireUtc C cronExpr timezone t = some t') : t < t' := by
  rw [nextFireUtc] at h
  split at h
  · exact absurd h nofun
  · split at h
    · exact absurd h nofun
    · split at h
      · exact absurd h nofun
      · exact C.next_after _ _ _ _ h

end ScheduleTiming

/-! ### The unit of work of a tick -/

/-- An added run that has not been saved, with the occurrence it is created for. -/
structure PendingRun where
  config : TestConfig
  createdAt : Time
  schedule : Guid
  occurrence : Time

/-- A modified schedule row that has not been saved; `fired` are the columns a launch sets
besides `next_fire_at`. -/
structure ScheduleUpdate where
  schedule : Guid
  nextFireAt : Option Time
  fired : Option (Time × Guid)

/-- The rows a context tracks and has not saved, the newest first. -/
structure DbContext where
  added : List PendingRun
  modified : List ScheduleUpdate

namespace DbContext

def empty : DbContext := ⟨[], []⟩

def add (ctx : DbContext) (p : PendingRun) : DbContext := { ctx with added := p :: ctx.added }

def track (ctx : DbContext) (u : ScheduleUpdate) : DbContext :=
  { ctx with modified := u :: ctx.modified }

end DbContext

/-- The row after a modification is saved. -/
def ScheduleUpdate.set (u : ScheduleUpdate) (s : TestSchedule) : TestSchedule :=
  { s with nextFireAt := u.nextFireAt
           lastFiredAt := (u.fired.map Prod.fst).or s.lastFiredAt
           lastRunId := (u.fired.map Prod.snd).or s.lastRunId }

lemma ScheduleUpdate.key_set (u : ScheduleUpdate) (s : TestSchedule) :
    Keyed.key (u.set s) = Keyed.key s := rfl

/-! ### The shared state -/

/-- A run created for an occurrence of a schedule. -/
structure Firing where
  schedule : Guid
  occurrence : Time
  run : Guid
  deriving DecidableEq

/-- The state the scheduler runs in.  `firings` is a log of the runs it has created. -/
structure SchedulerWorld where
  world : World
  schedules : Table TestSchedule
  /-- The database does not answer the scheduler. -/
  unavailable : Bool
  firings : List Firing

namespace SchedulerWorld

/-- Insert an added run and log it. -/
def saveRun (p : PendingRun) (W : SchedulerWorld) : SchedulerWorld :=
  { W with world := Stmt.exec (.insertRun p.config none none p.createdAt) W.world
           firings := W.firings ++ [⟨p.schedule, p.occurrence, W.world.runs.next⟩] }

/-- Write a modified schedule row. -/
def saveSchedule (u : ScheduleUpdate) (W : SchedulerWorld) : SchedulerWorld :=
  { W with schedules := W.schedules.update u.schedule (fun _ => true) u.set u.key_set }

/-- Whether saving the context succeeds: every modified row still has to be there. -/
def saves (W : SchedulerWorld) (ctx : DbContext) : Bool :=
  !W.unavailable && ctx.modified.all fun u => (W.schedules.find? u.schedule).isSome

/-- One transaction with everything the context tracks. -/
def save (ctx : DbContext) (W : SchedulerWorld) : SchedulerWorld :=
  ctx.modified.foldr saveSchedule (ctx.added.foldr saveRun W)

end SchedulerWorld

/-- A database statement, as opposed to a send or a publication. -/
def Stmt.usesDatabase : Stmt → Bool
  | .sendAssign .. | .sendCancel .. | .publish _ => false
  | _ => true

/-- The statements of a tick, and what happens next to it. -/
inductive SchedulerStmt
  /-- Look at the clock or at the agent registry. -/
  | look
  /-- A query. -/
  | query
  | saveChanges (ctx : DbContext)
  /-- A statement of the dispatch of a launched run. -/
  | call (l : Stmt)
  /-- The catch arm, with whether the schedule's run has been inserted. -/
  | logFailed (schedule : Guid) (inserted : Bool)
  /-- A statement of another service. -/
  | other (l : Stmt)
  | setUnavailable (down : Bool)
  /-- `POST …/schedules`. -/
  | create (testConfigId : Guid) (cronExpr timezone : String) (enabled : Bool)
  /-- `PATCH …/schedules/{id}`: `next_fire_at` is left alone. -/
  | patch (id : Guid) (cronExpr timezone : Option String) (enabled : Option Bool)
  /-- `DELETE …/schedules/{id}`. -/
  | delete (id : Guid)

/-- What happens next to the ticks. -/
def SchedulerStmt.isOutside : SchedulerStmt → Bool
  | .other _ | .setUnavailable _ | .create .. | .patch .. | .delete _ => true
  | _ => false

/-- The row the create endpoint adds. -/
def newSchedule (testConfigId : Guid) (cronExpr timezone : String) (enabled : Bool) (id : Guid) :
    TestSchedule :=
  ⟨id, testConfigId, cronExpr, timezone, enabled, none, none, none⟩

lemma key_newSchedule (testConfigId : Guid) (cronExpr timezone : String) (enabled : Bool)
    (id : Guid) : Keyed.key (newSchedule testConfigId cronExpr timezone enabled id) = id := rfl

/-- The row after a `PATCH`. -/
def TestSchedule.patched (cronExpr timezone : Option String) (enabled : Option Bool)
    (s : TestSchedule) : TestSchedule :=
  { s with cronExpr := cronExpr.getD s.cronExpr, timezone := timezone.getD s.timezone,
           enabled := enabled.getD s.enabled }

lemma TestSchedule.key_patched (cronExpr timezone : Option String) (enabled : Option Bool)
    (s : TestSchedule) : Keyed.key (s.patched cronExpr timezone enabled) = Keyed.key s := rfl

/-- What a statement does to the shared state; the statements of a tick that need the
database do nothing while it does not answer. -/
def SchedulerStmt.exec : SchedulerStmt → SchedulerWorld → SchedulerWorld
  | look, W => W
  | query, W => W
  | saveChanges ctx, W => if W.saves ctx then W.save ctx else W
  | call l, W =>
      if l.usesDatabase && W.unavailable then W else { W with world := l.exec W.world }
  | logFailed _ _, W => W
  | other l, W => { W with world := l.exec W.world }
  | setUnavailable down, W => { W with unavailable := down }
  | create testConfigId cronExpr timezone enabled, W =>
      { W with schedules := W.schedules.insert (newSchedule testConfigId cronExpr timezone enabled)
                 (key_newSchedule testConfigId cronExpr timezone enabled) }
  | patch id cronExpr timezone enabled, W =>
      { W with schedules := W.schedules.update id (fun _ => true)
                 (TestSchedule.patched cronExpr timezone enabled)
                 (TestSchedule.key_patched cronExpr timezone enabled) }
  | delete id, W => { W with schedules := W.schedules.delete id fun _ => true }

/-! ### The tick -/

/-- What a tick runs into. -/
inductive SchedulerError
  /-- The dispatch of a run raised. -/
  | dispatch (e : SvcError)
  /-- The database does not answer. -/
  | unavailable
  /-- `SaveChangesAsync` threw. -/
  | saveFailed

/-- A routine of the scheduler. -/
abbrev SchedulerSvc (α : Type) : Type := Proc SchedulerStmt SchedulerError SchedulerWorld α

namespace SchedulerService

/-- Look at something outside the database. -/
def look {α : Type} (f : SchedulerWorld → α) : SchedulerSvc α := .issue .look f

/-- Query the database; `none` where it does not answer. -/
def query {α : Type} (f : SchedulerWorld → α) : SchedulerSvc (Option α) :=
  .issue .query fun W => if W.unavailable then none else some (f W)

/-- `SaveChangesAsync`: the id of the newest added run, or `none` where it throws.  A
context that fails to save keeps what it tracks. -/
def saveChanges (ctx : DbContext) : SchedulerSvc (Option Guid) :=
  .issue (.saveChanges ctx) fun W =>
    if W.saves ctx then some (W.world.runs.next + (ctx.added.length - 1)) else none

/-- What the dispatcher sees of the state: a database statement throws while the database
does not answer. -/
def view (l : Stmt) (W : SchedulerWorld) : Except SchedulerError World :=
  if l.usesDatabase && W.unavailable then .error .unavailable else .ok W.world

/-- How a launch ends, with what the context tracks then. -/
inductive LaunchOutcome
  | launched (ctx : DbContext) (run : Guid)
  | failed (ctx : DbContext) (inserted : Bool)

/-- `DispatchAsync` inside a tick, and whether it returns. -/
def dispatchAsync (h : Host) (run : Guid) : SchedulerSvc Bool :=
  ((RunDispatcher.dispatchRun h run).via .call .dispatch view >>= fun _ => .ret true).rescue
    fun _ => .ret false

/-- `LaunchAsync` inside a tick: its save writes everything the tick has tracked. -/
def launchAsync (h : Host) (ctx : DbContext) (s : TestSchedule) (occurrence : Time) :
    SchedulerSvc LaunchOutcome := do
  match ← query fun W => W.world.configs.find? s.testConfigId with
  | none => return .failed ctx false
  | some none => return .failed ctx false
  | some (some cfg) =>
      let now ← look fun W => W.world.now
      let ctx := ctx.add ⟨cfg, now, s.id, occurrence⟩
      match ← saveChanges ctx with
      | none => return .failed ctx false
      | some run =>
          if ← dispatchAsync h run then return .launched .empty run
          else return .failed .empty true

/-- The endpoint kind of the schedule's config is `pending`. -/
def isPending (kinds : Guid → Option String) (s : TestSchedule) : Bool :=
  (kinds s.testConfigId).any RunDispatcher.isPendingKind

/-- The body of the loop over the due schedules. -/
def processOne (C : Cron) (h : Host) (now : Time) (anyAgentOnline : Bool)
    (kinds : Guid → Option String) (ctx : DbContext) (s : TestSchedule) : SchedulerSvc DbContext :=
  let next := ScheduleTiming.nextFireUtc C s.cronExpr s.timezone now
  match s.nextFireAt with
  | none => .ret (ctx.track ⟨s.id, next, none⟩)
  | some occurrence =>
      if !anyAgentOnline && !isPending kinds s then .ret (ctx.track ⟨s.id, next, none⟩) else do
        match ← launchAsync h ctx s occurrence with
        | .launched ctx run => return ctx.track ⟨s.id, next, some (now, run)⟩
        | .failed ctx inserted => .issue (.logFailed s.id inserted) fun _ => ctx

/-- Enabled, and due or never scheduled. -/
def isDue (now : Time) (s : TestSchedule) : Bool := s.enabled && s.nextFireAt.all (· ≤ now)

def dueSchedules (now : Time) (W : SchedulerWorld) : List TestSchedule :=
  W.schedules.select (isDue now)

/-- `TickAsync`. -/
def tickAsync (C : Cron) (h : Host) : SchedulerSvc Unit := do
  let now ← look fun W => W.world.now
  match ← query (dueSchedules now) with
  | none => .raise .unavailable
  | some due =>
      if due.isEmpty then return () else
      let anyAgentOnline ← look fun W => !W.world.online.isEmpty
      match ← query fun W id => (W.world.configs.find? id).map TestConfig.endpointKind with
      | none => .raise .unavailable
      | some kinds =>
          let ctx ← Proc.fold (processOne C h now anyAgentOnline kinds) .empty due
          match ← saveChanges ctx with
          | none => .raise .saveFailed
          | some _ => return ()

end SchedulerService

/-! ### The system of ticks -/

/-- The scheduler runs one kind of task. -/
inductive SchedulerTask
  | tick

/-- Ticks one after the other, under the leader lock, with everything else in between. -/
def scheduler (C : Cron) (h : Host) :
    System SchedulerStmt SchedulerError SchedulerWorld SchedulerTask where
  exec := SchedulerStmt.exec
  code _ := SchedulerService.tickAsync C h
  entry _ := .look
  admits live _ _ := live.isEmpty
  moves l _ := l.isOutside

end Networker
