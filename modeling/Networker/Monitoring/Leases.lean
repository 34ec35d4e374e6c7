/-
The monitoring service: the scheduler's leases and the checks (`Networker.Monitoring`).

* `MonitorRow`: a row of `monitor`, as far as scheduling reads and writes it;
* `LeaseTx`, `LeaseGrant`, `MonitorCheck`, `LeaseEvent`: an open transaction of a tick, a lease
  handed out, a stored check, and what has happened to the leases;
* `leaseDueQuery`, `leaseOne`: the query and the loop body of `LeaseDueAsync`;
* `MonitoringStep`, `monitoring`: the machine of all workers and of the endpoints that write the
  same rows; a writer waits for a row that an open transaction has locked.
-/
import Networker.Concurrency.Machine
import Networker.ControlPlane.Entities

namespace Networker

open Data Concurrency

/-! ### The rows -/

/-- A row of `monitor`. -/
structure MonitorRow where
  monitorId : Guid
  intervalSeconds : ℤ
  enabled : Bool
  nextCheckAt : Time
  leaseOwner : Option String
  leaseExpiresAt : Option Time
  updatedAt : Time
  deletedAt : Option Time
  deriving DecidableEq

instance : Keyed MonitorRow := ⟨MonitorRow.monitorId⟩

/-- `LeasedMonitor`, with the worker and the instant of the lease. -/
structure LeaseGrant where
  monitor : MonitorRow
  locationId : Guid
  scheduledAt : Time
  worker : String
  grantedAt : Time
  deriving DecidableEq

/-- A row of `monitor_check`. -/
structure MonitorCheck where
  monitorId : Guid
  locationId : Guid
  scheduledAt : Time
  outcome : String
  failureKind : Option String
  deriving DecidableEq

/-- An open transaction of `LeaseDueAsync` with the rows it has read and locked. -/
structure LeaseTx where
  worker : String
  now : Time
  due : List MonitorRow

/-- What happens to the leases. -/
inductive LeaseEvent
  | granted (g : LeaseGrant)
  | released (monitorId : Guid)
  deriving DecidableEq

/-- The database, the open transactions, the leases handed out and the checks that run. -/
structure Monitoring where
  monitors : Table MonitorRow
  /-- The enabled location a monitor is assigned to. -/
  located : Guid → Option Guid
  transactions : List LeaseTx
  history : List LeaseEvent
  running : List LeaseGrant
  checks : List MonitorCheck

namespace Monitoring

/-- Before the first monitor. -/
def start : Monitoring := ⟨.empty, fun _ => none, [], [], [], []⟩

/-- The rows the open transactions have locked. -/
def lockedIds (st : Monitoring) : List Guid :=
  st.transactions.flatMap fun tx => tx.due.map MonitorRow.monitorId

/-- A transaction has locked the row. -/
def locked (st : Monitoring) (id : Guid) : Bool := decide (id ∈ st.lockedIds)

/-! ### `LeaseDueAsync` -/

/-- `batchSize` of a tick. -/
def batchSize : ℕ := 10

/-- `leaseDuration` of a tick. -/
def leaseDuration : Time := seconds 45

/-- The condition of the query. -/
def isDue (now : Time) (m : MonitorRow) : Bool :=
  m.enabled && m.deletedAt.isNone && decide (m.nextCheckAt ≤ now) &&
    m.leaseExpiresAt.all fun e => decide (e ≤ now)

/-- `SELECT … ORDER BY next_check_at LIMIT 10 FOR UPDATE SKIP LOCKED`. -/
def leaseDueQuery (st : Monitoring) (now : Time) : List MonitorRow :=
  (oldest MonitorRow.nextCheckAt
    (st.monitors.select fun m => isDue now m && !st.locked m.monitorId)).take batchSize

/-- A monitor without an enabled location is put off. -/
def putOff (now : Time) (seen m : MonitorRow) : MonitorRow :=
  { m with nextCheckAt := now + seconds seen.intervalSeconds, updatedAt := now }

/-- The columns a lease writes, from the row that was read. -/
def takeLease (worker : String) (now : Time) (seen m : MonitorRow) : MonitorRow :=
  { m with
    leaseOwner := some worker
    leaseExpiresAt := some (now + leaseDuration)
    nextCheckAt := now + seconds seen.intervalSeconds
    updatedAt := now }

lemma key_putOff {now : Time} {seen : MonitorRow} (m : MonitorRow) :
    Keyed.key (putOff now seen m) = Keyed.key m := rfl

lemma key_takeLease {worker : String} {now : Time} {seen : MonitorRow} (m : MonitorRow) :
    Keyed.key (takeLease worker now seen m) = Keyed.key m := rfl

def updateMonitor (st : Monitoring) (id : Guid) (f : MonitorRow → MonitorRow)
    (hf : ∀ m, Keyed.key (f m) = Keyed.key m) : Monitoring :=
  { st with monitors := st.monitors.update id (fun _ => true) f hf }

def hand (st : Monitoring) (g : LeaseGrant) : Monitoring :=
  { st with history := st.history ++ [.granted g], running := st.running ++ [g] }

def release (st : Monitoring) (id : Guid) : Monitoring :=
  { st with history := st.history ++ [.released id] }

/-- The loop body of `LeaseDueAsync`. -/
def leaseOne (worker : String) (now : Time) (st : Monitoring) (seen : MonitorRow) : Monitoring :=
  match st.located seen.monitorId with
  | none => st.updateMonitor seen.monitorId (putOff now seen) key_putOff
  | some locationId =>
      (st.updateMonitor seen.monitorId (takeLease worker now seen) key_takeLease).hand
        ⟨seen, locationId, seen.nextCheckAt, worker, now⟩

/-- The loop, the save and the commit of a transaction. -/
def commit (st : Monitoring) (tx : LeaseTx) : Monitoring :=
  tx.due.foldl (leaseOne tx.worker tx.now) st

/-! ### `MonitorCheckRunner` -/

/-- The columns the end of a check writes, whoever holds the lease by then. -/
def giveBack (now : Time) (m : MonitorRow) : MonitorRow :=
  { m with leaseOwner := none, leaseExpiresAt := none, updatedAt := now }

lemma key_giveBack {now : Time} (m : MonitorRow) : Keyed.key (giveBack now m) = Keyed.key m := rfl

/-- The check of a lease; a probe that raises is recorded as unknown. -/
def checkOf (g : LeaseGrant) : Option (String × Option String) → MonitorCheck
  | some (outcome, failureKind) =>
      ⟨g.monitor.monitorId, g.locationId, g.scheduledAt, outcome, failureKind⟩
  | none => ⟨g.monitor.monitorId, g.locationId, g.scheduledAt, "unknown", some "runner"⟩

/-- `RunAsync` of a lease that runs to its save. -/
def finish (st : Monitoring) (i : ℕ) (result : Option (String × Option String)) (now : Time) :
    Monitoring :=
  match st.running[i]? with
  | none => st
  | some g =>
      { (st.updateMonitor g.monitor.monitorId (giveBack now) key_giveBack).release
          g.monitor.monitorId with
        running := st.running.eraseIdx i
        checks := st.checks ++ [checkOf g result] }

/-! ### The endpoints -/

/-- `intervalSeconds is < 60 or > 86_400` of `Validate`. -/
def validInterval (n : ℤ) : Bool := decide (60 ≤ n ∧ n ≤ 86400)

/-- A new monitor, due at once. -/
def newMonitor (intervalSeconds : ℤ) (now : Time) (id : Guid) : MonitorRow :=
  ⟨id, intervalSeconds, true, now, none, none, now, none⟩

lemma key_newMonitor {n : ℤ} {now : Time} (id : Guid) : Keyed.key (newMonitor n now id) = id := rfl

/-- `CreateAsync`. -/
def create (st : Monitoring) (intervalSeconds : ℤ) (now : Time) : Monitoring :=
  { st with monitors := st.monitors.insert (newMonitor intervalSeconds now) key_newMonitor }

/-- The columns `UpdateAsync` writes: `seen` is `Enabled` as it was read, and an unchanged
value is not written. -/
def applyUpdate (intervalSeconds : Option ℤ) (enabled : Option Bool) (seen : Bool) (now : Time)
    (m : MonitorRow) : MonitorRow :=
  { m with
    intervalSeconds := intervalSeconds.getD m.intervalSeconds
    enabled := if enabled = some (!seen) then !seen else m.enabled
    nextCheckAt := if enabled = some true ∧ seen = false then now else m.nextCheckAt
    updatedAt := now }

lemma key_applyUpdate {n : Option ℤ} {enabled : Option Bool} {seen : Bool} {now : Time}
    (m : MonitorRow) : Keyed.key (applyUpdate n enabled seen now m) = Keyed.key m := rfl

/-- The columns `DeleteAsync` writes. -/
def applyDelete (now : Time) (m : MonitorRow) : MonitorRow :=
  { m with
    enabled := false
    leaseOwner := none
    leaseExpiresAt := none
    deletedAt := some now
    updatedAt := now }

lemma key_applyDelete {now : Time} (m : MonitorRow) :
    Keyed.key (applyDelete now m) = Keyed.key m := rfl

end Monitoring

/-! ### The machine -/

/-- What a worker, an endpoint or the database does next. -/
inductive MonitoringStep
  | create (intervalSeconds : ℤ) (now : Time)
  | assign (id : Guid) (locationId : Option Guid)
  /-- The query of a tick. -/
  | select (worker : String) (now : Time)
  | commit (i : ℕ)
  | rollback (i : ℕ)
  /-- The save of a check. -/
  | finish (i : ℕ) (result : Option (String × Option String)) (now : Time)
  /-- A check ends without a save: its worker has stopped or the save has failed. -/
  | abandon (i : ℕ)
  | update (id : Guid) (intervalSeconds : Option ℤ) (enabled : Option Bool) (seen : Bool)
      (now : Time)
  | delete (id : Guid) (now : Time)
  deriving DecidableEq

namespace MonitoringStep

open Monitoring

def exec : MonitoringStep → Monitoring → Monitoring
  | create n now, st => st.create n now
  | assign id loc, st => { st with located := Function.update st.located id loc }
  | select worker now, st =>
      { st with transactions := st.transactions ++ [⟨worker, now, st.leaseDueQuery now⟩] }
  | commit i, st =>
      match st.transactions[i]? with
      | none => st
      | some tx => { st.commit tx with transactions := st.transactions.eraseIdx i }
  | rollback i, st => { st with transactions := st.transactions.eraseIdx i }
  | finish i result now, st => st.finish i result now
  | abandon i, st => { st with running := st.running.eraseIdx i }
  | update id n enabled seen now, st =>
      st.updateMonitor id (applyUpdate n enabled seen now) key_applyUpdate
  | delete id now, st => (st.updateMonitor id (applyDelete now) key_applyDelete).release id

def can : MonitoringStep → Monitoring → Bool
  | create n _, _ => validInterval n
  | finish i _ _, st => (st.running[i]?).any fun g => !st.locked g.monitor.monitorId
  | update id n _ _ _, st => n.all validInterval && !st.locked id
  | delete id _, st => (st.monitors.find? id).isSome && !st.locked id
  | _, _ => true

end MonitoringStep

/-- The monitoring service with any number of workers. -/
def monitoring : Machine MonitoringStep Monitoring := .of MonitoringStep.exec MonitoringStep.can

end Networker
