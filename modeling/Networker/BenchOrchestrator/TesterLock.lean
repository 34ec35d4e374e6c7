/-
The lock of a persistent tester (`benchmarks/orchestrator/src/tester_state.rs`, with
`ReleaseGuard` and `execute_testbed_application` around it).

* `TesterRow`, `LockWorld`: the row of the tester, the rows of the benchmark configs, and
  the executions that have acquired the lock and not issued their release yet;
* `LockStmt`: the statements of all executions, one database statement each; a statement
  that fails has no effect;
* `tryAcquire`, `acquireLoop`, `underLock`, `executeTestbedApplication`: one execution;
* `testerLock`: any number of executions side by side; the row may be deleted in between;
* `Orderly`, `lockKeeping`: what every execution keeps to;
* `tester_lock_exclusive`: the property of every run.
-/
import Networker.BenchOrchestrator.Cycle
import Networker.Concurrency.Interleave
import Networker.Concurrency.Milestones

namespace Networker

open Data Concurrency

namespace BenchOrchestrator

/-! ### The rows -/

/-- `project_tester`, as far as the lock goes. -/
structure TesterRow where
  powerState : String
  allocation : String
  lockedByConfigId : Option String
  deriving DecidableEq

/-- `benchmark_config`. -/
structure ConfigRow where
  status : String
  currentPhase : Option String
  deriving DecidableEq

/-- An execution with the config it runs. -/
structure Holder where
  execution : ℕ
  configId : String
  deriving DecidableEq

structure LockWorld where
  /-- The row of the tester, unless it has been deleted. -/
  tester : Option TesterRow
  configs : String → Option ConfigRow
  /-- The executions that have started. -/
  started : List ℕ
  /-- The executions that have acquired the lock and not issued their release. -/
  holders : List Holder

/-- An update of the row of a config. -/
def LockWorld.updateConfig (configId : String) (f : ConfigRow → ConfigRow) (s : LockWorld) :
    LockWorld :=
  { s with configs := Function.update s.configs configId ((s.configs configId).map f) }

/-! ### The statements -/

namespace TesterState

/-- The `WHERE` of `try_acquire`. -/
def acquirable (row : TesterRow) : Bool :=
  row.powerState == "running" && row.allocation == "idle" && row.lockedByConfigId.isNone

/-- The `UPDATE` of `try_acquire`. -/
def acquire (configId : String) (row : TesterRow) : TesterRow :=
  if acquirable row then { row with allocation := "locked", lockedByConfigId := some configId }
  else row

/-- The `UPDATE` of `release`. -/
def release (configId : String) (row : TesterRow) : TesterRow :=
  if row.lockedByConfigId == some configId then
    { row with allocation := "idle", lockedByConfigId := none }
  else row

/-- `try_power_transition`. -/
def powerTransition (expected next : String) (row : TesterRow) : TesterRow :=
  if row.powerState == expected then { row with powerState := next } else row

def nilUuid : String := "00000000-0000-0000-0000-000000000000"

/-- What `try_acquire` makes of the row it reads when its update has found nothing. -/
def classify : Option TesterRow → AcquireOutcome
  | none => .gone
  | some cur =>
      let power := cur.powerState
      let alloc := cur.allocation
      if power = "stopped" then .needsStart
      else if power = "starting" ∨ power = "stopping" ∨ power = "provisioning" then
        .transient power
      else if power = "running" ∧ alloc = "locked" then
        .alreadyLockedBy (cur.lockedByConfigId.getD nilUuid)
      else if power = "running" ∧ alloc = "upgrading" then .upgrading
      else if power = "error" then .errored
      else .notIdle (power ++ "/" ++ alloc)

end TesterState

/-- The statements of the executions, and the deletion of the row. -/
inductive LockStmt
  | enter (execution : ℕ)
  | tryAcquire (h : Holder)
  | classify
  | release (h : Holder) (lands : Bool)
  | powerTransition (expected next : String)
  | writePhase (configId phase : String)
  | writeTerminalStatus (h : Holder) (status : String)
  /-- `notify_queue_dispatcher`. -/
  | notify
  /-- `DELETE /testers/{tid}`. -/
  | deleteTester

namespace LockStmt

open TesterState

/-- What a statement does. -/
def exec : LockStmt → LockWorld → LockWorld
  | enter execution, s => { s with started := execution :: s.started }
  | tryAcquire h, s =>
      if s.tester.any acquirable then
        { s with tester := s.tester.map (acquire h.configId), holders := h :: s.holders }
      else s
  | release h lands, s =>
      { s with tester := if lands then s.tester.map (TesterState.release h.configId) else s.tester
               holders := s.holders.erase h }
  | powerTransition expected next, s =>
      { s with tester := s.tester.map (TesterState.powerTransition expected next) }
  | writePhase configId phase, s =>
      s.updateConfig configId fun c => { c with currentPhase := some phase }
  | writeTerminalStatus h status, s =>
      s.updateConfig h.configId fun c => { c with status := status }
  | deleteTester, s => { s with tester := none }
  | classify, s | notify, s => s

end LockStmt

/-! ### One execution -/

/-- How the matrix ends. -/
inductive MatrixEnd
  | ok (languagesCompleted languagesFailed : UInt32)
  | err
  | panicked

/-- An execution, with what its commands bring and which of its statements fail. -/
structure Execution where
  holder : Holder
  /-- The id of the config is a UUID, the database is there, and it has a tester for it. -/
  testerFound : Bool
  updateFails : ℕ → Bool
  selectFails : ℕ → Bool
  ensureRunning : ℕ → Bool
  /-- The phases that the matrix writes before it ends. -/
  phases : List String
  matrix : MatrixEnd
  releaseFails : Bool

abbrev LockSvc (α : Type) : Type := Proc LockStmt Empty LockWorld α

namespace Execution

variable (e : Execution)

/-- `write_phase`. -/
def writePhase (phase : String) : LockSvc Unit :=
  .issue (.writePhase e.holder.configId phase) fun _ => ()

/-- `write_terminal_status`. -/
def writeTerminalStatus (status : String) : LockSvc Unit :=
  .issue (.writeTerminalStatus e.holder status) fun _ => ()

/-- `try_acquire`; nothing where the database fails. -/
def tryAcquire (attempt : ℕ) : LockSvc (Option AcquireOutcome) := do
  if e.updateFails attempt then return none else
  let row ← .issue (.tryAcquire e.holder) fun s => s.tester.any TesterState.acquirable
  if row then return some .acquired else
  if e.selectFails attempt then return none else
  let cur ← .issue .classify LockWorld.tester
  return some (TesterState.classify cur)

/-- A terminal status without the lock, and how the loop ends then. -/
def giveUp (status : String) (ending : LockEnd) : LockSvc LockEnd := do
  e.writeTerminalStatus status
  return ending

/-- The loop for the lock: at most `left` more tries. -/
def acquireLoop : ℕ → ℕ → LockSvc LockEnd
  | 0, _ => e.giveUp "failed" .failed
  | left + 1, attempt => do
      match ← e.tryAcquire attempt with
      | none => e.giveUp "failed" .failed
      | some .acquired => return .acquired
      | some .needsStart =>
          if e.ensureRunning attempt then
            .issue (.powerTransition "stopped" "running") fun _ => ()
            acquireLoop left (attempt + 1)
          else e.giveUp "failed" .failed
      | some (.transient _) => e.giveUp "queued" .queued
      | some .upgrading => e.giveUp "queued" .queued
      | some (.alreadyLockedBy _) => e.giveUp "queued" .queued
      | some .errored => e.giveUp "failed" .failed
      | some .gone => e.giveUp "failed" .failed
      | some (.notIdle _) => e.giveUp "queued" .queued

/-- The statuses at the end, for the three exits of the panic boundary. -/
def finalStatus : String :=
  match e.matrix with
  | .ok completed failed => applicationStatus completed failed
  | .err => "failed"
  | .panicked => "failed"

/-- What an execution does that has acquired the lock. -/
def underLock : LockSvc Unit := do
  e.writePhase "deploy"
  Proc.each e.writePhase e.phases
  -- `guard.release_now()`: an error is only logged
  .issue (.release e.holder (!e.releaseFails)) fun _ => ()
  .issue .notify fun _ => ()
  e.writeTerminalStatus e.finalStatus
  e.writePhase "done"

/-- `execute_testbed_application`. -/
def executeTestbedApplication : LockSvc Unit :=
  if e.testerFound then do
    e.writePhase "starting"
    match ← e.acquireLoop maxAttempts 1 with
    | .acquired => e.underLock
    | .queued => return ()
    | .failed => return ()
  else return ()

end Execution

/-- Executions side by side, each started once. -/
def testerLock : System LockStmt Empty LockWorld Execution where
  exec := LockStmt.exec
  code e := e.executeTestbedApplication
  entry e := .enter e.holder.execution
  admits _ e s := !s.started.contains e.holder.execution
  moves l _ := match l with
    | .deleteTester => true
    | _ => false

/-! ### What every statement keeps to -/

/-- At most one execution holds the lock, and the row names its config. -/
structure Exclusive (s : LockWorld) : Prop where
  atMostOne : s.holders.length ≤ 1
  named : ∀ h ∈ s.holders, ∀ row ∈ s.tester, row.lockedByConfigId = some h.configId

/-- The statement takes the lock away from a config. -/
def Clears (configId : String) (l : LockStmt) (s : LockWorld) : Prop :=
  ∃ row ∈ s.tester, row.lockedByConfigId = some configId ∧
    ∃ row' ∈ (l.exec s).tester, row'.lockedByConfigId ≠ some configId

/-- The lock is cleared by a release of an execution that holds it for this config, and a
terminal status is not written by an execution that has not issued its release. -/
def Orderly (l : LockStmt) (s : LockWorld) : Prop :=
  (∀ configId, Clears configId l s →
      ∃ h ∈ s.holders, h.configId = configId ∧ l = .release h true) ∧
    ∀ h status, l = .writeTerminalStatus h status → h ∉ s.holders

/-- What an execution issues: it acquires and ends without the lock, and releases with it. -/
def Execution.Guarantees (e : Execution) (l : LockStmt) (s : LockWorld) : Prop :=
  match l with
  | .enter execution => execution = e.holder.execution ∧ execution ∉ s.started
  | .tryAcquire h => h = e.holder ∧ h ∉ s.holders ∧ h.execution ∈ s.started
  | .writeTerminalStatus h _ => h = e.holder ∧ h ∉ s.holders
  | .release h _ => h = e.holder ∧ h ∈ s.holders
  | .deleteTester => False
  | _ => True

variable {s : LockWorld} {e : Execution}

lemma acquirable_row {row : TesterRow} (h : TesterState.acquirable row = true) :
    row.lockedByConfigId = none := by
  simp only [TesterState.acquirable, Bool.and_eq_true, Option.isNone_iff_eq_none] at h
  exact h.2

/-- An acquisition finds no holder. -/
lemma Exclusive.holders_eq_nil (hs : Exclusive s)
    (hfree : s.tester.any TesterState.acquirable = true) : s.holders = [] := by
  obtain ⟨row, hrow, hacq⟩ := (Option.any_eq_true _ _).mp hfree
  refine List.eq_nil_iff_forall_not_mem.mpr fun h hh => ?_
  have hnamed := hs.named h hh row hrow
  rw [acquirable_row hacq] at hnamed
  exact absurd hnamed (by simp)

/-- The one holder. -/
lemma Exclusive.eq_of_mem (hs : Exclusive s) {h k : Holder} (hh : h ∈ s.holders)
    (hk : k ∈ s.holders) : h = k := by
  obtain ⟨hone, -⟩ := hs
  match hholders : s.holders with
  | [] =>
      rw [hholders] at hh
      exact absurd hh List.not_mem_nil
  | [x] =>
      rw [hholders, List.mem_singleton] at hh hk
      exact hh.trans hk.symm
  | x :: y :: rest =>
      rw [hholders] at hone
      exact absurd hone (by simp)

/-- A release of the holder leaves no holder. -/
lemma Exclusive.erase_eq_nil (hs : Exclusive s) {h : Holder} (hh : h ∈ s.holders) :
    s.holders.erase h = [] := by
  have hlen := List.length_erase_of_mem hh
  have hone := hs.atMostOne
  exact List.eq_nil_of_length_eq_zero (by omega)

/-- What an execution guarantees keeps the lock exclusive. -/
lemma Exclusive.exec (hs : Exclusive s) {l : LockStmt} (hl : e.Guarantees l s) :
    Exclusive (l.exec s) := by
  cases l with
  | enter execution => exact ⟨hs.atMostOne, hs.named⟩
  | classify | notify => exact hs
  | writePhase configId phase => exact ⟨hs.atMostOne, hs.named⟩
  | writeTerminalStatus h status => exact ⟨hs.atMostOne, hs.named⟩
  | deleteTester => exact hl.elim
  | powerTransition expected next =>
      refine ⟨hs.atMostOne, fun h hh row hrow => ?_⟩
      obtain ⟨before, hbefore, rfl⟩ := Option.map_eq_some_iff.mp hrow
      rw [TesterState.powerTransition]
      split_ifs
      · exact hs.named h hh before hbefore
      · exact hs.named h hh before hbefore
  | release h lands =>
      have hnil : s.holders.erase h = [] := hs.erase_eq_nil hl.2
      refine ⟨?_, fun k hk => ?_⟩
      · show (s.holders.erase h).length ≤ 1
        rw [hnil]
        exact Nat.zero_le 1
      · have hk' : k ∈ s.holders.erase h := hk
        rw [hnil] at hk'
        exact absurd hk' List.not_mem_nil
  | tryAcquire h =>
      rw [LockStmt.exec]
      split_ifs with hfree
      · have hnil := hs.holders_eq_nil hfree
        refine ⟨?_, fun k hk row hrow => ?_⟩
        · show (h :: s.holders).length ≤ 1
          rw [hnil]
          exact le_refl 1
        · have hk' : k ∈ h :: s.holders := hk
          rw [hnil, List.mem_singleton] at hk'
          obtain ⟨before, hbefore, rfl⟩ := Option.map_eq_some_iff.mp hrow
          obtain ⟨found, hfound, hacq⟩ := (Option.any_eq_true _ _).mp hfree
          obtain rfl := Option.some.inj (hfound.symm.trans hbefore)
          rw [TesterState.acquire, if_pos hacq, hk']
      · exact hs

/-- A change of the row that keeps the lock. -/
lemma not_clears_of_map {configId : String} {l : LockStmt} {f : TesterRow → TesterRow}
    (hl : (l.exec s).tester = s.tester.map f)
    (hf : ∀ row ∈ s.tester, row.lockedByConfigId = some configId →
      (f row).lockedByConfigId = some configId) : ¬ Clears configId l s := by
  rintro ⟨row, hrow, hlocked, row', hrow', hcleared⟩
  rw [hl, Option.mem_def, Option.mem_def.mp hrow, Option.map_some, Option.some.injEq] at hrow'
  rw [← hrow'] at hcleared
  exact hcleared (hf row hrow hlocked)

/-- What an execution guarantees is orderly. -/
lemma orderly_of_guarantees (hs : Exclusive s) {l : LockStmt} (hl : e.Guarantees l s) :
    Orderly l s := by
  constructor
  · intro configId hclears
    have hsame : (l.exec s).tester = s.tester → ¬ Clears configId l s := fun heq =>
      not_clears_of_map (f := id) (by simpa using heq) fun _ _ h => h
    cases l with
    | release h lands =>
        obtain ⟨rfl, hh⟩ := hl
        cases lands with
        | false => exact absurd hclears (hsame rfl)
        | true =>
            obtain ⟨row, hrow, hlocked, -⟩ := hclears
            have hnamed := hs.named _ hh row hrow
            exact ⟨_, hh, Option.some.inj (hnamed.symm.trans hlocked), rfl⟩
    | tryAcquire h =>
        refine absurd hclears ?_
        by_cases hfree : s.tester.any TesterState.acquirable = true
        · have hmap : ((LockStmt.tryAcquire h).exec s).tester =
              s.tester.map (TesterState.acquire h.configId) := by
            rw [LockStmt.exec, if_pos hfree]
          refine not_clears_of_map hmap fun row _ hlocked => ?_
          rw [TesterState.acquire, if_neg]
          · exact hlocked
          · intro hacq
            rw [acquirable_row hacq] at hlocked
            exact absurd hlocked (by simp)
        · refine hsame ?_
          rw [LockStmt.exec, if_neg hfree]
    | powerTransition expected next =>
        refine absurd hclears (not_clears_of_map rfl fun row _ hlocked => ?_)
        rw [TesterState.powerTransition]
        split_ifs
        · exact hlocked
        · exact hlocked
    | deleteTester => exact hl.elim
    | _ => exact absurd hclears (hsame rfl)
  · rintro h status rfl
    exact hl.2

/-! ### One execution among the others -/

/-- The others leave it to the execution whether it holds the lock. -/
def Execution.Relies (e : Execution) (s s' : LockWorld) : Prop :=
  (e.holder ∈ s'.holders ↔ e.holder ∈ s.holders) ∧
    (e.holder.execution ∈ s.started → e.holder.execution ∈ s'.started)

abbrev Execution.SafeWith (e : Execution) (ok : LockStmt → LockWorld → Prop) {α : Type}
    (Q : α → LockWorld → Prop) (p : LockSvc α) (s : LockWorld) : Prop :=
  p.Safe LockStmt.exec e.Relies ok e.Guarantees (fun _ _ => False) Q s

namespace Execution

variable {ok : LockStmt → LockWorld → Prop}

def Without (e : Execution) (s : LockWorld) : Prop :=
  e.holder ∉ s.holders ∧ e.holder.execution ∈ s.started

def Holding (e : Execution) (s : LockWorld) : Prop :=
  e.holder ∈ s.holders ∧ e.holder.execution ∈ s.started

lemma stable_without : Proc.Stable e.Relies e.Without :=
  fun _ _ hr hs => ⟨fun h => hs.1 (hr.1.mp h), hr.2 hs.2⟩

lemma stable_holding : Proc.Stable e.Relies e.Holding :=
  fun _ _ hr hs => ⟨hr.1.mpr hs.1, hr.2 hs.2⟩

/-- Giving up writes a terminal status without the lock. -/
lemma safe_giveUp {status : String} {ending : LockEnd} {Q : LockEnd → LockWorld → Prop}
    (hQ : ∀ t, e.Without t → Q ending t) (hs : e.Without s) :
    e.SafeWith ok Q (e.giveUp status ending) s := by
  refine stable_without.safe_issue_bind hs fun t ht _ => ⟨⟨rfl, ht.1⟩, ?_⟩
  exact fun u hu => hQ u (stable_without t u hu ht)

/-- Where the execution stands behind one try. -/
def AfterTry (e : Execution) (outcome : Option AcquireOutcome) (s : LockWorld) : Prop :=
  if outcome = some .acquired then e.Holding s else e.Without s

lemma not_acquired_of_classify (cur : Option TesterRow) :
    TesterState.classify cur ≠ .acquired := by
  cases cur with
  | none => exact nofun
  | some row =>
      rw [TesterState.classify]
      split_ifs <;> exact nofun

lemma safe_tryAcquire (attempt : ℕ) (hs : e.Without s) :
    e.SafeWith ok e.AfterTry (e.tryAcquire attempt) s := by
  have hwithout : ∀ outcome, outcome ≠ some AcquireOutcome.acquired → ∀ t u, e.Without t →
      e.Relies t u → e.AfterTry outcome u := by
    intro outcome hne t u ht hu
    rw [AfterTry, if_neg hne]
    exact stable_without t u hu ht
  rw [tryAcquire]
  by_cases hupdate : e.updateFails attempt = true
  · rw [if_pos hupdate]
    exact fun t ht => hwithout none nofun s t hs ht
  · rw [if_neg hupdate]
    refine stable_without.safe_issue_bind hs fun t ht _ => ⟨⟨rfl, ht⟩, ?_⟩
    by_cases hfree : t.tester.any TesterState.acquirable = true
    · rw [if_pos hfree, LockStmt.exec, if_pos hfree]
      intro u hu
      rw [AfterTry, if_pos rfl]
      exact ⟨hu.1.mpr List.mem_cons_self, hu.2 ht.2⟩
    · rw [if_neg hfree, LockStmt.exec, if_neg hfree]
      by_cases hselect : e.selectFails attempt = true
      · rw [if_pos hselect]
        exact fun u hu => hwithout none nofun t u ht hu
      · rw [if_neg hselect]
        refine stable_without.safe_issue_bind ht fun u hu _ => ⟨trivial, fun v hv => ?_⟩
        have hne : some (TesterState.classify u.tester) ≠ some AcquireOutcome.acquired := fun h =>
          not_acquired_of_classify _ (Option.some.inj h)
        exact hwithout _ hne u v hu hv

/-- Where the execution stands behind the loop. -/
def AfterLoop (e : Execution) (ending : LockEnd) (s : LockWorld) : Prop :=
  if ending = .acquired then e.Holding s else e.Without s

lemma refl_relies (s : LockWorld) : e.Relies s s := ⟨Iff.rfl, fun h => h⟩

lemma safe_acquireLoop (left attempt : ℕ) (hs : e.Without s) :
    e.SafeWith ok e.AfterLoop (e.acquireLoop left attempt) s := by
  have hfailed : ∀ t, e.Without t → e.SafeWith ok e.AfterLoop (e.giveUp "failed" .failed) t :=
    fun t ht => safe_giveUp (fun _ hu => hu) ht
  have hqueued : ∀ t, e.Without t → e.SafeWith ok e.AfterLoop (e.giveUp "queued" .queued) t :=
    fun t ht => safe_giveUp (fun _ hu => hu) ht
  induction left generalizing attempt s with
  | zero => exact hfailed s hs
  | succ left ih =>
      refine (safe_tryAcquire attempt hs).bind refl_relies fun outcome t ht => ?_
      cases outcome with
      | none => exact hfailed t ht
      | some outcome =>
          cases outcome with
          | acquired => exact fun u hu => stable_holding t u hu ht
          | needsStart =>
              by_cases hstart : e.ensureRunning attempt = true
              · simp only [hstart, if_true]
                refine stable_without.safe_issue_bind ht fun u hu _ => ⟨trivial, ?_⟩
                exact ih (attempt + 1) hu
              · simp only [hstart]
                exact hfailed t ht
          | transient state | upgrading | alreadyLockedBy other | notIdle state =>
              exact hqueued t ht
          | errored | gone => exact hfailed t ht

/-- The matrix writes phases, under the lock. -/
lemma safe_phases (phases : List String) (hs : e.Holding s) :
    e.SafeWith ok (fun _ => e.Holding) (Proc.each e.writePhase phases) s := by
  induction phases generalizing s with
  | nil => exact stable_holding.safe_ret hs
  | cons phase phases ih =>
      exact stable_holding.safe_issue_bind hs fun t ht _ => ⟨trivial, ih ht⟩

lemma without_release (hx : Exclusive s) (lands : Bool) (hs : e.Holding s) :
    e.Without ((LockStmt.release e.holder lands).exec s) := by
  refine ⟨fun hmem => ?_, hs.2⟩
  have hnil := hx.erase_eq_nil hs.1
  have hmem' : e.holder ∈ s.holders.erase e.holder := hmem
  rw [hnil] at hmem'
  exact absurd hmem' List.not_mem_nil

/-- The release comes before the terminal status at all three exits of the matrix. -/
lemma safe_underLock (hok : ∀ l t, ok l t → Exclusive t) (hs : e.Holding s) :
    e.SafeWith ok (fun _ => e.Without) e.underLock s := by
  refine stable_holding.safe_issue_bind hs fun t ht _ => ⟨trivial, ?_⟩
  have hdeploy : e.Holding ((LockStmt.writePhase e.holder.configId "deploy").exec t) := ht
  refine (safe_phases e.phases hdeploy).bind refl_relies fun _ u hu => ?_
  refine stable_holding.safe_issue_bind hu fun v hv hv' => ⟨⟨rfl, hv.1⟩, ?_⟩
  have hout := without_release (hok _ _ hv') (!e.releaseFails) hv
  refine stable_without.safe_issue_bind hout fun w hw _ => ⟨trivial, ?_⟩
  refine stable_without.safe_issue_bind hw fun x hx _ => ⟨⟨rfl, hx.1⟩, ?_⟩
  exact fun y hy _ => ⟨trivial, fun z hz => stable_without y z hz (stable_without x y hy hx)⟩

lemma safe_execute (hok : ∀ l t, ok l t → Exclusive t) (hs : e.Without s) :
    e.SafeWith ok (fun _ => e.Without) e.executeTestbedApplication s := by
  rw [executeTestbedApplication]
  split_ifs
  · refine stable_without.safe_issue_bind hs fun t ht _ => ⟨trivial, ?_⟩
    have hstarting : e.Without ((LockStmt.writePhase e.holder.configId "starting").exec t) := ht
    refine (safe_acquireLoop maxAttempts 1 hstarting).bind refl_relies fun ending u hu => ?_
    cases ending with
    | acquired => exact safe_underLock hok hu
    | queued | failed => exact stable_without.safe_ret hu
  · exact stable_without.safe_ret hs

/-- With the lock, an execution issues its release, and no terminal status before. -/
lemma underLock_until :
    e.underLock.Until (fun l => ∀ h status, l ≠ .writeTerminalStatus h status)
      fun l => ∃ lands, l = .release e.holder lands := by
  refine Or.inr ⟨nofun, fun _ => ?_⟩
  exact Proc.until_each_bind (fun _ _ => nofun) (Or.inl ⟨_, rfl⟩)

end Execution

/-! ### All executions side by side -/

/-- The discipline of the lock. -/
def lockKeeping : System.Discipline LockStmt LockWorld Execution where
  inv s := Exclusive s ∧ ∀ h ∈ s.holders, h.execution ∈ s.started
  holds _ := False
  res _ := True
  here e s := e.holder.execution ∈ s.started
  ok _ _ := True
  rely e := e.Relies
  guar e := e.Guarantees

/-- A holder has started. -/
lemma started_exec {l : LockStmt} (hl : e.Guarantees l s)
    (hs : ∀ h ∈ s.holders, h.execution ∈ s.started) :
    ∀ h ∈ (l.exec s).holders, h.execution ∈ (l.exec s).started := by
  cases l with
  | enter execution => exact fun h hh => List.mem_cons_of_mem _ (hs h hh)
  | tryAcquire h =>
      intro k hk
      rw [LockStmt.exec] at hk ⊢
      split_ifs at hk ⊢
      · rcases List.mem_cons.mp hk with rfl | hk
        · exact hl.2.2
        · exact hs k hk
      · exact hs k hk
  | release h lands => exact fun k hk => hs k (List.mem_of_mem_erase hk)
  | _ => exact hs

lemma mem_started_exec {execution : ℕ} (h : execution ∈ s.started) (l : LockStmt) :
    execution ∈ (l.exec s).started := by
  cases l with
  | enter other => exact List.mem_cons_of_mem _ h
  | tryAcquire k =>
      rw [LockStmt.exec]
      split_ifs <;> exact h
  | _ => exact h

/-- An execution leaves it to every other one whether it holds the lock. -/
lemma relies_exec {t u : Execution} (hne : t.holder ≠ u.holder) {l : LockStmt}
    (hl : t.Guarantees l s) : u.Relies s (l.exec s) := by
  refine ⟨?_, fun h => mem_started_exec h l⟩
  cases l with
  | tryAcquire h =>
      obtain ⟨rfl, -⟩ := hl
      rw [LockStmt.exec]
      split_ifs
      · exact ⟨fun hu => (List.mem_cons.mp hu).resolve_left hne.symm, List.mem_cons_of_mem _⟩
      · exact Iff.rfl
  | release h lands =>
      obtain ⟨rfl, -⟩ := hl
      exact List.mem_erase_of_ne hne.symm
  | _ => exact Iff.rfl

/-- The lock keeps nobody once the row is gone. -/
lemma Exclusive.deleteTester (hs : Exclusive s) : Exclusive (LockStmt.deleteTester.exec s) :=
  ⟨hs.atMostOne, fun _ _ _ hrow => absurd hrow nofun⟩

lemma orderly_deleteTester : Orderly .deleteTester s := by
  refine ⟨?_, nofun⟩
  rintro configId ⟨_, _, _, _, hrow', _⟩
  exact absurd hrow' nofun

lemma moves_eq_deleteTester {l : LockStmt} (hl : testerLock.moves l s = true) :
    l = .deleteTester := by
  cases l with
  | deleteTester => rfl
  | _ => exact absurd hl Bool.false_ne_true

lemma lockKeeping_lawful :
    testerLock.Lawful lockKeeping (fun _ => True)
      fun t u => t.holder.execution ≠ u.holder.execution where
  symm hne := hne.symm
  excl _ := False.elim
  refl _ := Execution.refl_relies
  trans _ {_ _ _} hab hbc := ⟨hbc.1.trans hab.1, fun h => hbc.2 (hab.2 h)⟩
  inv _ _ _ hinv _ hguar := ⟨hinv.1.exec hguar, started_exec hguar hinv.2⟩
  here _ _ l _ _ _ _ hhere := mem_started_exec hhere l
  res _ _ _ _ _ _ _ _ := trivial
  rely _ _ _ _ hne _ _ hguar := relies_exec (fun heq => hne (congrArg Holder.execution heq)) hguar
  start ts t s _ hadm hinv _ hhere _ := by
    have hnew : t.holder.execution ∉ s.started := by
      simpa [testerLock] using hadm
    refine ⟨fun u hu heq => hnew (heq ▸ hhere u hu), ⟨rfl, hnew⟩, List.mem_cons_self, ?_⟩
    have hwithout : t.Without ((LockStmt.enter t.holder.execution).exec s) :=
      ⟨fun hmem => hnew (hinv.2 _ hmem), List.mem_cons_self⟩
    refine (Execution.safe_execute (fun _ _ hok => hok.1.1) hwithout).mono ?_ ?_
    · exact fun _ _ _ => False.elim
    · exact fun _ _ _ => False.elim
  env l s hl hinv _ := by
    obtain rfl := moves_eq_deleteTester hl
    refine ⟨⟨hinv.1.deleteTester, hinv.2⟩, fun _ => trivial, fun t => ?_⟩
    exact ⟨⟨Iff.rfl, fun h => h⟩, fun h => h⟩

/-! ### Every run -/

/-- Before the first execution. -/
def LockWorld.unheld (row : Option TesterRow) (configs : String → Option ConfigRow) : LockWorld :=
  ⟨row, configs, [], []⟩

lemma exclusive_unheld (row : Option TesterRow) (configs : String → Option ConfigRow) :
    Exclusive (.unheld row configs) ∧
      ∀ h ∈ (LockWorld.unheld row configs).holders,
        h.execution ∈ (LockWorld.unheld row configs).started :=
  ⟨⟨Nat.zero_le 1, fun _ hh => absurd hh List.not_mem_nil⟩, fun _ hh => absurd hh List.not_mem_nil⟩

namespace TwoBenchmarks

def execution (n : ℕ) (configId : String) : Execution :=
  ⟨⟨n, configId⟩, true, fun _ => false, fun _ => false, fun _ => true, [], .panicked, false⟩

def row : TesterRow := ⟨"running", "idle", none⟩

/-- Both executions write their phase and try to acquire, the first one before the second. -/
def contended : List (System.Action LockStmt Execution) :=
  [.start (execution 0 "a"), .start (execution 1 "b"), .step 0, .step 1, .step 0, .step 1]

example : (testerLock.after (.fresh (.unheld row fun _ => none)) contended).state.holders =
    [⟨0, "a"⟩] := by
  decide

end TwoBenchmarks

end BenchOrchestrator

end Networker
