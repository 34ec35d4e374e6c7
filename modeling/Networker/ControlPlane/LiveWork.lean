/-
Auto-shutdown against live work.

* `Busy`, `SparesLiveWork`: a runner is flipped to `stopping` only while no pending run is
  pinned to it or claimed by its agent, and no run is assigned to the agent until the runner
  is running again;
* `Drains`: what the check of the sweep does not see does not happen;
* `Drained`: the invariant, one step at a time; a claim names the tester of its agent;
* `shutdown_spares_live_work`: then no live work is killed.
-/
import Networker.ControlPlane.Dispatch
import Networker.ControlPlane.PowerWrites
import Networker.ControlPlane.Statements

namespace Networker

open Data Concurrency

namespace RunnerPower

open PowerMove

/-! ### The property -/

section Property

variable (w : World) (t : Guid)

/-- A pending run is pinned to the runner or claimed by an agent of it. -/
def Busy : Prop :=
  ∃ r ∈ w.runs.rows, PowerWorld.isPending r = true ∧
    (r.testerId = some t ∨ ∃ agent ∈ r.workerId, boundTester w agent = some t)

/-- An assignment that was delivered to an agent of the runner has not been stamped yet. -/
def Unstamped : Prop := ∃ p ∈ w.unstamped, boundTester w p.2 = some t

instance : Decidable (Busy w t) := inferInstanceAs (Decidable (∃ r ∈ w.runs.rows, _))

instance : Decidable (Unstamped w t) := inferInstanceAs (Decidable (∃ p ∈ w.unstamped, _))

end Property

section Condition

variable (casing : Text.Casing) (byName : String → String → Bool) (l : PowerMove) (w : PowerWorld)

/-- The runner that the step flips from `running` to `stopping`. -/
def PowerMove.flips? : Option Guid :=
  match l, w.sweep.stage with
  | .sweep _, .flip tester _ =>
      if w.world.testers.hits tester.testerId (·.powerState == "running") then
        some tester.testerId
      else none
  | _, _ => none

/-- The agent that the step assigns a run to: the frame is delivered, or the claim stamped. -/
def PowerMove.assigns? : Option Guid :=
  match l with
  | .other (.sendAssign agent _ _ _) => if w.world.reachable agent then some agent else none
  | .other (.updateRun run (.stampAssignment agent tester)) =>
      if w.world.runs.hits run (RunWrite.stampAssignment agent tester).guard then some agent
      else none
  | _ => none

/-- A sweep shuts down idle runners only, and nothing is assigned to them. -/
structure SparesLiveWork : Prop where
  flip : ∀ t ∈ l.flips? w, ¬ Busy w.world t
  assign : ∀ agent ∈ l.assigns? w, ∀ t ∈ boundTester w.world agent, w.down t = false

/-- The runner whose runs are checked next. -/
def SweepStage.rechecked? : SweepStage → Option Guid
  | recheck tester _ => some tester.testerId
  | _ => none

/-- The runner that was checked and is flipped next. -/
def SweepStage.flipping? : SweepStage → Option Guid
  | flip tester _ => some tester.testerId
  | _ => none

def PowerMove.isSweep : PowerMove → Bool
  | sweep _ => true
  | _ => false

def PowerMove.isSend : PowerMove → Bool
  | other (.sendAssign ..) => true
  | _ => false

/-- When the runs of a runner are checked no assignment of its agents waits for its stamp;
from the check to the flip nothing is launched on it, sent to it or claimed by it; and while
assignments are sent no agent of a runner that is shut down is connected. -/
structure Drains : Prop where
  recheck : l.isSweep = true → ∀ t ∈ w.sweep.stage.rechecked?, ¬ Unstamped w.world t
  arrival : ∀ t ∈ w.sweep.stage.flipping?,
    (Busy (l.exec casing byName w).world t → Busy w.world t) ∧
      (Unstamped (l.exec casing byName w).world t → Unstamped w.world t)
  sends : l.isSend = true → ∀ a ∈ w.world.agents.rows, ∀ t ∈ a.testerId, w.down t = true →
    w.world.reachable a.agentId = false

instance : Decidable (SparesLiveWork l w) :=
  decidable_of_iff
    ((∀ t ∈ l.flips? w, ¬ Busy w.world t) ∧
      ∀ agent ∈ l.assigns? w, ∀ t ∈ boundTester w.world agent, w.down t = false)
    ⟨fun ⟨hflip, hassign⟩ => ⟨hflip, hassign⟩, fun ⟨hflip, hassign⟩ => ⟨hflip, hassign⟩⟩

instance : Decidable (Drains casing byName l w) :=
  decidable_of_iff
    ((l.isSweep = true → ∀ t ∈ w.sweep.stage.rechecked?, ¬ Unstamped w.world t) ∧
      (∀ t ∈ w.sweep.stage.flipping?,
        (Busy (l.exec casing byName w).world t → Busy w.world t) ∧
          (Unstamped (l.exec casing byName w).world t → Unstamped w.world t)) ∧
      (l.isSend = true → ∀ a ∈ w.world.agents.rows, ∀ t ∈ a.testerId, w.down t = true →
        w.world.reachable a.agentId = false))
    ⟨fun ⟨hrecheck, harrival, hsends⟩ => ⟨hrecheck, harrival, hsends⟩,
      fun ⟨hrecheck, harrival, hsends⟩ => ⟨hrecheck, harrival, hsends⟩⟩

end Condition

/-! ### What a claim names -/

section Claims

variable {w : World} {l : Stmt}

/-- Agents stay bound to their testers. -/
lemma boundTester_exec (agent : Guid) : boundTester (l.exec w) agent = boundTester w agent := by
  have hmark : ∀ (a : Guid) (status : String) (heartbeat : Option Time),
      ((w.agents.update a (fun _ => true) (Agent.mark status heartbeat)
        (Agent.key_mark status heartbeat)).find? agent).bind Agent.testerId =
        (w.agents.find? agent).bind Agent.testerId := by
    intro a status heartbeat
    rw [Table.find?_update]
    cases w.agents.find? agent with
    | none => rfl
    | some r =>
        rw [Option.map_some, Option.bind_some, Option.bind_some]
        split_ifs <;> rfl
  cases l with
  | connect a => exact hmark a _ _
  | disconnect a => exact hmark a _ _
  | insertAttempt a | sendAssign agent' run x y | sendCancel agent' run =>
      rw [Stmt.exec]
      split_ifs <;> rfl
  | _ => rfl

variable (w) in
/-- A claimed run is pinned to the tester of its agent. -/
def ClaimsPinned : Prop :=
  ∀ r ∈ w.runs.rows, ∀ agent ∈ r.workerId, r.testerId = boundTester w agent

/-- A claim names the tester of its agent, and no other statement writes one of the two. -/
lemma ClaimsPinned.exec (h : ClaimsPinned w) (hcan : canStmt l w = true) :
    ClaimsPinned (l.exec w) := by
  intro r' hr' agent hagent
  rw [boundTester_exec]
  rcases runs_exec_cases (Table.find?_key hr') with ⟨r, hr, rfl⟩ |
    ⟨cfg, group, tester, now, -, -, hnew⟩
  · have hold := h r (Table.mem_of_find? hr)
    cases l with
    | updateRun run write =>
        rw [Stmt.onRun] at hagent ⊢
        split_ifs at hagent ⊢
        · cases write with
          | stampAssignment agent' tester =>
              obtain rfl := Option.some.inj hagent
              exact beq_iff_eq.mp ((Bool.and_eq_true _ _).mp hcan).2
          | runStarted agent' tester startedAt =>
              obtain rfl := Option.some.inj hagent
              exact beq_iff_eq.mp hcan
          | _ => exact hold agent hagent
        · exact hold agent hagent
    | _ => exact hold agent hagent
  · rw [hnew] at hagent
    exact absurd hagent.symm (Option.some_ne_none agent)

/-- A runner that no pending run is pinned to is idle. -/
lemma ClaimsPinned.not_busy {w : PowerWorld} (h : ClaimsPinned w.world) {t : Guid}
    (hfree : w.holdsRun t = false) : ¬ Busy w.world t := by
  rintro ⟨r, hr, hpending, hhow⟩
  have hpinned : r.testerId = some t := by
    rcases hhow with hpinned | ⟨agent, hagent, hbound⟩
    · exact hpinned
    · rw [h r hr agent hagent, hbound]
  have hnot := List.any_eq_false.mp hfree r hr
  rw [hpinned, hpending, beq_self_eq_true] at hnot
  exact hnot rfl

/-- Only an assignment that reaches its agent is still to be stamped. -/
lemma unstamped_exec {p : Guid × Guid} (h : p ∈ (l.exec w).unstamped) :
    p ∈ w.unstamped ∨ ∃ x y, l = .sendAssign p.2 p.1 x y ∧ w.reachable p.2 = true := by
  cases l with
  | updateRun run write =>
      cases write with
      | stampAssignment agent tester => exact Or.inl (List.mem_of_mem_erase h)
      | _ => exact Or.inl h
  | sendAssign agent run x y =>
      rw [Stmt.exec] at h
      split_ifs at h with hreach
      · rcases List.mem_append.mp h with hold | hnew
        · exact Or.inl hold
        · rw [List.mem_singleton.mp hnew]
          exact Or.inr ⟨x, y, rfl, hreach⟩
      · exact Or.inl h
  | insertAttempt a =>
      rw [Stmt.exec] at h
      split_ifs at h <;> exact Or.inl h
  | sendCancel agent run =>
      rw [Stmt.exec] at h
      split_ifs at h <;> exact Or.inl h
  | _ => exact Or.inl h

end Claims

/-! ### What the services of the power states leave alone -/

section Same

variable {w w' w'' : PowerWorld}

/-- Runs, agents and assignments are the same, and no runner has come to be shut down. -/
structure SameWork (w w' : PowerWorld) : Prop where
  runs : w'.world.runs = w.world.runs
  agents : w'.world.agents = w.world.agents
  unstamped : w'.world.unstamped = w.world.unstamped
  down : ∀ t, w'.down t = true → w.down t = true

lemma SameWork.refl (w : PowerWorld) : SameWork w w := ⟨rfl, rfl, rfl, fun _ => id⟩

lemma SameWork.trans (h : SameWork w w') (h' : SameWork w' w'') : SameWork w w'' :=
  ⟨h'.runs.trans h.runs, h'.agents.trans h.agents, h'.unstamped.trans h.unstamped,
    fun t ht => h.down t (h'.down t ht)⟩

lemma SameWork.boundTester_eq (h : SameWork w w') (agent : Guid) :
    boundTester w'.world agent = boundTester w.world agent := by
  rw [boundTester, boundTester, h.agents]

lemma SameWork.busy_iff (h : SameWork w w') {t : Guid} : Busy w'.world t ↔ Busy w.world t := by
  rw [Busy, Busy, h.runs]
  simp only [h.boundTester_eq]

lemma SameWork.unstamped_iff (h : SameWork w w') {t : Guid} :
    Unstamped w'.world t ↔ Unstamped w.world t := by
  rw [Unstamped, Unstamped, h.unstamped]
  simp only [h.boundTester_eq]

lemma sameWork_setPower (t : Guid) (guard : ProjectTester → Bool) (state : String) (at' : Time) :
    SameWork w (w.setPower t guard state at') := by
  by_cases h : w.world.testers.hits t guard = true
  · rw [PowerWorld.setPower, if_pos h]
    refine ⟨rfl, rfl, rfl, fun t' hdown => ?_⟩
    dsimp only at hdown
    split_ifs at hdown
    · by_cases hne : t' = t
      · rw [hne, Function.update_self] at hdown
        exact absurd hdown Bool.false_ne_true
      · rwa [Function.update_of_ne hne] at hdown
    · exact hdown
  · rw [PowerWorld.setPower_of_not_hits h]
    exact .refl w

lemma sameWork_releaseStuck : SameWork w w.releaseStuck := by
  have hfold : ∀ (ts : List Guid) (v : PowerWorld) (guard : ProjectTester → Bool) (at' : Time),
      SameWork v (ts.foldl (fun v t => v.setPower t guard "stopped" at') v) := by
    intro ts
    induction ts with
    | nil => exact fun v _ _ => .refl v
    | cons t ts ih => exact fun v guard at' => (sameWork_setPower ..).trans (ih _ guard at')
  exact hfold _ w _ _

/-- A sweep flips a runner, or leaves all work alone. -/
lemma sameWork_sweepStep {byName : String → String → Bool} {res : ProvisionResult}
    (hno : (PowerMove.sweep res).flips? w = none) : SameWork w (w.sweepStep byName res) := by
  have hgo : ∀ {v : PowerWorld} (stage : SweepStage), SameWork w v → SameWork w (v.go stage) :=
    fun _ h => ⟨h.runs, h.agents, h.unstamped, h.down⟩
  have htrack : ∀ rows : List ProjectTester, SameWork w (w.track rows) :=
    fun _ => ⟨rfl, rfl, rfl, fun _ => id⟩
  rw [PowerWorld.sweepStep]
  cases hst : w.sweep.stage with
  | release => exact hgo _ sameWork_releaseStuck
  | readToWake => exact hgo _ (htrack _)
  | wake tester arm =>
      dsimp only
      split_ifs
      · exact hgo _ (sameWork_setPower ..)
      · exact hgo _ (.refl w)
  | rollback tester mark arm => exact hgo _ (sameWork_setPower ..)
  | readCandidate project left =>
      dsimp only
      split
      · exact hgo _ (.refl w)
      · exact hgo _ (htrack _)
  | readDrained => exact hgo _ (htrack _)
  | load tester left =>
      dsimp only
      split
      · exact hgo _ (.refl w)
      · exact hgo _ (htrack _)
  | defer tester left => exact hgo _ ⟨rfl, rfl, rfl, fun _ => id⟩
  | flip tester left =>
      simp only [PowerMove.flips?, hst] at hno
      dsimp only
      split_ifs at hno ⊢
      exact hgo _ (.refl w)
  | finish tester mark failed left =>
      cases failed with
      | true => exact hgo _ (sameWork_setPower ..)
      | false =>
          have h : SameWork w (w.setPower tester.testerId (fun _ => true) "stopped" w.world.now) :=
            sameWork_setPower ..
          exact hgo _ ⟨h.runs, h.agents, h.unstamped, h.down⟩
  | start | readProjects | readWaking | recheck | deallocate => exact hgo _ (.refl w)
  | ended => exact .refl w

/-- The flip of a runner. -/
lemma sweepStep_of_flips {byName : String → String → Bool} {res : ProvisionResult} {t : Guid}
    (hflip : (PowerMove.sweep res).flips? w = some t) :
    ∃ v, SameWork w v ∧ (w.sweepStep byName res).world = v.world ∧
      (w.sweepStep byName res).down = Function.update v.down t true ∧
      w.sweep.stage.flipping? = some t ∧
      (w.sweepStep byName res).sweep.stage.flipping? = none := by
  rw [PowerWorld.sweepStep]
  cases hst : w.sweep.stage with
  | flip tester left =>
      simp only [PowerMove.flips?, hst] at hflip
      split_ifs at hflip with hhits
      obtain rfl := Option.some.inj hflip
      dsimp only
      rw [if_pos hhits]
      exact ⟨_, sameWork_setPower _ _ "stopping" w.world.now, rfl, rfl, rfl, rfl⟩
  | _ =>
      simp only [PowerMove.flips?, hst] at hflip
      exact absurd hflip.symm (Option.some_ne_none t)

lemma flipping?_afterWake (arm : WakeArm) : (afterWake arm).flipping? = none := by
  cases arm with
  | pinned left => cases left <;> rfl
  | unpinned left => cases left <;> rfl

lemma flipping?_afterDue (left : List Guid) : (afterDue left).flipping? = none := by
  cases left <;> rfl

/-- A runner is about to be flipped only behind a check that has found no run. -/
lemma rechecked_of_flipping {byName : String → String → Bool} {res : ProvisionResult} {t : Guid}
    (h : t ∈ (w.sweepStep byName res).sweep.stage.flipping?) :
    w.sweep.stage.rechecked? = some t ∧ w.holdsRun t = false := by
  have hwake : ∀ (v : PowerWorld) (arm : WakeArm),
      t ∉ (v.go (afterWake arm)).sweep.stage.flipping? :=
    fun v arm hmem => Option.some_ne_none t ((flipping?_afterWake arm).symm.trans hmem).symm
  have hdue : ∀ (v : PowerWorld) (left : List Guid),
      t ∉ (v.go (afterDue left)).sweep.stage.flipping? :=
    fun v left hmem => Option.some_ne_none t ((flipping?_afterDue left).symm.trans hmem).symm
  rw [PowerWorld.sweepStep] at h
  cases hst : w.sweep.stage with
  | recheck tester left =>
      simp only [hst] at h
      split_ifs at h with hheld
      · exact (Option.not_mem_none t h).elim
      · obtain rfl := Option.some.inj h
        exact ⟨rfl, Bool.eq_false_iff.mpr hheld⟩
  | readToWake | rollback | readProjects =>
      simp only [hst] at h
      exact (hwake _ _ h).elim
  | wake tester arm =>
      simp only [hst] at h
      split_ifs at h
      · exact (Option.not_mem_none t h).elim
      · exact (hwake _ _ h).elim
  | start tester mark arm =>
      simp only [hst] at h
      split_ifs at h
      · exact (Option.not_mem_none t h).elim
      · exact (hwake _ _ h).elim
  | readWaking project left =>
      simp only [hst] at h
      split_ifs at h
      · exact (hwake _ _ h).elim
      · exact (Option.not_mem_none t h).elim
  | readCandidate project left =>
      simp only [hst] at h
      split at h
      · exact (hwake _ _ h).elim
      · exact (Option.not_mem_none t h).elim
  | readDrained | defer =>
      simp only [hst] at h
      exact (hdue _ _ h).elim
  | load tester left =>
      simp only [hst] at h
      split at h
      · exact (hdue _ _ h).elim
      · split_ifs at h <;> exact (Option.not_mem_none t h).elim
  | flip tester left =>
      simp only [hst] at h
      split_ifs at h
      · exact (Option.not_mem_none t h).elim
      · exact (hdue _ _ h).elim
  | finish tester mark failed left =>
      simp only [hst] at h
      cases failed <;> exact (hdue _ _ h).elim
  | release | deallocate =>
      simp only [hst] at h
      exact (Option.not_mem_none t h).elim
  | ended =>
      simp only [hst] at h
      exact (Option.not_mem_none t h).elim

end Same

/-! ### The invariant -/

section Invariant

variable {casing : Text.Casing} {byName : String → String → Bool} {l : PowerMove} {w : PowerWorld}

variable (w) in
/-- The runner that is about to be flipped is idle, and nothing that was sent to a runner that
is shut down is still to be claimed. -/
structure Drained : Prop where
  claims : ClaimsPinned w.world
  flipping : ∀ t ∈ w.sweep.stage.flipping?, ¬ Busy w.world t ∧ ¬ Unstamped w.world t
  down : ∀ t, w.down t = true → ¬ Unstamped w.world t

lemma drained_start (testers : Table ProjectTester) (columns : Guid → RunnerColumns)
    (agents : Table Agent) (configs : Table TestConfig) :
    Drained (.start testers columns agents configs) where
  claims _ hr := absurd hr List.not_mem_nil
  flipping _ h := absurd h nofun
  down _ h := absurd h Bool.false_ne_true

/-- A step that leaves all work alone. -/
lemma Drained.same {w' : PowerWorld} (h : Drained w) (hsame : SameWork w w')
    (hflipping : ∀ t ∈ w'.sweep.stage.flipping?, ¬ Busy w.world t ∧ ¬ Unstamped w.world t) :
    Drained w' where
  claims r hr agent hagent := by
    rw [hsame.boundTester_eq]
    rw [hsame.runs] at hr
    exact h.claims r hr agent hagent
  flipping t ht := by
    rw [hsame.busy_iff, hsame.unstamped_iff]
    exact hflipping t ht
  down t ht := by
    rw [hsame.unstamped_iff]
    exact h.down t (hsame.down t ht)

/-- The sweep goes on. -/
lemma Drained.sweep (h : Drained w) {res : ProvisionResult}
    (hl : Drains casing byName (.sweep res) w) : Drained (w.sweepStep byName res) := by
  have hnext : ∀ t ∈ (w.sweepStep byName res).sweep.stage.flipping?,
      ¬ Busy w.world t ∧ ¬ Unstamped w.world t := by
    intro t ht
    obtain ⟨hchecked, hfree⟩ := rechecked_of_flipping ht
    exact ⟨h.claims.not_busy hfree, hl.recheck rfl t hchecked⟩
  cases hflip : (PowerMove.sweep res).flips? w with
  | none => exact h.same (sameWork_sweepStep hflip) hnext
  | some t =>
      obtain ⟨v, hsame, hworld, hdown, hflipping, hnone⟩ :=
        @sweepStep_of_flips w byName res t hflip
      have hv : Drained { v with sweep := ⟨0, .ended, []⟩ } :=
        h.same ⟨hsame.runs, hsame.agents, hsame.unstamped, hsame.down⟩ fun _ ht => absurd ht nofun
      refine ⟨by rw [hworld]; exact hv.claims, fun t' ht => ?_, fun t' ht => ?_⟩
      · rw [hnone] at ht
        exact absurd ht nofun
      · rw [hworld]
        by_cases hne : t' = t
        · rw [hne, hsame.unstamped_iff]
          exact (h.flipping t hflipping).2
        · rw [hdown, Function.update_of_ne hne] at ht
          exact hv.down t' ht

/-- A statement of another service. -/
lemma Drained.other (h : Drained w) {l : Stmt} (hcan : canStmt l w.world = true)
    (hl : Drains casing byName (.other l) w) : Drained { w with world := l.exec w.world } where
  claims := h.claims.exec hcan
  flipping t ht := by
    obtain ⟨hbusy, hunstamped⟩ := hl.arrival t ht
    exact ⟨fun hnew => (h.flipping t ht).1 (hbusy hnew),
      fun hnew => (h.flipping t ht).2 (hunstamped hnew)⟩
  down t ht := by
    rintro ⟨p, hp, hbound⟩
    have hbound' : boundTester w.world p.2 = some t := (boundTester_exec p.2).symm.trans hbound
    rcases unstamped_exec hp with hold | ⟨x, y, rfl, hreach⟩
    · exact h.down t ht ⟨p, hold, hbound'⟩
    · -- the agent of a runner that is shut down is not connected
      obtain ⟨a, ha, hat⟩ := Option.bind_eq_some_iff.mp hbound'
      have hoff := hl.sends rfl a (Table.mem_of_find? ha) t hat ht
      have hid : a.agentId = p.2 := Table.key_of_find? ha
      rw [hid, hreach] at hoff
      exact absurd hoff nofun

/-- Every step that meets the condition keeps the invariant. -/
lemma Drained.exec (h : Drained w) (hcan : l.can w = true) (hl : Drains casing byName l w) :
    Drained (l.exec casing byName w) := by
  cases l with
  | sweep res => exact h.sweep hl
  | other l => exact h.other hcan hl
  | startSweep =>
      exact h.same ⟨rfl, rfl, rfl, fun _ => id⟩ fun t ht => (Option.not_mem_none t ht).elim
  | sweepThrows =>
      rw [PowerMove.exec, PowerWorld.sweepThrows]
      split <;> refine h.same ⟨rfl, rfl, rfl, fun _ => id⟩ fun t ht => ?_
      all_goals first
        | exact absurd ((flipping?_afterDue _).symm.trans ht).symm (Option.some_ne_none t)
        | exact (Option.not_mem_none t ht).elim
  | recover i probed =>
      rw [PowerMove.exec, PowerWorld.recover]
      split
      · next row left _ =>
          have hsame : SameWork w (w.setPower row.testerId (fun _ => true)
              (PowerWorld.resolvedState casing row probed) w.world.now) := sameWork_setPower ..
          refine h.same ⟨hsame.runs, hsame.agents, hsame.unstamped, hsame.down⟩ fun t ht => ?_
          exact h.flipping t (PowerWorld.setPower_sweep (w := w) .. ▸ ht)
      · exact h
  | reconcile tester =>
      have hsweep : (w.reconcile tester).sweep = w.sweep := PowerWorld.setPower_sweep ..
      refine h.same (sameWork_setPower ..) fun t ht => h.flipping t ?_
      rwa [PowerMove.exec, hsweep] at ht
  | reconcileProvisioning tester =>
      have hsweep : (w.reconcileProvisioning tester).sweep = w.sweep :=
        PowerWorld.setPower_sweep ..
      refine h.same (sameWork_setPower ..) fun t ht => h.flipping t ?_
      rwa [PowerMove.exec, hsweep] at ht
  | setColumns t columns | scan | scanThrows i =>
      exact h.same ⟨rfl, rfl, rfl, fun _ => id⟩ h.flipping
  | restart =>
      refine ⟨h.claims, fun t ht => (Option.not_mem_none t ht).elim, fun t ht => ?_⟩
      rintro ⟨p, hp, -⟩
      exact absurd hp List.not_mem_nil

/-- In such a state a sweep spares live work, and so does the dispatcher. -/
lemma Drained.sparesLiveWork (h : Drained w) (hcan : l.can w = true)
    (hl : Drains casing byName l w) : SparesLiveWork l w where
  flip t ht := by
    cases l with
    | sweep res =>
        obtain ⟨-, -, -, -, hflipping, -⟩ := @sweepStep_of_flips w byName res t ht
        exact (h.flipping t hflipping).1
    | _ => exact absurd ht (by simp [PowerMove.flips?])
  assign agent ha t ht := by
    rw [Bool.eq_false_iff]
    intro hdown
    unfold PowerMove.assigns? at ha
    split at ha
    · next agent' run x y =>
        split_ifs at ha with hreach
        · obtain rfl := Option.some.inj ha
          obtain ⟨a, hget, hat⟩ := Option.bind_eq_some_iff.mp ht
          have hoff := hl.sends rfl a (Table.mem_of_find? hget) t hat hdown
          have hid : a.agentId = agent' := Table.key_of_find? hget
          rw [hid, hreach] at hoff
          exact absurd hoff nofun
        · exact absurd ha nofun
    · next run agent' tester =>
        split_ifs at ha
        · obtain rfl := Option.some.inj ha
          have hsent := ((Bool.and_eq_true _ _).mp hcan).1
          exact h.down t hdown ⟨(run, agent'), List.contains_iff_mem.mp hsent, ht⟩
        · exact absurd ha nofun
    · exact absurd ha nofun

/-- **Auto-shutdown and live work.** When no assignment of a runner waits for its stamp at the
check of a sweep, nothing arrives on the runner between the check and the flip, and no agent
of a runner that is shut down is connected while assignments are sent, every flip finds the
runner idle and nothing is assigned to it until it is running again. -/
theorem shutdown_spares_live_work (testers : Table ProjectTester)
    (columns : Guid → RunnerColumns) (agents : Table Agent) (configs : Table TestConfig)
    (ls : List PowerMove)
    (drains : (runnerPower casing byName).Along (Drains casing byName)
      (.start testers columns agents configs) ls) :
    (runnerPower casing byName).Along SparesLiveWork (.start testers columns agents configs) ls :=
  Machine.along_of_inv (fun _ _ hcan h hl => h.exec hcan hl)
    (fun _ _ hcan h hl => h.sparesLiveWork hcan hl)
    (drained_start testers columns agents configs) ls drains

end Invariant

/-! ### A launch beside a sweep -/

namespace LaunchBeside

open DueRunner

def configs : Table TestConfig :=
  Table.empty.insert (fun id => .basic id "acme" "network"
    (.obj [("kind", .str "network"), ("host", .str "192.0.2.7")])
    (.obj [("modes", .arr [.str "tcp"])])) fun _ => rfl

def start : PowerWorld := .start testers columns agents configs

def endOf (ls : List PowerMove) : PowerWorld := (runnerPower .ascii byName).run start ls

/-- An unpinned run is launched, without a pause, behind the moves so far. -/
def launch (before : List PowerMove) : List PowerMove :=
  before ++ (Proc.trace Stmt.exec (RunDispatcher.launch Host.plain 0 none none)
    (endOf before).world).map .other

/-- The sweep goes on. -/
def sweeps (n : ℕ) : List PowerMove := List.replicate n (.sweep deallocated)

def connected : List PowerMove := [.other (.connect 0)]

/-- The run is launched before the sweep and is over when it comes. -/
def inTurn : List PowerMove :=
  launch (launch connected ++ .other (.updateRun 0 (.runFinished .completed none)) :: .startSweep ::
    sweeps 9 ++ [.other (.disconnect 0), .other (.connect 0), .reconcile 0])

/-- The run is launched between the check of the sweep and its flip. -/
def beforeFlip : List PowerMove := launch (connected ++ .startSweep :: sweeps 6) ++ sweeps 1

/-- The run is launched while the runner is being stopped. -/
def behindFlip : List PowerMove := launch (connected ++ .startSweep :: sweeps 7)

theorem shutdown_spares_live_work_inTurn :
    (runnerPower .ascii byName).Along SparesLiveWork start inTurn :=
  shutdown_spares_live_work testers columns agents configs inTurn (by decide +kernel)

/-- A run that is launched behind the check is shut down with its runner, and one that is
launched behind the flip is sent to it. -/
theorem live_work_killed :
    Busy (endOf (launch (connected ++ .startSweep :: sweeps 6))).world 0 ∧
      (endOf beforeFlip).power 0 = some "stopping" ∧
      ¬ (runnerPower .ascii byName).Along SparesLiveWork start beforeFlip ∧
      (endOf (connected ++ .startSweep :: sweeps 7)).power 0 = some "stopping" ∧
      ¬ (runnerPower .ascii byName).Along SparesLiveWork start behindFlip := by
  decide +kernel

end LaunchBeside

end RunnerPower

end Networker
