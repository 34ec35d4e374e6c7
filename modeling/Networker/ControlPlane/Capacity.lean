/-
Whether the orchestrator stays within its provisioning capacity.

* `Task.provisions`: dispatch, frames, the leader-locked ticks and the deploy attempts;
* `FreesIdle`: the condition on the writes that free a slot;
* `Grants`: what the orchestrator owes for the statements that take a slot;
* `safe_kickPendingRuns`, `safe_promoteProvisioningRuns`, `safe_teardownFinishedRuns`: the
  three phases of a tick, whatever the other tasks do in between;
* `slotKeeping_lawful`: the rely and guarantee of all tasks, with the linked deployments
  behind the leader lock;
* `capacity_kept`: schedules that meet the condition;
* `torn_down_while_deploying`: a teardown of a deployment that is still being deployed.
-/
import Networker.ControlPlane.Slots

namespace Networker

open Data Concurrency

/-! ### Tasks and the condition -/

/-- Everything but the deployment endpoints. -/
def Task.provisions : Task → Prop
  | .createDeployment .. | .stopDeployment .. | .updateDeployment .. | .deleteDeployment .. => False
  | _ => True

instance : DecidablePred Task.provisions
  | .createDeployment .. | .stopDeployment .. | .updateDeployment .. | .deleteDeployment .. =>
      isFalse id
  | .launch .. | .dispatch _ | .redispatch | .cancel _ | .frame .. | .watchdog | .orchestrator
  | .reaper _ | .deploy .. => isTrue trivial

/-- A teardown claim or a release takes effect only where no attempt is in flight; a release
that comes too late concerns a deployment that holds no slot or that a run refers to. -/
def FreesIdle (l : Stmt) (w : World) : Prop :=
  match l with
  | .updateDeployment d (.claimTeardown prior) =>
      w.deployments.hits d (DeploymentWrite.claimTeardown prior).guard = true →
        w.inFlight d = false
  | .updateDeployment d .releaseFailed =>
      (w.deployments.hits d DeploymentWrite.releaseFailed.guard = true → w.inFlight d = false) ∧
        (w.deployments.hits d DeploymentWrite.releaseFailed.guard = false →
          w.occupied d = false ∨ w.held d = true)
  | _ => True

instance : (l : Stmt) → (w : World) → Decidable (FreesIdle l w)
  | .updateDeployment _ (.claimTeardown _), _ => inferInstanceAs (Decidable (_ → _))
  | .updateDeployment _ .releaseFailed, _ => inferInstanceAs (Decidable ((_ → _) ∧ (_ → _ ∨ _)))
  | .updateDeployment _ (.setRunning _), _ | .updateDeployment _ (.finish ..), _
  | .updateDeployment _ (.flushLog _), _ | .updateDeployment _ .stampInstallStart, _
  | .updateDeployment _ (.stop _), _ | .updateDeployment _ (.reap ..), _ => isTrue trivial
  | .query, _ | .insertRun .., _ | .updateRun .., _ | .insertAttempt .., _ | .insertArtifact .., _
  | .promoteConfig .., _ | .insertDeployment .., _ | .deleteDeployment .., _
  | .finishAttempt .., _ | .spawnDeploy .., _ | .beginAttempt .., _ | .abandonAttempt .., _
  | .spawnVmTeardown .., _ | .sendAssign .., _ | .sendCancel .., _ | .publish .., _
  | .elapse .., _ | .connect .., _ | .disconnect .., _ | .breakSocket .., _ | .setPower .., _
  | .setListening .., _ => isTrue trivial

/-- What a task other than the orchestrator may issue leaves the slots alone. -/
lemma leavesSlots_of_mayIssue {t : Task} (ht : t.provisions) (hno : t.isOrchestrator = false)
    {l : Stmt} (hl : t.mayIssue l) : l.leavesSlots := by
  cases t with
  | orchestrator => exact absurd hno (by simp [Task.isOrchestrator])
  | createDeployment | stopDeployment | updateDeployment | deleteDeployment => exact ht.elim
  | reaper resources =>
      obtain rfl : l = .query := hl
      trivial
  | launch | dispatch | redispatch | cancel =>
      cases l with
      | updateRun run u => cases u <;> trivial
      | insertDeployment | deleteDeployment | spawnDeploy | updateDeployment => exact hl.elim
      | _ => trivial
  | frame agent f =>
      cases l with
      | updateRun run u => cases u <;> first | trivial | exact hl.2.elim
      | insertDeployment | deleteDeployment | spawnDeploy | updateDeployment => exact hl.elim
      | _ => trivial
  | watchdog =>
      cases l with
      | updateRun run u => cases u <;> trivial
      | updateDeployment d u => cases u <;> first | exact hl | exact hl.elim
      | insertDeployment | deleteDeployment | spawnDeploy => exact hl.elim
      | _ => trivial
  | deploy k d o =>
      cases l with
      | updateDeployment d' u => cases u <;> first | trivial | exact hl.2.elim
      | insertDeployment | deleteDeployment | spawnDeploy | updateRun => exact hl.elim
      | _ => trivial

/-! ### What the orchestrator owes -/

/-- A slot is taken while there is room, an attempt is spawned on an occupied deployment,
and only an idle deployment is dropped. -/
def Grants (auto : Guid → Bool) (cap : ℕ) (l : Stmt) (w : World) : Prop :=
  match l with
  | .insertDeployment .. => w.slots auto + 1 ≤ cap
  | .spawnDeploy d _ => w.occupied d = true
  | .deleteDeployment d _ => w.inFlight d = false
  | _ => True

/-- The slots stay within the capacity, and every attempt in flight occupies one. -/
def Within (auto : Guid → Bool) (cap : ℕ) (w : World) : Prop := w.slots auto ≤ cap ∧ Backed w

/-- What may be assumed in front of a statement. -/
def Assumed (auto : Guid → Bool) (cap : ℕ) (l : Stmt) (w : World) : Prop :=
  Within auto cap w ∧ FreesIdle l w ∧ Driven l w

section Orchestrator

open ProvisioningOrchestrator

variable {auto : Guid → Bool} {cap : ℕ} {E : SvcError → World → Prop}

/-- A routine of the orchestrator that is safe from `w` on and ends with `Q`. -/
abbrev SafeTick (auto : Guid → Bool) (cap : ℕ) {α : Type} (E : SvcError → World → Prop)
    (Q : World → Prop) (p : Svc α) (w : World) : Prop :=
  p.Safe Stmt.exec Calm (Assumed auto cap) (Grants auto cap) E (fun _ => Q) w

/-- Every deployment is linked and there is room for `n` more. -/
def Room (auto : Guid → Bool) (cap n : ℕ) (w : World) : Prop :=
  Linked auto w ∧ w.slots auto + n ≤ cap

/-- The deployment has just been added: it is neither linked nor in flight yet. -/
structure Pending (auto : Guid → Bool) (cap n : ℕ) (d : Guid) (w : World) : Prop where
  linked : LinkedBut auto [d] w
  room : w.slots auto + n ≤ cap
  occupied : w.occupied d = true
  idle : w.inFlight d = false

lemma stable_linkedBut (but : List Guid) : Proc.Stable Calm (LinkedBut auto but) :=
  fun _ _ hc hw => hc.linkedBut hw

lemma stable_room (n : ℕ) : Proc.Stable Calm (Room auto cap n) := by
  intro w w' hc hw
  have hslots : w'.slots auto ≤ w.slots auto := hc.slots
  have hroom := hw.2
  exact ⟨hc.linkedBut hw.1, by omega⟩

lemma stable_pending (n : ℕ) (d : Guid) : Proc.Stable Calm (Pending auto cap n d) := by
  intro w w' hc hw
  have hslots : w'.slots auto ≤ w.slots auto := hc.slots
  have hroom := hw.room
  refine ⟨hc.linkedBut hw.linked, by omega, (hc.occupied d).trans hw.occupied, ?_⟩
  cases hf : w'.inFlight d with
  | false => rfl
  | true => exact absurd (hc.inFlight d hf) (by simp [hw.idle])

lemma Room.mono {n m : ℕ} (hnm : n ≤ m) {w : World} (hw : Room auto cap m w) :
    Room auto cap n w := ⟨hw.1, by have := hw.2; omega⟩

/-- A statement that leaves the slots alone keeps a stable assertion and owes nothing. -/
lemma grants_of_leavesSlots {I : World → Prop} (hI : Proc.Stable Calm I) {l : Stmt}
    (hl : l.leavesSlots) {w : World} (hw : I w) (hok : Assumed auto cap l w) :
    Grants auto cap l w ∧ I (l.exec w) := by
  refine ⟨?_, hI _ _ (calm_exec hl hok.2.2 hok.1.2) hw⟩
  cases l with
  | insertDeployment spec now | spawnDeploy d j | deleteDeployment d p => exact hl.elim
  | _ => trivial

/-- A routine of such statements. -/
lemma safe_of_leavesSlots {I : World → Prop} (hI : Proc.Stable Calm I) {α : Type} {p : Svc α}
    (hp : p.Issues Stmt.leavesSlots) {w : World} (hw : I w) :
    SafeTick auto cap (fun _ => I) I p w :=
  Proc.Issues.safe hI (hp.mono fun _ hl _ ht hok => grants_of_leavesSlots hI hl ht hok) hw

/-! ### The kick -/

/-- An added deployment is pending. -/
lemma pending_insert {n : ℕ} {spec : DeploymentSpec} {now : Time} {w : World}
    (hw : Room auto cap (n + 1) w) (hback : Backed w) :
    Pending auto cap n w.deployments.next (Stmt.exec (.insertDeployment spec now) w) where
  linked := by
    intro d hauto hne hocc
    rcases occupied_insert.mp hocc with rfl | hocc
    · exact absurd (List.mem_singleton_self _) hne
    · exact hw.1 d hauto List.not_mem_nil hocc
  room := by
    have hroom := hw.2
    have hle : (Stmt.exec (.insertDeployment spec now) w).slots auto ≤ w.slots auto + 1 :=
      slots_le_succ fun x hx hocc => (occupied_insert.mp hocc).resolve_left hx
    omega
  occupied := occupied_insert.mpr (Or.inl rfl)
  idle := by
    rw [Bool.eq_false_iff]
    intro hf
    have hocc := hback w.deployments.next hf
    exact absurd (lt_of_occupied hocc) (lt_irrefl _)

/-- Once a run refers to it, the pending deployment is linked like every other one. -/
lemma Pending.link {n : ℕ} {run d : Guid} {w : World} (hw : Pending auto cap n d w)
    (hhit : w.runs.hits run (RunWrite.linkDeployment d).guard = true) :
    Room auto cap n (Stmt.exec (.updateRun run (.linkDeployment d)) w) := by
  obtain ⟨hself, hothers⟩ := linkOf_link hhit
  refine ⟨fun x hauto _ hocc => ?_, hw.room⟩
  by_cases hx : x = d
  · exact held_iff.mpr ⟨run, hx ▸ hself⟩
  · obtain ⟨run', hrun'⟩ := held_iff.mp (hw.linked x hauto (by simpa using hx) hocc)
    exact held_iff.mpr ⟨run', (hothers run' (by rw [hrun']; rfl)).trans hrun'⟩

/-- A pending deployment that no run takes is dropped. -/
lemma Pending.drop {n : ℕ} {d : Guid} {w : World} (hw : Pending auto cap n d w) :
    Room auto cap n (Stmt.exec (.deleteDeployment d none) w) := by
  have hroom := hw.room
  have hle : (Stmt.exec (.deleteDeployment d none) w).slots auto ≤ w.slots auto :=
    slots_le_of_occupied fun x hocc => (occupied_delete.mp hocc).2
  refine ⟨fun x hauto _ hocc => ?_, by omega⟩
  obtain ⟨hx, hocc⟩ := occupied_delete.mp hocc
  exact hw.linked x hauto (by simpa using hx) hocc

/-- A link that does not take effect leaves the deployment pending. -/
lemma Pending.miss {n : ℕ} {run d : Guid} {w : World} (hw : Pending auto cap n d w)
    (hmiss : w.runs.hits run (RunWrite.linkDeployment d).guard = false) :
    Pending auto cap n d (Stmt.exec (.updateRun run (.linkDeployment d)) w) where
  linked := by
    intro x hauto hx hocc
    obtain ⟨run', hrun'⟩ := held_iff.mp (hw.linked x hauto hx hocc)
    exact held_iff.mpr ⟨run', (linkOf_link_miss hmiss).trans hrun'⟩
  room := hw.room
  occupied := hw.occupied
  idle := hw.idle

lemma stable_taken (n : ℕ) (d : Guid) :
    Proc.Stable Calm fun w => Room auto cap n w ∧ w.occupied d = true :=
  fun w w' hc hw => ⟨stable_room n w w' hc hw.1, (hc.occupied d).trans hw.2⟩

/-- Adding a deployment, linking it and starting its attempt takes one slot. -/
lemma safe_kickDeployment (run : TestRun) (spec : DeploymentSpec) {n : ℕ} {w : World}
    (hw : Room auto cap (n + 1) w) :
    SafeTick auto cap E (Room auto cap n) (kickDeployment run spec) w := by
  refine (stable_room _).safe_issue_bind hw fun t ht _ => ⟨trivial, ?_⟩
  refine (stable_room _).safe_issue_bind ht fun u hu hok => ⟨?_, ?_⟩
  · have hroom := hu.2
    show u.slots auto + 1 ≤ cap
    omega
  refine (stable_pending n _).safe_issue_bind (pending_insert hu hok.1.2) fun v hv _ =>
    ⟨trivial, ?_⟩
  cases hhit : v.runs.hits run.id (RunWrite.linkDeployment u.deployments.next).guard with
  | true =>
      have hlinked := And.intro (hv.link hhit) hv.occupied
      refine (stable_taken n _).safe_issue_bind hlinked fun x hx _ => ⟨hx.2, ?_⟩
      exact (stable_room n).safe_ret hx.1
  | false =>
      have hpending := hv.miss hhit
      refine (stable_pending n _).safe_issue_bind hpending fun x hx _ => ⟨hx.idle, ?_⟩
      exact (stable_room n).safe_ret hx.drop

lemma safe_kickOne (h : Host) (run : TestRun) (cfg : TestConfig) {n : ℕ} {w : World}
    (hw : Room auto cap (n + 1) w) :
    SafeTick auto cap (fun _ => Room auto cap n) (Room auto cap n) (kickOne h run cfg) w := by
  have hless : ∀ v, Room auto cap (n + 1) v → Room auto cap n v := fun v hv => hv.mono (by omega)
  rw [kickOne]
  split
  · exact (stable_room n).safe_ret (hless w hw)
  · rename_i pending _
    have hfound : SafeTick auto cap (fun _ => Room auto cap (n + 1)) (Room auto cap (n + 1))
        (resolveProvider h run pending) w :=
      safe_of_leavesSlots (stable_room (n + 1))
        (issues_resolveProvider trivial h run pending fun _ => trivial) hw
    refine (hfound.mono (fun _ => hless) fun _ _ h => h).bind Calm.refl fun found v hv => ?_
    split
    · exact (stable_room n).safe_ret (hless v hv)
    · exact safe_kickDeployment run _ hv

lemma length_kickCandidates_le (now : Time) (limit : ℕ) (w : World) :
    (kickCandidates now limit w).length ≤ limit := by
  have htake := List.length_take_le (min kickBatchLimit limit)
    (oldest TestRun.createdAt (w.runs.select (isKickable now w)))
  calc (kickCandidates now limit w).length
      ≤ ((oldest TestRun.createdAt (w.runs.select (isKickable now w))).take
          (min kickBatchLimit limit)).length := List.length_filterMap_le _ _
    _ ≤ min kickBatchLimit limit := htake
    _ ≤ limit := min_le_right _ _

/-- The kick takes at most the slots it has counted as free. -/
lemma safe_kickPendingRuns (h : Host) {w : World} (hw : Linked auto w) :
    SafeTick auto h.maxConcurrentAutoProvisions E (Linked auto) (kickPendingRuns h) w := by
  refine (stable_linkedBut []).safe_issue_bind hw fun t ht hok => ⟨trivial, ?_⟩
  have hactive := slots_le_activeProvisions ht
  split
  · exact (stable_linkedBut []).safe_ret ht
  · rename_i hcap
    have hroom : Room auto h.maxConcurrentAutoProvisions
        (h.maxConcurrentAutoProvisions - activeProvisions t) t := ⟨ht, by omega⟩
    refine (stable_room _).safe_issue_bind hroom fun u hu _ => ⟨trivial, ?_⟩
    refine (stable_room _).safe_issue_bind hu fun v hv _ => ⟨trivial, ?_⟩
    have hlen := length_kickCandidates_le u.now
      (h.maxConcurrentAutoProvisions - activeProvisions t) v
    refine (Proc.Safe.count (I := fun cs => Room auto h.maxConcurrentAutoProvisions cs.length)
      Calm.refl (stable_room 0) (fun c cs s hs => ?_) _ _ (hv.mono hlen)).mono
      (fun _ _ h => h) fun _ _ hend => hend.1
    exact (safe_kickOne h c.1 c.2 hs).rescue Calm.refl fun _ _ hs => (stable_room _).safe_ret hs

/-! ### The promotion -/

/-- The runs still to be resolved refer to the deployments they were read with. -/
structure Resolving (auto : Guid → Bool) (ps : List (Guid × Guid × Guid)) (w : World) : Prop where
  linked : Linked auto w
  distinct : (ps.map Prod.fst).Nodup
  links : ∀ p ∈ ps, w.linkOf p.1 = some p.2.2

/-- A run has let go of the deployment, which still holds its slot. -/
structure Freed (auto : Guid → Bool) (d : Guid) (ps : List (Guid × Guid × Guid)) (w : World) :
    Prop where
  linked : LinkedBut auto [d] w
  distinct : (ps.map Prod.fst).Nodup
  links : ∀ p ∈ ps, w.linkOf p.1 = some p.2.2

lemma stable_resolving (ps : List (Guid × Guid × Guid)) :
    Proc.Stable Calm (Resolving auto ps) := fun _ _ hc hw =>
  ⟨hc.linkedBut hw.linked, hw.distinct, fun p hp => hc.linkOf (hw.links p hp)⟩

lemma stable_freed (d : Guid) (ps : List (Guid × Guid × Guid)) :
    Proc.Stable Calm (Freed auto d ps) := fun _ _ hc hw =>
  ⟨hc.linkedBut hw.linked, hw.distinct, fun p hp => hc.linkOf (hw.links p hp)⟩

variable {p : Guid × Guid × Guid} {ps : List (Guid × Guid × Guid)}

lemma Resolving.tail {w : World} (hw : Resolving auto (p :: ps) w) : Resolving auto ps w :=
  ⟨hw.linked, (List.nodup_cons.mp hw.distinct).2,
    fun q hq => hw.links q (List.mem_cons_of_mem p hq)⟩

/-- A retry lets go of the deployment of its run and of no other. -/
lemma Resolving.retry {n : ℕ} {b : Time} {note : String} {w : World}
    (hw : Resolving auto (p :: ps) w) :
    Freed auto p.2.2 ps (Stmt.exec (.updateRun p.1 (.retryProvisioning n b note)) w) where
  linked := by
    intro d hauto hne hocc
    obtain ⟨run, hrun⟩ := held_iff.mp (hw.linked d hauto List.not_mem_nil hocc)
    have hother : run ≠ p.1 := by
      rintro rfl
      have hp := hw.links p List.mem_cons_self
      exact hne (List.mem_singleton.mpr (Option.some.inj (hrun.symm.trans hp)))
    exact held_iff.mpr ⟨run, (linkOf_retry hother).trans hrun⟩
  distinct := (List.nodup_cons.mp hw.distinct).2
  links := by
    intro q hq
    have hother : q.1 ≠ p.1 := fun heq =>
      (List.nodup_cons.mp hw.distinct).1 (List.mem_map.mpr ⟨q, hq, heq⟩)
    exact (linkOf_retry hother).trans (hw.links q (List.mem_cons_of_mem p hq))

/-- The release frees the slot of the deployment, or the deployment needs none. -/
lemma Freed.release {d : Guid} {w : World} (hw : Freed auto d ps w)
    (hfree : FreesIdle (.updateDeployment d .releaseFailed) w) :
    Resolving auto ps (Stmt.exec (.updateDeployment d .releaseFailed) w) where
  linked := by
    intro x hauto _ hocc
    obtain ⟨hbefore, hkept⟩ := (occupied_release fun _ _ => rfl).mp hocc
    by_cases hx : x = d
    · subst hx
      have hmiss : w.deployments.hits x DeploymentWrite.releaseFailed.guard = false := by
        rw [Bool.eq_false_iff]
        exact fun hhit => hkept ⟨rfl, hhit⟩
      rcases hfree.2 hmiss with hgone | hheld
      · rw [hbefore] at hgone
        exact absurd hgone (by decide)
      · exact hheld
    · exact hw.linked x hauto (by simpa using hx) hbefore
  distinct := hw.distinct
  links := hw.links

/-- What leaves the slots alone resolves the run. -/
lemma safe_resolved {α : Type} {q : Svc α} (hq : q.Issues Stmt.leavesSlots) {w : World}
    (hw : Resolving auto (p :: ps) w) :
    SafeTick auto cap (fun _ => Resolving auto ps) (Resolving auto ps) q w :=
  (safe_of_leavesSlots (stable_resolving (p :: ps)) hq hw).mono (fun _ _ h => h.tail)
    fun _ _ h => h.tail

lemma safe_retryOrFail (backoff : ℕ → Time) (note : ℕ → String) (exhausted : String) {w : World}
    (hw : Resolving auto (p :: ps) w) :
    SafeTick auto cap E (Resolving auto ps) (retryOrFail p.1 p.2.2 backoff note exhausted) w := by
  refine (stable_resolving _).safe_issue_bind hw fun t ht _ => ⟨trivial, ?_⟩
  split
  · refine (stable_resolving _).safe_issue_bind ht fun u hu _ => ⟨trivial, ?_⟩
    refine (stable_freed _ _).safe_issue_bind hu.retry fun v hv hok => ⟨trivial, ?_⟩
    exact (stable_resolving ps).safe_ret (hv.release hok.2.1)
  · refine (stable_resolving _).safe_issue_bind ht fun u hu hok => ⟨trivial, ?_⟩
    have hleaves : (Stmt.updateRun p.1 (.failProvisioning exhausted)).leavesSlots := trivial
    have hkept := grants_of_leavesSlots (stable_resolving _) hleaves hu hok
    exact (stable_resolving ps).safe_ret hkept.2.tail

lemma safe_handleFailedDeployment {dep : Deployment} (hdep : dep.deploymentId = p.2.2) {w : World}
    (hw : Resolving auto (p :: ps) w) :
    SafeTick auto cap (fun _ => Resolving auto ps) (Resolving auto ps)
      (handleFailedDeployment p.1 dep) w := by
  simp only [handleFailedDeployment, hdep]
  split_ifs
  · exact safe_retryOrFail _ _ _ hw
  · exact safe_retryOrFail _ _ _ hw
  · refine safe_resolved ?_ hw
    exact Svc.issues_updateRun_bind.mpr ⟨trivial, fun _ => trivial⟩

lemma safe_handleProvisioningRun {w : World} (hw : Resolving auto (p :: ps) w) :
    SafeTick auto cap (fun _ => Resolving auto ps) (Resolving auto ps)
      (handleProvisioningRun p.1 p.2.1 p.2.2) w := by
  refine (stable_resolving _).safe_issue_bind hw fun t ht _ => ⟨trivial, ?_⟩
  split
  · exact (stable_resolving ps).safe_ret ht.tail
  · rename_i dep hdep
    have hid : dep.deploymentId = p.2.2 := Table.key_of_find? hdep
    split
    · refine safe_resolved ?_ ht
      exact (issues_promote trivial (fun _ => trivial) _ _ trivial fun _ _ _ => trivial).bind
        fun _ => trivial
    · exact safe_handleFailedDeployment hid ht
    · refine safe_resolved ?_ ht
      exact Svc.issues_updateRun_bind.mpr ⟨trivial, fun _ => trivial⟩
    · exact (stable_resolving ps).safe_ret ht.tail

/-- The runs of a promotion pass are distinct and refer to their deployments. -/
lemma resolving_provisioningPairs {w : World} (hw : Linked auto w) :
    Resolving auto (provisioningPairs w) w where
  linked := hw
  distinct := fst_provisioningPairs_nodup w
  links := fun _ hq => linkOf_of_mem_provisioningPairs hq

/-- A promotion pass lets go of a deployment only together with its slot. -/
lemma safe_promoteProvisioningRuns {w : World} (hw : Linked auto w) :
    SafeTick auto cap E (Linked auto) promoteProvisioningRuns w := by
  refine (stable_linkedBut []).safe_issue_bind hw fun t ht _ => ⟨trivial, ?_⟩
  refine (Proc.Safe.count (I := Resolving auto) Calm.refl (stable_resolving [])
    (fun q qs s hs => ?_) _ _ (resolving_provisioningPairs ht)).mono (fun _ _ h => h)
    fun _ _ hend => hend.linked
  exact (safe_handleProvisioningRun hs).rescue Calm.refl fun _ _ hs => (stable_resolving qs).safe_ret hs

/-! ### The teardown -/

/-- A teardown pass only frees slots. -/
lemma safe_teardownFinishedRuns {w : World} (hw : Linked auto w) :
    SafeTick auto cap (fun _ => Linked auto) (Linked auto) teardownFinishedRuns w := by
  refine Proc.Issues.safe (stable_linkedBut []) (issues_teardownFinishedRuns ?_ ?_ ?_) hw
  · exact fun t ht hok => ⟨trivial, ht⟩
  · intro d st t ht hok
    refine ⟨trivial, fun x hauto hx hocc => ?_⟩
    exact ht x hauto hx ((occupied_release fun _ _ => rfl).mp hocc).1
  · exact fun v t ht hok => ⟨trivial, ht⟩

/-- A tick leaves every occupied deployment linked. -/
lemma safe_orchestratorTick (h : Host) {w : World} (hw : Linked auto w) :
    SafeTick auto h.maxConcurrentAutoProvisions (fun _ => Linked auto) (Linked auto)
      (orchestratorTick h) w := by
  refine (safe_kickPendingRuns h hw).bind Calm.refl fun _ t ht => ?_
  refine (safe_promoteProvisioningRuns ht).bind Calm.refl fun _ u hu => ?_
  refine (safe_teardownFinishedRuns hu).bind Calm.refl fun _ v hv => ?_
  exact (stable_linkedBut []).safe_ret hv

end Orchestrator

/-! ### All tasks side by side -/

/-- The leader lock of the orchestrator. -/
def Task.OneOrchestrator (t u : Task) : Prop :=
  t.isOrchestrator = true → u.isOrchestrator = false

/-- The orchestrator relies on the other tasks to leave the slots alone and owes what
`Grants` says; between two ticks every occupied deployment is linked. -/
def slotKeeping (auto : Guid → Bool) (cap : ℕ) : System.Discipline Stmt World Task where
  inv := Within auto cap
  holds t := t.isOrchestrator = true
  res := Linked auto
  here _ _ := True
  ok l w := FreesIdle l w ∧ Driven l w
  rely t w w' := t.isOrchestrator = true → Calm w w'
  guar t l w := t.provisions ∧ t.mayIssue l ∧ (t.isOrchestrator = true → Grants auto cap l w)

section SlotKeeping

variable {auto : Guid → Bool} {cap : ℕ}

lemma Within.calm {w w' : World} (hw : Within auto cap w) (hc : Calm w w') :
    Within auto cap w' :=
  ⟨le_trans hc.slots hw.1, hc.backed hw.2⟩

/-- A change of neither the deployments nor the attempts. -/
lemma Within.congr {w w' : World} (hw : Within auto cap w) (hd : w'.deployments = w.deployments)
    (ha : w'.drivers = w.drivers) : Within auto cap w' := by
  refine ⟨?_, fun d hf => ?_⟩
  · have hle : w'.slots auto ≤ w.slots auto :=
      slots_le_of_occupied fun d hocc => (occupied_congr hd d).symm.trans hocc
    exact le_trans hle hw.1
  · rw [inFlight_congr ha] at hf
    rw [occupied_congr hd]
    exact hw.2 d hf

/-- A release keeps the slots within the capacity when it finds no attempt in flight. -/
lemma Within.release {u : DeploymentWrite} (hu : ∀ t x, (u.set t x).status = .tornDown) {d : Guid}
    {w : World} (hw : Within auto cap w)
    (hidle : w.deployments.hits d u.guard = true → w.inFlight d = false) :
    Within auto cap (Stmt.exec (.updateDeployment d u) w) := by
  refine ⟨?_, fun x hf => ?_⟩
  · have hle : (Stmt.exec (.updateDeployment d u) w).slots auto ≤ w.slots auto :=
      slots_le_of_occupied fun x hocc => ((occupied_release hu).mp hocc).1
    exact le_trans hle hw.1
  · refine (occupied_release hu).mpr ⟨hw.2 x hf, ?_⟩
    rintro ⟨rfl, hhit⟩
    rw [show w.inFlight x = true from hf] at hidle
    exact absurd (hidle hhit) (by decide)

/-- The statements of a tick keep the slots within the capacity. -/
lemma Within.tick {l : Stmt} (hl : Task.orchestrator.mayIssue l) {w : World}
    (hw : Within auto cap w) (hfree : FreesIdle l w) (hgrant : Grants auto cap l w) :
    Within auto cap (l.exec w) := by
  cases l with
  | query | promoteConfig c e v | spawnVmTeardown v | updateRun run u => exact hw.congr rfl rfl
  | insertDeployment spec now =>
      refine ⟨?_, fun d hf => occupied_insert.mpr (Or.inr (hw.2 d hf))⟩
      have hle : (Stmt.exec (.insertDeployment spec now) w).slots auto ≤ w.slots auto + 1 :=
        slots_le_succ fun x hx hocc => (occupied_insert.mp hocc).resolve_left hx
      exact le_trans hle hgrant
  | spawnDeploy d j =>
      refine ⟨hw.1, fun d' hf => ?_⟩
      rcases inFlight_spawn.mp hf with hf | rfl
      · exact hw.2 d' hf
      · exact hgrant
  | deleteDeployment d p =>
      cases p with
      | some p => exact hl.elim
      | none =>
          have hle : (Stmt.exec (.deleteDeployment d none) w).slots auto ≤ w.slots auto :=
            slots_le_of_occupied fun x hocc => (occupied_delete.mp hocc).2
          refine ⟨le_trans hle hw.1, fun d' hf => occupied_delete.mpr ⟨?_, hw.2 d' hf⟩⟩
          rintro rfl
          have hidle : w.inFlight d' = false := hgrant
          rw [show w.inFlight d' = true from hf] at hidle
          exact absurd hidle (by decide)
  | updateDeployment d u =>
      cases u with
      | claimTeardown prior => exact hw.release (fun _ _ => rfl) hfree
      | releaseFailed => exact hw.release (fun _ _ => rfl) hfree.1
      | _ => exact hl.elim
  | _ => exact hl.elim

/-- What a task that is not the orchestrator does is calm. -/
lemma calm_of_guar {t : Task} (hno : t.isOrchestrator = false) {l : Stmt} {w : World}
    (hw : Within auto cap w) (hok : FreesIdle l w ∧ Driven l w)
    (hg : (slotKeeping auto cap).guar t l w) : Calm w (l.exec w) :=
  calm_exec (leavesSlots_of_mayIssue hg.1 hno hg.2.1) hok.2 hw.2

/-- A task that is not the orchestrator owes nothing. -/
lemma slotKeeping_keeps_of_other (h : Host) {t : Task} (ht : t.provisions)
    (hno : t.isOrchestrator = false) (w : World) :
    (slotKeeping auto cap).Keeps (controlPlane h) t (t.code h) w := by
  have hfalse : ¬ t.isOrchestrator = true := by simp [hno]
  have hissues := (t.issues_mayIssue h).2.mono fun l hl (v : World) (_ : True)
    (_ : (slotKeeping auto cap).inv v ∧ (slotKeeping auto cap).ok l v) =>
      (⟨⟨ht, hl, fun hyes => absurd hyes hfalse⟩, trivial⟩ :
        (slotKeeping auto cap).guar t l v ∧ True)
  exact (Proc.Issues.safe (I := fun _ => True) (fun _ _ _ h => h) hissues trivial).mono
    (fun _ _ _ hyes => absurd hyes hfalse) fun _ _ _ hyes => absurd hyes hfalse

/-- A tick keeps the discipline and leaves every occupied deployment linked. -/
lemma slotKeeping_keeps_of_orchestrator (h : Host) {w : World} (hw : Linked auto w) :
    (slotKeeping auto h.maxConcurrentAutoProvisions).Keeps (controlPlane h) .orchestrator
      (Task.code h .orchestrator) w := by
  have hsafe := (safe_orchestratorTick h hw).issues (Task.issues_mayIssue h .orchestrator).2
  have hkeeps := hsafe.weaken
    (T := (slotKeeping auto h.maxConcurrentAutoProvisions).rely .orchestrator)
    (H := (slotKeeping auto h.maxConcurrentAutoProvisions).guar .orchestrator)
    (fun _ _ hr => hr rfl) fun _ _ hg => ⟨trivial, hg.1, fun _ => hg.2⟩
  exact hkeeps.mono (fun _ _ hend _ => hend) fun _ _ hend _ => hend

/-- **Slots are kept.**  In any interleaving of the provisioning tasks, with one
orchestrator at a time, the slots stay within the capacity and every occupied deployment is
linked between two ticks, as long as slots are freed only when their deployments are
idle. -/
theorem slotKeeping_lawful (auto : Guid → Bool) (h : Host) :
    (controlPlane h).Lawful (slotKeeping auto h.maxConcurrentAutoProvisions) Task.provisions
      Task.OneOrchestrator where
  symm := by
    intro t u htu hu
    cases ht : t.isOrchestrator with
    | false => rfl
    | true => exact absurd (hu.symm.trans (htu ht)) (by decide)
  excl := by
    intro t u htu ht hu
    exact absurd (hu.symm.trans (htu ht)) (by decide)
  refl := fun _ w _ => Calm.refl w
  trans := fun _ {_ _ _} hab hbc ht => (hab ht).trans (hbc ht)
  inv := by
    intro t l w hw hok hg
    cases ht : t.isOrchestrator with
    | false => exact hw.calm (calm_of_guar ht hw hok hg)
    | true =>
        cases t with
        | orchestrator => exact hw.tick hg.2.1 hok.1 (hg.2.2 rfl)
        | _ => exact absurd ht Bool.false_ne_true
  here := fun _ _ _ _ _ _ _ _ => trivial
  res := by
    intro t l w hno hw hok hg hres
    have ht : t.isOrchestrator = false := by
      rw [Bool.eq_false_iff]
      exact hno
    exact (calm_of_guar ht hw hok hg).linkedBut hres
  rely := by
    intro t u l w htu hw hok hg hu
    have ht : t.isOrchestrator = false := by
      rw [Bool.eq_false_iff]
      exact fun hyes => absurd (hu.symm.trans (htu hyes)) (by decide)
    exact calm_of_guar ht hw hok hg
  start := by
    intro ts t w hkind hadm hw hok _ hfree
    cases ht : t.isOrchestrator with
    | true =>
        cases t with
        | orchestrator =>
            have halone : ∀ u ∈ ts, ¬ u.isOrchestrator = true := by
              simpa [controlPlane, Task.admits] using hadm
            refine ⟨fun u hu _ => ?_, ⟨trivial, trivial, fun _ => trivial⟩, trivial, ?_⟩
            · rw [Bool.eq_false_iff]
              exact halone u hu
            · exact slotKeeping_keeps_of_orchestrator h (hfree halone)
        | _ => exact absurd ht Bool.false_ne_true
    | false =>
        have hno : ¬ t.isOrchestrator = true := by simp [ht]
        refine ⟨fun u _ hyes => absurd hyes hno, ⟨hkind, (Task.issues_mayIssue h t).1, ?_⟩, trivial,
          slotKeeping_keeps_of_other h hkind ht _⟩
        exact fun hyes => absurd hyes hno
  env := by
    intro l w hl hw hok
    have hcalm : Calm w (l.exec w) :=
      calm_exec (leavesSlots_of_isEnvironment hl) hok.2 hw.2
    exact ⟨hw.calm hcalm, fun hres => hcalm.linkedBut hres,
      fun _ => ⟨fun _ => hcalm, fun _ => trivial⟩⟩

end SlotKeeping

/-! ### Runs -/

/-- The deployments that runs refer to, and those that will be created from now on. -/
def World.autoProvisioned (w : World) (d : Guid) : Bool :=
  decide (w.deployments.next ≤ d) || w.held d

/-- In every state of the schedule at most so many auto-provisioned deployments may still
have their VM as the orchestrator may provision at once. -/
def WithinCapacity (h : Host) (auto : Guid → Bool) (c : Sys) (as : List Move) : Prop :=
  ∀ xs ys, as = xs ++ ys →
    ((controlPlane h).after c xs).state.provisioned auto ≤ h.maxConcurrentAutoProvisions

/-- **Provisioning capacity.**  Over a freshly started process whose database is within the
capacity, every schedule of dispatch, frames, ticks and deploy attempts in which slots are
freed only when their deployments are idle stays within the capacity. -/
theorem capacity_kept (h : Host) (w : World) (as : List Move)
    (within : w.restarted.provisioned w.autoProvisioned ≤ h.maxConcurrentAutoProvisions)
    (kinds : (controlPlane h).Along (System.Starts Task.provisions) (.fresh w.restarted) as)
    (frees : (controlPlane h).Along ((controlPlane h).Meets FreesIdle) (.fresh w.restarted) as) :
    WithinCapacity h w.autoProvisioned (.fresh w.restarted) as := by
  intro xs ys heq
  subst heq
  have hok := System.along_meets_and frees (along_driven h w.restarted (xs ++ ys))
  obtain ⟨hkinds, -⟩ := System.along_append.mp kinds
  obtain ⟨hoks, -⟩ := System.along_append.mp hok
  have hback : Backed w.restarted := fun d hf => absurd hf (by simp [World.restarted, World.inFlight])
  have hlinked : Linked w.autoProvisioned w.restarted := by
    intro d hauto _ hocc
    have hlt : d < w.deployments.next := lt_of_occupied hocc
    rw [World.autoProvisioned, Bool.or_eq_true, decide_eq_true_eq] at hauto
    exact hauto.resolve_left (Nat.not_le_of_lt hlt)
  have hwithin : Within w.autoProvisioned h.maxConcurrentAutoProvisions w.restarted :=
    ⟨by rw [← provisioned_eq_slots hback]; exact within, hback⟩
  have hsound := System.after_sound (slotKeeping_lawful w.autoProvisioned h)
    (System.Sound.fresh hwithin hlinked) xs hkinds hoks
  rw [provisioned_eq_slots hsound.inv.2]
  exact hsound.inv.1

namespace OneSlot

/-- A host that provisions docker targets, one at a time. -/
def host : Host := { Host.plain with
  dockerEnabled := true
  maxConcurrentAutoProvisions := 1
  maxConcurrent_pos := by decide }

def config : TestConfig :=
  .basic 0 "p" "pending" (.obj [("kind", .str "pending"), ("provider", .str "docker")])
    (.obj [("modes", .arr [.str "http1"])])

def world : World :=
  { World.initial with configs := ⟨[config], 1, by decide, by decide⟩ }

def outcome : DeployRunner.Outcome :=
  .ran [] ⟨true, ["10.0.0.4"], none, none, none, some 0, none⟩ false

/-- A run is launched and its deployment is kicked. -/
def kicked : List Move :=
  .start (.launch 0 none none) :: steps 0 8 ++ .start .orchestrator :: steps 1 40

/-- The run is cancelled, and after four minutes a tick tears its deployment down. -/
def tornDown (thread : ℕ) : List Move :=
  .start (.cancel 0) :: steps thread 12 ++ [.env (.elapse (minutes 4))] ++
    .start .orchestrator :: steps (thread + 1) 40

/-- A second run is launched and kicked. -/
def kickedAgain (thread : ℕ) : List Move :=
  .start (.launch 0 none none) :: steps thread 8 ++ .start .orchestrator :: steps (thread + 1) 40

/-- The deploy ends before the run is cancelled. -/
def deployed : List Move :=
  kicked ++ .start (.deploy 0 0 outcome) :: steps 2 6 ++ tornDown 3 ++ kickedAgain 5

/-- The run is cancelled while its deploy is going on. -/
def deploying : List Move :=
  kicked ++ .start (.deploy 0 0 outcome) :: steps 2 3 ++ tornDown 3 ++ kickedAgain 5

end OneSlot

open OneSlot in
theorem capacity_kept_deployed :
    WithinCapacity host world.autoProvisioned (.fresh world.restarted) deployed :=
  capacity_kept host world deployed (by decide +kernel) (by decide +kernel) (by decide +kernel)

open OneSlot in
/-- The slot of a deployment that is still being deployed is given away. -/
theorem torn_down_while_deploying :
    (controlPlane host).Along (System.Starts Task.provisions) (.fresh world.restarted) deploying ∧
      ¬ WithinCapacity host world.autoProvisioned (.fresh world.restarted) deploying := by
  refine ⟨by decide +kernel, fun hwithin => ?_⟩
  have htwo : ((controlPlane host).after (.fresh world.restarted) deploying).state.provisioned
      world.autoProvisioned = 2 := by decide +kernel
  have hone := hwithin deploying [] (List.append_nil _).symm
  rw [htwo] at hone
  exact absurd hone (by decide)

end Networker
