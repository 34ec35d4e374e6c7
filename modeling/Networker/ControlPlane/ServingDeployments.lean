/-
Whether a deployment that serves endpoints stays out of the orphan reaper's reach.

* `Shielded`: the VM name of the deployment is a protected name, and no sweep selects a
  resource named after it;
* `Removes`, `SurvivesUpdates`: the property of a schedule, up to the deletion or the
  teardown of the deployment;
* `DeploymentWrite.endsBadly`, `SparesServing`: the writes that end an attempt badly, and
  the condition that none lands on the deployment while it has endpoints;
* `Serves`, `Serves.exec`: the invariant, one statement at a time;
* `serving_shielded`: schedules that meet the condition;
* `failed_update_selected`: an update re-run that fails.
-/
import Networker.ControlPlane.DeclaredTargets
import Networker.ControlPlane.Statements
import Networker.ControlPlane.System

namespace Networker

open Data Concurrency OrphanReaper

/-! ### The property -/

/-- As long as the deployment has endpoints, its VM name is protected: a sweep that reads
the deployments now selects nothing that is named after it, whatever it knows about the
testers. -/
def Shielded (h : Host) (w : World) (id : Guid) : Prop :=
  ∀ d v, w.deployments.find? id = some d → d.endpointIps.isSome = true →
    leadName d.config = some v → v ≠ "" →
      v ∈ standingNames w ∧
        ∀ testerIds testerNames known,
          protectedNames h.casing testerNames (liveDeploymentConfigs w) = .ok known →
            ∀ resources, ∀ r ∈ filterOrphans h.casing resources testerIds known,
              Text.startsWithIgnoreCase h.casing r.name v = false

/-- The statement deletes the deployment or leaves it torn down. -/
def Removes (id : Guid) (l : Stmt) (w : World) : Prop :=
  ∃ d ∈ w.deployments.find? id, l.deletes d ∨ (l.onDeployment w.now d).status = .tornDown

instance (id : Guid) (l : Stmt) (w : World) : Decidable (Removes id l w) :=
  inferInstanceAs (Decidable (∃ d ∈ w.deployments.find? id, _ ∨ _))

/-- In every state of the schedule up to the deletion or the teardown of the deployment,
it is shielded while it has endpoints. -/
def SurvivesUpdates (h : Host) (c : Sys) (as : List Move) (id : Guid) : Prop :=
  ∀ xs ys, as = xs ++ ys →
    (controlPlane h).Along ((controlPlane h).Meets fun l w => ¬ Removes id l w) c xs →
      Shielded h ((controlPlane h).after c xs).state id

/-! ### The condition -/

/-- A failing `FinishAsync`, a stop and a reap of the watchdog. -/
def DeploymentWrite.endsBadly : DeploymentWrite → Bool
  | .finish args _ => !args.success
  | .stop _ | .reap .. => true
  | _ => false

/-- No write that ends an attempt badly takes effect on the deployment while it has
endpoints. -/
def SparesServing (id : Guid) (l : Stmt) (w : World) : Prop :=
  ∀ p ∈ l.deploymentWrite?, p.1 = id → p.2.endsBadly = true →
    w.deployments.hits id (fun d => p.2.guard d && d.endpointIps.isSome) = false

instance (id : Guid) (l : Stmt) (w : World) : Decidable (SparesServing id l w) :=
  inferInstanceAs (Decidable (∀ p ∈ l.deploymentWrite?, _ → _ → _))

/-! ### The invariant -/

/-- While it has endpoints, the deployment is live. -/
def Serves (id : Guid) (w : World) : Prop :=
  ∀ d, w.deployments.find? id = some d → d.endpointIps.isSome = true → isLive d = true

/-- A write that neither tears the deployment down nor ends an attempt badly while there
are endpoints keeps a serving deployment live. -/
lemma DeploymentWrite.isLive_set {u : DeploymentWrite} {t : Time} {d : Deployment}
    (hd : d.endpointIps.isSome = true → isLive d = true)
    (hbad : u.endsBadly = true → d.endpointIps.isSome = false)
    (hstay : (u.set t d).status ≠ .tornDown) (hips : (u.set t d).endpointIps.isSome = true) :
    isLive (u.set t d) = true := by
  cases u with
  | setRunning now => rfl
  | finish args now =>
      by_cases hsucc : args.success = true
      · simp [set, hsucc, isLive]
      · have hnone := hbad (by simpa [endsBadly] using hsucc)
        have hsome : d.endpointIps.isSome = true := by simpa [set, hsucc] using hips
        rw [hnone] at hsome
        exact absurd hsome Bool.false_ne_true
  | flushLog log | stampInstallStart => exact hd hips
  | stop now | reap status basis error now =>
      have hnone := hbad rfl
      have hsome : d.endpointIps.isSome = true := hips
      rw [hnone] at hsome
      exact absurd hsome Bool.false_ne_true
  | claimTeardown prior | releaseFailed => exact absurd rfl hstay

/-- The invariant, one statement at a time. -/
lemma Serves.exec {id : Guid} {l : Stmt} {w : World} (hw : Serves id w)
    (hspare : SparesServing id l w) (hstay : ¬ Removes id l w) : Serves id (l.exec w) := by
  intro d' hd' hips
  rcases deployments_exec_cases hd' with ⟨d, hd, -, rfl⟩ | ⟨spec, now, -, -, rfl⟩
  · have hid : d.deploymentId = id := Table.key_of_find? hd
    have hnot : (l.onDeployment w.now d).status ≠ .tornDown := fun htorn =>
      hstay ⟨d, hd, Or.inr htorn⟩
    rw [Stmt.onDeployment] at hnot hips ⊢
    cases hwrite : l.deploymentWrite? with
    | none =>
        simp only [hwrite] at hips ⊢
        exact hw d hd hips
    | some p =>
        simp only [hwrite] at hnot hips ⊢
        split_ifs at hnot hips ⊢ with hcond
        · refine DeploymentWrite.isLive_set (hw d hd) (fun hbad => ?_) hnot hips
          have hmiss := hspare p hwrite (hcond.1.symm.trans hid) hbad
          have hfalse := Table.hits_eq_false_iff.mp hmiss d hd
          rwa [hcond.2, Bool.true_and] at hfalse
        · exact hw d hd hips
  · exact absurd hips Bool.false_ne_true

/-- A live deployment is shielded. -/
lemma Serves.shielded {h : Host} {id : Guid} {w : World} (hw : Serves id w) : Shielded h w id := by
  intro d v hd hips hlead hne
  have hconfig : d.config ∈ liveDeploymentConfigs w :=
    List.mem_map.mpr ⟨d, List.mem_filter.mpr ⟨Table.mem_of_find? hd, hw d hd hips⟩, rfl⟩
  have hname : v ∈ (liveDeploymentConfigs w).filterMap leadName :=
    List.mem_filterMap.mpr ⟨d.config, hconfig, hlead⟩
  refine ⟨List.mem_filter.mpr ⟨List.mem_append_right _ hname, by simpa using hne⟩, ?_⟩
  intro testerIds testerNames known hknown resources r hr
  rw [protectedNames_eq] at hknown
  split_ifs at hknown
  obtain rfl := Except.ok.inj hknown
  obtain ⟨-, -, -, hunknown⟩ := mem_filterOrphans.mp hr
  rw [Bool.eq_false_iff] at hunknown ⊢
  intro hext
  refine hunknown (startsWithKnownVmName_iff.mpr ⟨v, List.mem_filter.mpr ⟨?_, ?_⟩, hext⟩)
  · refine List.mem_append_right _ ?_
    rwa [List.filterMap_map]
  · simpa using hne

/-- **Serving deployments and the orphan reaper.**  In every schedule of the control plane
in which a deployment is created and no failing finish, stop or reap lands on it while it
has endpoints, its VM stays out of the reach of the reaper until it is deleted or torn
down. -/
theorem serving_shielded (h : Host) (w : World) (as : List Move) (id : Guid)
    (new : w.deployments.find? id = none)
    (spares : (controlPlane h).Along ((controlPlane h).Meets (SparesServing id)) (.fresh w) as) :
    SurvivesUpdates h (.fresh w) as id := by
  intro xs ys heq hstay
  subst heq
  obtain ⟨hxs, -⟩ := System.along_append.mp spares
  have hnew : Serves id w := fun d hd => absurd (new.symm.trans hd) (by simp)
  have hserves : Serves id ((controlPlane h).after (.fresh w) xs).state :=
    System.after_inv (I := Serves id) (fun l s hs hl => hs.exec hl.1 hl.2) hnew xs
      (System.along_meets_and hxs hstay)
  exact hserves.shielded

namespace UpdatedDeployment

def config : Json :=
  .obj [("endpoints", .arr [.obj [("provider", .str "azure"),
    ("azure", .obj [("vm_name", .str "nwk-ep-a")])]])]

def world : World := World.initial

def succeeds : FinishArgs := ⟨true, ["10.0.0.4"], none, none, none, some 0, none⟩

def fails : FinishArgs :=
  ⟨false, [], none, none, some "install.sh exited with code 1", some 1, none⟩

/-- A deployment is created, and its attempt ends. -/
def created (args : FinishArgs) : List Move :=
  .start (.createDeployment "p" "a" config none) :: steps 0 3 ++
    .start (.deploy 0 0 (.ran [] args false)) :: steps 1 6

/-- The deployment is updated, and the attempt of the update ends. -/
def updated (args : FinishArgs) : List Move :=
  .start (.updateDeployment "p" 0) :: steps 2 2 ++
    .start (.deploy 1 0 (.ran [] args false)) :: steps 3 6

/-- A network card of the VM. -/
def nic : RawResource := ⟨"/nic/1", "nwk-ep-a-nic", "nic", "azure"⟩

end UpdatedDeployment

open UpdatedDeployment in
/-- The create fails and the update succeeds. -/
theorem serving_shielded_updated :
    SurvivesUpdates Host.plain (.fresh world) (created fails ++ updated succeeds) 0 :=
  serving_shielded Host.plain world _ 0 (by decide) (by decide +kernel)

open UpdatedDeployment in
/-- After a failed update a sweep selects the network card of the VM that still serves. -/
theorem failed_update_selected :
    ¬ SurvivesUpdates Host.plain (.fresh world) (created succeeds ++ updated fails) 0 := by
  intro hsurvives
  have hshielded := hsurvives _ [] (List.append_nil _).symm (by decide +kernel)
  have hserving : ((controlPlane Host.plain).after (.fresh world)
      (created succeeds ++ updated fails)).state.deployments.hits 0 (fun d =>
        d.endpointIps.isSome && leadName d.config == some "nwk-ep-a") = true := by decide +kernel
  have hlive : (liveDeploymentConfigs ((controlPlane Host.plain).after (.fresh world)
      (created succeeds ++ updated fails)).state).isEmpty = true := by decide +kernel
  obtain ⟨d, hd, hcond⟩ := Table.hits_iff.mp hserving
  rw [Bool.and_eq_true, beq_iff_eq] at hcond
  obtain ⟨-, hspared⟩ := hshielded d "nwk-ep-a" hd hcond.1 hcond.2 (by decide)
  rw [List.isEmpty_iff.mp hlive] at hspared
  have hnic := hspared [] [] [] rfl [nic] nic (by decide)
  exact absurd hnic (by decide)

end Networker
