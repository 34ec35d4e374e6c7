/-
The VMs of a dashboard benchmark and its teardown.

* `LeaksNothing`: what auto-teardown promises of the fleet behind a run;
* `Provisions`, `Creates`, `TearsDown`, `Disposes`: what a testbed does to the fleet it meets;
* `fleetAfter`: the fleet behind the testbeds of a run;
* `Accounted`: when every VM of a run is disposed of, and no other one;
* `comes_visit`, `comes_execute`: a run changes the fleet as said;
* `condemned_fleetAfter_iff`: which of the VMs that are there are condemned later;
* `leaksNothing_iff_accounted`: when the teardown keeps its promise.
-/
import Networker.BenchOrchestrator.CompletionStatus
import Networker.BenchOrchestrator.Provisioner

namespace Networker

open Data Concurrency

namespace BenchOrchestrator

/-- A run has issued a destroy for every VM it has made, and for no other one. -/
structure LeaksNothing (run : ℕ) (F : Fleet) : Prop where
  destroyed : ∀ serial, .made run serial ∈ F.created → (run, .made run serial) ∈ F.condemned
  own : ∀ v, (run, v) ∈ F.condemned → ∃ serial, v = .made run serial ∧ v ∈ F.created

/-! ### What a testbed does to the fleet -/

/-- The lookup of a VM that is there sends the run to provision all the same. -/
def ShowReply.sendsOn : ShowReply → Bool
  | .failed => true
  | .garbled => false
  | .found ip _ => ip == ""

/-- The address that the command that makes a VM brings. -/
def CreateReply.hasIp : CreateReply → Bool
  | .made ip => ip != ""
  | _ => false

/-- `az vm create` brings no address, and the run looks the VM up. -/
def CreateReply.looksUp : CreateReply → Bool
  | .failed => true
  | .garbled => false
  | .made ip => ip == ""

def CreateReply.isMade : CreateReply → Bool
  | .made _ => true
  | _ => false

/-- The work on a testbed for which a VM was provisioned ends without an error. -/
def workEnds (config : DashboardBenchmarkConfig) (trials : TestbedTrials) : Bool :=
  trials.sshReady && (!config.isApplication || (trials.testerFound &&
    match lockEnd trials with
    | .acquired => trials.panicAfter.isNone
    | .queued => true
    | .failed => false))

namespace DashboardRun

variable (r : DashboardRun) (testbed : TestbedConfig) (i : ℕ) (F : Fleet)

/-- The name of the VM of a testbed. -/
def nameOf : String := vmName testbed (r.placement i)

def provider? : Option CloudProvider := cloudProvider? (r.placement i).cloud

/-- Where the VM of a testbed is made. -/
def placeOf : Option Place :=
  match r.provider? i with
  | some .azure => some (.azure (r.nameOf testbed i))
  | some .aws => some (.aws (r.trials i).instanceId)
  | some .gcp => some (.gcp (r.nameOf testbed i) (r.placement i).region)
  | none => none

/-- The testbed needs a new VM. -/
def provisions : Bool :=
  testbed.existingVmIp.isNone &&
    ((F.vms (.azure (r.nameOf testbed i))).isNone || (r.trials i).lookup.sendsOn)

/-- The names whose VMs the reaper of the testbed deletes. -/
def reaped : List String :=
  if r.provisions testbed i F ∧ r.provider? i = some .azure then F.ownedOf (r.trials i).reached
  else []

/-- The testbed makes a VM at the place, which is free, or freed by its reaper. -/
def Creates (place : Place) : Prop :=
  r.provisions testbed i F = true ∧ r.placeOf testbed i = some place ∧
    (r.trials i).createTakes = true ∧
    (F.vms place = none ∨
      ∃ name ∈ r.reaped testbed i F, place = .azure name ∧ (r.trials i).reapLands name = true)

/-- What the commands that make a VM bring is taken for a VM. -/
def provisionEnds : Bool :=
  let t := r.trials i
  match r.provider? i with
  | some .azure => t.createReply.hasIp || (t.createReply.looksUp && t.createLookup.hasIp)
  | some .aws => t.createReply.isMade && t.publicIp.isSome
  | some .gcp => t.createReply.hasIp
  | none => false

/-- The testbed provisions, ends without an error and is torn down, and the lookup answers. -/
def tearsDown : Bool :=
  r.provisions testbed i F && r.provisionEnds i &&
    workEnds r.config (r.outcomes.testbed i) && r.config.autoTeardown &&
    (r.trials i).teardownLookup.isFound

/-- The testbed deletes the VM of the name. -/
def Disposes (name : String) : Prop :=
  name ∈ r.reaped testbed i F ∨ (r.tearsDown testbed i F = true ∧ name = r.nameOf testbed i)

/-- A fleet behind the reaper of a testbed. -/
def reap (names : List String) : Fleet :=
  names.foldl (fun G name => G.condemn r.run (.azure name) ((r.trials i).reapLands name)) F

/-- The fleet behind the reaper and the command that makes a VM. -/
def provisioned : Fleet :=
  let G := r.reap i F (r.reaped testbed i F)
  (r.placeOf testbed i).elim G fun place => G.make r.run place (r.trials i).createTakes

/-- The fleet behind a testbed. -/
def afterVisit : Fleet :=
  if r.provisions testbed i F then
    if r.tearsDown testbed i F then
      (r.provisioned testbed i F).condemn r.run (.azure (r.nameOf testbed i))
        (r.trials i).destroyLands
    else r.provisioned testbed i F
  else F

/-- The fleet behind the testbeds of a run, until it is cancelled. -/
def fleetAfter : List (TestbedConfig × ℕ) → Fleet → Fleet
  | [], F => F
  | (testbed, i) :: rest, F =>
      if r.outcomes.raised (.beforeTestbed i) then F
      else fleetAfter rest (r.afterVisit testbed i F)

/-- One of the testbeds deletes the VM of the name. -/
def DisposedBy (name : String) : List (TestbedConfig × ℕ) → Fleet → Prop
  | [], _ => False
  | (testbed, i) :: rest, F =>
      r.outcomes.raised (.beforeTestbed i) = false ∧
        (r.Disposes testbed i F name ∨ DisposedBy name rest (r.afterVisit testbed i F))

/-- A VM that a testbed makes is one of Azure, and the testbed itself is torn down or a later
one deletes the VM; and what a testbed deletes was not there before the runs. -/
def Accounted : List (TestbedConfig × ℕ) → Fleet → Prop
  | [], _ => True
  | (testbed, i) :: rest, F =>
      r.outcomes.raised (.beforeTestbed i) = true ∨
        ((∀ place, r.Creates testbed i F place → r.provider? i = some .azure ∧
            (r.tearsDown testbed i F = true ∨
              r.DisposedBy (r.nameOf testbed i) rest (r.afterVisit testbed i F))) ∧
          (∀ name, r.Disposes testbed i F name → ∀ n, F.vms (.azure name) ≠ some (.earlier n)) ∧
          Accounted rest (r.afterVisit testbed i F))

end DashboardRun

/-! ### A run and its fleet -/

section Comes

variable {α β : Type}

/-- Run alone, the process comes to an end with a fleet. -/
def Comes (p : CloudSvc α) (w : CloudWorld) (x : Except CloudError α) (F : Fleet) : Prop :=
  ∃ w', p.run CloudStmt.exec w = (x, w') ∧ w'.toFleet = F

variable {p : CloudSvc α} {f : α → CloudSvc β} {w : CloudWorld} {F G : Fleet}

lemma comes_ret (a : α) : Comes (.ret a) w (.ok a) w.toFleet := ⟨w, rfl, rfl⟩

lemma comes_raise (e : CloudError) : Comes (.raise e : CloudSvc α) w (.error e) w.toFleet :=
  ⟨w, rfl, rfl⟩

lemma comes_issue (l : CloudStmt) (g : CloudWorld → α) :
    Comes (.issue l g) w (.ok (g w)) (l.exec w).toFleet := ⟨l.exec w, rfl, rfl⟩

lemma Comes.bind {a : α} {y : Except CloudError β} (hp : Comes p w (.ok a) F)
    (hf : ∀ w', w'.toFleet = F → Comes (f a) w' y G) : Comes (p >>= f) w y G := by
  obtain ⟨w', hrun, hfleet⟩ := hp
  obtain ⟨w'', hrun', hfleet'⟩ := hf w' hfleet
  exact ⟨w'', (Proc.run_bind_ok _ hrun).trans hrun', hfleet'⟩

/-- Whatever the second process comes to. -/
lemma Comes.bind_some {P : Except CloudError β → Prop} {a : α} (hp : Comes p w (.ok a) F)
    (hf : ∀ w', w'.toFleet = F → ∃ y, Comes (f a) w' y G ∧ P y) :
    ∃ y, Comes (p >>= f) w y G ∧ P y := by
  obtain ⟨w', hrun, hfleet⟩ := hp
  obtain ⟨y, ⟨w'', hrun', hfleet'⟩, hy⟩ := hf w' hfleet
  exact ⟨y, ⟨w'', (Proc.run_bind_ok _ hrun).trans hrun', hfleet'⟩, hy⟩

lemma Comes.bind_error {e : CloudError} (hp : Comes p w (.error e) F) :
    Comes (p >>= f) w (.error e) F := by
  obtain ⟨w', hrun, hfleet⟩ := hp
  exact ⟨w', Proc.run_bind_error _ hrun, hfleet⟩

/-- A result whose error is handled. -/
def handled (h : CloudError → α) : Except CloudError α → α
  | .ok a => a
  | .error e => h e

/-- An error that is handled without a command. -/
lemma Comes.rescue {x : Except CloudError α} {h : CloudError → α} (hp : Comes p w x F) :
    Comes (p.rescue fun e => .ret (h e)) w (.ok (handled h x)) F := by
  obtain ⟨w', hrun, hfleet⟩ := hp
  refine ⟨w', ?_, hfleet⟩
  rw [Proc.run_rescue, hrun]
  cases x with
  | ok a => rfl
  | error e => rfl

end Comes

section Specs

variable {w : CloudWorld} {run : ℕ} {name : String}

@[simp] lemma toFleet_refer : (w.refer run name).toFleet = w.toFleet := by
  rw [CloudWorld.refer]
  split_ifs <;> rfl

@[simp] lemma toFleet_dropRef : (w.dropRef run name).toFleet = w.toFleet := rfl

@[simp] lemma toFleet_onFleet {f : Fleet → Fleet} : (w.onFleet f).toFleet = f w.toFleet := rfl

lemma toFleet_vmShow {adopts : Bool} :
    ((CloudStmt.vmShow run name adopts).exec w).toFleet = w.toFleet := by
  rw [CloudStmt.exec]
  split_ifs
  · exact toFleet_refer
  · rfl

lemma toFleet_create {place : Place} {takes : Bool} :
    ((CloudStmt.create run place takes).exec w).toFleet = w.toFleet.make run place takes := by
  cases place with
  | azure name => exact toFleet_refer
  | aws instanceId => rfl
  | gcp name zone => rfl

lemma toFleet_destroy {place : Place} {lands : Bool} :
    ((CloudStmt.destroy run place lands).exec w).toFleet = w.toFleet.condemn run place lands := by
  cases place with
  | azure name => rfl
  | aws instanceId => rfl
  | gcp name zone => rfl

/-- What a lookup of a VM that is there brings. -/
def ShowReply.result (name : String) : ShowReply → Except CloudError (Option VmInfo)
  | .failed => .ok none
  | .garbled => .error .showJson
  | .found ip location => .ok (some ⟨name, ip, "azure", location, resourceGroupName⟩)

/-- What a lookup brings. -/
def lookedUp (name : String) (reply : ShowReply) (F : Fleet) :
    Except CloudError (Option VmInfo) :=
  if (F.vms (.azure name)).isSome then reply.result name else .ok none

lemma comes_findExistingVm (reply : ShowReply) (adopts : Bool) :
    Comes (findExistingVm run name reply adopts) w (lookedUp name reply w.toFleet) w.toFleet := by
  have hshow := comes_issue (.vmShow run name adopts)
    (fun w : CloudWorld => (w.vms (.azure name)).isSome) (w := w)
  rw [toFleet_vmShow] at hshow
  refine hshow.bind fun w' hw' => ?_
  rw [lookedUp, ← hw']
  split_ifs
  · cases reply with
    | failed => exact comes_ret none
    | garbled => exact comes_raise .showJson
    | found ip location => exact comes_ret _
  · exact comes_ret none

/-- The lookup behind `az vm create`. -/
lemma comes_lookUpCreated (t : CloudTrials) (region : String) :
    ∃ x, Comes (lookUpCreated run t region name) w x w.toFleet ∧
      ((∃ vm, x = .ok vm) ↔ t.createLookup.hasIp = true ∧
        (w.toFleet.vms (.azure name)).isSome = true) := by
  have hfind := @comes_findExistingVm w run name t.createLookup t.createLookup.hasIp
  rw [lookedUp] at hfind
  by_cases hthere : (w.toFleet.vms (.azure name)).isSome = true
  · rw [if_pos hthere] at hfind
    cases hreply : t.createLookup with
    | failed =>
        rw [hreply] at hfind
        refine ⟨.error .notCreated, ?_, by simp [ShowReply.hasIp]⟩
        rw [lookUpCreated, hreply]
        exact hfind.bind fun w' hw' => hw' ▸ comes_raise .notCreated
    | garbled =>
        rw [hreply] at hfind
        refine ⟨.error .showJson, ?_, by simp [ShowReply.hasIp]⟩
        rw [lookUpCreated, hreply]
        exact hfind.bind_error
    | found ip location =>
        rw [hreply] at hfind
        by_cases hip : ip = ""
        · refine ⟨.error .notCreated, ?_, by simp [ShowReply.hasIp, hip]⟩
          rw [lookUpCreated, hreply]
          refine hfind.bind fun w' hw' => ?_
          simp only [if_pos hip]
          exact hw' ▸ comes_raise .notCreated
        · refine ⟨.ok ⟨name, ip, "azure", region, resourceGroupName⟩, ?_,
            by simp [ShowReply.hasIp, hip, hthere]⟩
          rw [lookUpCreated, hreply]
          refine hfind.bind fun w' hw' => ?_
          simp only [if_neg hip]
          exact hw' ▸ comes_ret _
  · rw [if_neg hthere] at hfind
    refine ⟨.error .notCreated, ?_, by simp [hthere]⟩
    exact hfind.bind fun w' hw' => hw' ▸ comes_raise .notCreated

/-- The command that makes a VM, and the fleet behind it. -/
lemma comes_create (place : Place) (takes : Bool) :
    Comes (.issue (.create run place takes) fun _ => () : CloudSvc Unit) w (.ok ())
      (w.toFleet.make run place takes) := by
  have hcreate := comes_issue (.create run place takes) (fun _ : CloudWorld => ()) (w := w)
  rwa [toFleet_create] at hcreate

lemma comes_provisionAzure (t : CloudTrials) (region : String) :
    ∃ x, Comes (provisionAzure run t region name) w x
        (w.toFleet.make run (.azure name) t.createTakes) ∧
      ((∃ vm, x = .ok vm) ↔ t.createReply.hasIp = true ∨ (t.createReply.looksUp = true ∧
        t.createLookup.hasIp = true ∧
          ((w.toFleet.make run (.azure name) t.createTakes).vms (.azure name)).isSome = true)) := by
  have hlookup : ∀ w' : CloudWorld, w'.toFleet = w.toFleet.make run (.azure name) t.createTakes →
      ∃ x, Comes (lookUpCreated run t region name) w' x
          (w.toFleet.make run (.azure name) t.createTakes) ∧
        ((∃ vm, x = .ok vm) ↔ t.createLookup.hasIp = true ∧
          ((w.toFleet.make run (.azure name) t.createTakes).vms (.azure name)).isSome = true) := by
    intro w' hw'
    rw [← hw']
    exact comes_lookUpCreated t region
  rw [provisionAzure]
  refine (comes_create (.azure name) t.createTakes).bind_some fun w' hw' => ?_
  cases hreply : t.createReply with
  | garbled =>
      refine ⟨.error .createJson, hw' ▸ comes_raise _, ?_⟩
      simp [CreateReply.hasIp, CreateReply.looksUp]
  | failed =>
      obtain ⟨x, hx, hiff⟩ := hlookup w' hw'
      exact ⟨x, hx, by simp [hiff, CreateReply.hasIp, CreateReply.looksUp]⟩
  | made ip =>
      by_cases hip : ip = ""
      · obtain ⟨x, hx, hiff⟩ := hlookup w' hw'
        simp only [if_pos hip]
        exact ⟨x, hx, by simp [hiff, CreateReply.hasIp, CreateReply.looksUp, hip]⟩
      · simp only [if_neg hip]
        exact ⟨_, hw' ▸ comes_ret _, by simp [CreateReply.hasIp, hip]⟩

lemma comes_provisionAws (t : CloudTrials) (region : String) :
    ∃ x, Comes (provisionAws run t region name) w x
        (w.toFleet.make run (.aws t.instanceId) t.createTakes) ∧
      ((∃ vm, x = .ok vm) ↔ t.createReply.isMade = true ∧ t.publicIp.isSome = true) := by
  rw [provisionAws]
  refine (comes_create (.aws t.instanceId) t.createTakes).bind_some fun w' hw' => ?_
  cases hreply : t.createReply with
  | failed => exact ⟨_, hw' ▸ comes_raise .runInstances, by simp [CreateReply.isMade]⟩
  | garbled => exact ⟨_, hw' ▸ comes_raise .noInstanceId, by simp [CreateReply.isMade]⟩
  | made ip =>
      cases hip : t.publicIp with
      | none => exact ⟨_, hw' ▸ comes_raise .noPublicIp, by simp⟩
      | some ip => exact ⟨_, hw' ▸ comes_ret _, by simp [CreateReply.isMade]⟩

lemma comes_provisionGcp (t : CloudTrials) (zone : String) :
    ∃ x, Comes (provisionGcp run t zone name) w x
        (w.toFleet.make run (.gcp name zone) t.createTakes) ∧
      ((∃ vm, x = .ok vm) ↔ t.createReply.hasIp = true) := by
  rw [provisionGcp]
  refine (comes_create (.gcp name zone) t.createTakes).bind_some fun w' hw' => ?_
  cases hreply : t.createReply with
  | failed => exact ⟨_, hw' ▸ comes_raise .gcloudCreate, by simp [CreateReply.hasIp]⟩
  | garbled => exact ⟨_, hw' ▸ comes_raise .createJson, by simp [CreateReply.hasIp]⟩
  | made ip =>
      by_cases hip : ip = ""
      · simp only [if_pos hip]
        exact ⟨_, hw' ▸ comes_raise .noExternalIp, by simp [CreateReply.hasIp, hip]⟩
      · simp only [if_neg hip]
        exact ⟨_, hw' ▸ comes_ret _, by simp [CreateReply.hasIp, hip]⟩

variable {r : DashboardRun} {testbed : TestbedConfig} {i : ℕ}

lemma comes_reapOrphans :
    Comes (reapOrphansBestEffort r.run (r.trials i)) w (.ok ())
      (r.reap i w.toFleet (w.toFleet.ownedOf (r.trials i).reached)) := by
  have hloop : ∀ (names : List String) (w : CloudWorld), Comes (Proc.each
      (fun name => (.issue (.reap r.run name ((r.trials i).reapLands name)) fun _ => () :
        CloudSvc Unit)) names) w (.ok ()) (r.reap i w.toFleet names) := by
    intro names
    induction names with
    | nil => exact fun w => comes_ret ()
    | cons name names ih =>
        refine fun w => (comes_issue _ _).bind fun w' hw' => ?_
        have hrest := ih w'
        rw [hw'] at hrest
        exact hrest
  exact (comes_issue _ _).bind fun w' hw' => hw' ▸ hloop _ w'

/-- The reaper of a testbed that provisions. -/
lemma comes_reaper (hp : r.provisions testbed i w.toFleet = true) :
    Comes (orphanCleanup r.run (r.trials i) (r.placement i).cloud) w (.ok ())
      (r.reap i w.toFleet (r.reaped testbed i w.toFleet)) := by
  rw [DashboardRun.reaped, orphanCleanup, ← DashboardRun.provider?]
  by_cases hazure : r.provider? i = some .azure
  · rw [if_pos hazure, if_pos ⟨hp, hazure⟩]
    exact comes_reapOrphans
  · rw [if_neg hazure, if_neg fun h => hazure h.2]
    exact comes_ret ()

/-- The commands that make a VM come to one that the run goes on with, unless the fleet
behind them has none under the name. -/
def Brings {α : Type} (r : DashboardRun) (testbed : TestbedConfig) (i : ℕ) (F : Fleet)
    (x : Except CloudError α) : Prop :=
  ((∃ a, x = .ok a) → r.provisionEnds i = true) ∧
    (r.provisionEnds i = true → (∃ a, x = .ok a) ∨
      F.vms (.azure (r.nameOf testbed i)) = none)

lemma Brings.of_iff {α : Type} {F : Fleet} {x : Except CloudError α}
    (h : (∃ a, x = .ok a) ↔ r.provisionEnds i = true) : Brings r testbed i F x :=
  ⟨h.mp, fun hends => Or.inl (h.mpr hends)⟩

/-- The command that makes the VM, on every cloud. -/
lemma comes_make :
    ∃ x, Comes (match r.provider? i with
        | some .azure =>
            provisionAzure r.run (r.trials i) (r.placement i).region (r.nameOf testbed i)
        | some .aws => provisionAws r.run (r.trials i) (r.placement i).region (r.nameOf testbed i)
        | some .gcp => provisionGcp r.run (r.trials i) (r.placement i).region (r.nameOf testbed i)
        | none => .raise .unsupportedCloud) w x
        ((r.placeOf testbed i).elim w.toFleet fun place =>
          w.toFleet.make r.run place (r.trials i).createTakes) ∧
      Brings r testbed i ((r.placeOf testbed i).elim w.toFleet fun place =>
          w.toFleet.make r.run place (r.trials i).createTakes) x := by
  rw [DashboardRun.placeOf]
  cases hprovider : r.provider? i with
  | none =>
      refine ⟨_, comes_raise _, Brings.of_iff ?_⟩
      simp [DashboardRun.provisionEnds, hprovider]
  | some provider =>
      cases provider with
      | aws =>
          obtain ⟨x, hx, hiff⟩ := @comes_provisionAws w r.run (r.nameOf testbed i) (r.trials i)
            (r.placement i).region
          exact ⟨x, hx, Brings.of_iff (hiff.trans (by simp [DashboardRun.provisionEnds, hprovider]))⟩
      | gcp =>
          obtain ⟨x, hx, hiff⟩ := @comes_provisionGcp w r.run (r.nameOf testbed i) (r.trials i)
            (r.placement i).region
          exact ⟨x, hx, Brings.of_iff (hiff.trans (by simp [DashboardRun.provisionEnds, hprovider]))⟩
      | azure =>
          obtain ⟨x, hx, hiff⟩ := @comes_provisionAzure w r.run (r.nameOf testbed i) (r.trials i)
            (r.placement i).region
          refine ⟨x, hx, fun hok => ?_, fun hends => ?_⟩
          · rcases hiff.mp hok with h | h <;> simp [DashboardRun.provisionEnds, hprovider, h]
          · simp only [DashboardRun.provisionEnds, hprovider, Bool.or_eq_true,
              Bool.and_eq_true] at hends
            rw [hiff]
            rcases hends with h | ⟨hlooks, hip⟩
            · exact Or.inl (Or.inl h)
            · by_cases hthere : ((w.toFleet.make r.run (.azure (r.nameOf testbed i))
                  (r.trials i).createTakes).vms (.azure (r.nameOf testbed i))).isSome = true
              · exact Or.inl (Or.inr ⟨hlooks, hip, hthere⟩)
              · exact Or.inr (Option.not_isSome_iff_eq_none.mp hthere)

/-- The VM of a testbed that needs a new one. -/
lemma comes_provisionTestbed (hp : r.provisions testbed i w.toFleet = true) :
    ∃ x, Comes (provisionTestbed r.run (r.trials i) testbed (r.placement i)) w x
        (r.provisioned testbed i w.toFleet) ∧
      Brings r testbed i (r.provisioned testbed i w.toFleet) x ∧
      ∀ vm, x = .ok vm → vm.2 = true := by
  have hvm : ∃ x, Comes (provisionVm r.run (r.trials i) (r.placement i).cloud
      (r.placement i).region (r.nameOf testbed i)) w x (r.provisioned testbed i w.toFleet) ∧
        Brings r testbed i (r.provisioned testbed i w.toFleet) x := by
    refine (comes_reaper hp).bind_some fun w' hw' => ?_
    have hmake := @comes_make w' r testbed i
    rw [hw'] at hmake
    exact hmake
  obtain ⟨x, hx, hbrings⟩ := hvm
  rw [provisionTestbed]
  cases x with
  | ok vm =>
      refine ⟨.ok (vm, true), hx.bind fun w' hw' => hw' ▸ comes_ret _, ?_, ?_⟩
      · exact ⟨fun _ => hbrings.1 ⟨vm, rfl⟩, fun _ => Or.inl ⟨_, rfl⟩⟩
      · intro resolved hresolved
        rw [← Except.ok.inj hresolved]
  | error e =>
      refine ⟨.error e, hx.bind_error, ⟨nofun, fun hends => Or.inr ?_⟩, nofun⟩
      exact (hbrings.2 hends).resolve_left nofun

/-! ### A testbed and its fleet -/

/-- A VM that is not provisioned for the testbed. -/
lemma comes_resolve_of_not (hp : r.provisions testbed i w.toFleet = false) :
    ∃ x, Comes (resolveVm r.run (r.trials i) testbed (r.placement i)) w x w.toFleet ∧
      ∀ vm, x = .ok vm → vm.2 = false := by
  rw [resolveVm]
  cases hip : testbed.existingVmIp with
  | some ip =>
      by_cases hvalid : validateIp ip (cloudProvider? (r.placement i).cloud).isSome = true
      · simp only [hvalid, if_true]
        have hconnect := comes_issue (.connect r.run (r.trials i).addressOf)
          (fun _ : CloudWorld => ()) (w := w)
        have hfleet : ((CloudStmt.connect r.run (r.trials i).addressOf).exec w).toFleet =
            w.toFleet := by
          rw [CloudStmt.exec]
          cases (r.trials i).addressOf with
          | none => rfl
          | some name => exact toFleet_refer
        rw [hfleet] at hconnect
        refine ⟨_, hconnect.bind fun w' hw' => hw' ▸ comes_ret _, fun vm hvm => ?_⟩
        rw [← Except.ok.inj hvm]
      · simp only [hvalid]
        exact ⟨_, comes_raise _, nofun⟩
  | none =>
      have hfind := @comes_findExistingVm w r.run (r.nameOf testbed i) (r.trials i).lookup
        (r.trials i).lookup.hasIp
      simp only [DashboardRun.provisions, hip, Option.isNone_none, Bool.true_and,
        Bool.or_eq_false_iff] at hp
      obtain ⟨hthere, hreply⟩ := hp
      rw [lookedUp, if_pos (by simpa using hthere)] at hfind
      cases hlookup : (r.trials i).lookup with
      | failed =>
          rw [hlookup] at hreply
          exact absurd hreply (by simp [ShowReply.sendsOn])
      | garbled =>
          rw [hlookup] at hfind
          exact ⟨_, hfind.bind_error, nofun⟩
      | found ip location =>
          rw [hlookup] at hfind hreply
          have hne : ¬ ip = "" := by simpa [ShowReply.sendsOn] using hreply
          refine ⟨.ok (⟨r.nameOf testbed i, ip, "azure", location, resourceGroupName⟩, false),
            hfind.bind fun w' hw' => ?_, ?_⟩
          · simp only [if_neg hne]
            exact hw' ▸ comes_ret _
          · intro vm hvm
            rw [← Except.ok.inj hvm]

/-- A VM that is provisioned for the testbed. -/
lemma comes_resolve_of_provisions (hp : r.provisions testbed i w.toFleet = true) :
    ∃ x, Comes (resolveVm r.run (r.trials i) testbed (r.placement i)) w x
        (r.provisioned testbed i w.toFleet) ∧
      Brings r testbed i (r.provisioned testbed i w.toFleet) x ∧
      ∀ vm, x = .ok vm → vm.2 = true := by
  have hprovision : ∀ w' : CloudWorld, w'.toFleet = w.toFleet →
      ∃ x, Comes (provisionTestbed r.run (r.trials i) testbed (r.placement i)) w' x
          (r.provisioned testbed i w.toFleet) ∧
        Brings r testbed i (r.provisioned testbed i w.toFleet) x ∧
        ∀ vm, x = .ok vm → vm.2 = true := by
    intro w' hw'
    rw [← hw'] at hp ⊢
    exact comes_provisionTestbed hp
  have hfind := @comes_findExistingVm w r.run (r.nameOf testbed i) (r.trials i).lookup
    (r.trials i).lookup.hasIp
  simp only [DashboardRun.provisions, Bool.and_eq_true, Bool.or_eq_true,
    Option.isNone_iff_eq_none] at hp
  obtain ⟨hip, hneeds⟩ := hp
  rw [resolveVm, hip]
  rw [lookedUp] at hfind
  by_cases hthere : (w.toFleet.vms (.azure (r.nameOf testbed i))).isSome = true
  · rw [if_pos hthere] at hfind
    have hreply := hneeds.resolve_left (by simpa using Option.isSome_iff_ne_none.mp hthere)
    cases hlookup : (r.trials i).lookup with
    | failed =>
        rw [hlookup] at hfind
        exact hfind.bind_some hprovision
    | garbled =>
        rw [hlookup] at hreply
        exact absurd hreply (by simp [ShowReply.sendsOn])
    | found ip location =>
        rw [hlookup] at hfind hreply
        have hempty : ip = "" := by simpa [ShowReply.sendsOn] using hreply
        refine hfind.bind_some fun w' hw' => ?_
        simp only [if_pos hempty]
        exact hprovision w' hw'
  · rw [if_neg hthere] at hfind
    exact hfind.bind_some hprovision

/-- Whether the VM is provisioned, if it is resolved. -/
def resolution : Except CloudError (VmInfo × Bool) → Option Bool
  | .ok vm => some vm.2
  | .error _ => none

lemma comes_resolve {x : Except CloudError (VmInfo × Bool)} {F : Fleet}
    (h : Comes (resolveVm r.run (r.trials i) testbed (r.placement i)) w x F) :
    Comes (r.resolve testbed i) w (.ok (resolution x)) F := by
  have hsome : ∀ y, Comes (resolveVm r.run (r.trials i) testbed (r.placement i) >>= fun vm =>
      (.ret (some vm.2) : CloudSvc _)) w y F →
      Comes (r.resolve testbed i) w (.ok (handled (fun _ => none) y)) F :=
    fun y hy => hy.rescue
  cases x with
  | ok vm => exact hsome _ (h.bind fun w' hw' => hw' ▸ comes_ret (some vm.2))
  | error e => exact hsome _ h.bind_error

section Ends

variable {config : DashboardBenchmarkConfig} {o : Outcomes}

lemma testbed_resolved (x : Option Bool) :
    (o.resolved i x).testbed i = { o.testbed i with resolveVm := x } := Function.update_self ..

/-- The end of a testbed whose VM was not resolved. -/
lemma outcome_of_unresolved (h : (o.testbed i).resolveVm = none) :
    (executeTestbed config o i testbed).outcome = none := by
  rw [executeTestbed, h]

/-- The outcome of an application benchmark. -/
lemma outcome_application (b : Bool) :
    (∀ outcome, (executeTestbedApplication config o i testbed b).outcome = some outcome →
      outcome.provisionedVm = b) ∧
    (executeTestbedApplication config o i testbed b).outcome.isSome =
      ((o.testbed i).testerFound && match lockEnd (o.testbed i) with
        | .acquired => (o.testbed i).panicAfter.isNone
        | .queued => true
        | .failed => false) := by
  rw [executeTestbedApplication]
  cases hfound : (o.testbed i).testerFound with
  | false => exact ⟨fun outcome h => absurd h.symm (Option.some_ne_none outcome), rfl⟩
  | true =>
      cases hlock : lockEnd (o.testbed i) with
      | failed => exact ⟨fun outcome h => absurd h.symm (Option.some_ne_none outcome), rfl⟩
      | queued =>
          refine ⟨fun outcome houtcome => ?_, rfl⟩
          rw [← Option.some.inj houtcome]
      | acquired =>
          cases hpanic : (o.testbed i).panicAfter with
          | some n =>
              simp only
              exact ⟨fun outcome h => absurd h.symm (Option.some_ne_none outcome), rfl⟩
          | none =>
              simp only
              refine ⟨fun outcome houtcome => ?_, rfl⟩
              rw [← Option.some.inj houtcome]

/-- The outcome of a testbed whose VM was resolved. -/
lemma outcome_of_resolved {b : Bool} (h : (o.testbed i).resolveVm = some b) :
    (∀ outcome, (executeTestbed config o i testbed).outcome = some outcome →
      outcome.provisionedVm = b) ∧
    (b = true → (executeTestbed config o i testbed).outcome.isSome =
      workEnds config (o.testbed i)) := by
  rw [executeTestbed, h]
  by_cases hssh : (b && !(o.testbed i).sshReady) = true
  · simp only [hssh, if_true]
    refine ⟨fun outcome h => absurd h.symm (Option.some_ne_none outcome), fun _ => ?_⟩
    have hready : (o.testbed i).sshReady = false := by
      simpa using ((Bool.and_eq_true _ _).mp hssh).2
    rw [workEnds, hready]
    rfl
  · have hready : b = true → (o.testbed i).sshReady = true := by
      rintro rfl
      simpa using hssh
    simp only [hssh]
    by_cases happ : config.isApplication = true
    · simp only [happ, if_true]
      obtain ⟨hprovisioned, hsome⟩ := @outcome_application testbed i config o b
      refine ⟨hprovisioned, fun hb => ?_⟩
      simp only [workEnds, hready hb, happ]
      exact hsome
    · simp only [happ]
      refine ⟨fun outcome houtcome => ?_, fun hb => ?_⟩
      · rw [← Option.some.inj houtcome]
      · simp [workEnds, hready hb, happ]

end Ends

/-- A place without a VM has nothing to condemn. -/
lemma Fleet.condemn_of_none {F : Fleet} {place : Place} (h : F.vms place = none) (lands : Bool) :
    F.condemn run place lands = F := by
  have hupdate : Function.update F.vms place none = F.vms :=
    Function.update_eq_self_iff.mpr h.symm
  rw [Fleet.condemn, h, hupdate, ite_self]
  rfl

/-- The command that destroys a VM of Azure. -/
lemma comes_destroyVm (ip location : String) (lands : Bool) :
    ∃ x, Comes (destroyVm run ⟨name, ip, "azure", location, resourceGroupName⟩ lands) w x
      (w.toFleet.condemn run (.azure name) lands) := by
  have hdestroy := comes_issue (.destroy run (.azure name) lands) (fun _ : CloudWorld => ())
    (w := w)
  rw [toFleet_destroy] at hdestroy
  cases lands with
  | true => exact ⟨_, hdestroy.bind fun w' hw' => hw' ▸ comes_ret ()⟩
  | false => exact ⟨_, hdestroy.bind fun w' hw' => hw' ▸ comes_raise .commandFailed⟩

/-- What a teardown does with the VM that it has found. -/
def destroyFound (run : ℕ) (lands : Bool) : Option VmInfo → CloudSvc Unit
  | some vm => destroyVm run vm lands
  | none => return ()

/-- The teardown of a testbed. -/
lemma comes_teardown :
    Comes (teardownTestbed r.run (r.trials i) testbed (r.placement i)) w (.ok ())
      (if (r.trials i).teardownLookup.isFound then
        w.toFleet.condemn r.run (.azure (r.nameOf testbed i)) (r.trials i).destroyLands
      else w.toFleet) := by
  have hfind := @comes_findExistingVm w r.run (r.nameOf testbed i) (r.trials i).teardownLookup
    false
  rw [lookedUp] at hfind
  have hbody : ∃ x, Comes
      (findExistingVm r.run (r.nameOf testbed i) (r.trials i).teardownLookup false >>=
        destroyFound r.run (r.trials i).destroyLands) w x
      (if (r.trials i).teardownLookup.isFound then
        w.toFleet.condemn r.run (.azure (r.nameOf testbed i)) (r.trials i).destroyLands
      else w.toFleet) := by
    by_cases hthere : (w.toFleet.vms (.azure (r.nameOf testbed i))).isSome = true
    · rw [if_pos hthere] at hfind
      cases hreply : (r.trials i).teardownLookup with
      | failed =>
          rw [hreply] at hfind
          exact ⟨_, hfind.bind fun w' hw' => hw' ▸ comes_ret ()⟩
      | garbled =>
          rw [hreply] at hfind
          exact ⟨_, hfind.bind_error⟩
      | found ip location =>
          rw [hreply] at hfind
          obtain ⟨x, hx, -⟩ := hfind.bind_some (P := fun _ => True)
            (G := w.toFleet.condemn r.run (.azure (r.nameOf testbed i)) (r.trials i).destroyLands)
            (f := destroyFound r.run (r.trials i).destroyLands) fun w' hw' => by
            obtain ⟨x, hx⟩ := @comes_destroyVm w' r.run (r.nameOf testbed i) ip location
              (r.trials i).destroyLands
            rw [hw'] at hx
            exact ⟨x, hx, trivial⟩
          exact ⟨x, hx⟩
    · rw [if_neg hthere] at hfind
      have hnone : w.toFleet.vms (.azure (r.nameOf testbed i)) = none := by simpa using hthere
      rw [Fleet.condemn_of_none hnone, ite_self]
      exact ⟨_, hfind.bind fun w' hw' => hw' ▸ comes_ret ()⟩
  obtain ⟨x, hx⟩ := hbody
  exact hx.rescue (h := fun _ => ())

/-- A testbed that is not torn down. -/
lemma comes_visit_of_kept {resolved : Option Bool} {F : Fleet}
    (hresolve : Comes (r.resolve testbed i) w (.ok resolved) F)
    (hkept : ∀ outcome, (r.endOf testbed i resolved).outcome = some outcome →
      (r.config.autoTeardown && outcome.provisionedVm) = false) :
    Comes (r.visit testbed i) w (.ok ()) F := by
  refine hresolve.bind fun w' hw' => ?_
  cases houtcome : (r.endOf testbed i resolved).outcome with
  | none =>
      have hfailed := comes_issue (.testbedFailed r.run (r.groupNameOf testbed i))
        (fun _ : CloudWorld => ()) (w := w')
      have hfleet : ((CloudStmt.testbedFailed r.run (r.groupNameOf testbed i)).exec w').toFleet =
          w'.toFleet := by
        rw [CloudStmt.exec]
        cases r.groupNameOf testbed i <;> rfl
      rw [hfleet, hw'] at hfailed
      exact hfailed
  | some outcome =>
      simp only [hkept outcome houtcome]
      exact hw' ▸ comes_ret ()

/-- What the end of a testbed says of its VM. -/
lemma provisionedVm_endOf {resolved : Option Bool} {outcome : TestbedOutcome}
    (h : (r.endOf testbed i resolved).outcome = some outcome) :
    resolved = some outcome.provisionedVm := by
  cases resolved with
  | none =>
      rw [DashboardRun.endOf, outcome_of_unresolved (by rw [testbed_resolved])] at h
      exact absurd h nofun
  | some b =>
      have hb := (@outcome_of_resolved testbed i r.config (r.outcomes.resolved i (some b)) b
        (by rw [testbed_resolved])).1 outcome h
      rw [hb]

/-- A testbed for which a VM was provisioned has an outcome when its work ends. -/
lemma isSome_endOf :
    (r.endOf testbed i (some true)).outcome.isSome =
      workEnds r.config (r.outcomes.testbed i) := by
  have hsome := (@outcome_of_resolved testbed i r.config (r.outcomes.resolved i (some true)) true
    (by rw [testbed_resolved])).2 rfl
  rw [testbed_resolved] at hsome
  exact hsome

/-- A testbed for which the run has a new VM. -/
lemma comes_visit_of_provisioned {F : Fleet} (hp : r.provisions testbed i w.toFleet = true)
    (hends : r.provisionEnds i = true)
    (hresolve : Comes (r.resolve testbed i) w (.ok (some true)) F) :
    Comes (r.visit testbed i) w (.ok ())
      (if r.tearsDown testbed i w.toFleet then
        F.condemn r.run (.azure (r.nameOf testbed i)) (r.trials i).destroyLands
      else F) := by
  have htears : r.tearsDown testbed i w.toFleet = (workEnds r.config (r.outcomes.testbed i) &&
      r.config.autoTeardown && (r.trials i).teardownLookup.isFound) := by
    rw [DashboardRun.tearsDown, hp, hends, Bool.true_and, Bool.true_and]
  by_cases hdown : (workEnds r.config (r.outcomes.testbed i) && r.config.autoTeardown) = true
  · obtain ⟨hwork, hauto⟩ := (Bool.and_eq_true _ _).mp hdown
    rw [htears, hdown, Bool.true_and]
    obtain ⟨outcome, houtcome⟩ := Option.isSome_iff_exists.mp
      ((@isSome_endOf r testbed i).trans hwork)
    have hprovisioned := Option.some.inj (provisionedVm_endOf houtcome)
    refine hresolve.bind fun w' hw' => ?_
    simp only [houtcome, hauto, ← hprovisioned, Bool.true_and, if_true]
    rw [← hw']
    exact comes_teardown
  · rw [htears, Bool.not_eq_true _ |>.mp hdown, Bool.false_and, if_neg Bool.false_ne_true]
    refine comes_visit_of_kept hresolve fun outcome houtcome => ?_
    have hwork := (@isSome_endOf r testbed i).symm
    rw [houtcome, Option.isSome_some] at hwork
    rw [hwork, Bool.true_and] at hdown
    rw [Bool.not_eq_true _ |>.mp hdown, Bool.false_and]

/-- **A testbed and its fleet.** -/
lemma comes_visit :
    Comes (r.visit testbed i) w (.ok ()) (r.afterVisit testbed i w.toFleet) := by
  rw [DashboardRun.afterVisit]
  cases hp : r.provisions testbed i w.toFleet with
  | false =>
      obtain ⟨x, hx, hfalse⟩ := comes_resolve_of_not hp
      refine comes_visit_of_kept (comes_resolve hx) fun outcome houtcome => ?_
      have hres := provisionedVm_endOf houtcome
      cases x with
      | error e => exact absurd hres nofun
      | ok vm =>
          rw [← Option.some.inj hres, hfalse vm rfl, Bool.and_false]
  | true =>
      obtain ⟨x, hx, hbrings, htrue⟩ := comes_resolve_of_provisions hp
      rw [if_pos rfl]
      cases x with
      | ok vm =>
          have hresolve := comes_resolve hx
          rw [resolution, htrue vm rfl] at hresolve
          exact comes_visit_of_provisioned hp (hbrings.1 ⟨vm, rfl⟩) hresolve
      | error e =>
          have hsame : (if r.tearsDown testbed i w.toFleet then
              (r.provisioned testbed i w.toFleet).condemn r.run (.azure (r.nameOf testbed i))
                (r.trials i).destroyLands
              else r.provisioned testbed i w.toFleet) = r.provisioned testbed i w.toFleet := by
            split_ifs with htears
            · simp only [DashboardRun.tearsDown, Bool.and_eq_true] at htears
              exact Fleet.condemn_of_none ((hbrings.2 htears.1.1.1.2).resolve_left nofun) _
            · rfl
          rw [hsame]
          refine comes_visit_of_kept (comes_resolve hx) fun outcome houtcome => ?_
          exact absurd (provisionedVm_endOf houtcome) nofun

/-- The testbeds of a run and the fleet. -/
lemma comes_runTestbeds (testbeds : List (TestbedConfig × ℕ)) (w : CloudWorld) :
    Comes (r.runTestbeds testbeds) w (.ok ()) (r.fleetAfter testbeds w.toFleet) := by
  induction testbeds generalizing w with
  | nil => exact comes_ret ()
  | cons t rest ih =>
      obtain ⟨testbed, i⟩ := t
      rw [DashboardRun.runTestbeds, DashboardRun.fleetAfter]
      split_ifs
      · exact comes_ret ()
      · exact comes_visit.bind fun w' hw' => hw' ▸ ih w'

/-- **A run and its fleet.** -/
lemma comes_execute (w : CloudWorld) :
    Comes r.execute w (.ok ()) (r.fleetAfter r.config.testbeds.zipIdx w.toFleet) := by
  refine (comes_runTestbeds r.config.testbeds.zipIdx w).bind fun w' hw' => ?_
  rw [← hw']
  exact comes_issue (.finish r.run) fun _ => ()

end Specs

/-! ### Which VMs are condemned -/

/-- The VMs that a run has made are in one place each, and their serials are spent. -/
structure Fleet.Tracks (run : ℕ) (F : Fleet) : Prop where
  known : ∀ p k s, F.vms p = some (.made k s) → k = run ∧ s < F.serial ∧ .made k s ∈ F.created
  once : ∀ p q s, F.vms p = some (.made run s) → F.vms q = some (.made run s) → p = q
  made : ∀ v ∈ F.created, ∃ s < F.serial, v = .made run s
  spent : ∀ s, (run, .made run s) ∈ F.condemned → s < F.serial

namespace Fleet

variable {run : ℕ} {F : Fleet} {place q : Place} {lands takes : Bool} {v : VmId}

lemma mem_condemned_condemn :
    (run, v) ∈ (F.condemn run place lands).condemned ↔
      F.vms place = some v ∨ (run, v) ∈ F.condemned := by
  simp [condemn, Option.mem_toList]

lemma vms_condemn :
    (F.condemn run place lands).vms q = if q = place ∧ lands = true then none else F.vms q := by
  cases lands <;> by_cases hq : q = place <;> simp [condemn, hq]

lemma Tracks.condemn (hF : F.Tracks run) : (F.condemn run place lands).Tracks run := by
  have hvms : ∀ p v, (F.condemn run place lands).vms p = some v → F.vms p = some v := by
    intro p v hp
    rw [vms_condemn] at hp
    split_ifs at hp
    exact hp
  refine ⟨fun p k s hp => hF.known p k s (hvms p _ hp), fun p p' s hp hp' => ?_, hF.made,
    fun s hs => ?_⟩
  · exact hF.once p p' s (hvms p _ hp) (hvms p' _ hp')
  · rcases mem_condemned_condemn.mp hs with hplace | hs
    · exact (hF.known place run s hplace).2.1
    · exact hF.spent s hs

lemma make_of_free (htakes : takes = true) (hfree : F.vms place = none) :
    F.make run place takes =
      { vms := Function.update F.vms place (some (.made run F.serial))
        serial := F.serial + 1
        created := .made run F.serial :: F.created
        condemned := F.condemned } := by
  rw [make, htakes, hfree]
  rfl

lemma make_of_not (h : ¬ (takes = true ∧ F.vms place = none)) : F.make run place takes = F := by
  rw [make, if_neg]
  simpa using h

lemma Tracks.make (hF : F.Tracks run) : (F.make run place takes).Tracks run := by
  by_cases hmake : takes = true ∧ F.vms place = none
  · rw [make_of_free hmake.1 hmake.2]
    have hold : ∀ p v, Function.update F.vms place (some (.made run F.serial)) p = some v →
        (p = place ∧ v = .made run F.serial) ∨ F.vms p = some v := by
      intro p v hp
      by_cases hplace : p = place
      · rw [hplace, Function.update_self] at hp
        exact Or.inl ⟨hplace, (Option.some.inj hp).symm⟩
      · rw [Function.update_of_ne hplace] at hp
        exact Or.inr hp
    constructor
    · intro p k s hp
      rcases hold p _ hp with ⟨-, heq⟩ | hp
      · obtain ⟨rfl, rfl⟩ := VmId.made.inj heq
        exact ⟨rfl, Nat.lt_succ_self _, List.mem_cons_self⟩
      · obtain ⟨hk, hs, hmem⟩ := hF.known p k s hp
        exact ⟨hk, Nat.lt_succ_of_lt hs, List.mem_cons_of_mem _ hmem⟩
    · intro p p' s hp hp'
      rcases hold p _ hp with ⟨hnew, heq⟩ | hold₁ <;>
        rcases hold p' _ hp' with ⟨hnew', heq'⟩ | hold₂
      · rw [hnew, hnew']
      · have hlt := (hF.known p' run s hold₂).2.1
        have := (VmId.made.inj heq).2
        omega
      · have hlt := (hF.known p run s hold₁).2.1
        have := (VmId.made.inj heq').2
        omega
      · exact hF.once p p' s hold₁ hold₂
    · intro v hv
      rcases List.mem_cons.mp hv with rfl | hv
      · exact ⟨F.serial, Nat.lt_succ_self _, rfl⟩
      · obtain ⟨s, hs, rfl⟩ := hF.made v hv
        exact ⟨s, Nat.lt_succ_of_lt hs, rfl⟩
    · exact fun s hs => Nat.lt_succ_of_lt (hF.spent s hs)
  · rw [make_of_not hmake]
    exact hF

end Fleet

namespace DashboardRun

variable {r : DashboardRun} {testbed : TestbedConfig} {i : ℕ} {F : Fleet} {v : VmId}

lemma reap_cons (name : String) (names : List String) :
    r.reap i F (name :: names) =
      r.reap i (F.condemn r.run (.azure name) ((r.trials i).reapLands name)) names := rfl

lemma vms_reap (names : List String) (q : Place) :
    (∃ name ∈ names, q = .azure name ∧ (r.trials i).reapLands name = true) ∧
        (r.reap i F names).vms q = none ∨
      (¬ ∃ name ∈ names, q = .azure name ∧ (r.trials i).reapLands name = true) ∧
        (r.reap i F names).vms q = F.vms q := by
  induction names generalizing F with
  | nil => exact Or.inr ⟨by simp, rfl⟩
  | cons name names ih =>
      rw [reap_cons]
      by_cases hhere : q = .azure name ∧ (r.trials i).reapLands name = true
      · refine Or.inl ⟨⟨name, List.mem_cons_self, hhere⟩, ?_⟩
        have hnone : (F.condemn r.run (.azure name) ((r.trials i).reapLands name)).vms q = none := by
          rw [Fleet.vms_condemn, if_pos hhere]
        rcases ih (F := F.condemn r.run (.azure name) ((r.trials i).reapLands name)) with
          ⟨-, h⟩ | ⟨-, h⟩
        · exact h
        · exact h.trans hnone
      · have hsame : (F.condemn r.run (.azure name) ((r.trials i).reapLands name)).vms q =
            F.vms q := by
          rw [Fleet.vms_condemn, if_neg hhere]
        rcases ih (F := F.condemn r.run (.azure name) ((r.trials i).reapLands name)) with
          ⟨⟨n, hn, hq⟩, h⟩ | ⟨hnot, h⟩
        · exact Or.inl ⟨⟨n, List.mem_cons_of_mem _ hn, hq⟩, h⟩
        · refine Or.inr ⟨?_, h.trans hsame⟩
          rintro ⟨n, hn, hq⟩
          rcases List.mem_cons.mp hn with rfl | hn
          · exact hhere hq
          · exact hnot ⟨n, hn, hq⟩

lemma vms_of_vms_reap {names : List String} {q : Place}
    (h : (r.reap i F names).vms q = some v) : F.vms q = some v := by
  rcases vms_reap (r := r) (i := i) (F := F) names q with ⟨-, hnone⟩ | ⟨-, hsame⟩
  · exact absurd (hnone.symm.trans h) nofun
  · exact hsame.symm.trans h

lemma mem_condemned_reap (names : List String) :
    (r.run, v) ∈ (r.reap i F names).condemned ↔
      (∃ name ∈ names, F.vms (.azure name) = some v) ∨ (r.run, v) ∈ F.condemned := by
  induction names generalizing F with
  | nil => simp [reap]
  | cons name names ih =>
      rw [reap_cons, ih, Fleet.mem_condemned_condemn]
      constructor
      · rintro (⟨n, hn, hv⟩ | hv | hv)
        · rw [Fleet.vms_condemn] at hv
          split_ifs at hv
          exact Or.inl ⟨n, List.mem_cons_of_mem _ hn, hv⟩
        · exact Or.inl ⟨name, List.mem_cons_self, hv⟩
        · exact Or.inr hv
      · rintro (⟨n, hn, hv⟩ | hv)
        · rcases List.mem_cons.mp hn with rfl | hn
          · exact Or.inr (Or.inl hv)
          · by_cases hname : n = name
            · exact Or.inr (Or.inl (hname ▸ hv))
            · refine Or.inl ⟨n, hn, ?_⟩
              rw [Fleet.vms_condemn, if_neg]
              · exact hv
              · exact fun h => hname (Place.azure.inj h.1)
        · exact Or.inr (Or.inr hv)

lemma reap_keeps (names : List String) :
    (r.reap i F names).created = F.created ∧ (r.reap i F names).serial = F.serial := by
  induction names generalizing F with
  | nil => exact ⟨rfl, rfl⟩
  | cons name names ih => exact ih

lemma tracks_reap (hF : F.Tracks r.run) (names : List String) :
    (r.reap i F names).Tracks r.run := by
  induction names generalizing F with
  | nil => exact hF
  | cons name names ih => exact ih hF.condemn

/-- A testbed makes a VM at a place that is free behind its reaper. -/
lemma creates_iff {place : Place} :
    r.Creates testbed i F place ↔ r.provisions testbed i F = true ∧
      r.placeOf testbed i = some place ∧ (r.trials i).createTakes = true ∧
        (r.reap i F (r.reaped testbed i F)).vms place = none := by
  refine and_congr_right fun _ => and_congr_right fun _ => and_congr_right fun _ => ?_
  rcases vms_reap (r := r) (i := i) (F := F) (r.reaped testbed i F) place with
    ⟨hreaped, hnone⟩ | ⟨hnot, hsame⟩
  · exact ⟨fun _ => hnone, fun _ => Or.inr hreaped⟩
  · rw [hsame]
    exact ⟨fun h => h.resolve_right hnot, Or.inl⟩

/-- The fleet behind the command that makes a VM. -/
lemma provisioned_of_creates {place : Place} (h : r.Creates testbed i F place) :
    r.provisioned testbed i F =
      { vms := Function.update (r.reap i F (r.reaped testbed i F)).vms place
          (some (.made r.run F.serial))
        serial := F.serial + 1
        created := .made r.run F.serial :: F.created
        condemned := (r.reap i F (r.reaped testbed i F)).condemned } := by
  rw [creates_iff] at h
  obtain ⟨-, hplace, htakes, hfree⟩ := h
  obtain ⟨hcreated, hserial⟩ := reap_keeps (r := r) (i := i) (F := F) (r.reaped testbed i F)
  rw [provisioned, hplace, Option.elim_some, Fleet.make_of_free htakes hfree, hcreated, hserial]

/-- Where nothing is made, the reaper alone has changed the fleet. -/
lemma provisioned_of_not_creates (hp : r.provisions testbed i F = true)
    (h : ∀ place, ¬ r.Creates testbed i F place) :
    r.provisioned testbed i F = r.reap i F (r.reaped testbed i F) := by
  rw [provisioned]
  cases hplace : r.placeOf testbed i with
  | none => rfl
  | some place =>
      refine Fleet.make_of_not fun hmake => h place ?_
      rw [creates_iff]
      exact ⟨hp, hplace, hmake⟩

lemma condemned_provisioned (hp : r.provisions testbed i F = true) :
    (r.provisioned testbed i F).condemned =
      (r.reap i F (r.reaped testbed i F)).condemned := by
  by_cases hcreates : ∃ place, r.Creates testbed i F place
  · obtain ⟨place, hplace⟩ := hcreates
    rw [provisioned_of_creates hplace]
  · rw [provisioned_of_not_creates hp (not_exists.mp hcreates)]

/-- What the reaper has left is there behind the command that makes a VM. -/
lemma vms_provisioned_of_reap (hp : r.provisions testbed i F = true) {q : Place}
    (h : (r.reap i F (r.reaped testbed i F)).vms q = some v) :
    (r.provisioned testbed i F).vms q = some v := by
  by_cases hcreates : ∃ place, r.Creates testbed i F place
  · obtain ⟨place, hplace⟩ := hcreates
    have hfree : (r.reap i F (r.reaped testbed i F)).vms place = none := by
      rw [creates_iff] at hplace
      exact hplace.2.2.2
    have hne : q ≠ place := by
      rintro rfl
      exact absurd (hfree.symm.trans h) nofun
    rw [provisioned_of_creates hplace]
    exact (Function.update_of_ne hne _ _).trans h
  · rw [provisioned_of_not_creates hp (not_exists.mp hcreates)]
    exact h

/-- A VM behind the command that makes one was there, or it is the new one. -/
lemma vms_of_vms_provisioned (hp : r.provisions testbed i F = true) {q : Place}
    (h : (r.provisioned testbed i F).vms q = some v) :
    F.vms q = some v ∨ (r.Creates testbed i F q ∧ v = .made r.run F.serial) := by
  by_cases hcreates : ∃ place, r.Creates testbed i F place
  · obtain ⟨place, hplace⟩ := hcreates
    rw [provisioned_of_creates hplace] at h
    by_cases hq : q = place
    · subst hq
      simp only [Function.update_self, Option.some.injEq] at h
      exact Or.inr ⟨hplace, h.symm⟩
    · exact Or.inl (vms_of_vms_reap ((Function.update_of_ne hq _ _).symm.trans h))
  · rw [provisioned_of_not_creates hp (not_exists.mp hcreates)] at h
    exact Or.inl (vms_of_vms_reap h)

lemma not_disposes_of_not (hp : r.provisions testbed i F = false) (name : String) :
    ¬ r.Disposes testbed i F name := by
  rintro (h | ⟨h, -⟩)
  · rw [reaped, hp, if_neg fun h => Bool.false_ne_true h.1] at h
    exact absurd h List.not_mem_nil
  · rw [tearsDown, hp] at h
    exact absurd h (by simp)

lemma provisions_of_tearsDown (h : r.tearsDown testbed i F = true) :
    r.provisions testbed i F = true := by
  simp only [tearsDown, Bool.and_eq_true] at h
  exact h.1.1.1.1

lemma afterVisit_of_not (hp : r.provisions testbed i F = false) :
    r.afterVisit testbed i F = F := by
  rw [afterVisit, hp, if_neg Bool.false_ne_true]

lemma afterVisit_of_tearsDown (h : r.tearsDown testbed i F = true) :
    r.afterVisit testbed i F = (r.provisioned testbed i F).condemn r.run
      (.azure (r.nameOf testbed i)) (r.trials i).destroyLands := by
  rw [afterVisit, provisions_of_tearsDown h, h, if_pos rfl, if_pos rfl]

lemma afterVisit_of_kept (hp : r.provisions testbed i F = true)
    (h : r.tearsDown testbed i F = false) :
    r.afterVisit testbed i F = r.provisioned testbed i F := by
  rw [afterVisit, hp, h, if_pos rfl, if_neg Bool.false_ne_true]

/-- What a testbed condemns: the VMs of the names it disposes of, and its own new one. -/
lemma mem_condemned_afterVisit :
    (r.run, v) ∈ (r.afterVisit testbed i F).condemned ↔
      (r.run, v) ∈ F.condemned ∨
        (∃ name, r.Disposes testbed i F name ∧ F.vms (.azure name) = some v) ∨
        (r.Creates testbed i F (.azure (r.nameOf testbed i)) ∧
          r.tearsDown testbed i F = true ∧ v = .made r.run F.serial) := by
  cases hp : r.provisions testbed i F with
  | false =>
      rw [afterVisit_of_not hp]
      refine ⟨Or.inl, ?_⟩
      rintro (h | ⟨name, h, -⟩ | ⟨h, -⟩)
      · exact h
      · exact absurd h (not_disposes_of_not hp name)
      · exact absurd (h.1.symm.trans hp) nofun
  | true =>
      have hreap := mem_condemned_reap (r := r) (i := i) (F := F) (v := v)
        (r.reaped testbed i F)
      rw [← condemned_provisioned hp] at hreap
      cases hdown : r.tearsDown testbed i F with
      | false =>
          rw [afterVisit_of_kept hp hdown, hreap]
          constructor
          · rintro (⟨name, hname, hv⟩ | h)
            · exact Or.inr (Or.inl ⟨name, Or.inl hname, hv⟩)
            · exact Or.inl h
          · rintro (h | ⟨name, hname | ⟨htears, -⟩, hv⟩ | ⟨-, htears, -⟩)
            · exact Or.inr h
            · exact Or.inl ⟨name, hname, hv⟩
            · exact absurd (htears.symm.trans hdown) nofun
            · exact absurd htears nofun
      | true =>
          rw [afterVisit_of_tearsDown hdown, Fleet.mem_condemned_condemn, hreap]
          constructor
          · rintro (h | ⟨name, hname, hv⟩ | h)
            · rcases vms_of_vms_provisioned hp h with h | ⟨hcreates, hv⟩
              · exact Or.inr (Or.inl ⟨_, Or.inr ⟨hdown, rfl⟩, h⟩)
              · exact Or.inr (Or.inr ⟨hcreates, rfl, hv⟩)
            · exact Or.inr (Or.inl ⟨name, Or.inl hname, hv⟩)
            · exact Or.inl h
          · rintro (h | ⟨name, hname | ⟨-, rfl⟩, hv⟩ | ⟨hcreates, -, rfl⟩)
            · exact Or.inr (Or.inr h)
            · exact Or.inr (Or.inl ⟨name, hname, hv⟩)
            · rcases vms_reap (r := r) (i := i) (F := F) (r.reaped testbed i F)
                (.azure (r.nameOf testbed i)) with ⟨⟨name, hname, heq, -⟩, -⟩ | ⟨-, hsame⟩
              · rw [Place.azure.inj heq] at hv
                exact Or.inr (Or.inl ⟨name, hname, hv⟩)
              · exact Or.inl (vms_provisioned_of_reap hp (hsame.trans hv))
            · rw [provisioned_of_creates hcreates]
              exact Or.inl (Function.update_self ..)

lemma condemned_afterVisit_of_mem (h : (r.run, v) ∈ F.condemned) :
    (r.run, v) ∈ (r.afterVisit testbed i F).condemned := by
  rw [mem_condemned_afterVisit]
  exact Or.inl h

lemma condemned_of_disposes {name : String} (h : r.Disposes testbed i F name)
    (hv : F.vms (.azure name) = some v) : (r.run, v) ∈ (r.afterVisit testbed i F).condemned := by
  rw [mem_condemned_afterVisit]
  exact Or.inr (Or.inl ⟨name, h, hv⟩)

/-- A VM that is not disposed of stays. -/
lemma vms_afterVisit {q : Place} (hq : F.vms q = some v)
    (h : ∀ name, q = .azure name → ¬ r.Disposes testbed i F name) :
    (r.afterVisit testbed i F).vms q = some v := by
  cases hp : r.provisions testbed i F with
  | false => rwa [afterVisit_of_not hp]
  | true =>
      have hprovisioned : (r.provisioned testbed i F).vms q = some v := by
        refine vms_provisioned_of_reap hp ?_
        rcases vms_reap (r := r) (i := i) (F := F) (r.reaped testbed i F) q with
          ⟨⟨name, hname, heq, -⟩, -⟩ | ⟨-, hsame⟩
        · exact absurd (Or.inl hname) (h name heq)
        · exact hsame.trans hq
      cases hdown : r.tearsDown testbed i F with
      | false => rwa [afterVisit_of_kept hp hdown]
      | true =>
          rw [afterVisit_of_tearsDown hdown, Fleet.vms_condemn, if_neg]
          · exact hprovisioned
          · exact fun hname => h _ hname.1 (Or.inr ⟨hdown, rfl⟩)

/-- A new VM that its testbed does not tear down is there behind it. -/
lemma vms_afterVisit_of_creates {place : Place} (h : r.Creates testbed i F place)
    (hkept : ¬ (place = .azure (r.nameOf testbed i) ∧ r.tearsDown testbed i F = true)) :
    (r.afterVisit testbed i F).vms place = some (.made r.run F.serial) := by
  have hnew : (r.provisioned testbed i F).vms place = some (.made r.run F.serial) := by
    rw [provisioned_of_creates h]
    exact Function.update_self ..
  cases hdown : r.tearsDown testbed i F with
  | false => rwa [afterVisit_of_kept h.1 hdown]
  | true =>
      rw [afterVisit_of_tearsDown hdown, Fleet.vms_condemn, if_neg]
      · exact hnew
      · exact fun hname => hkept ⟨hname.1, hdown⟩

lemma created_afterVisit (hp : r.provisions testbed i F = true) :
    (r.afterVisit testbed i F).created = (r.provisioned testbed i F).created := by
  rw [afterVisit, hp, if_pos rfl]
  split_ifs <;> rfl

lemma created_afterVisit_of_creates {place : Place} (h : r.Creates testbed i F place) :
    (r.afterVisit testbed i F).created = .made r.run F.serial :: F.created := by
  rw [created_afterVisit h.1, provisioned_of_creates h]

lemma created_afterVisit_of_not_creates (h : ∀ place, ¬ r.Creates testbed i F place) :
    (r.afterVisit testbed i F).created = F.created := by
  cases hp : r.provisions testbed i F with
  | false => rw [afterVisit_of_not hp]
  | true =>
      rw [created_afterVisit hp, provisioned_of_not_creates hp h]
      exact (reap_keeps _).1

lemma tracks_afterVisit (hF : F.Tracks r.run) : (r.afterVisit testbed i F).Tracks r.run := by
  have hprovisioned : (r.provisioned testbed i F).Tracks r.run := by
    rw [provisioned]
    cases r.placeOf testbed i with
    | none => exact tracks_reap hF _
    | some place => exact (tracks_reap hF _).make
  rw [afterVisit]
  split_ifs
  · exact hprovisioned.condemn
  · exact hprovisioned
  · exact hF

/-! ### Whole runs -/

lemma fleetAfter_cons (rest : List (TestbedConfig × ℕ))
    (h : r.outcomes.raised (.beforeTestbed i) = false) :
    r.fleetAfter ((testbed, i) :: rest) F =
      r.fleetAfter rest (r.afterVisit testbed i F) := by
  rw [fleetAfter, h, if_neg Bool.false_ne_true]

lemma condemned_fleetAfter_of_mem (testbeds : List (TestbedConfig × ℕ))
    (h : (r.run, v) ∈ F.condemned) : (r.run, v) ∈ (r.fleetAfter testbeds F).condemned := by
  induction testbeds generalizing F with
  | nil => exact h
  | cons t rest ih =>
      rw [fleetAfter]
      split_ifs
      · exact h
      · exact ih (condemned_afterVisit_of_mem h)

lemma created_afterVisit_of_mem (h : v ∈ F.created) :
    v ∈ (r.afterVisit testbed i F).created := by
  by_cases hcreates : ∃ place, r.Creates testbed i F place
  · obtain ⟨place, hplace⟩ := hcreates
    rw [created_afterVisit_of_creates hplace]
    exact List.mem_cons_of_mem _ h
  · rwa [created_afterVisit_of_not_creates (not_exists.mp hcreates)]

lemma created_fleetAfter_of_mem (testbeds : List (TestbedConfig × ℕ)) (h : v ∈ F.created) :
    v ∈ (r.fleetAfter testbeds F).created := by
  induction testbeds generalizing F with
  | nil => exact h
  | cons t rest ih =>
      rw [fleetAfter]
      split_ifs
      · exact h
      · exact ih (created_afterVisit_of_mem h)

lemma tracks_fleetAfter (testbeds : List (TestbedConfig × ℕ)) (hF : F.Tracks r.run) :
    (r.fleetAfter testbeds F).Tracks r.run := by
  induction testbeds generalizing F with
  | nil => exact hF
  | cons t rest ih =>
      rw [fleetAfter]
      split_ifs
      · exact hF
      · exact ih (tracks_afterVisit hF)

/-- A VM of the run that is there and not condemned is condemned later if and only if it is
one of Azure and a later testbed disposes of its name. -/
lemma condemned_fleetAfter_iff (testbeds : List (TestbedConfig × ℕ)) (hF : F.Tracks r.run)
    {q : Place} {s : ℕ} (hq : F.vms q = some (.made r.run s))
    (hnot : (r.run, .made r.run s) ∉ F.condemned) :
    (r.run, .made r.run s) ∈ (r.fleetAfter testbeds F).condemned ↔
      ∃ name, q = .azure name ∧ r.DisposedBy name testbeds F := by
  induction testbeds generalizing F with
  | nil => exact ⟨fun h => absurd h hnot, fun ⟨_, _, h⟩ => h.elim⟩
  | cons t rest ih =>
      obtain ⟨testbed, i⟩ := t
      cases hraised : r.outcomes.raised (.beforeTestbed i) with
      | true =>
          rw [fleetAfter, hraised, if_pos rfl]
          refine ⟨fun h => absurd h hnot, ?_⟩
          rintro ⟨name, -, hdisposed⟩
          exact absurd (hdisposed.1.symm.trans hraised) nofun
      | false =>
          rw [fleetAfter_cons rest hraised]
          by_cases hhere : ∃ name, q = .azure name ∧ r.Disposes testbed i F name
          · obtain ⟨name, rfl, hdisposes⟩ := hhere
            refine ⟨fun _ => ⟨name, rfl, hraised, Or.inl hdisposes⟩, fun _ => ?_⟩
            exact condemned_fleetAfter_of_mem rest (condemned_of_disposes hdisposes hq)
          · -- the testbed leaves the VM alone
            have hstays : (r.afterVisit testbed i F).vms q = some (.made r.run s) :=
              vms_afterVisit hq fun name hname hdisposes => hhere ⟨name, hname, hdisposes⟩
            have hnot' : (r.run, .made r.run s) ∉ (r.afterVisit testbed i F).condemned := by
              rw [mem_condemned_afterVisit]
              rintro (h | ⟨name, hdisposes, hname⟩ | ⟨-, -, heq⟩)
              · exact hnot h
              · exact hhere ⟨name, hF.once q _ s hq hname, hdisposes⟩
              · have hlt := (hF.known q r.run s hq).2.1
                have := (VmId.made.inj heq).2
                omega
            rw [ih (tracks_afterVisit hF) hstays hnot']
            constructor
            · rintro ⟨name, hname, hdisposed⟩
              exact ⟨name, hname, hraised, Or.inr hdisposed⟩
            · rintro ⟨name, hname, -, hdisposes | hdisposed⟩
              · exact absurd ⟨name, hname, hdisposes⟩ hhere
              · exact ⟨name, hname, hdisposed⟩

/-- Where a VM is made for a testbed on Azure. -/
lemma placeOf_eq_azure {name : String} :
    r.placeOf testbed i = some (.azure name) ↔
      r.provider? i = some .azure ∧ name = r.nameOf testbed i := by
  rw [placeOf]
  cases r.provider? i with
  | none => simp
  | some provider => cases provider <;> simp [eq_comm]

/-- When the new VM of a testbed is condemned in the run. -/
lemma condemned_new_iff (rest : List (TestbedConfig × ℕ)) (hF : F.Tracks r.run) {place : Place}
    (h : r.Creates testbed i F place) :
    (r.run, .made r.run F.serial) ∈
        (r.fleetAfter rest (r.afterVisit testbed i F)).condemned ↔
      r.provider? i = some .azure ∧ (r.tearsDown testbed i F = true ∨
        r.DisposedBy (r.nameOf testbed i) rest (r.afterVisit testbed i F)) := by
  have hplace := h.2.1
  by_cases hdown : place = .azure (r.nameOf testbed i) ∧ r.tearsDown testbed i F = true
  · obtain ⟨rfl, htears⟩ := hdown
    have hnew : (r.run, .made r.run F.serial) ∈ (r.afterVisit testbed i F).condemned := by
      rw [mem_condemned_afterVisit]
      exact Or.inr (Or.inr ⟨h, htears, rfl⟩)
    rw [placeOf_eq_azure] at hplace
    exact ⟨fun _ => ⟨hplace.1, Or.inl htears⟩, fun _ => condemned_fleetAfter_of_mem rest hnew⟩
  · have hnot : (r.run, .made r.run F.serial) ∉ (r.afterVisit testbed i F).condemned := by
      rw [mem_condemned_afterVisit]
      rintro (hold | ⟨name, -, hname⟩ | ⟨hcreates, htears, -⟩)
      · exact absurd (hF.spent _ hold) (lt_irrefl _)
      · exact absurd (hF.known _ _ _ hname).2.1 (lt_irrefl _)
      · have hsame := Option.some.inj (hplace.symm.trans hcreates.2.1)
        exact hdown ⟨hsame, htears⟩
    rw [condemned_fleetAfter_iff rest (tracks_afterVisit hF) (vms_afterVisit_of_creates h hdown)
      hnot]
    constructor
    · rintro ⟨name, rfl, hdisposed⟩
      rw [placeOf_eq_azure] at hplace
      obtain ⟨hazure, rfl⟩ := hplace
      exact ⟨hazure, Or.inr hdisposed⟩
    · rintro ⟨hazure, hrest⟩
      have hname : r.placeOf testbed i = some (.azure (r.nameOf testbed i)) := by
        rw [placeOf_eq_azure]
        exact ⟨hazure, rfl⟩
      have hsame := Option.some.inj (hplace.symm.trans hname)
      refine ⟨r.nameOf testbed i, hsame, hrest.resolve_left fun htears => ?_⟩
      exact hdown ⟨hsame, htears⟩

/-- A fleet in which the run has condemned only VMs that it has made. -/
def Clean (run : ℕ) (F : Fleet) : Prop := ∀ v, (run, v) ∈ F.condemned → v ∈ F.created

/-- Which testbeds condemn only VMs of the run. -/
lemma clean_afterVisit_iff (hF : F.Tracks r.run) (hclean : Clean r.run F) :
    Clean r.run (r.afterVisit testbed i F) ↔
      ∀ name, r.Disposes testbed i F name → ∀ n, F.vms (.azure name) ≠ some (.earlier n) := by
  constructor
  · intro h name hdisposes n hn
    have hmem := h _ (condemned_of_disposes hdisposes hn)
    obtain ⟨s, -, heq⟩ := (tracks_afterVisit hF).made _ hmem
    exact absurd heq nofun
  · intro h v hv
    rw [mem_condemned_afterVisit] at hv
    rcases hv with hold | ⟨name, hdisposes, hname⟩ | ⟨hcreates, -, rfl⟩
    · exact created_afterVisit_of_mem (hclean v hold)
    · cases v with
      | earlier n => exact absurd hname (h name hdisposes n)
      | made k s => exact created_afterVisit_of_mem (hF.known _ k s hname).2.2
    · rw [created_afterVisit_of_creates hcreates]
      exact List.mem_cons_self

/-- A run that ends clean has been clean behind each testbed. -/
lemma clean_of_clean_fleetAfter (rest : List (TestbedConfig × ℕ)) (hF : F.Tracks r.run)
    (hclean : Clean r.run F)
    (h : Clean r.run (r.fleetAfter rest (r.afterVisit testbed i F))) :
    Clean r.run (r.afterVisit testbed i F) := by
  refine (clean_afterVisit_iff hF hclean).mpr fun name hdisposes n hn => ?_
  have hcondemned : (r.run, VmId.earlier n) ∈ (r.afterVisit testbed i F).condemned :=
    condemned_of_disposes hdisposes hn
  have hcreated := h _ (condemned_fleetAfter_of_mem rest hcondemned)
  obtain ⟨s, -, heq⟩ := (tracks_fleetAfter rest (tracks_afterVisit hF)).made _ hcreated
  exact absurd heq nofun

/-- The new VMs of a run are those of its first testbed and those of the others. -/
lemma new_condemned_iff (rest : List (TestbedConfig × ℕ)) :
    (∀ v ∈ (r.fleetAfter rest (r.afterVisit testbed i F)).created, v ∉ F.created →
        (r.run, v) ∈ (r.fleetAfter rest (r.afterVisit testbed i F)).condemned) ↔
      (∀ place, r.Creates testbed i F place → VmId.made r.run F.serial ∉ F.created →
        (r.run, .made r.run F.serial) ∈
          (r.fleetAfter rest (r.afterVisit testbed i F)).condemned) ∧
      ∀ v ∈ (r.fleetAfter rest (r.afterVisit testbed i F)).created,
        v ∉ (r.afterVisit testbed i F).created →
        (r.run, v) ∈ (r.fleetAfter rest (r.afterVisit testbed i F)).condemned := by
  constructor
  · refine fun h => ⟨fun place hcreates hnew => ?_, fun v hv hnot => ?_⟩
    · refine h _ (created_fleetAfter_of_mem rest ?_) hnew
      rw [created_afterVisit_of_creates hcreates]
      exact List.mem_cons_self
    · exact h v hv fun hold => hnot (created_afterVisit_of_mem hold)
  · rintro ⟨hfirst, hrest⟩ v hv hnot
    by_cases hcreates : ∃ place, r.Creates testbed i F place
    · obtain ⟨place, hplace⟩ := hcreates
      by_cases hnew : v = .made r.run F.serial
      · rw [hnew] at hnot ⊢
        exact hfirst place hplace hnot
      · refine hrest v hv fun hmem => ?_
        rw [created_afterVisit_of_creates hplace] at hmem
        exact hnot ((List.mem_cons.mp hmem).resolve_left hnew)
    · refine hrest v hv fun hmem => ?_
      rw [created_afterVisit_of_not_creates (not_exists.mp hcreates)] at hmem
      exact hnot hmem

/-- What is accounted for, from any fleet on. -/
lemma accounted_iff (testbeds : List (TestbedConfig × ℕ)) (hF : F.Tracks r.run)
    (hclean : Clean r.run F) :
    r.Accounted testbeds F ↔
      (∀ v ∈ (r.fleetAfter testbeds F).created, v ∉ F.created →
        (r.run, v) ∈ (r.fleetAfter testbeds F).condemned) ∧
      Clean r.run (r.fleetAfter testbeds F) := by
  induction testbeds generalizing F with
  | nil => exact ⟨fun _ => ⟨fun v hv hnot => absurd hv hnot, hclean⟩, fun _ => trivial⟩
  | cons t rest ih =>
      obtain ⟨testbed, i⟩ := t
      rw [Accounted]
      cases hraised : r.outcomes.raised (.beforeTestbed i) with
      | true =>
          rw [fleetAfter, hraised, if_pos rfl]
          exact ⟨fun _ => ⟨fun v hv hnot => absurd hv hnot, hclean⟩, fun _ => Or.inl rfl⟩
      | false =>
          rw [fleetAfter_cons rest hraised, new_condemned_iff]
          have hnew : VmId.made r.run F.serial ∉ F.created := by
            intro hmem
            obtain ⟨s, hs, heq⟩ := hF.made _ hmem
            have := (VmId.made.inj heq).2
            omega
          have hfirst : (∀ place, r.Creates testbed i F place → r.provider? i = some .azure ∧
              (r.tearsDown testbed i F = true ∨
                r.DisposedBy (r.nameOf testbed i) rest (r.afterVisit testbed i F))) ↔
              ∀ place, r.Creates testbed i F place → VmId.made r.run F.serial ∉ F.created →
                (r.run, .made r.run F.serial) ∈
                  (r.fleetAfter rest (r.afterVisit testbed i F)).condemned := by
            refine forall_congr' fun place => forall_congr' fun hcreates => ?_
            rw [condemned_new_iff rest hF hcreates]
            exact ⟨fun h _ => h, fun h => h hnew⟩
          rw [hfirst, ← clean_afterVisit_iff hF hclean]
          constructor
          · rintro (h | ⟨hmade, hcleaned, hrest⟩)
            · exact absurd h nofun
            · obtain ⟨hothers, hend⟩ := (ih (tracks_afterVisit hF) hcleaned).mp hrest
              exact ⟨⟨hmade, hothers⟩, hend⟩
          · rintro ⟨⟨hmade, hothers⟩, hend⟩
            have hcleaned := clean_of_clean_fleetAfter rest hF hclean hend
            exact Or.inr ⟨hmade, hcleaned,
              (ih (tracks_afterVisit hF) hcleaned).mpr ⟨hothers, hend⟩⟩

end DashboardRun

/-! ### When the teardown keeps its promise -/

lemma tracks_before (run : ℕ) (vms : Place → Option ℕ) :
    (CloudWorld.before vms).toFleet.Tracks run := by
  have hearlier : ∀ p k s, (CloudWorld.before vms).toFleet.vms p ≠ some (.made k s) := by
    intro p k s h
    obtain ⟨n, -, heq⟩ := Option.map_eq_some_iff.mp h
    exact absurd heq nofun
  refine ⟨fun p k s h => absurd h (hearlier p k s), fun p q s h => absurd h (hearlier p run s),
    fun v hv => absurd hv List.not_mem_nil, fun s hs => absurd hs List.not_mem_nil⟩

/-- **Teardown leaks no VM.**  A dashboard benchmark has issued a destroy for every VM it has
made, and for no other one, if and only if its VMs are accounted for. -/
theorem leaksNothing_iff_accounted (r : DashboardRun) (vms : Place → Option ℕ) :
    LeaksNothing r.run (r.execute.run CloudStmt.exec (.before vms)).2.toFleet ↔
      r.Accounted r.config.testbeds.zipIdx (CloudWorld.before vms).toFleet := by
  obtain ⟨w, hrun, hfleet⟩ := comes_execute (r := r) (.before vms)
  have htracks := tracks_before r.run vms
  have hclean : DashboardRun.Clean r.run (CloudWorld.before vms).toFleet := fun v hv =>
    absurd hv List.not_mem_nil
  rw [hrun, DashboardRun.accounted_iff _ htracks hclean, ← hfleet]
  have htracks' : w.toFleet.Tracks r.run := hfleet ▸ DashboardRun.tracks_fleetAfter _ htracks
  constructor
  · refine fun h => ⟨fun v hv _ => ?_, fun v hv => ?_⟩
    · obtain ⟨s, -, rfl⟩ := htracks'.made v hv
      exact h.destroyed s hv
    · obtain ⟨s, -, hmem⟩ := h.own v hv
      exact hmem
  · rintro ⟨hdestroyed, hown⟩
    refine ⟨fun s hs => hdestroyed _ hs List.not_mem_nil, fun v hv => ?_⟩
    obtain ⟨s, -, rfl⟩ := htracks'.made v (hown v hv)
    exact ⟨s, rfl, hown _ hv⟩

namespace OneVm

/-- Every command succeeds. -/
def smoothly : CloudTrials where
  addressOf := none
  lookup := .failed
  reached := []
  reapLands _ := true
  createTakes := true
  createReply := .made "203.0.113.9"
  createLookup := .failed
  instanceId := "i-0a1b2c3d"
  publicIp := some "203.0.113.9"
  teardownLookup := .found "203.0.113.9" "eastus"
  destroyLands := true

/-- One language on one new VM, with auto-teardown. -/
def config : DashboardBenchmarkConfig where
  configId := "5f0c7d4e-3f0a-4a53-9d0e-6a5c1c3b7e21"
  testbeds := [{ testbedId := "9b1c6a52-77aa-4c1e-8f7e-1d2b3c4d5e6f", languages := ["rust"] }]
  autoTeardown := true

def runOn (cloud region : String) (trials : TestbedTrials) : DashboardRun :=
  ⟨0, config, fun _ => ⟨cloud, region⟩, unflagged trials, fun _ => smoothly⟩

/-- The VM of a benchmark on AWS is not destroyed, nor is that of one on Azure that SSH does
not come up on. -/
theorem vm_left_behind :
    ¬ LeaksNothing 0 ((runOn "aws" "us-east-1" smooth).execute.run CloudStmt.exec
        (.before fun _ => none)).2.toFleet ∧
      ¬ LeaksNothing 0 ((runOn "azure" "eastus" { smooth with sshReady := false }).execute.run
        CloudStmt.exec (.before fun _ => none)).2.toFleet := by
  constructor
  · intro h
    exact absurd (h.destroyed 0 (by decide +kernel)) (by decide +kernel)
  · intro h
    exact absurd (h.destroyed 0 (by decide +kernel)) (by decide +kernel)

/-- On Azure the VM is destroyed when all goes well. -/
example : ((runOn "azure" "eastus" smooth).execute.run CloudStmt.exec
    (.before fun _ => none)).2.toFleet.condemned = [(0, .made 0 0)] := by
  decide +kernel

end OneVm

end BenchOrchestrator

end Networker
