/-
The orphan reaper and the VMs in use, over any overlap of runs.

* `OrchestratorRun`, `orchestrators`: dashboard benchmarks and benchmarks from the command
  line, any number of them side by side;
* `Spares`: what is promised of a deletion of the reaper;
* `Calm`: a reaper lists no VM that a run refers to, and no run comes to refer to a VM that a
  reaper has listed;
* `Careful`: what every run keeps to; `careful_provisionVm` and the others, function by
  function;
* `reaper_spares_vms_in_use`: calm runs lose no VM in use.
-/
import Networker.BenchOrchestrator.Provisioner
import Networker.Concurrency.Interleave

namespace Networker

open Data Concurrency

namespace BenchOrchestrator

/-- A run of the orchestrator. -/
inductive OrchestratorRun
  | dashboard (r : DashboardRun)
  | languages (r : LanguageRun)

namespace OrchestratorRun

def run : OrchestratorRun → ℕ
  | dashboard r => r.run
  | languages r => r.run

def execute : OrchestratorRun → CloudSvc Unit
  | dashboard r => r.execute
  | languages r => r.execute

end OrchestratorRun

/-- Runs side by side, each started once. -/
def orchestrators : System CloudStmt CloudError CloudWorld OrchestratorRun where
  exec := CloudStmt.exec
  code t := t.execute
  entry t := .enter t.run
  admits _ t w := !w.started.contains t.run
  moves _ _ := false

/-! ### What is promised, and when -/

/-- The reaper deletes no VM that a run refers to. -/
def Spares (l : CloudStmt) (w : CloudWorld) : Prop :=
  match l with
  | .reap _ name _ => (w.vms (.azure name)).isSome = true → ∀ ref ∈ w.refs, ref.2 ≠ name
  | _ => True

/-- No reaper is about to delete the VM of the name. -/
def Unlisted (name : String) (w : CloudWorld) : Prop := ∀ entry ∈ w.listed, entry.2 ≠ name

/-- A reaper lists no VM that a run refers to, and no run comes to refer to a VM that a
reaper has listed. -/
def Calm (l : CloudStmt) (w : CloudWorld) : Prop :=
  match l with
  | .vmList _ names => ∀ name ∈ w.toFleet.ownedOf names, ∀ ref ∈ w.refs, ref.2 ≠ name
  | .vmShow _ name adopts => adopts = true → Unlisted name w
  | .connect _ name => ∀ n ∈ name, Unlisted n w
  | .create _ place _ => ∀ n ∈ place.groupName?, Unlisted n w
  | _ => True

instance : ∀ l w, Decidable (Spares l w)
  | .reap _ name _, w => inferInstanceAs
      (Decidable ((w.vms (.azure name)).isSome = true → ∀ ref ∈ w.refs, ref.2 ≠ name))
  | .enter _, _ | .vmShow _ _ _, _ | .connect _ _, _ | .vmList _ _, _ | .create _ _ _, _
  | .destroy _ _ _, _ | .power _ _, _ | .testbedFailed _ _, _ | .finish _, _ => isTrue trivial

instance (name : String) (w : CloudWorld) : Decidable (Unlisted name w) :=
  inferInstanceAs (Decidable (∀ entry ∈ w.listed, entry.2 ≠ name))

instance : ∀ l w, Decidable (Calm l w)
  | .vmList _ names, w => inferInstanceAs
      (Decidable (∀ name ∈ w.toFleet.ownedOf names, ∀ ref ∈ w.refs, ref.2 ≠ name))
  | .vmShow _ name adopts, w => inferInstanceAs (Decidable (adopts = true → Unlisted name w))
  | .connect _ name, w => inferInstanceAs (Decidable (∀ n ∈ name, Unlisted n w))
  | .create _ place _, w => inferInstanceAs (Decidable (∀ n ∈ place.groupName?, Unlisted n w))
  | .enter _, _ | .reap _ _ _, _ | .destroy _ _ _, _ | .power _ _, _ | .testbedFailed _ _, _
  | .finish _, _ => isTrue trivial

/-! ### What every command keeps to -/

/-- The run of a command. -/
def CloudStmt.run : CloudStmt → ℕ
  | enter run | vmShow run _ _ | connect run _ | vmList run _ | reap run _ _ | create run _ _
  | destroy run _ _ | power run _ | testbedFailed run _ | finish run => run

/-- The reaper of a run deletes what it has listed. -/
def Reaped (l : CloudStmt) (w : CloudWorld) : Prop :=
  match l with
  | .reap run name _ => (run, name) ∈ w.listed
  | _ => True

/-- No run refers to a VM that a reaper has listed. -/
def Spared (w : CloudWorld) : Prop := ∀ ref ∈ w.refs, Unlisted ref.2 w

section Statements

variable {w : CloudWorld} {run : ℕ} {name : String}

lemma spared_refer (hw : Spared w) (hname : Unlisted name w) : Spared (w.refer run name) := by
  rw [CloudWorld.refer]
  split_ifs
  · intro ref href
    rcases List.mem_cons.mp href with rfl | href
    · exact hname
    · exact hw ref href
  · exact hw

lemma spared_filter_refs (hw : Spared w) (keep : ℕ × String → Bool) :
    Spared { w with refs := w.refs.filter keep } :=
  fun ref href => hw ref (List.mem_filter.mp href).1

/-- A command of a calm run keeps the VMs in use off the lists. -/
lemma spared_exec {l : CloudStmt} (hw : Spared w) (hl : Calm l w) : Spared (l.exec w) := by
  cases l with
  | enter run => exact hw
  | power run place => exact hw
  | finish run => exact spared_filter_refs hw _
  | testbedFailed run name =>
      cases name with
      | none => exact hw
      | some name => exact spared_filter_refs hw _
  | vmShow run name adopts =>
      rw [CloudStmt.exec]
      split_ifs with hadopts
      · exact spared_refer hw (hl hadopts)
      · exact hw
  | connect run name =>
      cases name with
      | none => exact hw
      | some name => exact spared_refer hw (hl name rfl)
  | vmList run names =>
      intro ref href entry hentry
      rcases List.mem_append.mp hentry with hnew | hold
      · obtain ⟨name, hname, rfl⟩ := List.mem_map.mp hnew
        exact (hl name hname ref href).symm
      · exact hw ref href entry hold
  | reap run name lands =>
      exact fun ref href entry hentry => hw ref href entry (List.mem_filter.mp hentry).1
  | create run place takes =>
      cases place with
      | azure name => exact spared_refer (w := w.onFleet _) hw (hl name rfl)
      | aws instanceId => exact hw
      | gcp name zone => exact hw
  | destroy run place lands =>
      cases place with
      | azure name => exact spared_filter_refs (w := w.onFleet _) hw _
      | aws instanceId => exact hw
      | gcp name zone => exact hw

/-- A deletion of what a reaper has listed spares the VMs in use. -/
lemma spares_of_reaped {l : CloudStmt} (hw : Spared w) (hl : Reaped l w) : Spares l w := by
  cases l with
  | reap run name lands => exact fun _ ref href heq => hw ref href _ hl heq.symm
  | _ => trivial

end Statements

/-! ### One run among the others -/

/-- The others leave the list of the run's reaper alone. -/
def LeavesListed (run : ℕ) (w w' : CloudWorld) : Prop :=
  ∀ name, (run, name) ∈ w.listed → (run, name) ∈ w'.listed

/-- What a run issues are its own commands, and its reaper deletes what it has listed. -/
def Dutiful (run : ℕ) (l : CloudStmt) (w : CloudWorld) : Prop := l.run = run ∧ Reaped l w

/-- From every state on, the process issues only what the run may. -/
def Careful (run : ℕ) {α : Type} (p : CloudSvc α) : Prop :=
  ∀ ok w, p.Safe CloudStmt.exec (LeavesListed run) ok (Dutiful run)
    (fun _ _ => True) (fun _ _ => True) w

section Careful

variable {run : ℕ} {α β : Type}

lemma leavesListed_refl (w : CloudWorld) : LeavesListed run w w := fun _ h => h

lemma careful_ret (a : α) : Careful run (.ret a) := fun _ _ _ _ => trivial

lemma careful_raise (e : CloudError) : Careful run (.raise e : CloudSvc α) :=
  fun _ _ _ _ => trivial

/-- A command that is none of the reaper. -/
lemma careful_issue {l : CloudStmt} (g : CloudWorld → α) (hl : l.run = run)
    (hreap : ∀ w, Reaped l w) : Careful run (.issue l g) :=
  fun _ _ w _ _ => ⟨⟨hl, hreap w⟩, fun _ _ => trivial⟩

lemma Careful.bind {p : CloudSvc α} {f : α → CloudSvc β} (hp : Careful run p)
    (hf : ∀ a, Careful run (f a)) : Careful run (p >>= f) :=
  fun ok w => (hp ok w).bind leavesListed_refl fun a w' _ => hf a ok w'

lemma careful_issue_bind {l : CloudStmt} {g : CloudWorld → α} {f : α → CloudSvc β}
    (hl : l.run = run) (hreap : ∀ w, Reaped l w) (hf : ∀ a, Careful run (f a)) :
    Careful run (.issue l g >>= f) :=
  (careful_issue g hl hreap).bind hf

lemma Careful.rescue {p : CloudSvc α} {h : CloudError → CloudSvc α} (hp : Careful run p)
    (hh : ∀ e, Careful run (h e)) : Careful run (p.rescue h) :=
  fun ok w => (hp ok w).rescue leavesListed_refl fun e w' _ => hh e ok w'

variable (t : CloudTrials) {name : String}

lemma careful_findExistingVm (reply : ShowReply) (adopts : Bool) :
    Careful run (findExistingVm run name reply adopts) := by
  refine careful_issue_bind rfl (fun _ => trivial) fun there => ?_
  cases there with
  | false => exact careful_ret none
  | true =>
      cases reply with
      | failed => exact careful_ret none
      | garbled => exact careful_raise .showJson
      | found ip location => exact careful_ret _

/-- The loop of the reaper deletes what it has listed, each name once. -/
lemma safe_reaps {ok : CloudStmt → CloudWorld → Prop} {names : List String} {w : CloudWorld}
    (hnodup : names.Nodup) (hlisted : ∀ n ∈ names, (run, n) ∈ w.listed) :
    (Proc.each (fun n => (.issue (.reap run n (t.reapLands n)) fun _ => () : CloudSvc Unit))
      names).Safe CloudStmt.exec (LeavesListed run) ok (Dutiful run) (fun _ _ => True)
      (fun _ _ => True) w := by
  induction names generalizing w with
  | nil => exact fun _ _ => trivial
  | cons n names ih =>
      intro w' hw' _
      obtain ⟨hn, hnodup⟩ := List.nodup_cons.mp hnodup
      refine ⟨⟨rfl, hw' n (hlisted n List.mem_cons_self)⟩, ih hnodup fun m hm => ?_⟩
      refine List.mem_filter.mpr ⟨hw' m (hlisted m (List.mem_cons_of_mem _ hm)), ?_⟩
      rw [decide_eq_true_eq]
      intro heq
      rw [Prod.mk.injEq] at heq
      exact hn (heq.2 ▸ hm)

lemma careful_reapOrphans : Careful run (reapOrphansBestEffort run t) := by
  intro ok w w' _ _
  refine ⟨⟨rfl, trivial⟩, safe_reaps t ?_ fun n hn => ?_⟩
  · exact (List.nodup_dedup _).filter _
  · exact List.mem_append_left _ (List.mem_map_of_mem hn)

lemma careful_lookUpCreated (region : String) : Careful run (lookUpCreated run t region name) := by
  refine (careful_findExistingVm _ _).bind fun found => ?_
  cases found with
  | none => exact careful_raise _
  | some vm =>
      by_cases hip : vm.ip = ""
      · simp only [if_pos hip]
        exact careful_raise _
      · simp only [if_neg hip]
        exact careful_ret _

lemma careful_provisionAzure (region : String) :
    Careful run (provisionAzure run t region name) := by
  refine careful_issue_bind rfl (fun _ => trivial) fun _ => ?_
  cases t.createReply with
  | failed => exact careful_lookUpCreated t region
  | garbled => exact careful_raise _
  | made ip =>
      by_cases hip : ip = ""
      · simp only [if_pos hip]
        exact careful_lookUpCreated t region
      · simp only [if_neg hip]
        exact careful_ret _

lemma careful_provisionAws (region : String) : Careful run (provisionAws run t region name) := by
  refine careful_issue_bind rfl (fun _ => trivial) fun _ => ?_
  cases t.createReply with
  | failed => exact careful_raise _
  | garbled => exact careful_raise _
  | made ip =>
      cases t.publicIp with
      | none => exact careful_raise _
      | some ip => exact careful_ret _

lemma careful_provisionGcp (zone : String) : Careful run (provisionGcp run t zone name) := by
  refine careful_issue_bind rfl (fun _ => trivial) fun _ => ?_
  cases t.createReply with
  | failed => exact careful_raise _
  | garbled => exact careful_raise _
  | made ip =>
      by_cases hip : ip = ""
      · simp only [if_pos hip]
        exact careful_raise _
      · simp only [if_neg hip]
        exact careful_ret _

lemma careful_provisionVm (cloud region : String) :
    Careful run (provisionVm run t cloud region name) := by
  have hcleanup : Careful run (orphanCleanup run t cloud) := by
    rw [orphanCleanup]
    split_ifs
    · exact careful_reapOrphans t
    · exact careful_ret ()
  refine hcleanup.bind fun _ => ?_
  cases cloudProvider? cloud with
  | none => exact careful_raise _
  | some provider =>
      cases provider with
      | azure => exact careful_provisionAzure t region
      | aws => exact careful_provisionAws t region
      | gcp => exact careful_provisionGcp t region

lemma careful_destroyVm (vm : VmInfo) (lands : Bool) : Careful run (destroyVm run vm lands) := by
  rw [destroyVm]
  cases vm.place? with
  | none => exact careful_raise _
  | some place =>
      refine careful_issue_bind rfl (fun _ => trivial) fun _ => ?_
      cases lands with
      | true => exact careful_ret ()
      | false => exact careful_raise _

lemma careful_powerVm (vm : VmInfo) (ok : Bool) : Careful run (powerVm run vm ok) := by
  rw [powerVm]
  cases vm.place? with
  | none => exact careful_raise _
  | some place =>
      refine careful_issue_bind rfl (fun _ => trivial) fun _ => ?_
      cases ok with
      | true => exact careful_ret ()
      | false => exact careful_raise _

lemma careful_resolveVm (testbed : TestbedConfig) (placement : Placement) :
    Careful run (resolveVm run t testbed placement) := by
  have hprovision : Careful run (provisionTestbed run t testbed placement) :=
    (careful_provisionVm t _ _).bind fun vm => careful_ret _
  rw [resolveVm]
  cases testbed.existingVmIp with
  | some ip =>
      by_cases hvalid : validateIp ip (cloudProvider? placement.cloud).isSome = true
      · simp only [if_pos hvalid]
        exact careful_issue_bind rfl (fun _ => trivial) fun _ => careful_ret _
      · simp only [if_neg hvalid]
        exact careful_raise _
  | none =>
      refine (careful_findExistingVm _ _).bind fun found => ?_
      cases found with
      | none => exact hprovision
      | some vm =>
          by_cases hip : vm.ip = ""
          · simp only [if_pos hip]
            exact hprovision
          · simp only [if_neg hip]
            exact careful_ret _

lemma careful_teardownTestbed (testbed : TestbedConfig) (placement : Placement) :
    Careful run (teardownTestbed run t testbed placement) := by
  refine Careful.rescue ((careful_findExistingVm _ _).bind fun found => ?_) fun _ => careful_ret ()
  cases found with
  | none => exact careful_ret ()
  | some vm => exact careful_destroyVm vm _

lemma careful_visit (r : DashboardRun) (testbed : TestbedConfig) (i : ℕ) :
    Careful r.run (r.visit testbed i) := by
  have hresolve : Careful r.run (r.resolve testbed i) :=
    Careful.rescue ((careful_resolveVm _ _ _).bind fun _ => careful_ret _) fun _ => careful_ret _
  refine hresolve.bind fun resolved => ?_
  cases (r.endOf testbed i resolved).outcome with
  | none => exact careful_issue _ rfl fun _ => trivial
  | some outcome =>
      by_cases hdown : (r.config.autoTeardown && outcome.provisionedVm) = true
      · simp only [if_pos hdown]
        exact careful_teardownTestbed _ _ _
      · simp only [if_neg hdown]
        exact careful_ret ()

lemma careful_runTestbeds (r : DashboardRun) (testbeds : List (TestbedConfig × ℕ)) :
    Careful r.run (r.runTestbeds testbeds) := by
  induction testbeds with
  | nil => exact careful_ret ()
  | cons t rest ih =>
      obtain ⟨testbed, i⟩ := t
      rw [DashboardRun.runTestbeds]
      split_ifs
      · exact careful_ret ()
      · exact (careful_visit r testbed i).bind fun _ => ih

lemma careful_runLanguage (r : LanguageRun) (language : String) (t : LanguageTrials) :
    Careful r.run (r.runLanguage language t) := by
  have hvm : Careful r.run (r.languageVm language t) := by
    refine (careful_findExistingVm _ _).bind fun found => ?_
    cases found with
    | none => exact careful_provisionVm _ _ _
    | some vm =>
        by_cases hip : vm.ip = ""
        · simp only [if_pos hip]
          refine (careful_powerVm vm _).bind fun _ => ?_
          cases t.ipRefreshed with
          | true => exact careful_ret _
          | false => exact careful_raise _
        · simp only [if_neg hip]
          exact careful_ret _
  refine hvm.bind fun vm => ?_
  split_ifs
  · exact Careful.rescue (careful_powerVm vm _) fun _ => careful_ret ()
  · exact careful_ret ()

lemma careful_runLanguages (r : LanguageRun) (languages : List (String × LanguageTrials)) :
    Careful r.run (r.runLanguages languages) := by
  induction languages with
  | nil => exact careful_ret ()
  | cons l rest ih =>
      obtain ⟨language, t⟩ := l
      rw [LanguageRun.runLanguages]
      split_ifs
      · exact careful_ret ()
      · exact (careful_runLanguage r language t).bind fun _ => ih

lemma careful_execute (t : OrchestratorRun) : Careful t.run t.execute := by
  cases t with
  | dashboard r =>
      exact (careful_runTestbeds r _).bind fun _ => careful_issue _ rfl fun _ => trivial
  | languages r =>
      refine Careful.bind ?_ fun _ => careful_issue _ rfl fun _ => trivial
      exact Careful.rescue (careful_runLanguages r _) fun _ => careful_ret ()

end Careful

/-! ### All runs side by side -/

/-- The discipline of calm runs. -/
def sparing : System.Discipline CloudStmt CloudWorld OrchestratorRun where
  inv := Spared
  holds _ := False
  res _ := True
  here t w := t.run ∈ w.started
  ok := Calm
  rely t := LeavesListed t.run
  guar t := Dutiful t.run

lemma mem_started_cloud {run : ℕ} {w : CloudWorld} (h : run ∈ w.started) (l : CloudStmt) :
    run ∈ (l.exec w).started := by
  have hrefer : ∀ k name (w : CloudWorld), (w.refer k name).started = w.started := by
    intro k name w
    rw [CloudWorld.refer]
    split_ifs <;> rfl
  cases l with
  | enter other => exact List.mem_cons_of_mem _ h
  | vmShow k name adopts =>
      rw [CloudStmt.exec]
      split_ifs
      · rwa [hrefer]
      · exact h
  | connect k name =>
      cases name with
      | none => exact h
      | some name => exact (hrefer k name w).symm ▸ h
  | create k place takes =>
      cases place with
      | azure name => exact (hrefer k name (w.onFleet _)).symm ▸ h
      | aws instanceId => exact h
      | gcp name zone => exact h
  | destroy k place lands => cases place <;> exact h
  | testbedFailed k name => cases name <;> exact h
  | vmList k names | reap k name lands | power k place | finish k => exact h

/-- Another run leaves the list of a reaper alone. -/
lemma leavesListed_exec {run : ℕ} {l : CloudStmt} (hne : l.run ≠ run) (w : CloudWorld) :
    LeavesListed run w (l.exec w) := by
  have hrefer : ∀ k name (w : CloudWorld), (w.refer k name).listed = w.listed := by
    intro k name w
    rw [CloudWorld.refer]
    split_ifs <;> rfl
  intro n hn
  cases l with
  | vmShow k name adopts =>
      rw [CloudStmt.exec]
      split_ifs
      · rwa [hrefer]
      · exact hn
  | connect k name =>
      cases name with
      | none => exact hn
      | some name => exact (hrefer k name w).symm ▸ hn
  | create k place takes =>
      cases place with
      | azure name => exact (hrefer k name (w.onFleet _)).symm ▸ hn
      | aws instanceId => exact hn
      | gcp name zone => exact hn
  | vmList k names => exact List.mem_append_right _ hn
  | reap k name lands =>
      refine List.mem_filter.mpr ⟨hn, ?_⟩
      rw [decide_eq_true_eq]
      exact fun heq => hne (congrArg Prod.fst heq).symm
  | destroy k place lands => cases place <;> exact hn
  | testbedFailed k name => cases name <;> exact hn
  | enter k | power k place | finish k => exact hn

lemma sparing_lawful :
    orchestrators.Lawful sparing (fun _ => True) fun t u => t.run ≠ u.run where
  symm hne := hne.symm
  excl _ := False.elim
  refl _ := leavesListed_refl
  trans _ {_ _ _} hab hbc := fun name h => hbc name (hab name h)
  inv _ _ _ hw hok _ := spared_exec hw hok
  here _ _ l _ _ _ _ hhere := mem_started_cloud hhere l
  res _ _ _ _ _ _ _ _ := trivial
  rely t u l w hne _ _ hguar := leavesListed_exec (fun heq => hne (hguar.1.symm.trans heq)) w
  start ts t w _ hadm _ _ hhere _ := by
    have hnew : t.run ∉ w.started := by
      simpa [orchestrators] using hadm
    refine ⟨fun u hu heq => hnew (heq ▸ hhere u hu), ⟨rfl, trivial⟩, List.mem_cons_self, ?_⟩
    refine (careful_execute t _ _).mono ?_ ?_
    · exact fun _ _ _ => False.elim
    · exact fun _ _ _ => False.elim
  env _ _ hl := absurd hl Bool.false_ne_true

/-- **The reaper spares the VMs in use.**  Whatever overlap of dashboard benchmarks and
benchmarks from the command line, while a reaper lists no VM that a run refers to and no run
comes to refer to a VM that a reaper has listed, every VM that a reaper deletes is one that no
run refers to. -/
theorem reaper_spares_vms_in_use (vms : Place → Option ℕ)
    (as : List (System.Action CloudStmt OrchestratorRun))
    (calm : orchestrators.Along (orchestrators.Meets Calm) (.fresh (.before vms)) as) :
    orchestrators.Along (orchestrators.Meets Spares) (.fresh (.before vms)) as := by
  have hspared : Spared (CloudWorld.before vms) := fun _ href => absurd href List.not_mem_nil
  have hfresh : orchestrators.Sound sparing (fun t u => t.run ≠ u.run) (.fresh (.before vms)) :=
    System.Sound.fresh hspared trivial
  have hkind := System.along_starts_any (S := orchestrators) (c := .fresh (.before vms)) as
  have hguar := System.along_guar sparing_lawful hfresh hkind calm
  have hinv := System.along_inv sparing_lawful hfresh hkind calm
  refine (System.along_meets_and hinv hguar).mono fun c a ha l hl => ?_
  obtain ⟨hs, hl⟩ := ha l hl
  rcases hl with ⟨t, hl⟩ | hl
  · exact spares_of_reaped hs hl.2
  · exact absurd hl Bool.false_ne_true

namespace TwoLanguages

/-- A new VM for a language, with a reaper that gets to all names. -/
def newVm : LanguageTrials where
  cancelled := false
  lookup := .failed
  starts := true
  ipRefreshed := true
  provision :=
    { addressOf := none, lookup := .failed, reached := ["ab-go", "ab-rust"]
      reapLands := fun _ => true, createTakes := true, createReply := .made "203.0.113.9"
      createLookup := .failed, instanceId := "", publicIp := none, teardownLookup := .failed
      destroyLands := true }
  deployed := true
  stops := true

def benchmark (run : ℕ) (languages : List String) : OrchestratorRun :=
  .languages ⟨run, languages.map fun language => (language, newVm)⟩

def steps (i n : ℕ) : List (System.Action CloudStmt OrchestratorRun) := List.replicate n (.step i)

/-- A run is over when another one provisions. -/
def inTurn : List (System.Action CloudStmt OrchestratorRun) :=
  .start (benchmark 0 ["go"]) :: steps 0 5 ++ .start (benchmark 1 ["rust"]) :: steps 1 6

example : (orchestrators.after (.fresh (.before fun _ => none)) inTurn).state.condemned =
    [(1, .made 0 0)] := by
  decide +kernel

/-- The VM that the first run has kept is deleted when nobody refers to it any more. -/
theorem reaper_spares_vms_in_use_inTurn :
    orchestrators.Along (orchestrators.Meets Spares) (.fresh (.before fun _ => none)) inTurn :=
  reaper_spares_vms_in_use (fun _ => none) inTurn (by decide +kernel)

/-- The reaper of the second language deletes the VM that the run has kept of the first one,
and the reaper of a second run deletes a VM on which the first one is about to deploy. -/
theorem reaper_deletes_vms_in_use :
    ¬ orchestrators.Along (orchestrators.Meets Spares) (.fresh (.before fun _ => none))
        (.start (benchmark 0 ["go", "rust"]) :: steps 0 7) ∧
      ¬ orchestrators.Along (orchestrators.Meets Spares) (.fresh (.before fun _ => none))
        (.start (benchmark 0 ["go"]) :: steps 0 3 ++ .start (benchmark 1 ["rust"]) :: steps 1 3) := by
  decide +kernel

end TwoLanguages

end BenchOrchestrator

end Networker
