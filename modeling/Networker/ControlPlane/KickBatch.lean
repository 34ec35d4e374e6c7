/-
How many runs a tick of the orchestrator kicks.

* `kickQueue`: the kickable runs, oldest first, and `kickCandidates_eq`: the batch is the
  front of that queue;
* `provisionable`: the runs whose kick is not refused; `resolveProvider_run` and
  `kickGuarded_ends`: what one turn of the loop does;
* `Kicked`, `kicked_count`: what a pass has done behind its batch;
* `kicks_full_iff`: a tick kicks as many runs as it could exactly if its batch is fair;
* `refused_runs_fill_batch`: runs of a deleted account in front of a run of an active one.
-/
import Networker.ControlPlane.Routines
import Networker.ControlPlane.Statements
import Networker.Data.Batch
import Networker.Data.Distinct

namespace Networker

open Data Concurrency

namespace ProvisioningOrchestrator

/-! ### The queue -/

/-- The queue of a kick pass, oldest run first. -/
def kickQueue (w : World) : List TestRun :=
  oldest TestRun.createdAt (w.runs.select (isKickable w.now w))

/-- The free provisioning slots. -/
def capacity (h : Host) (w : World) : ℕ := h.maxConcurrentAutoProvisions - activeProvisions w

/-- The account of a pending reference is there, with a provider, and active. -/
def hasProvider (w : World) (pending : PendingEndpoint) : Bool :=
  (pending.cloudAccountId.bind w.accounts.find?).any fun a =>
    a.provider != "" && (notActiveReason a.name a.status a.validationError).isNone

/-- A kick of the run is not refused: its reference parses, and its provider is docker
where that is enabled, or the one of an active account. -/
def provisionable (h : Host) (w : World) (r : TestRun) : Bool :=
  ((w.configOf r).bind fun c => parsePending c.endpointRef).any fun p =>
    if isDocker p.provider then h.dockerEnabled else hasProvider w p

lemma mem_kickQueue {w : World} {r : TestRun} :
    r ∈ kickQueue w ↔ r ∈ w.runs.rows ∧ isKickable w.now w r = true := by
  rw [kickQueue, mem_oldest, Table.mem_select]

lemma nodup_kickQueue (w : World) : ((kickQueue w).map TestRun.id).Nodup := by
  have hperm : (kickQueue w).Perm (w.runs.select (isKickable w.now w)) :=
    List.perm_insertionSort _ _
  rw [(hperm.map TestRun.id).nodup_iff]
  exact w.runs.nodup.sublist (List.filter_sublist.map _)

/-- A run of the queue with its config. -/
def withConfig (w : World) (r : TestRun) : Option (TestRun × TestConfig) :=
  (w.configOf r).map fun c => (r, c)

lemma configOf_of_mem_kickQueue {w : World} {r : TestRun} (h : r ∈ kickQueue w) :
    ∃ cfg, w.configOf r = some cfg := by
  have hr := (mem_kickQueue.mp h).2
  simp only [isKickable, Bool.and_eq_true, Option.any_eq_true] at hr
  obtain ⟨-, cfg, hcfg, -⟩ := hr
  exact ⟨cfg, hcfg⟩

/-! ### One turn -/

/-- What a kick reads besides the run. -/
def provider? (h : Host) (s : World) (p : PendingEndpoint) : Bool :=
  if isDocker p.provider then h.dockerEnabled else hasProvider s p

/-- The rows of the runs with other ids, and the drivers, are the same. -/
structure OnlyRun (run : Guid) (s t : World) : Prop where
  setting : s.SameSetting t
  others : ∀ j, j ≠ run → t.runs.find? j = s.runs.find? j

lemma OnlyRun.refl (run : Guid) (s : World) : OnlyRun run s s := ⟨.refl s, fun _ _ => rfl⟩

lemma OnlyRun.trans {run : Guid} {s t u : World} (hst : OnlyRun run s t) (htu : OnlyRun run t u) :
    OnlyRun run s u :=
  ⟨hst.setting.trans htu.setting, fun j hj => (htu.others j hj).trans (hst.others j hj)⟩

lemma OnlyRun.updateRun (run : Guid) (u : RunWrite) (s : World) :
    OnlyRun run s (Stmt.exec (.updateRun run u) s) :=
  ⟨sameSetting_exec rfl s, fun _ hj => find?_updateRuns_ne hj u s⟩

/-- Resolving the provider finds one exactly if the reference has one, and fails at most
the run itself. -/
lemma resolveProvider_ends (h : Host) (run : TestRun) (p : PendingEndpoint) (s : World) :
    (resolveProvider h run p).Ends Stmt.exec s fun found s' =>
      found.isSome = provider? h s p ∧ OnlyRun run.id s s' ∧ s'.drivers = s.drivers ∧
        (provider? h s p = true → s'.runs = s.runs) := by
  rw [resolveProvider, provider?]
  by_cases hd : isDocker p.provider = true
  · rw [if_pos hd, if_pos hd]
    refine Proc.ends_ret.mpr ⟨?_, .refl _ s, rfl, fun _ => rfl⟩
    cases h.dockerEnabled <;> rfl
  · rw [if_neg hd, if_neg hd]
    refine Proc.ends_issue_bind.mpr ?_
    rw [exec_query, hasProvider]
    cases pending : p.cloudAccountId.bind s.accounts.find? with
    | none => exact Proc.ends_ret.mpr ⟨rfl, .refl _ s, rfl, fun _ => rfl⟩
    | some acct =>
        by_cases hempty : acct.provider = ""
        · simp only [hempty, if_true]
          exact Proc.ends_ret.mpr ⟨by simp [hempty], .refl _ s, rfl, fun _ => rfl⟩
        · simp only [hempty, if_false]
          cases hwhy : notActiveReason acct.name acct.status acct.validationError with
          | some why =>
              refine Proc.ends_issue_bind.mpr (Proc.ends_ret.mpr ⟨by simp [hwhy], ?_, rfl, ?_⟩)
              · exact .updateRun run.id (.accountGate why) s
              · simp [hwhy]
          | none =>
              exact Proc.ends_ret.mpr ⟨by simp [hwhy, hempty], .refl _ s, rfl, fun _ => rfl⟩

/-- A kick whose run is still queued and unlinked starts a driver. -/
lemma kickDeployment_ends (run : TestRun) (spec : DeploymentSpec) {s : World}
    (hrow : s.runs.find? run.id = some run) (hq : run.status = .queued)
    (hlink : run.provisioningDeploymentId = none) :
    (kickDeployment run spec).Ends Stmt.exec s fun b s' =>
      b = true ∧ OnlyRun run.id s s' ∧ s'.drivers.length = s.drivers.length + 1 := by
  rw [kickDeployment]
  refine Proc.ends_issue_bind.mpr (Proc.ends_issue_bind.mpr (Proc.ends_issue_bind.mpr ?_))
  have hhit : (Stmt.exec (.insertDeployment spec s.now) s).runs.hits run.id
      (RunWrite.linkDeployment s.deployments.next).guard = true :=
    Table.hits_iff.mpr ⟨run, hrow, by simp [RunWrite.guard, hq, hlink]⟩
  rw [exec_query, if_pos hhit]
  refine Proc.ends_issue_bind.mpr (Proc.ends_ret.mpr ⟨rfl, ?_, by simp [Stmt.exec]⟩)
  have hadd : OnlyRun run.id s (Stmt.exec (.insertDeployment spec s.now) s) :=
    ⟨sameSetting_exec rfl s, fun _ _ => rfl⟩
  have hset := hadd.trans (.updateRun run.id (.linkDeployment s.deployments.next) _)
  exact hset.trans ⟨sameSetting_exec rfl _, fun _ _ => rfl⟩

/-- One turn of the loop: the run is kicked exactly if it is provisionable. -/
lemma kickGuarded_ends (h : Host) {s : World} {run : TestRun} {cfg : TestConfig}
    (hrow : s.runs.find? run.id = some run) (hq : run.status = .queued)
    (hlink : run.provisioningDeploymentId = none) :
    (kickGuarded h (run, cfg)).Ends Stmt.exec s fun _ s' => OnlyRun run.id s s' ∧
      s'.drivers.length = s.drivers.length +
        ((parsePending cfg.endpointRef).any (provider? h s)).toNat := by
  suffices hone : (kickOne h run cfg).Ends Stmt.exec s fun _ s' => OnlyRun run.id s s' ∧
      s'.drivers.length = s.drivers.length +
        ((parsePending cfg.endpointRef).any (provider? h s)).toNat by
    obtain ⟨b, s', hrun, hpost⟩ := hone
    refine ⟨b, s', ?_, hpost⟩
    rw [kickGuarded, Proc.run_rescue, hrun]
  rw [kickOne]
  cases parsePending cfg.endpointRef with
  | none => exact Proc.ends_ret.mpr ⟨.refl _ s, rfl⟩
  | some p =>
      refine (resolveProvider_ends h run p s).bind ?_
      rintro found s' ⟨hfound, honly, hdrivers, hruns⟩
      rw [Option.any_some, ← hfound]
      cases found with
      | none => exact Proc.ends_ret.mpr ⟨honly, by rw [hdrivers]; rfl⟩
      | some provider =>
          have hrow' : s'.runs.find? run.id = some run := by rw [hruns hfound.symm, hrow]
          refine Proc.Ends.mono (fun b s'' hpost => ?_) (kickDeployment_ends run _ hrow' hq hlink)
          obtain ⟨-, honly', hone⟩ := hpost
          exact ⟨honly.trans honly', by rw [hone, hdrivers]; rfl⟩

/-! ### A pass -/

/-- In the setting of `w`, a driver has been started for each provisionable run among
`done`, and the runs behind them still have their rows. -/
structure Kicked (h : Host) (w : World) (done : List TestRun) (s : World) : Prop where
  setting : w.SameSetting s
  rest : ∀ r ∈ w.runs.rows, (∀ x ∈ done, x.id ≠ r.id) → s.runs.find? r.id = some r
  drivers : s.drivers.length = w.drivers.length + done.countP (provisionable h w)

/-- One turn of the loop moves the pass on by its run. -/
lemma Kicked.turn {h : Host} {w s : World} {done : List TestRun} (hs : Kicked h w done s)
    {r : TestRun} (hr : r ∈ kickQueue w) (hfresh : ∀ x ∈ done, x.id ≠ r.id) {cfg : TestConfig}
    (hcfg : w.configOf r = some cfg) :
    (kickGuarded h (r, cfg)).Ends Stmt.exec s fun _ s' => Kicked h w (done ++ [r]) s' := by
  obtain ⟨hrow, hkick⟩ := mem_kickQueue.mp hr
  simp only [isKickable, Bool.and_eq_true, beq_iff_eq, Option.isNone_iff_eq_none] at hkick
  have hfind := hs.rest r hrow hfresh
  have hsame : (parsePending cfg.endpointRef).any (provider? h s) = provisionable h w r := by
    have hprov : provider? h s = fun p => if isDocker p.provider then h.dockerEnabled
        else hasProvider w p := by
      funext p
      rw [provider?, hasProvider, hs.setting.accounts, hasProvider]
    rw [provisionable, hcfg, Option.bind_some, hprov]
  refine (kickGuarded_ends h hfind hkick.1.1.1 hkick.1.1.2).mono fun _ s' hpost => ?_
  obtain ⟨honly, hdrivers⟩ := hpost
  refine ⟨hs.setting.trans honly.setting, fun x hx hne => ?_, ?_⟩
  · have hxr : x.id ≠ r.id := fun heq => hne r (by simp) heq.symm
    rw [honly.others x.id hxr]
    exact hs.rest x hx fun y hy => hne y (List.mem_append_left _ hy)
  · rw [hdrivers, hs.drivers, hsame, List.countP_append, List.countP_singleton]
    cases provisionable h w r <;> simp [Nat.add_assoc]

/-- The batch of a pass is the front of its queue. -/
lemma kickCandidates_eq (w : World) (limit : ℕ) :
    kickCandidates w.now limit w =
      ((kickQueue w).take (min kickBatchLimit limit)).filterMap (withConfig w) := rfl

/-- The loop goes through its batch and returns. -/
lemma kicked_count (h : Host) {w : World} (rs : List TestRun) {done : List TestRun} {s : World}
    (hs : Kicked h w done s) (hrs : ∀ r ∈ rs, r ∈ kickQueue w)
    (hnd : ((done ++ rs).map TestRun.id).Nodup) :
    (Proc.count (kickGuarded h) (rs.filterMap (withConfig w))).Ends Stmt.exec s
      fun _ s' => Kicked h w (done ++ rs) s' := by
  induction rs generalizing done s with
  | nil => exact Proc.ends_ret.mpr (by rw [List.append_nil]; exact hs)
  | cons r rs ih =>
      have hr := hrs r (by simp)
      have hdistinct : Distinct TestRun.id (done ++ r :: rs) := hnd
      have hfresh : ∀ x ∈ done, x.id ≠ r.id := fun x hx => hdistinct.front_ne hx
      have hassoc : done ++ r :: rs = done ++ [r] ++ rs := by simp
      obtain ⟨cfg, hcfg⟩ := configOf_of_mem_kickQueue hr
      rw [List.filterMap_cons_some (b := (r, cfg)) (by simp [withConfig, hcfg]), Proc.count]
      refine (hs.turn hr hfresh hcfg).bind fun b s' hs' => ?_
      refine (ih hs' (fun x hx => hrs x (List.mem_cons_of_mem r hx)) (hassoc ▸ hnd)).bind
        fun n s'' hs'' => Proc.ends_ret.mpr ?_
      rwa [hassoc]

/-- A pass starts a driver for each provisionable run of the front of its queue. -/
lemma kickPendingRuns_ends (h : Host) (w : World) :
    (kickPendingRuns h).Ends Stmt.exec w fun _ s => s.drivers.length = w.drivers.length +
      ((kickQueue w).take (min kickBatchLimit (capacity h w))).countP (provisionable h w) := by
  rw [kickPendingRuns]
  refine Proc.ends_issue_bind.mpr ?_
  rw [exec_query]
  split_ifs with hfull
  · have hzero : capacity h w = 0 := Nat.sub_eq_zero_of_le hfull
    exact Proc.ends_ret.mpr (by rw [hzero, Nat.min_zero, List.take_zero]; rfl)
  · refine Proc.ends_issue_bind.mpr (Proc.ends_issue_bind.mpr ?_)
    rw [exec_query, exec_query, kickCandidates_eq]
    have hstart : Kicked h w [] w := ⟨.refl w, fun r hr _ => Table.find?_key hr, rfl⟩
    have hnd : (([] ++ (kickQueue w).take (min kickBatchLimit (capacity h w))).map
        TestRun.id).Nodup := (nodup_kickQueue w).sublist ((List.take_sublist _ _).map _)
    exact (kicked_count h _ hstart (fun r hr => List.mem_of_mem_take hr) hnd).mono
      fun _ s hs => hs.drivers

/-! ### A tick -/

/-- The world after a tick. -/
def orchestrated (h : Host) (w : World) : World := (Proc.run Stmt.exec (orchestratorTick h) w).2

/-- The number of runs a tick kicks: the drivers it starts. -/
def kicks (h : Host) (w : World) : ℕ := (orchestrated h w).drivers.length - w.drivers.length

/-- The number of runs a kick would not refuse. -/
def kickableRuns (h : Host) (w : World) : ℕ := (kickQueue w).countP (provisionable h w)

/-- The phases of a tick behind the kick. -/
def resolveAndRelease : Svc Unit := do
  let _ ← promoteProvisioningRuns
  let _ ← teardownFinishedRuns
  return ()

/-- Only the kick of a tick starts drivers. -/
lemma drivers_resolveAndRelease (s : World) :
    (Proc.run Stmt.exec resolveAndRelease s).2.drivers = s.drivers := by
  have hissues : resolveAndRelease.Issues fun l => ∀ t : World, (l.exec t).drivers = t.drivers := by
    refine Proc.Issues.bind (issues_promoteProvisioningRuns ?_ ?_ ?_ ?_) fun _ =>
      Proc.Issues.bind (issues_teardownFinishedRuns ?_ ?_ ?_) fun _ => trivial
    all_goals intros; rfl
  exact Proc.Issues.run_preserves (I := fun t => t.drivers = s.drivers) hissues
    (fun l t hl ht => (hl t).trans ht) rfl

/-- The kicks of a tick are the provisionable runs of its batch. -/
lemma kicks_eq (h : Host) (w : World) : kicks h w =
    ((kickQueue w).take (min kickBatchLimit (capacity h w))).countP (provisionable h w) := by
  obtain ⟨n, s, hrun, hs⟩ := kickPendingRuns_ends h w
  have htick : orchestrated h w = (Proc.run Stmt.exec resolveAndRelease s).2 :=
    congrArg Prod.snd (Proc.run_bind_ok Stmt.exec hrun)
  have hdrivers := drivers_resolveAndRelease s
  rw [kicks, htick, hdrivers, hs]
  omega

end ProvisioningOrchestrator

open ProvisioningOrchestrator

/-- **Kick progress.**  A tick kicks as many runs as the free capacity, the kickable runs
and the batch limit allow if and only if every run of its batch is provisionable or no run
behind the batch is. -/
theorem kicks_full_iff (h : Host) (w : World) :
    kicks h w = min (capacity h w) (min (kickableRuns h w) kickBatchLimit) ↔
      Batch.Fair (provisionable h w) (min kickBatchLimit (capacity h w)) (kickQueue w) := by
  have hmin : min (capacity h w) (min (kickableRuns h w) kickBatchLimit) =
      min (min kickBatchLimit (capacity h w)) ((kickQueue w).countP (provisionable h w)) := by
    rw [kickableRuns]
    omega
  rw [← Batch.countP_take_eq_min_iff, kicks_eq, hmin]

namespace DeletedAccount

/-- A config that wants a VM of the account. -/
def config (id account : Guid) : TestConfig :=
  .basic id "p" "pending" (.obj [("kind", .str "pending"),
    ("cloud_account_id", .str (Guid.text account)), ("region", .str "westeurope"),
    ("vm_size", .str "B2s"), ("os", .str "linux")]) (.obj [("modes", .arr [.str "http1"])])

/-- Five runs of an account that is gone, and behind them one of an active account. -/
def world : World :=
  { World.initial with
    now := seconds 100
    configs := ⟨[config 0 7, config 1 0], 2, by decide, by decide⟩
    accounts := ⟨[⟨0, "main", "azure", "active", none, ⟨[], []⟩, none⟩], 1, by decide, by decide⟩
    runs := ⟨(List.range 5).map (newRun (config 0 7) none none 0) ++
      [newRun (config 1 0) none none 1 5], 6, by decide, by decide⟩ }

end DeletedAccount

open DeletedAccount in
/-- Five slots are free and one run could be kicked, but the tick kicks none. -/
theorem refused_runs_fill_batch :
    kicks Host.plain world = 0 ∧ capacity Host.plain world = 5 ∧
      kickableRuns Host.plain world = 1 ∧
        ¬ kicks Host.plain world = min (capacity Host.plain world)
          (min (kickableRuns Host.plain world) kickBatchLimit) := by
  have hkicks : kicks Host.plain world = 0 := by decide +kernel
  have hcap : capacity Host.plain world = 5 := by decide +kernel
  have hruns : kickableRuns Host.plain world = 1 := by decide +kernel
  refine ⟨hkicks, hcap, hruns, ?_⟩
  rw [hkicks, hcap, hruns, kickBatchLimit]
  omega

end Networker
