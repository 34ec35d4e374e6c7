/-
What recovers a queued run whose agent has gone away.

* `StrandedClaim`: a queued run, claimed by an agent that is not in the registry, past
  the redispatch grace and the queued cutoff of the watchdog;
* `recovery`, `Moved`: one redispatch pass followed by one watchdog tick, and the
  outcomes that free the run;
* `redispatch_spares_claimed`: the pass does not touch a claimed run;
* `sweepQueued_ends`, `watchdog_spares`: the queued sweep and the rest of the tick;
* `stranded_claim_moves_iff`: the run moves only while no agent at all is online, no
  runner is waking and its config is not pending;
* `stranded_while_others_online`: a reachable state with an agent of another project.
-/
import Networker.ControlPlane.Routines
import Networker.ControlPlane.Statements

namespace Networker

open Data Concurrency RunDispatcher WatchdogService

/-- A queued run whose claim names an agent outside the registry, old enough for the
redispatch pass and for the queued sweep. -/
def StrandedClaim (w : World) (run : Guid) : Prop :=
  ∃ r agent, w.runs.find? run = some r ∧ r.status = .queued ∧ r.workerId = some agent ∧
    agent ∉ w.online ∧ r.createdAt < w.now - queuedMinAge ∧
    r.claimableSince < w.now - queuedCutoff

instance (w : World) (run : Guid) : Decidable (StrandedClaim w run) :=
  decidable_of_iff
    (∃ r ∈ (w.runs.find? run).toList, ∃ agent ∈ r.workerId.toList, r.status = .queued ∧
      agent ∉ w.online ∧ r.createdAt < w.now - queuedMinAge ∧
      r.claimableSince < w.now - queuedCutoff) <| by
    simp only [StrandedClaim, Option.mem_toList]
    constructor
    · rintro ⟨r, hr, agent, hagent, hq, hrest⟩
      exact ⟨r, agent, hr, hq, hagent, hrest⟩
    · rintro ⟨r, agent, hr, hq, hagent, hrest⟩
      exact ⟨r, hr, agent, hagent, hq, hrest⟩

/-- The world after one redispatch pass and one watchdog tick. -/
def recovery (h : Host) (w : World) : World :=
  (Proc.run Stmt.exec (watchdogTick h) (Proc.run Stmt.exec (redispatchQueued h) w).2).2

/-- The run has failed, or an online compatible agent of its project has claimed it. -/
def Moved (w : World) (run : Guid) : Prop :=
  ∃ r, w.runs.find? run = some r ∧
    (r.status = .failed ∨ ∃ a ∈ compatibleAgents w w.online r.projectId, r.workerId = some a.agentId)

/-! ### Statements that spare a run -/

/-- In the setting of `w`, the run has the row `r`. -/
structure Untouched (w : World) (run : Guid) (r : TestRun) (s : World) : Prop where
  setting : w.SameSetting s
  row : s.runs.find? run = some r

/-- The statement neither changes the setting nor, for the row `r`, the run. -/
def Stmt.spares (r : TestRun) (l : Stmt) : Prop :=
  l.keepsSetting = true ∧ ∀ t, l.onRun t r = r

lemma Untouched.exec {w s : World} {run : Guid} {r : TestRun} (hs : Untouched w run r s) {l : Stmt}
    (hl : l.spares r) : Untouched w run r (l.exec s) where
  setting := hs.setting.trans (sameSetting_exec hl.1 s)
  row := by rw [find?_runs_exec hs.row, hl.2]

/-- A write whose guard excludes the row spares it. -/
lemma spares_updateRun {r : TestRun} {run : Guid} {u : RunWrite}
    (h : r.id = run → u.guard r = false) : (Stmt.updateRun run u).spares r := by
  refine ⟨rfl, fun t => ?_⟩
  simp only [Stmt.onRun]
  split_ifs with hg
  · exact absurd (h hg.1) (by simp [hg.2])
  · rfl

/-! ### The redispatch pass -/

lemma id_of_mem_redispatchCandidates {cutoff : Time} {w : World} {c : TestRun × String}
    (h : c ∈ redispatchCandidates cutoff w) :
    w.runs.find? c.1.id = some c.1 ∧ c.1.workerId = none := by
  obtain ⟨r, hr, hc⟩ := List.mem_filterMap.mp h
  obtain ⟨cfg, -, rfl⟩ := Option.map_eq_some_iff.mp hc
  have hmem := mem_oldest.mp (List.mem_of_mem_take hr)
  obtain ⟨hrow, hsel⟩ := Table.mem_select.mp hmem
  simp only [Bool.and_eq_true, Option.isNone_iff_eq_none] at hsel
  exact ⟨Table.find?_key hrow, hsel.1.1.2⟩

/-- The pass reads the unclaimed runs once and leaves a claimed one alone. -/
lemma redispatch_spares_claimed (h : Host) {w : World} {run agent : Guid} {r : TestRun}
    (hr : w.runs.find? run = some r) (hclaim : r.workerId = some agent) :
    Untouched w run r (Proc.run Stmt.exec (redispatchQueued h) w).2 := by
  have hstart : Untouched w run r w := ⟨.refl w, hr⟩
  simp only [redispatchQueued, Svc.read, Proc.issue, Proc.act_bind, Proc.ret_bind, Proc.run_act,
    Stmt.exec]
  split_ifs
  · exact hstart
  · refine Proc.Issues.run_preserves (P := Stmt.spares r) (Proc.Issues.count _ fun c hc => ?_)
      (fun l s hl hs => hs.exec hl) hstart
    obtain ⟨hfind, hnone⟩ := id_of_mem_redispatchCandidates hc
    have hne : r.id ≠ c.1.id := by
      intro heq
      rw [← heq, run_id_of_find? hr] at hfind
      have hrow : r = c.1 := Option.some.inj (hr.symm.trans hfind)
      rw [← hrow, hclaim] at hnone
      exact absurd hnone (by simp)
    exact issues_redispatchOne h ⟨rfl, fun _ => rfl⟩ (fun _ _ => ⟨rfl, fun _ => rfl⟩) c
      (fun _ _ _ => ⟨rfl, fun _ => rfl⟩) fun _ _ => spares_updateRun fun heq => absurd heq hne

/-! ### The watchdog tick -/

section Tick

variable {I J : World → Prop}

/-- The sweep of the running runs returns and keeps what its statements keep. -/
lemma reapRunning_ends (h : Host) (now : Time) (runs : List TestRun)
    (publish : ∀ e s, I s → I (Stmt.exec (.publish e) s))
    (reap : ∀ run msg t s, I s → I (Stmt.exec (.updateRun run (.reapRunning msg t)) s)) {s : World}
    (hs : I s) : (Proc.count (reapRunningOne h now) runs).Ends Stmt.exec s fun _ s' => I s' := by
  refine Proc.Ends.count runs (fun r _ s hs => ?_) hs
  refine Proc.ends_issue_bind.mpr ?_
  dsimp only
  split_ifs
  · exact Proc.ends_ret.mpr hs
  all_goals
    refine Proc.ends_issue_bind.mpr ?_
    split
    · exact publish _ _ (reap _ _ _ _ hs) |> fun h' => ⟨true, _, rfl, h'⟩
    · exact Proc.ends_ret.mpr (reap _ _ _ _ hs)

/-- One step of the queued sweep. -/
lemma reapQueuedOne_ends {now : Time} {run : Guid} {s : World}
    (hJ : J (Stmt.exec (.updateRun run (.reapQueued queuedReapedError now)) s))
    (publish : ∀ e s, J s → J (Stmt.exec (.publish e) s)) :
    (reapQueuedOne now run).Ends Stmt.exec s fun _ s' => J s' := by
  refine Proc.ends_issue_bind.mpr ?_
  split
  · exact ⟨true, _, rfl, publish _ _ hJ⟩
  · exact Proc.ends_ret.mpr hJ

/-- The statements after the queued sweep. -/
def Stmt.afterSweep : Stmt → Prop
  | .query | .publish _ | .updateRun _ (.reapProvisioning ..) => True
  | .updateDeployment _ (.reap ..) => True
  | _ => False

/-- A tick ends with what the queued sweep establishes and the later sweeps keep. -/
lemma watchdogTick_establishes {h : Host} {s : World}
    (running : (Proc.count (reapRunningOne h s.now) (staleRunning s.now s)).Ends Stmt.exec s
      fun _ => I)
    (sweep : ∀ t, I t → (sweepQueued s.now).Ends Stmt.exec t fun _ => J)
    (keep : ∀ l t, Stmt.afterSweep l → J t → J (l.exec t)) :
    J (Proc.run Stmt.exec (watchdogTick h) s).2 := by
  obtain ⟨n, t, hrun, hI⟩ := running
  obtain ⟨m, u, hsweep, hJ⟩ := sweep t hI
  simp only [watchdogTick, Svc.read, Proc.issue, Proc.act_bind, Proc.ret_bind, Proc.run_act,
    exec_query]
  rw [Proc.run_bind_ok Stmt.exec hrun, Proc.run_bind_ok Stmt.exec hsweep]
  refine Proc.Issues.run_preserves (P := Stmt.afterSweep) ?_ keep hJ
  refine ⟨trivial, fun v => ?_⟩
  refine (Proc.Issues.count _ fun d _ => ?_).bind fun _ => ?_
  · exact issues_reapDeploymentOne _ d fun _ _ => trivial
  · refine ⟨trivial, fun v' => (Proc.Issues.count _ fun r _ => ?_).bind fun _ => trivial⟩
    exact issues_reapProvisioningOne trivial (fun _ => trivial) _ r fun _ => trivial

end Tick

/-- A run is among the stale queued ones exactly if its row is stale. -/
lemma mem_staleQueued_iff {now : Time} {s : World} {run : Guid} {r : TestRun}
    (hr : s.runs.find? run = some r) :
    run ∈ staleQueued now s ↔ isStaleQueued now s r = true := by
  constructor
  · intro hin
    obtain ⟨r', hr', hid⟩ := List.mem_map.mp hin
    obtain ⟨hrow, hstale⟩ := Table.mem_select.mp hr'
    have hfind : s.runs.find? r'.id = some r' := Table.find?_key hrow
    rw [hid, hr, Option.some.injEq] at hfind
    exact hfind ▸ hstale
  · exact fun hstale => List.mem_map.mpr
      ⟨r, Table.mem_select.mpr ⟨Table.mem_of_find? hr, hstale⟩, run_id_of_find? hr⟩

/-- Staleness of a row depends on the configs alone. -/
lemma isStaleQueued_congr {now : Time} {s t : World} (h : t.configs = s.configs) (r : TestRun) :
    isStaleQueued now t r = isStaleQueued now s r := by
  simp only [isStaleQueued, World.configOf, h]

/-- A tick that does not find the run among the stale queued ones leaves it queued. -/
lemma watchdog_spares (h : Host) {w s : World} {run : Guid} {r : TestRun} (hs : Untouched w run r s)
    (hq : r.status = .queued)
    (hfree : s.online ≠ [] ∨ anyWaking s.now s = true ∨ run ∉ staleQueued s.now s) :
    Untouched w run r (Proc.run Stmt.exec (watchdogTick h) s).2 := by
  have hrun := run_id_of_find? hs.row
  have hpublish : ∀ e t, Untouched w run r t → Untouched w run r (Stmt.exec (.publish e) t) :=
    fun e t ht => ht.exec ⟨rfl, fun _ => rfl⟩
  have hstay : ∀ t, Untouched w run r t →
      t.online = s.online ∧ t.testers = s.testers ∧ t.configs = s.configs := fun t ht =>
    ⟨ht.setting.online.trans hs.setting.online.symm, ht.setting.testers.trans hs.setting.testers.symm,
      ht.setting.configs.trans hs.setting.configs.symm⟩
  refine watchdogTick_establishes (I := Untouched w run r) ?_ (fun t ht => ?_) (fun l t hl ht => ?_)
  · refine reapRunning_ends h _ _ hpublish (fun run' msg t u hu => ?_) hs
    exact hu.exec (spares_updateRun fun _ => by simp [RunWrite.guard, hq])
  · obtain ⟨honline, htesters, hconfigs⟩ := hstay t ht
    refine Proc.ends_issue_bind.mpr ?_
    split_ifs with hon
    · exact Proc.ends_ret.mpr ht
    · refine Proc.ends_issue_bind.mpr ?_
      split_ifs with hwake
      · exact Proc.ends_ret.mpr ht
      · -- nobody is online and nothing wakes: the run is not among the stale ones
        have hnot : run ∉ staleQueued s.now t := by
          rcases hfree with h' | h' | h'
          · exact absurd (honline ▸ h') (by simpa using hon)
          · simp only [anyWaking, exec_query, htesters] at hwake
            exact absurd h' hwake
          · rwa [mem_staleQueued_iff ht.row, isStaleQueued_congr hconfigs,
              ← mem_staleQueued_iff hs.row]
        refine Proc.ends_issue_bind.mpr (Proc.Ends.count _ (fun run' hrun' u hu => ?_) ht)
        refine reapQueuedOne_ends (hu.exec (spares_updateRun fun hid => ?_)) hpublish
        exact absurd (hrun ▸ hid ▸ hrun') hnot
  · cases l with
    | updateRun run' u =>
        cases u with
        | reapProvisioning msg now =>
            exact ht.exec (spares_updateRun fun _ => by simp [RunWrite.guard, hq])
        | _ => exact hl.elim
    | _ => first | exact ht.exec ⟨rfl, fun _ => rfl⟩ | exact hl.elim

/-- A tick that finds the run among the stale queued ones, with nobody online and nothing
waking, fails it. -/
lemma watchdog_fails (h : Host) {s : World} {run : Guid} {r : TestRun}
    (hr : s.runs.find? run = some r) (hq : r.status = .queued) (honline : s.online = [])
    (hwake : anyWaking s.now s = false) (hstale : run ∈ staleQueued s.now s) :
    ∃ r', (Proc.run Stmt.exec (watchdogTick h) s).2.runs.find? run = some r' ∧
      r'.status = .failed := by
  have hrun := run_id_of_find? hr
  -- before its own step the run is untouched or failed, afterwards it is failed
  have hfailed : ∀ l t, Stmt.afterSweep l ∨ (∃ run' msg at', l = .updateRun run' (.reapQueued msg at')) →
      (∃ r', t.runs.find? run = some r' ∧ r'.status = .failed) →
      ∃ r', (Stmt.exec l t).runs.find? run = some r' ∧ r'.status = .failed := by
    rintro l t hl ⟨r', hr', hf⟩
    refine ⟨_, find?_runs_exec hr' l, ?_⟩
    have hkeep : l.spares r' := by
      rcases hl with hl | ⟨run', msg, at', rfl⟩
      · cases l with
        | updateRun run' u =>
            cases u with
            | reapProvisioning msg now => exact spares_updateRun fun _ => by simp [RunWrite.guard, hf]
            | _ => exact hl.elim
        | _ => first | exact ⟨rfl, fun _ => rfl⟩ | exact hl.elim
      · exact spares_updateRun fun _ => by simp [RunWrite.guard, hf]
    rw [hkeep.2, hf]
  refine watchdogTick_establishes (I := Untouched s run r) ?_ (fun t ht => ?_)
    fun l t hl => hfailed l t (Or.inl hl)
  · refine reapRunning_ends h _ _ (fun e t ht => ht.exec ⟨rfl, fun _ => rfl⟩)
      (fun run' msg t u hu => ?_) ⟨.refl s, hr⟩
    exact hu.exec (spares_updateRun fun _ => by simp [RunWrite.guard, hq])
  · have hwake' : anyWaking s.now t = false := by
      rw [anyWaking, ht.setting.testers]
      exact hwake
    have hmem : run ∈ staleQueued s.now t := by
      rwa [mem_staleQueued_iff ht.row, isStaleQueued_congr ht.setting.configs,
        ← mem_staleQueued_iff hr]
    refine Proc.ends_issue_bind.mpr ?_
    rw [ht.setting.online, honline]
    refine Proc.ends_issue_bind.mpr ?_
    simp only [exec_query, hwake', Bool.false_eq_true, if_false]
    refine Proc.ends_issue_bind.mpr ?_
    refine Proc.Ends.count_mem (b := run)
      (I := fun u => ∃ r', u.runs.find? run = some r' ∧ (r' = r ∨ r'.status = .failed)) _ hmem ?_ ?_ ?_
      ⟨r, ht.row, Or.inl rfl⟩
    · rintro run' - u ⟨r', hr', hcase⟩
      refine reapQueuedOne_ends ?_ fun e v hv => hv
      refine ⟨_, find?_runs_exec hr' _, ?_⟩
      rw [Stmt.onRun]
      split_ifs
      · exact Or.inr rfl
      · exact hcase
    · exact fun run' _ u hu => reapQueuedOne_ends (hfailed _ u (Or.inr ⟨_, _, _, rfl⟩) hu) fun e v hv => hv
    · rintro u ⟨r', hr', hcase⟩
      refine reapQueuedOne_ends ?_ fun e v hv => hv
      refine ⟨_, find?_runs_exec hr' _, ?_⟩
      rw [Stmt.onRun]
      split_ifs with hg
      · rfl
      · rcases hcase with rfl | hf
        · exact absurd ⟨hrun, by simp [RunWrite.guard, hq]⟩ hg
        · exact hf

/-! ### One pass and one tick -/

/-- **Stranded claims.**  A queued run that an absent agent holds, past both cutoffs, is
failed by a redispatch pass and a watchdog tick exactly if no agent of any project is
online, no runner is being woken and the run has a config whose endpoint is not
pending; otherwise it stays as it is. -/
theorem stranded_claim_moves_iff (h : Host) (w : World) (run : Guid) (hs : StrandedClaim w run) :
    Moved (recovery h w) run ↔
      w.online = [] ∧ anyWaking w.now w = false ∧
        ∃ r cfg, w.runs.find? run = some r ∧ w.configOf r = some cfg ∧
          cfg.endpointKind ≠ "pending" := by
  obtain ⟨r, agent, hr, hq, hclaim, hoff, -, hold⟩ := hs
  have hpass := redispatch_spares_claimed h hr hclaim
  set s := (Proc.run Stmt.exec (redispatchQueued h) w).2
  have hset := hpass.setting
  have hmem : run ∈ staleQueued s.now s ↔ ∃ cfg, w.configOf r = some cfg ∧
      cfg.endpointKind ≠ "pending" := by
    have hage : r.claimableSince < s.now - queuedCutoff := by
      rw [hset.now]
      exact hold
    rw [mem_staleQueued_iff hpass.row, isStaleQueued_congr hset.configs]
    simp only [isStaleQueued, hq, hage]
    cases w.configOf r <;> simp
  have hwake : anyWaking s.now s = anyWaking w.now w := by
    rw [anyWaking, hset.testers, hset.now, anyWaking]
  constructor
  · intro hmoved
    by_contra hnot
    have hfree : s.online ≠ [] ∨ anyWaking s.now s = true ∨ run ∉ staleQueued s.now s := by
      rw [hset.online, hwake, hmem]
      by_cases honline : w.online = []
      · cases hw : anyWaking w.now w with
        | true => exact Or.inr (Or.inl rfl)
        | false =>
            refine Or.inr (Or.inr ?_)
            rintro ⟨cfg, hcfg, hkind⟩
            exact hnot ⟨honline, hw, r, cfg, hr, hcfg, hkind⟩
      · exact Or.inl honline
    have hstay := watchdog_spares h hpass hq hfree
    obtain ⟨r', hr', hcase⟩ := hmoved
    obtain rfl : r = r' := Option.some.inj (hstay.row.symm.trans hr')
    rcases hcase with hf | ⟨a, ha, hown⟩
    · rw [hq] at hf
      exact absurd hf (by simp)
    · have hon : a.agentId ∈ w.online := by
        have := (List.mem_filter.mp ha).1
        have := (Table.mem_select.mp this).2
        rw [Bool.and_eq_true, List.contains_iff_mem, recovery, hstay.setting.online] at this
        exact this.1
      rw [hclaim, Option.some.injEq] at hown
      exact hoff (hown ▸ hon)
  · rintro ⟨honline, hw, r', cfg, hr', hcfg, hkind⟩
    obtain rfl : r = r' := Option.some.inj (hr.symm.trans hr')
    obtain ⟨r', hr', hf⟩ := watchdog_fails h hpass.row hq (hset.online.trans honline)
      (hwake.trans hw) (hmem.mpr ⟨cfg, hcfg, hkind⟩)
    exact ⟨r', hr', Or.inl hf⟩

namespace AbsentAgent

def config : TestConfig :=
  .basic 0 "p" "network" (.obj [("kind", .str "network"), ("host", .str "h"), ("port", .int 443)])
    (.obj [("modes", .arr [.str "http1"])])

/-- Agent 0 belongs to the project of the config, agent 1 to another project. -/
def world : World :=
  { World.initial with
    configs := ⟨[config], 1, by decide, by decide⟩
    agents := ⟨[⟨0, "p", some "0.30.0", none, "offline", none⟩,
      ⟨1, "q", some "0.30.0", none, "offline", none⟩], 2, by decide, by decide⟩ }

/-- A run is assigned to agent 0, which then disconnects for 400 s. -/
def absence : List Move :=
  .env (.connect 0) :: .start (.launch 0 none none) :: steps 0 12 ++
    [.env (.disconnect 0), .env (.elapse (seconds 400))]

/-- Nobody is online any more. -/
def deserted : World := ((controlPlane Host.plain).after (.fresh world) absence).state

/-- The agent of the other project is online. -/
def attended : Sys := (controlPlane Host.plain).after (.fresh world) (absence ++ [.env (.connect 1)])

end AbsentAgent

open AbsentAgent in
theorem stranded_claim_moves_iff_deserted :
    Moved (recovery Host.plain deserted) 0 ↔
      deserted.online = [] ∧ anyWaking deserted.now deserted = false ∧
        ∃ r cfg, deserted.runs.find? 0 = some r ∧ deserted.configOf r = some cfg ∧
          cfg.endpointKind ≠ "pending" :=
  stranded_claim_moves_iff Host.plain deserted 0 (by decide +kernel)

open AbsentAgent in
/-- The agent of another project keeps the sweep away from the stranded run. -/
theorem stranded_while_others_online :
    Reachable Host.plain world attended ∧ StrandedClaim attended.state 0 ∧
      ¬ Moved (recovery Host.plain attended.state) 0 := by
  refine ⟨⟨_, rfl⟩, by decide +kernel, ?_⟩
  rintro ⟨r, hr, hmoved⟩
  have hrow : ((recovery Host.plain attended.state).runs.find? 0).map (fun r =>
      (r.status, r.workerId)) = some (.queued, some 0) := by decide +kernel
  have honline : 0 ∉ (recovery Host.plain attended.state).online := by decide +kernel
  rw [hr, Option.map_some, Option.some.injEq, Prod.mk.injEq] at hrow
  rcases hmoved with hf | ⟨a, ha, hown⟩
  · rw [hf] at hrow
    exact absurd hrow.1 (by decide)
  · rw [hrow.2, Option.some.injEq] at hown
    have hmem := (Table.mem_select.mp (List.mem_filter.mp ha).1).2
    rw [Bool.and_eq_true, List.contains_iff_mem] at hmem
    exact honline (hown ▸ hmem.1)

end Networker
