/-
Which waiting runs a redispatch pass assigns.

* `isWaiting`, `waiting`: the queue of a pass, oldest run first, and `redispatchCandidates_eq`:
  its batch is the front of that queue;
* `assignable`, `Builds`: the runs somebody can take, and whether their message builds;
* `deliver_run`, `redispatchOne_run`: what one turn of the loop does;
* `Served`, `served_count`: what a pass has done behind each of its turns;
* `NotStarved`, `redispatch_not_starved_iff`: nobody is left behind by a pass with room to
  spare exactly if its batch is fair and every assignable run of it builds;
* `starved_by_pending_runs`: fifty pending runs in front of a run with an idle agent.
-/
import Networker.ControlPlane.PoisonIsolation
import Networker.Data.Batch
import Networker.Data.Distinct

namespace Networker

open Data Concurrency

namespace RunDispatcher

/-! ### The queue -/

/-- Queued, unclaimed and past the grace. -/
def isWaiting (w : World) (r : TestRun) : Bool :=
  r.status == .queued && r.workerId.isNone && r.createdAt < w.now - queuedMinAge &&
    (w.configOf r).isSome

/-- The queue of a pass, oldest run first. -/
def waiting (w : World) : List TestRun :=
  oldest TestRun.createdAt (w.runs.select (isWaiting w))

/-- Waiting, with an endpoint that is not pending and an online compatible agent of its
project. -/
def assignable (w : World) (r : TestRun) : Bool :=
  isWaiting w r && ((w.configOf r).any fun c => !isPendingKind c.endpointKind) &&
    !(compatibleAgents w w.online r.projectId).isEmpty

/-- The `assign_run` message of the run can be built. -/
def Builds (h : Host) (w : World) (r : TestRun) : Prop :=
  ∀ cfg, w.configOf r = some cfg → Sendable h w r cfg

/-- A run with the endpoint kind the batch query reads. -/
def withKind (w : World) (r : TestRun) : TestRun × String :=
  (r, ((w.configOf r).map TestConfig.endpointKind).getD "")

lemma mem_waiting {w : World} {r : TestRun} :
    r ∈ waiting w ↔ r ∈ w.runs.rows ∧ isWaiting w r = true := by
  rw [waiting, mem_oldest, Table.mem_select]

lemma configOf_of_mem_waiting {w : World} {r : TestRun} (h : r ∈ waiting w) :
    ∃ cfg, w.configOf r = some cfg := by
  have hr := (mem_waiting.mp h).2
  rw [isWaiting, Bool.and_eq_true] at hr
  exact Option.isSome_iff_exists.mp hr.2

/-- The batch of a pass is the front of its queue. -/
lemma redispatchCandidates_eq (w : World) :
    redispatchCandidates (w.now - queuedMinAge) w =
      ((waiting w).take queuedRedispatchLimit).map (withKind w) := by
  have hqueue : oldest TestRun.createdAt (w.runs.select fun r => r.status == .queued &&
      r.workerId.isNone && r.createdAt < w.now - queuedMinAge && (w.configOf r).isSome) =
      waiting w := rfl
  rw [redispatchCandidates, hqueue, ← List.filterMap_eq_map]
  refine List.filterMap_congr fun r hr => ?_
  obtain ⟨cfg, hcfg⟩ := configOf_of_mem_waiting (List.mem_of_mem_take hr)
  simp [withKind, hcfg]

/-- An assignable run waits, in a config that is not pending. -/
lemma assignable_iff {w : World} {r : TestRun} {cfg : TestConfig} (hr : r ∈ waiting w)
    (hcfg : w.configOf r = some cfg) : assignable w r = true ↔
      isPendingKind cfg.endpointKind = false ∧ compatibleAgents w w.online r.projectId ≠ [] := by
  have hwait := (mem_waiting.mp hr).2
  simp [assignable, hwait, hcfg]

/-! ### One turn -/

/-- Building the payload reads the state and does not change it. -/
lemma serializeForAssign_snd (h : Host) (run : TestRun) (cfg : TestConfig) (agent : Guid)
    (s : World) : (Proc.run Stmt.exec (serializeForAssign h run cfg agent) s).2 = s := by
  refine Proc.Issues.run_preserves (I := (· = s))
    (issues_serializeForAssign (P := (· = .query)) h rfl run cfg agent) ?_ rfl
  rintro l t rfl rfl
  rfl

/-- A delivery raises without a trace, or it sends one frame. -/
lemma deliver_run (h : Host) {s : World} (run : TestRun) (cfg : TestConfig) {agent : Guid}
    (honline : agent ∈ s.online) :
    (∃ e, Proc.run Stmt.exec (deliver h run cfg agent) s = (.error e, s)) ∨
      ∃ x y, Proc.run Stmt.exec (deliver h run cfg agent) s =
          (.ok (s.reachable agent), Stmt.exec (.sendAssign agent run.id x y) s) ∧
        .sendAssign agent run.id x y ∈ Proc.trace Stmt.exec (deliver h run cfg agent) s := by
  have hsnd := serializeForAssign_snd h run cfg agent s
  rcases hser : Proc.run Stmt.exec (serializeForAssign h run cfg agent) s with ⟨e | ⟨x, y⟩, s'⟩
  · rw [hser] at hsnd
    obtain rfl : s' = s := hsnd
    exact Or.inl ⟨e, Proc.run_bind_error Stmt.exec hser⟩
  · rw [hser] at hsnd
    obtain rfl : s' = s := hsnd
    have hrun : Proc.run Stmt.exec (deliver h run cfg agent) s' =
        Proc.run Stmt.exec (assignRun agent run.id x y) s' := by
      rw [deliver, Proc.run_bind_ok Stmt.exec hser]
    have htrace : ∀ l ∈ Proc.trace Stmt.exec (assignRun agent run.id x y) s',
        l ∈ Proc.trace Stmt.exec (deliver h run cfg agent) s' := by
      intro l hl
      rw [deliver]
      exact (Proc.mem_trace_bind Stmt.exec).mpr (Or.inr ⟨(x, y), s', hser, hl⟩)
    have hcont : s'.online.contains agent = true := List.contains_iff_mem.mpr honline
    rw [hrun]
    simp only [assignRun, Svc.read, Proc.issue, Proc.act_bind, Proc.ret_bind, Proc.run_act,
      Proc.trace_act, exec_query, hcont, if_true, List.mem_cons] at htrace ⊢
    cases hw : (Json.obj [("type", .str "assign_run"), ("run", x), ("config", y)]).write 0 with
    | error f => exact Or.inl ⟨.fault f, rfl⟩
    | ok u =>
        rw [hw] at htrace
        exact Or.inr ⟨x, y, rfl, htrace _ (Or.inr (by simp [Svc.lift]))⟩

/-- The state behind the send, the claim and its publication. -/
def claimedBy (run agent : Guid) (x y : Json) (s : World) : World :=
  let sent := Stmt.exec (.sendAssign agent run x y) s
  let tester := (sent.agents.find? agent).bind Agent.testerId
  Stmt.exec (.publish (.jobUpdate run "queued" (some agent) none none))
    (Stmt.exec (.updateRun run (.stampAssignment agent tester)) sent)

/-- Assigning a run that somebody can take raises without a trace, or it sends the run and
claims it. -/
lemma tryAssign_run (h : Host) {s : World} {run : TestRun} {cfg : TestConfig}
    (hne : compatibleAgents s s.online run.projectId ≠ [])
    (hsend : ∀ agent x y, .sendAssign agent run.id x y ∈
      Proc.trace Stmt.exec (tryAssign h run cfg) s → s.reachable agent = true) :
    (∃ e, Proc.run Stmt.exec (tryAssign h run cfg) s = (.error e, s)) ∨
      ∃ agent x y, Proc.run Stmt.exec (tryAssign h run cfg) s =
        (.ok true, claimedBy run.id agent x y s) ∧ s.reachable agent = true := by
  rw [tryAssign_eq] at hsend ⊢
  have hselect := selectTargetAgent_run s run.projectId run.testerId
  rw [Proc.run_bind_ok Stmt.exec hselect]
  cases htarget : targetAgent s run.projectId run.testerId with
  | none =>
      rw [targetAgent] at htarget
      split at htarget
      · exact absurd ‹_› hne
      · exact absurd htarget (by simp)
  | some agent =>
      rw [htarget] at hselect
      dsimp only
      rcases deliver_run h run cfg (mem_online_of_targetAgent htarget) with
        ⟨e, hrun⟩ | ⟨x, y, hrun, hmem⟩
      · exact Or.inl ⟨e, Proc.run_bind_error Stmt.exec hrun⟩
      · have hreach : s.reachable agent = true := by
          refine hsend agent x y ((Proc.mem_trace_bind Stmt.exec).mpr (Or.inr ⟨_, s, hselect, ?_⟩))
          exact (Proc.mem_trace_bind Stmt.exec).mpr (Or.inl hmem)
        refine Or.inr ⟨agent, x, y, ?_, hreach⟩
        rw [Proc.run_bind_ok Stmt.exec hrun, hreach]
        rfl

lemma frame_claimedBy {w s : World} (hs : PassFrame w s) (run agent : Guid) (x y : Json) :
    PassFrame w (claimedBy run agent x y s) := by
  have hsent : PassFrame w (Stmt.exec (.sendAssign agent run x y) s) := hs.exec trivial
  have hstamped := hsent.exec (l := .updateRun run (.stampAssignment agent
    (((Stmt.exec (.sendAssign agent run x y) s).agents.find? agent).bind Agent.testerId))) trivial
  exact hstamped.exec (l := .publish (.jobUpdate run "queued" (some agent) none none)) trivial

/-- The claim is the only change to the runs. -/
lemma runs_claimedBy (run agent : Guid) (x y : Json) (s : World) :
    ∃ tester, (claimedBy run agent x y s).runs = updateRuns run (.stampAssignment agent tester) s := by
  refine ⟨(s.agents.find? agent).bind Agent.testerId, ?_⟩
  simp only [claimedBy, Stmt.exec]
  split_ifs <;> rfl

lemma find?_claimedBy_ne {s : World} {run agent j : Guid} {x y : Json} (hj : j ≠ run) :
    (claimedBy run agent x y s).runs.find? j = s.runs.find? j := by
  obtain ⟨tester, hruns⟩ := runs_claimedBy run agent x y s
  rw [hruns]
  exact find?_updateRuns_ne hj _ s

lemma find?_claimedBy_self {s : World} {run : Guid} (agent : Guid) (x y : Json) {r : TestRun}
    (hr : s.runs.find? run = some r) (hq : r.status = .queued) :
    ∃ r', (claimedBy run agent x y s).runs.find? run = some r' ∧ r'.workerId = some agent := by
  obtain ⟨tester, hruns⟩ := runs_claimedBy run agent x y s
  have hg : (RunWrite.stampAssignment agent tester).guard r = true := by simp [RunWrite.guard, hq]
  refine ⟨(RunWrite.stampAssignment agent tester).set s.now r, ?_, rfl⟩
  rw [hruns, updateRuns, Table.find?_update_self, hr, Option.map_some, if_pos hg]

lemma outbox_claimedBy {s : World} {run agent : Guid} {x y : Json}
    (h : s.reachable agent = true) :
    (claimedBy run agent x y s).outbox.length = s.outbox.length + 1 := by
  simp [claimedBy, Stmt.exec, h]

/-- One turn of the loop, in the setting of `w`: nothing happens unless the run is
assignable, and then it raises without a trace or the run is sent and claimed. -/
lemma redispatchOne_run (h : Host) {w s : World} (hs : PassFrame w s) {r : TestRun}
    (hr : r ∈ waiting w)
    (hsend : ∀ agent run x y, .sendAssign agent run x y ∈
      Proc.trace Stmt.exec (redispatchOne h (withKind w r)) s → w.reachable agent = true) :
    (assignable w r = false ∧
        Proc.run Stmt.exec (redispatchOne h (withKind w r)) s = (.ok false, s)) ∨
      (assignable w r = true ∧ ¬ Builds h w r ∧
        ∃ e, Proc.run Stmt.exec (redispatchOne h (withKind w r)) s = (.error e, s)) ∨
      assignable w r = true ∧ Builds h w r ∧ ∃ agent x y, s.reachable agent = true ∧
        Proc.run Stmt.exec (redispatchOne h (withKind w r)) s =
          (.ok true, claimedBy r.id agent x y s) := by
  obtain ⟨cfg, hcfg⟩ := configOf_of_mem_waiting hr
  have hkind : withKind w r = (r, cfg.endpointKind) := by simp [withKind, hcfg]
  have hends := redispatchOne_ends_iff h hs (r, cfg.endpointKind)
  have hassign := assignable_iff hr hcfg
  have hfind : s.configs.find? r.testConfigId = some cfg := by
    rw [hs.setting.configs]
    exact hcfg
  rw [hkind] at hsend ⊢
  cases hp : isPendingKind cfg.endpointKind with
  | true =>
      refine Or.inl ⟨?_, ?_⟩
      · rw [← Bool.not_eq_true, hassign, hp]
        simp
      · simp [redispatchOne, hp]
  | false =>
      have hstep : Proc.run Stmt.exec (redispatchOne h (r, cfg.endpointKind)) s =
          Proc.run Stmt.exec (tryAssign h r cfg) s := by
        simp [redispatchOne, hp, Svc.read, Proc.issue, hfind]
      have htrace : ∀ l ∈ Proc.trace Stmt.exec (tryAssign h r cfg) s,
          l ∈ Proc.trace Stmt.exec (redispatchOne h (r, cfg.endpointKind)) s := by
        intro l hl
        simpa [redispatchOne, hp, Svc.read, Proc.issue, hfind] using Or.inr hl
      have hreach : ∀ agent, s.reachable agent = w.reachable agent := fun agent => by
        rw [World.reachable, World.reachable, hs.setting.online, hs.setting.broken]
      have hagents : compatibleAgents s s.online r.projectId =
          compatibleAgents w w.online r.projectId := by
        rw [compatibleAgents, hs.setting.agents, hs.setting.online, compatibleAgents]
      rw [hstep]
      by_cases hne : compatibleAgents w w.online r.projectId = []
      · refine Or.inl ⟨?_, ?_⟩
        · rw [← Bool.not_eq_true, hassign]
          simp [hne]
        · have hselect := selectTargetAgent_run s r.projectId r.testerId
          rw [tryAssign_eq, Proc.run_bind_ok Stmt.exec hselect, targetAgent, hagents, hne]
          rfl
      · have hyes : assignable w r = true := hassign.mpr ⟨hp, hne⟩
        have hharm : Harmless h w (r, cfg.endpointKind) ↔ Builds h w r :=
          ⟨fun hall => hall hp hne, fun hb _ _ => hb⟩
        rw [hharm] at hends
        rw [Proc.Ends, hstep] at hends
        right
        rcases tryAssign_run h (hagents ▸ hne) (fun agent x y hmem =>
          (hreach agent).trans (hsend agent _ x y (htrace _ hmem))) with ⟨e, hrun⟩ |
            ⟨agent, x, y, hrun, hagent⟩
        · refine Or.inl ⟨hyes, fun hb => ?_, e, hrun⟩
          obtain ⟨a, s', heq, -⟩ := hends.mpr hb
          rw [hrun] at heq
          exact absurd (congrArg Prod.fst heq) (by simp)
        · exact Or.inr ⟨hyes, hends.mp ⟨_, _, hrun, trivial⟩, agent, x, y, hagent, hrun⟩

/-! ### A pass -/

/-- In the setting of `w`, exactly the assignable runs among `done` have been claimed, with
one frame each. -/
structure Served (w : World) (done : List TestRun) (s : World) : Prop where
  frame : PassFrame w s
  claimed : ∀ r ∈ done, assignable w r = true →
    ∃ r', s.runs.find? r.id = some r' ∧ r'.workerId.isSome = true
  rest : ∀ r ∈ w.runs.rows, (∀ x ∈ done, x.id ≠ r.id) → s.runs.find? r.id = some r
  sent : s.outbox.length = w.outbox.length + done.countP (assignable w)

lemma Served.start (w : World) : Served w [] w where
  frame := ⟨.refl w, rfl⟩
  claimed := by simp
  rest r hr _ := Table.find?_key hr
  sent := rfl

/-- A turn that does nothing. -/
lemma Served.skip {w s : World} {done : List TestRun} (hs : Served w done s) {r : TestRun}
    (hr : assignable w r = false) : Served w (done ++ [r]) s where
  frame := hs.frame
  claimed x hx hyes := by
    rcases List.mem_append.mp hx with hx | hx
    · exact hs.claimed x hx hyes
    · rw [List.mem_singleton.mp hx, hr] at hyes
      exact absurd hyes (by simp)
  rest x hx hne := hs.rest x hx fun y hy => hne y (List.mem_append_left _ hy)
  sent := by
    rw [hs.sent, List.countP_append, List.countP_singleton, hr]
    simp

/-- A turn that sends and claims its run. -/
lemma Served.claim {w s : World} {done : List TestRun} (hs : Served w done s) {r : TestRun}
    (hr : r ∈ waiting w) (hfresh : ∀ x ∈ done, x.id ≠ r.id) (hyes : assignable w r = true)
    {agent : Guid} (x y : Json) (hreach : s.reachable agent = true) :
    Served w (done ++ [r]) (claimedBy r.id agent x y s) where
  frame := frame_claimedBy hs.frame r.id agent x y
  claimed z hz hz' := by
    rcases List.mem_append.mp hz with hz | hz
    · rw [find?_claimedBy_ne (hfresh z hz)]
      exact hs.claimed z hz hz'
    · obtain rfl := List.mem_singleton.mp hz
      obtain ⟨hrow, hwait⟩ := mem_waiting.mp hr
      have hq : z.status = .queued := by
        simp only [isWaiting, Bool.and_eq_true, beq_iff_eq] at hwait
        exact hwait.1.1.1
      obtain ⟨r', hr', hworker⟩ := find?_claimedBy_self agent x y
        (hs.rest z hrow hfresh) hq
      exact ⟨r', hr', by rw [hworker]; rfl⟩
  rest z hz hne := by
    have hzr : z.id ≠ r.id := fun heq => hne r (by simp) heq.symm
    rw [find?_claimedBy_ne hzr]
    exact hs.rest z hz fun v hv => hne v (List.mem_append_left _ hv)
  sent := by
    rw [outbox_claimedBy hreach, hs.sent, List.countP_append, List.countP_singleton, hyes]
    simp [Nat.add_assoc]

/-- The loop serves its batch up to the first assignable run that does not build. -/
lemma served_count (h : Host) {w : World} (rs : List TestRun) {done : List TestRun} {s : World}
    (hs : Served w done s) (hrs : ∀ r ∈ rs, r ∈ waiting w)
    (hnd : ((done ++ rs).map TestRun.id).Nodup)
    (hsend : ∀ agent run x y, .sendAssign agent run x y ∈
      Proc.trace Stmt.exec (Proc.count (redispatchOne h) (rs.map (withKind w))) s →
        w.reachable agent = true) :
    ∃ pre post, rs = pre ++ post ∧ (∀ r ∈ pre, assignable w r = true → Builds h w r) ∧
      (∀ r ∈ post.head?, assignable w r = true ∧ ¬ Builds h w r) ∧
      Served w (done ++ pre)
        (Proc.run Stmt.exec (Proc.count (redispatchOne h) (rs.map (withKind w))) s).2 := by
  induction rs generalizing done s with
  | nil => exact ⟨[], [], rfl, by simp, by simp, by rw [List.append_nil]; exact hs⟩
  | cons r rs ih =>
      have hr := hrs r (by simp)
      have hdistinct : Distinct TestRun.id (done ++ r :: rs) := hnd
      have hfresh : ∀ x ∈ done, x.id ≠ r.id := fun x hx => hdistinct.front_ne hx
      have hnd' : ((done ++ [r] ++ rs).map TestRun.id).Nodup := by
        rwa [List.append_assoc, List.singleton_append]
      have hhead : ∀ agent run x y, .sendAssign agent run x y ∈
          Proc.trace Stmt.exec (redispatchOne h (withKind w r)) s → w.reachable agent = true :=
        fun agent run x y hmem => hsend agent run x y ((Proc.mem_trace_bind Stmt.exec).mpr
          (Or.inl hmem))
      have hnext : ∀ b s', Proc.run Stmt.exec (redispatchOne h (withKind w r)) s = (.ok b, s') →
          Served w (done ++ [r]) s' → (assignable w r = true → Builds h w r) →
          ∃ pre post, r :: rs = pre ++ post ∧ (∀ r ∈ pre, assignable w r = true → Builds h w r) ∧
            (∀ r ∈ post.head?, assignable w r = true ∧ ¬ Builds h w r) ∧
            Served w (done ++ pre) (Proc.run Stmt.exec
              (Proc.count (redispatchOne h) ((r :: rs).map (withKind w))) s).2 := by
        intro b s' hrun hserved hbuilds
        have htail : ∀ agent run x y, .sendAssign agent run x y ∈
            Proc.trace Stmt.exec (Proc.count (redispatchOne h) (rs.map (withKind w))) s' →
              w.reachable agent = true := by
          intro agent run x y hmem
          refine hsend agent run x y ((Proc.mem_trace_bind Stmt.exec).mpr (Or.inr ⟨b, s', hrun, ?_⟩))
          exact (Proc.mem_trace_bind Stmt.exec).mpr (Or.inl hmem)
        obtain ⟨pre, post, heq, hpre, hpost, hfinal⟩ :=
          ih hserved (fun x hx => hrs x (List.mem_cons_of_mem r hx)) hnd' htail
        refine ⟨r :: pre, post, by rw [heq, List.cons_append], ?_, hpost, ?_⟩
        · exact List.forall_mem_cons.mpr ⟨hbuilds, hpre⟩
        · rw [List.append_assoc, List.singleton_append] at hfinal
          rw [List.map_cons, Proc.count, Proc.run_bind_ok Stmt.exec hrun, Proc.run_bind]
          rcases hcount : Proc.run Stmt.exec (Proc.count (redispatchOne h) (rs.map (withKind w))) s'
            with ⟨_ | n, t⟩ <;> rw [hcount] at hfinal <;> exact hfinal
      rcases redispatchOne_run h hs.frame hr hhead with ⟨hno, hrun⟩ | ⟨hyes, hbad, e, hrun⟩ |
        ⟨hyes, hbuilds, agent, x, y, hreach, hrun⟩
      · exact hnext _ _ hrun (hs.skip hno) fun hyes => absurd (hno.symm.trans hyes) (by simp)
      · refine ⟨[], r :: rs, rfl, by simp, by simpa using ⟨hyes, hbad⟩, ?_⟩
        rw [List.map_cons, Proc.count, Proc.run_bind_error Stmt.exec hrun, List.append_nil]
        exact hs
      · exact hnext _ _ hrun (hs.claim hr hfresh hyes x y hreach) fun _ => hbuilds

lemma nodup_waiting (w : World) : ((waiting w).map TestRun.id).Nodup := by
  have hperm : (waiting w).Perm (w.runs.select (isWaiting w)) := List.perm_insertionSort _ _
  rw [(hperm.map TestRun.id).nodup_iff]
  exact w.runs.nodup.sublist (List.filter_sublist.map _)

/-- Every frame the pass sends reaches its agent. -/
def SendsSucceed (h : Host) (w : World) : Prop :=
  ∀ agent run x y, .sendAssign agent run x y ∈ Proc.trace Stmt.exec (redispatchQueued h) w →
    w.reachable agent = true

/-- The world after a pass. -/
def redispatched (h : Host) (w : World) : World := (Proc.run Stmt.exec (redispatchQueued h) w).2

/-- A pass that has sent fewer runs than its limit has claimed every assignable run. -/
def NotStarved (h : Host) (w : World) : Prop :=
  (redispatched h w).outbox.length < w.outbox.length + queuedRedispatchLimit →
    ∀ r ∈ w.runs.rows, assignable w r = true →
      ∃ r', (redispatched h w).runs.find? r.id = some r' ∧ r'.workerId.isSome = true

/-- A pass that finds an agent online serves the front of the queue. -/
lemma served_redispatched (h : Host) {w : World} (hon : w.online ≠ []) (hsend : SendsSucceed h w) :
    ∃ pre post, (waiting w).take queuedRedispatchLimit = pre ++ post ∧
      (∀ r ∈ pre, assignable w r = true → Builds h w r) ∧
      (∀ r ∈ post.head?, assignable w r = true ∧ ¬ Builds h w r) ∧
      Served w pre (redispatched h w) := by
  have hne : w.online.isEmpty = false := by simpa using hon
  have hnd : (([] ++ (waiting w).take queuedRedispatchLimit).map TestRun.id).Nodup :=
    (nodup_waiting w).sublist ((List.take_sublist _ _).map _)
  have hbatch := redispatchCandidates_eq w
  have hrun : redispatched h w = (Proc.run Stmt.exec (Proc.count (redispatchOne h)
      (((waiting w).take queuedRedispatchLimit).map (withKind w))) w).2 := by
    simp only [redispatched, redispatchQueued, Svc.read, Proc.issue, Proc.act_bind, Proc.ret_bind,
      Proc.run_act, exec_query, hne, Bool.false_eq_true, if_false, hbatch]
  have htrace : ∀ l ∈ Proc.trace Stmt.exec (Proc.count (redispatchOne h)
      (((waiting w).take queuedRedispatchLimit).map (withKind w))) w,
        l ∈ Proc.trace Stmt.exec (redispatchQueued h) w := by
    intro l hl
    simp only [redispatchQueued, Svc.read, Proc.issue, Proc.act_bind, Proc.ret_bind,
      Proc.trace_act, exec_query, hne, Bool.false_eq_true, if_false, hbatch, List.mem_cons]
    exact Or.inr (Or.inr (Or.inr hl))
  obtain ⟨pre, post, heq, hpre, hpost, hserved⟩ := served_count h
    ((waiting w).take queuedRedispatchLimit) (.start w) (fun r hr => List.mem_of_mem_take hr) hnd
    fun agent run x y hmem => hsend agent run x y (htrace _ hmem)
  exact ⟨pre, post, heq, hpre, hpost, hrun ▸ hserved⟩

/-- A run the pass has not come to keeps its row, and so is not claimed. -/
lemma Served.unclaimed {w s : World} {done : List TestRun} (hs : Served w done s) {r : TestRun}
    (hr : r ∈ waiting w) (hne : ∀ x ∈ done, x.id ≠ r.id) :
    ¬ ∃ r', s.runs.find? r.id = some r' ∧ r'.workerId.isSome = true := by
  obtain ⟨hrow, hwait⟩ := mem_waiting.mp hr
  rintro ⟨r', hfind, hclaim⟩
  rw [hs.rest r hrow hne, Option.some.injEq] at hfind
  simp only [isWaiting, Bool.and_eq_true, Option.isNone_iff_eq_none] at hwait
  rw [← hfind, hwait.1.1.2] at hclaim
  exact absurd hclaim (by simp)

end RunDispatcher

open RunDispatcher

/-- **No starvation.**  A redispatch pass whose sends succeed and that assigns fewer runs
than its limit leaves no assignable run unclaimed if and only if the message of every
assignable run of its batch builds, and either all runs of the batch are assignable or no
run behind the batch is. -/
theorem redispatch_not_starved_iff (h : Host) (w : World) (hsend : SendsSucceed h w) :
    NotStarved h w ↔
      (∀ r ∈ (waiting w).take queuedRedispatchLimit, assignable w r = true → Builds h w r) ∧
        Batch.Fair (assignable w) queuedRedispatchLimit (waiting w) := by
  by_cases hon : w.online = []
  · -- without agents nothing is assignable
    have hnone : ∀ r, assignable w r = false := by
      intro r
      simp [assignable, compatibleAgents, hon, Table.select]
    refine iff_of_true (fun _ r _ hr => ?_) ⟨fun r _ hr => ?_, Or.inr fun r _ => hnone r⟩
    · exact absurd ((hnone r).symm.trans hr) (by simp)
    · exact absurd ((hnone r).symm.trans hr) (by simp)
  · obtain ⟨pre, post, hbatch, hpre, hpost, hserved⟩ := served_redispatched h hon hsend
    have hnd := nodup_waiting w
    have hapart : ∀ x ∈ (waiting w).take queuedRedispatchLimit,
        ∀ r ∈ (waiting w).drop queuedRedispatchLimit, x.id ≠ r.id := by
      rw [← List.take_append_drop queuedRedispatchLimit (waiting w), List.map_append,
        List.nodup_append] at hnd
      exact fun x hx r hr => hnd.2.2 _ (List.mem_map_of_mem hx) _ (List.mem_map_of_mem hr)
    cases post with
    | nil =>
        -- the whole batch has been served
        rw [List.append_nil] at hbatch
        subst hbatch
        rw [← Batch.spare_imp_iff, NotStarved, hserved.sent]
        refine ⟨fun hall => ⟨hpre, fun hlt r hr => ?_⟩, fun hall hlt r hr hyes => ?_⟩
        · have hwait := List.mem_of_mem_drop hr
          by_contra hyes
          rw [Bool.not_eq_false] at hyes
          refine hserved.unclaimed hwait (fun x hx => hapart x hx r hr) ?_
          exact hall (by omega) r (mem_waiting.mp hwait).1 hyes
        · have hwait : r ∈ waiting w := by
            simp only [assignable, Bool.and_eq_true] at hyes
            exact mem_waiting.mpr ⟨hr, hyes.1.1⟩
          rw [← List.take_append_drop queuedRedispatchLimit (waiting w), List.mem_append] at hwait
          rcases hwait with hfront | hback
          · exact hserved.claimed r hfront hyes
          · have hno := hall.2 (by omega) r hback
            exact absurd (hno.symm.trans hyes) (by simp)
    | cons r post =>
        -- the pass has raised at `r`
        obtain ⟨hyes, hbad⟩ := hpost r (by simp)
        have hmem : r ∈ (waiting w).take queuedRedispatchLimit := by simp [hbatch]
        have hwait := List.mem_of_mem_take hmem
        refine iff_of_false (fun hall => ?_) fun hall => hbad (hall.1 r hmem hyes)
        have hlen : ((waiting w).take queuedRedispatchLimit).length ≤ queuedRedispatchLimit :=
          List.length_take_le _ _
        have hcount : pre.countP (assignable w) ≤ pre.length := List.countP_le_length
        have hsub := (List.take_sublist queuedRedispatchLimit (waiting w)).map TestRun.id
        have hnd' := hnd.sublist hsub
        rw [hbatch, List.length_append, List.length_cons] at hlen
        rw [hbatch, List.map_append, List.nodup_append] at hnd'
        refine hserved.unclaimed hwait (fun x hx => ?_) ?_
        · exact hnd'.2.2 _ (List.mem_map_of_mem hx) _ (by simp)
        · refine hall ?_ r (mem_waiting.mp hwait).1 hyes
          rw [hserved.sent]
          omega

namespace PendingQueue

/-- A config without endpoint yet, and one with an endpoint. -/
def pending : TestConfig :=
  .basic 0 "p" "pending" (.obj [("kind", .str "pending")]) (.obj [("modes", .arr [.str "http1"])])

def ready : TestConfig :=
  .basic 1 "p" "network" (.obj [("kind", .str "network"), ("host", .str "h"), ("port", .int 443)])
    (.obj [("modes", .arr [.str "http1"])])

/-- Runs of the pending config, and behind them one of the other config. -/
def queue (n : ℕ) : List TestRun :=
  (List.range n).map (newRun pending none none 0) ++ [newRun ready none none 1 n]

/-- An agent that is online. -/
def agent : Agent := ⟨0, "p", some "0.30.0", none, "online", none⟩

/-- An idle agent online next to a queue of runs. -/
def world (runs : Table TestRun) : World :=
  { World.initial with
    now := seconds 100
    configs := ⟨[pending, ready], 2, by decide, by decide⟩
    runs := runs
    agents := ⟨[agent], 1, by decide, by decide⟩
    online := [0] }

/-- One run behind fifty pending ones. -/
def starved : World := world ⟨queue 50, 51, by decide, by decide⟩

/-- One run behind a pending one. -/
def served : World := world ⟨queue 1, 2, by decide, by decide⟩

end PendingQueue

open PendingQueue in
/-- A short queue, whose only frame reaches the agent. -/
theorem redispatch_not_starved_short : SendsSucceed Host.plain served ∧
    (NotStarved Host.plain served ↔
      (∀ r ∈ (waiting served).take queuedRedispatchLimit,
        assignable served r = true → Builds Host.plain served r) ∧
          Batch.Fair (assignable served) queuedRedispatchLimit (waiting served)) := by
  have hsend : SendsSucceed Host.plain served := by
    have hall : ∀ l ∈ Proc.trace Stmt.exec (redispatchQueued Host.plain) served,
        ∀ p ∈ l.assignment?, served.reachable p.1 = true := by decide +kernel
    exact fun agent run x y hmem => hall _ hmem (agent, run) rfl
  exact ⟨hsend, redispatch_not_starved_iff Host.plain served hsend⟩

open PendingQueue in
/-- The fifty pending runs fill the batch, and the run behind them stays unclaimed. -/
theorem starved_by_pending_runs :
    SendsSucceed Host.plain starved ∧ ¬ NotStarved Host.plain starved := by
  constructor
  · have hall : ∀ l ∈ Proc.trace Stmt.exec (redispatchQueued Host.plain) starved,
        l.assignment? = none := by decide +kernel
    exact fun agent run x y hmem => absurd (hall _ hmem) (by simp [Stmt.assignment?])
  · intro hall
    have hroom : (redispatched Host.plain starved).outbox.length <
        starved.outbox.length + queuedRedispatchLimit := by decide
    have hrow : newRun ready none none 1 50 ∈ starved.runs.rows := by
      exact List.mem_append_right _ (List.mem_singleton_self _)
    have hyes : assignable starved (newRun ready none none 1 50) = true := rfl
    obtain ⟨r', hfind, hclaim⟩ := hall hroom _ hrow hyes
    have hidle : ((redispatched Host.plain starved).runs.find? 50).bind TestRun.workerId = none := by
      rfl
    have hid : (newRun ready none none 1 50).id = 50 := rfl
    rw [hid] at hfind
    rw [hfind, Option.bind_some] at hidle
    rw [hidle] at hclaim
    exact absurd hclaim (by simp)

end Networker
