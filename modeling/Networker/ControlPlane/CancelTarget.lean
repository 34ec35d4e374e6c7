/-
Whether a cancel reaches the agent that holds the run.

* `FirstLeastLoaded`, `leastLoaded_eq_iff`: the agent the load comparison picks;
* `targetAgent`, `selectTargetAgent_run`: the target heuristic as a function of the
  state it reads;
* `otherClaims`, `liveClaims_cancel`: the loads once the run is cancelled;
* `sendCancel_mem_trace_iff`: a cancel sends to the target and to nobody else;
* `OwnerIsTarget`, `cancel_reaches_owner_iff`: the owner is told exactly if the
  assignment heuristic would choose it again;
* `cancel_sent_to_other_agent`: an owner with two runs next to an idle agent.
-/
import Networker.ControlPlane.Routines
import Networker.ControlPlane.Statements

namespace Networker

open Data Concurrency

namespace RunDispatcher

/-! ### The least loaded agent -/

/-- `x` is the first of the least loaded agents of a list. -/
def FirstLeastLoaded (load : Guid → ℕ) (agents : List Agent) (x : Agent) : Prop :=
  ∃ xs ys, agents = xs ++ x :: ys ∧ (∀ b ∈ xs, load x.agentId < load b.agentId) ∧
    ∀ b ∈ ys, load x.agentId ≤ load b.agentId

/-- The comparison loop ends with the first least loaded agent. -/
lemma firstLeastLoaded_leastLoaded (load : Guid → ℕ) (first : Agent) (others : List Agent) :
    FirstLeastLoaded load (first :: others) (leastLoaded load first others) := by
  induction others generalizing first with
  | nil => exact ⟨[], [], rfl, by simp, by simp⟩
  | cons c cs ih =>
      rw [leastLoaded]
      by_cases hlt : load c.agentId < load first.agentId
      · rw [if_pos hlt]
        obtain ⟨xs, ys, heq, hxs, hys⟩ := ih c
        set x := leastLoaded load c cs
        have hle : load x.agentId ≤ load c.agentId := by
          cases xs with
          | nil =>
              obtain ⟨hc, -⟩ := List.cons.inj heq
              rw [hc]
          | cons b bs =>
              obtain ⟨hc, -⟩ := List.cons.inj heq
              have := hxs b (by simp)
              rw [hc]
              omega
        refine ⟨first :: xs, ys, by rw [heq, List.cons_append], fun b hb => ?_, hys⟩
        rcases List.mem_cons.mp hb with rfl | hb
        · omega
        · exact hxs b hb
      · rw [if_neg hlt]
        obtain ⟨xs, ys, heq, hxs, hys⟩ := ih first
        set x := leastLoaded load first cs
        cases xs with
        | nil =>
            obtain ⟨hx, hcs⟩ := List.cons.inj heq
            refine ⟨[], c :: ys, by rw [hcs, hx, List.nil_append], by simp, fun b hb => ?_⟩
            rcases List.mem_cons.mp hb with rfl | hb
            · rw [← hx]
              omega
            · exact hys b hb
        | cons b bs =>
            obtain ⟨hb, hcs⟩ := List.cons.inj heq
            refine ⟨first :: c :: bs, ys, by rw [hcs]; rfl, fun d hd => ?_, hys⟩
            have hxb : load x.agentId < load first.agentId := hb ▸ hxs b (by simp)
            rcases List.mem_cons.mp hd with rfl | hd
            · exact hxb
            · rcases List.mem_cons.mp hd with rfl | hd
              · omega
              · exact hxs d (by simp [hd])

/-- There is only one first least loaded agent. -/
lemma FirstLeastLoaded.unique {load : Guid → ℕ} {agents : List Agent} {x y : Agent}
    (hx : FirstLeastLoaded load agents x) (hy : FirstLeastLoaded load agents y) : x = y := by
  obtain ⟨xs, xs', heq, hlt, hle⟩ := hx
  obtain ⟨ys, ys', heq', hlt', hle'⟩ := hy
  rw [heq] at heq'
  rcases List.append_eq_append_iff.mp heq' with ⟨zs, hys, htail⟩ | ⟨zs, hxs, htail⟩
  · cases zs with
    | nil => exact (List.cons.inj htail).1
    | cons z zs =>
        -- `x` stands in front of `y`
        obtain ⟨rfl, hxs'⟩ := List.cons.inj htail
        have h1 := hlt' x (by simp [hys])
        have h2 := hle y (by simp [hxs'])
        omega
  · cases zs with
    | nil => exact (List.cons.inj htail).1.symm
    | cons z zs =>
        obtain ⟨rfl, hys'⟩ := List.cons.inj htail
        have h1 := hlt y (by simp [hxs])
        have h2 := hle' x (by simp [hys'])
        omega

lemma leastLoaded_eq_iff {load : Guid → ℕ} {first : Agent} {others : List Agent} {x : Agent} :
    leastLoaded load first others = x ↔ FirstLeastLoaded load (first :: others) x := by
  constructor
  · rintro rfl
    exact firstLeastLoaded_leastLoaded load first others
  · exact fun hx => (firstLeastLoaded_leastLoaded load first others).unique hx

/-! ### The target heuristic -/

/-- The first agent of a list that is bound to the tester. -/
def boundAgent (tester : Option Guid) (agents : List Agent) : Option Agent :=
  tester.bind fun tid => agents.find? fun a => a.testerId == some tid

/-- What the heuristic returns in a state. -/
def targetAgent (w : World) (projectId : String) (tester : Option Guid) : Option Guid :=
  match compatibleAgents w w.online projectId with
  | [] => none
  | first :: others =>
      some ((boundAgent tester (first :: others)).getD
        (leastLoaded (liveClaims w) first others)).agentId

/-- The heuristic run alone returns the target of the state and changes nothing. -/
lemma selectTargetAgent_run (w : World) (projectId : String) (tester : Option Guid) :
    Proc.run Stmt.exec (selectTargetAgent projectId tester) w =
      (.ok (targetAgent w projectId tester), w) := by
  simp only [selectTargetAgent, Svc.read, Proc.issue, Proc.act_bind, Proc.ret_bind, Proc.run_act,
    exec_query, targetAgent]
  by_cases hon : w.online.isEmpty = true
  · have hnil : compatibleAgents w w.online projectId = [] := by
      rw [List.isEmpty_iff] at hon
      simp [compatibleAgents, hon, Table.select]
    rw [if_pos hon, hnil]
    rfl
  · rw [if_neg hon]
    cases hc : compatibleAgents w w.online projectId with
    | nil => simp [hc]
    | cons first others =>
        simp only [Proc.run_act, exec_query, hc, boundAgent]
        cases hb : tester.bind fun tid =>
            (first :: others).find? fun a => a.testerId == some tid with
        | some bound => simp
        | none =>
            cases others with
            | nil => simp [leastLoaded]
            | cons c cs => simp

lemma trace_selectTargetAgent (w : World) (projectId : String) (tester : Option Guid) :
    ∀ l ∈ Proc.trace Stmt.exec (selectTargetAgent projectId tester) w, l = .query :=
  Proc.Issues.trace Stmt.exec (issues_selectTargetAgent (P := (· = .query)) rfl projectId tester) w

/-- The target is one of the online compatible agents. -/
lemma mem_of_targetAgent {w : World} {projectId : String} {tester : Option Guid} {a : Guid}
    (h : targetAgent w projectId tester = some a) :
    ∃ x ∈ compatibleAgents w w.online projectId, x.agentId = a := by
  rw [targetAgent] at h
  split at h
  · exact absurd h (by simp)
  · rename_i first others hc
    rw [Option.some.injEq] at h
    rw [hc]
    refine ⟨_, ?_, h⟩
    cases hb : boundAgent tester (first :: others) with
    | none =>
        obtain ⟨xs, ys, heq, -⟩ := firstLeastLoaded_leastLoaded (liveClaims w) first others
        rw [Option.getD_none, heq]
        simp
    | some b =>
        obtain ⟨tid, -, hfind⟩ := Option.bind_eq_some_iff.mp hb
        exact List.mem_of_find?_eq_some hfind

/-- A compatible agent is online and of the project. -/
lemma mem_compatibleAgents {w : World} {projectId : String} {x : Agent}
    (h : x ∈ compatibleAgents w w.online projectId) :
    x.agentId ∈ w.online ∧ x.projectId = projectId ∧ w.agents.find? x.agentId = some x := by
  obtain ⟨hrow, hsel⟩ := Table.mem_select.mp (List.mem_filter.mp h).1
  rw [Bool.and_eq_true, List.contains_iff_mem, beq_iff_eq] at hsel
  exact ⟨hsel.1, hsel.2, Table.find?_key hrow⟩

lemma mem_online_of_targetAgent {w : World} {projectId : String} {tester : Option Guid} {a : Guid}
    (h : targetAgent w projectId tester = some a) : a ∈ w.online := by
  obtain ⟨x, hx, rfl⟩ := mem_of_targetAgent h
  exact (mem_compatibleAgents hx).1

/-! ### The frames of a cancel -/

/-- The world once the run is cancelled. -/
def cancelled (w : World) (run : Guid) : World := Stmt.exec (.updateRun run (.cancel w.now)) w

lemma trace_fanOutCancel (w : World) (target : Option Guid) (run : Guid) :
    Proc.trace Stmt.exec (fanOutCancel target run) w =
      match target with
      | none => []
      | some b => if w.online.contains b then [.query, .sendCancel b run] else [.query] := by
  cases target with
  | none => rfl
  | some b =>
      simp only [fanOutCancel, cancelOnAgent, Svc.read, Proc.issue, Proc.act_bind, Proc.ret_bind,
        Proc.trace_act, exec_query]
      split_ifs <;> rfl

/-- What a cancel does once it knows its target. -/
def announce (run : Guid) (target : Option Guid) : Svc Unit := do
  fanOutCancel target run
  let later ← Svc.read World.now
  Svc.publish (.jobUpdate run "cancelled" target none (some later))

lemma mem_trace_announce {w : World} {target : Option Guid} {run a : Guid} :
    .sendCancel a run ∈ Proc.trace Stmt.exec (announce run target) w ↔
      target = some a ∧ w.online.contains a = true := by
  have hrest : ∀ s' : World, .sendCancel a run ∉ Proc.trace Stmt.exec (do
      let later ← Svc.read World.now
      Svc.publish (.jobUpdate run "cancelled" target none (some later))) s' := by
    intro s' hmem
    exact absurd hmem (by simp [Svc.read, Svc.publish, Svc.exec, Proc.issue])
  have hfan := trace_fanOutCancel w target run
  rw [announce, Proc.mem_trace_bind, hfan]
  simp only [hrest, and_false, exists_false, or_false]
  cases target with
  | none => simp
  | some b =>
      dsimp only
      split_ifs with hon
      · constructor
        · intro hmem
          have hb : a = b := by simpa using hmem
          exact ⟨by rw [hb], hb ▸ hon⟩
        · rintro ⟨hb, -⟩
          simp [Option.some.inj hb]
      · constructor
        · intro hmem
          exact absurd hmem (by simp)
        · rintro ⟨hb, hcon⟩
          exact absurd (Option.some.inj hb ▸ hcon) hon

/-- Cancelling a run that has not ended sends the frame to the target, and to nobody
else. -/
lemma sendCancel_mem_trace_iff {w : World} {run a : Guid} {r : TestRun}
    (hr : w.runs.find? run = some r) (hopen : r.status.terminal = false) :
    .sendCancel a run ∈ Proc.trace Stmt.exec (cancelRun run) w ↔
      targetAgent (cancelled w run) r.projectId r.testerId = some a := by
  have hguard : (RunWrite.cancel w.now).guard r = true := by
    cases hs : r.status <;> simp_all [RunWrite.guard, RunStatus.terminal]
  have hhits : w.runs.hits run (RunWrite.cancel w.now).guard = true :=
    Table.hits_iff.mpr ⟨r, hr, hguard⟩
  have hrow : (cancelled w run).runs.find? run =
      some { r with status := .cancelled, finishedAt := some w.now } := by
    rw [cancelled, find?_runs_exec hr, Stmt.onRun, if_pos ⟨run_id_of_find? hr, hguard⟩]
    rfl
  have htrace : Proc.trace Stmt.exec (cancelRun run) w =
      .query :: .updateRun run (.cancel w.now) :: .query ::
        Proc.trace Stmt.exec (selectTargetAgent r.projectId r.testerId >>= announce run)
          (cancelled w run) := by
    simp only [cancelRun, Svc.read, Svc.updateRun, Proc.issue, Proc.act_bind, Proc.ret_bind,
      Proc.trace_act, exec_query, hhits, if_true]
    rw [← cancelled, hrow]
    rfl
  have hselect : .sendCancel a run ∉
      Proc.trace Stmt.exec (selectTargetAgent r.projectId r.testerId) (cancelled w run) := by
    intro hmem
    exact absurd (trace_selectTargetAgent _ _ _ _ hmem) (by simp)
  rw [htrace]
  simp only [List.mem_cons, reduceCtorEq, false_or]
  rw [Proc.mem_trace_bind, or_iff_right hselect]
  constructor
  · rintro ⟨target, s', hrun, hmem⟩
    rw [selectTargetAgent_run, Prod.mk.injEq, Except.ok.injEq] at hrun
    obtain ⟨rfl, rfl⟩ := hrun
    exact (mem_trace_announce.mp hmem).1
  · intro htarget
    refine ⟨some a, cancelled w run, ?_, mem_trace_announce.mpr ⟨rfl, ?_⟩⟩
    · rw [selectTargetAgent_run, htarget]
    · exact List.contains_iff_mem.mpr (mem_online_of_targetAgent htarget)

/-! ### The owner as target -/

/-- The queued or running runs of the agent besides one run. -/
def otherClaims (w : World) (run agent : Guid) : ℕ :=
  (w.runs.select fun r => r.id != run &&
    (r.workerId == some agent && (r.status == .queued || r.status == .running))).length

/-- Once the run is cancelled, an agent's load consists of its other runs. -/
lemma liveClaims_cancel (w : World) (run agent : Guid) :
    liveClaims (cancelled w run) agent = otherClaims w run agent := by
  simp only [liveClaims, otherClaims, cancelled, Stmt.exec, updateRuns, Table.update, Table.select]
  rw [List.filter_map, List.length_map]
  refine congrArg List.length (List.filter_congr fun r hr => ?_)
  simp only [Function.comp, Table.touch]
  by_cases hid : r.id = run
  · have hne : (r.id != run) = false := by simpa using hid
    rw [hne, Bool.false_and]
    split_ifs with hg
    · simp [RunWrite.set]
    · have hkey : (Keyed.key r == run) = true := beq_iff_eq.mpr hid
      rw [hkey, Bool.true_and] at hg
      cases hs : r.status <;> simp_all [RunWrite.guard]
  · have hne : (r.id != run) = true := by simpa using hid
    have hkey : (Keyed.key r == run) = false := beq_eq_false_iff_ne.mpr hid
    rw [hne, Bool.true_and, hkey, Bool.false_and, if_neg Bool.false_ne_true]

/-- The assignment heuristic, run on the row `r` of the cancelled run, would choose the
agent: it is the first online compatible agent bound to the run's tester, or no such
agent is bound to it and it is the first that is least loaded with other runs. -/
def OwnerIsTarget (w : World) (run : Guid) (r : TestRun) (agent : Guid) : Prop :=
  ∃ x, x.agentId = agent ∧
    (boundAgent r.testerId (compatibleAgents w w.online r.projectId) = some x ∨
      boundAgent r.testerId (compatibleAgents w w.online r.projectId) = none ∧
        FirstLeastLoaded (otherClaims w run) (compatibleAgents w w.online r.projectId) x)

lemma targetAgent_cancelled_iff {w : World} {run agent : Guid} {r : TestRun} :
    targetAgent (cancelled w run) r.projectId r.testerId = some agent ↔
      OwnerIsTarget w run r agent := by
  have hset : w.SameSetting (cancelled w run) := sameSetting_exec rfl w
  have hagents : compatibleAgents (cancelled w run) (cancelled w run).online r.projectId =
      compatibleAgents w w.online r.projectId := by
    rw [compatibleAgents, hset.agents, hset.online, compatibleAgents]
  have hload : liveClaims (cancelled w run) = otherClaims w run :=
    funext fun a => liveClaims_cancel w run a
  rw [targetAgent, hagents, hload, OwnerIsTarget]
  cases hc : compatibleAgents w w.online r.projectId with
  | nil =>
      constructor
      · exact fun h => absurd h (by simp)
      · rintro ⟨x, -, hb | ⟨-, xs, ys, heq, -⟩⟩
        · obtain ⟨tid, -, hfind⟩ := Option.bind_eq_some_iff.mp hb
          exact absurd hfind (by simp)
        · exact absurd heq (by simp)
  | cons first others =>
      cases hb : boundAgent r.testerId (first :: others) with
      | some b => simp [hb]
      | none =>
          simp only [hb, Option.getD_none, Option.some.injEq, reduceCtorEq, false_or, true_and]
          constructor
          · exact fun h => ⟨_, h, firstLeastLoaded_leastLoaded _ _ _⟩
          · rintro ⟨x, hx, hfirst⟩
            rw [leastLoaded_eq_iff.mpr hfirst, hx]

end RunDispatcher

open RunDispatcher

/-- The run has not ended and an agent in the registry holds it. -/
def HeldOnline (w : World) (run : Guid) (r : TestRun) (agent : Guid) : Prop :=
  w.runs.find? run = some r ∧ r.status.terminal = false ∧ r.workerId = some agent ∧
    agent ∈ w.online

/-- Cancelling the run sends `cancel_run` to the online agent that holds it. -/
def CancelReachesOwner (w : World) (run : Guid) : Prop :=
  ∀ r agent, HeldOnline w run r agent →
    .sendCancel agent run ∈ Proc.trace Stmt.exec (cancelRun run) w

/-- **Cancel and the owner.**  A cancel reaches the online owner of a run if and only if
the assignment heuristic chooses the owner: among the online compatible agents of the
project it is the first bound to the run's tester, or none is and it is the first least
loaded with other runs. -/
theorem cancel_reaches_owner_iff (w : World) (run : Guid) :
    CancelReachesOwner w run ↔ ∀ r agent, HeldOnline w run r agent → OwnerIsTarget w run r agent := by
  refine forall_congr' fun r => forall_congr' fun agent => imp_congr_right fun hheld => ?_
  rw [sendCancel_mem_trace_iff hheld.1 hheld.2.1, targetAgent_cancelled_iff]

namespace BusyOwner

def config : TestConfig :=
  .basic 0 "p" "network" (.obj [("kind", .str "network"), ("host", .str "h"), ("port", .int 443)])
    (.obj [("modes", .arr [.str "http1"])])

/-- Two agents of one project, neither bound to a tester. -/
def world : World :=
  { World.initial with
    configs := ⟨[config], 1, by decide, by decide⟩
    agents := ⟨[⟨0, "p", some "0.30.0", none, "offline", none⟩,
      ⟨1, "p", some "0.30.0", none, "offline", none⟩], 2, by decide, by decide⟩ }

/-- While agent 0 is alone two runs are assigned to it; then agent 1 connects. -/
def schedule : List Move :=
  .env (.connect 0) :: .start (.launch 0 none none) :: steps 0 12 ++
    .start (.launch 0 none none) :: steps 1 12 ++ [.env (.connect 1)]

def reached : Sys := (controlPlane Host.plain).after (.fresh world) schedule

end BusyOwner

open BusyOwner in
/-- The cancel of a run that agent 0 holds goes to agent 1. -/
theorem cancel_sent_to_other_agent :
    Reachable Host.plain world reached ∧ ¬ CancelReachesOwner reached.state 0 := by
  refine ⟨⟨_, rfl⟩, fun howner => ?_⟩
  have hheld : ∃ r, HeldOnline reached.state 0 r 0 := by
    have hrow : reached.state.runs.hits 0 (fun r =>
        !r.status.terminal && r.workerId == some 0) = true := by decide +kernel
    have honline : 0 ∈ reached.state.online := by decide +kernel
    obtain ⟨r, hr, hcond⟩ := Table.hits_iff.mp hrow
    simp only [Bool.and_eq_true, Bool.not_eq_true', beq_iff_eq] at hcond
    exact ⟨r, hr, hcond.1, hcond.2, honline⟩
  obtain ⟨r, hr⟩ := hheld
  have hsent := howner r 0 hr
  have hother : ((Proc.trace Stmt.exec (cancelRun 0) reached.state).any fun l =>
      match l with
      | .sendCancel a _ => a == 0
      | _ => false) = false := by decide +kernel
  rw [List.any_eq_false] at hother
  exact absurd (hother _ hsent) (by simp)

end Networker
