/-
What the frames of an agent may touch.

* `Owns`, `TouchesOnlyOwn`: the run is of the agent's project and no other agent has
  claimed it; frames that leave every other run alone;
* `SameRun`: the row, the attempts, the artifacts and the events of a run are the same;
* `sameRun_exec`: a statement of a frame that does not name the run;
* `RowKept`, `RunWrite.rowKept`: what a frame may write to the row of a run it names;
* `frames_touch_named`: any frames of any agent touch the runs they name alone;
* `foreign_run_failed`: they need not be the agent's own.
-/
import Networker.ControlPlane.Routines
import Networker.ControlPlane.Statements

namespace Networker

open Data Concurrency

/-! ### Ownership -/

/-- The run is of the agent's project, and no other agent has claimed it. -/
def Owns (w : World) (agent : Guid) (r : TestRun) : Prop :=
  (∃ a, w.agents.find? agent = some a ∧ r.projectId = a.projectId) ∧
    ∀ b, r.workerId = some b → b = agent

/-- The row, the attempts, the artifacts and the events of the run are the same. -/
structure SameRun (run : Guid) (w w' : World) : Prop where
  row : w'.runs.find? run = w.runs.find? run
  attempts : (w'.attempts.filter fun a => a.runId == run) =
    w.attempts.filter fun a => a.runId == run
  artifacts : (w'.artifacts.select fun a => a.testRunId == run) =
    w.artifacts.select fun a => a.testRunId == run
  events : (w'.bus.filter fun e => e.run? == some run) = w.bus.filter fun e => e.run? == some run

/-- The state after the frames of one connection, handled in the order they arrive. -/
def afterFrames (agent : Guid) (frames : List AgentFrame) (w : World) : World :=
  (Proc.run Stmt.exec (AgentMessageProcessor.handleFrames agent frames) w).2

/-- The frames leave every run alone that the agent does not own, and add none. -/
structure TouchesOnlyOwn (w : World) (agent : Guid) (frames : List AgentFrame) : Prop where
  added : ∀ run, w.runs.find? run = none → (afterFrames agent frames w).runs.find? run = none
  others : ∀ run r, w.runs.find? run = some r → ¬ Owns w agent r →
    SameRun run w (afterFrames agent frames w)

lemma SameRun.refl (run : Guid) (w : World) : SameRun run w w := ⟨rfl, rfl, rfl, rfl⟩

lemma SameRun.trans {run : Guid} {u v w : World} (huv : SameRun run u v) (hvw : SameRun run v w) :
    SameRun run u w where
  row := hvw.row.trans huv.row
  attempts := hvw.attempts.trans huv.attempts
  artifacts := hvw.artifacts.trans huv.artifacts
  events := hvw.events.trans huv.events

/-! ### Runs that no frame names -/

section Unnamed

variable {agent run : Guid} {f : AgentFrame} {l : Stmt}

/-- A statement of a frame leaves the runs alone that the frame does not name. -/
lemma sameRun_exec (hl : (Task.frame agent f).mayIssue l) (hrun : f.run? ≠ some run) (w : World) :
    SameRun run w (l.exec w) := by
  cases l with
  | query => exact .refl run w
  | publish e =>
      obtain ⟨run', hf, he⟩ := hl
      have hne : ¬ e.run? = some run := fun h => hrun (hf.trans (he.symm.trans h))
      refine ⟨rfl, rfl, rfl, ?_⟩
      simp [Stmt.exec, hne]
  | updateRun run' u =>
      have hne : run ≠ run' := fun h => hrun (h ▸ hl.1)
      refine ⟨?_, rfl, rfl, rfl⟩
      rw [Stmt.exec, updateRuns, Table.find?_update_ne hne]
  | insertAttempt a =>
      have hne : ¬ a.runId = run := fun h => hrun (h ▸ hl)
      simp only [Stmt.exec]
      split_ifs
      · exact .refl run w
      · refine ⟨rfl, ?_, rfl, rfl⟩
        simp [hne]
  | insertArtifact run' document =>
      have hne : ¬ run' = run := fun h => hrun (h ▸ hl)
      refine ⟨rfl, rfl, ?_, rfl⟩
      simp [Stmt.exec, Table.select, Table.insert, newArtifact, hne]
  | _ => exact hl.elim

end Unnamed

/-! ### Runs that a frame names -/

/-- What a frame of the agent leaves of the row of a run: its identity, its owner unless
the agent claims it, and once the run has ended its outcome. -/
structure RowKept (agent : Guid) (r r' : TestRun) : Prop where
  id : r'.id = r.id
  projectId : r'.projectId = r.projectId
  testConfigId : r'.testConfigId = r.testConfigId
  deployment : r'.provisioningDeploymentId = r.provisioningDeploymentId
  owner : r'.workerId = r.workerId ∨ r'.workerId = some agent
  ended : r.status.terminal = true → r'.status = r.status ∧ r'.workerId = r.workerId

lemma RowKept.refl (agent : Guid) (r : TestRun) : RowKept agent r r :=
  ⟨rfl, rfl, rfl, rfl, Or.inl rfl, fun _ => ⟨rfl, rfl⟩⟩

lemma RowKept.trans {agent : Guid} {r s t : TestRun} (hrs : RowKept agent r s)
    (hst : RowKept agent s t) : RowKept agent r t where
  id := hst.id.trans hrs.id
  projectId := hst.projectId.trans hrs.projectId
  testConfigId := hst.testConfigId.trans hrs.testConfigId
  deployment := hst.deployment.trans hrs.deployment
  owner := by
    rcases hst.owner with h | h
    · exact hrs.owner.imp h.trans h.trans
    · exact Or.inr h
  ended := by
    intro hr
    obtain ⟨hstatus, howner⟩ := hrs.ended hr
    obtain ⟨hstatus', howner'⟩ := hst.ended (by rw [hstatus, hr])
    exact ⟨hstatus'.trans hstatus, howner'.trans howner⟩

/-- A write that a frame causes, where its guard holds. -/
lemma RunWrite.rowKept {agent : Guid} {u : RunWrite} (hu : u.ofFrame agent) (t : Time)
    {r : TestRun} (hg : u.guard r = true) : RowKept agent r (u.set t r) := by
  cases u with
  | runStarted a tester startedAt =>
      have hopen : ¬ r.status.terminal = true := by simpa [guard] using hg
      obtain rfl : a = agent := hu
      exact ⟨rfl, rfl, rfl, rfl, Or.inr rfl, fun hterm => absurd hterm hopen⟩
  | runFinished status envelope =>
      have hopen : ¬ r.status.terminal = true := by simpa [guard] using hg
      exact ⟨rfl, rfl, rfl, rfl, Or.inl rfl, fun hterm => absurd hterm hopen⟩
  | agentError msg =>
      have hopen : ¬ r.status.terminal = true := by simpa [guard] using hg
      exact ⟨rfl, rfl, rfl, rfl, Or.inl rfl, fun hterm => absurd hterm hopen⟩
  | runProgress | attemptHeartbeat | finalCounts | attemptsLost | linkArtifact =>
      exact ⟨rfl, rfl, rfl, rfl, Or.inl rfl, fun _ => ⟨rfl, rfl⟩⟩
  | _ => exact hu.elim

/-- The rows of two states, one against the other. -/
def RowsKept (agent : Guid) (w w' : World) : Prop :=
  ∀ run, (w.runs.find? run = none ∧ w'.runs.find? run = none) ∨
    ∃ r r', w.runs.find? run = some r ∧ w'.runs.find? run = some r' ∧ RowKept agent r r'

lemma RowsKept.refl (agent : Guid) (w : World) : RowsKept agent w w := by
  intro run
  cases hr : w.runs.find? run with
  | none => exact Or.inl ⟨rfl, rfl⟩
  | some r => exact Or.inr ⟨r, r, rfl, rfl, .refl agent r⟩

lemma RowsKept.trans {agent : Guid} {u v w : World} (huv : RowsKept agent u v)
    (hvw : RowsKept agent v w) : RowsKept agent u w := by
  intro run
  rcases huv run with ⟨hu, hv⟩ | ⟨r, s, hr, hs, hrs⟩
  · rcases hvw run with ⟨-, hw⟩ | ⟨s, t, hs, -, -⟩
    · exact Or.inl ⟨hu, hw⟩
    · exact absurd (hv.symm.trans hs) (by simp)
  · rcases hvw run with ⟨hv, -⟩ | ⟨s', t, hs', ht, hst⟩
    · exact absurd (hv.symm.trans hs) (by simp)
    · obtain rfl : s = s' := Option.some.inj (hs.symm.trans hs')
      exact Or.inr ⟨r, t, hr, ht, hrs.trans hst⟩

/-- A statement of a frame keeps the rows. -/
lemma rowsKept_exec {agent : Guid} {f : AgentFrame} {l : Stmt}
    (hl : (Task.frame agent f).mayIssue l) (w : World) : RowsKept agent w (l.exec w) := by
  intro run
  cases hr : w.runs.find? run with
  | some r =>
      refine Or.inr ⟨r, _, rfl, find?_runs_exec hr l, ?_⟩
      cases l with
      | updateRun run' u =>
          rw [Stmt.onRun]
          split_ifs with hid
          · exact RunWrite.rowKept hl.2 w.now hid.2
          · exact .refl agent r
      | _ => exact .refl agent r
  | none =>
      refine Or.inl ⟨rfl, ?_⟩
      cases hr' : (l.exec w).runs.find? run with
      | none => rfl
      | some r' =>
          rcases runs_exec_cases hr' with ⟨r, hsome, -⟩ | ⟨cfg, group, tester, now, rfl, -, -⟩
          · exact absurd (hr.symm.trans hsome) (by simp)
          · exact hl.elim

/-! ### The frames of a connection -/

/-- What the frames of an agent leave as it was: the runs no frame names, and of the
others what `RowKept` says.  No run is added. -/
structure TouchesOnlyNamed (agent : Guid) (frames : List AgentFrame) (w w' : World) : Prop where
  others : ∀ run, (∀ f ∈ frames, f.run? ≠ some run) → SameRun run w w'
  rows : RowsKept agent w w'

/-- The statements the frames of a connection lead to. -/
lemma issues_handleFrames (agent : Guid) (frames : List AgentFrame) :
    (AgentMessageProcessor.handleFrames agent frames).Issues
      fun l => ∃ f ∈ frames, (Task.frame agent f).mayIssue l :=
  Proc.Issues.each frames fun f hf =>
    ((Task.frame agent f).issues_mayIssue Host.plain).2.mono fun _ hl => ⟨f, hf, hl⟩

/-- **Frames touch the runs they name.**  Whatever frames an agent sends, the row, the
attempts, the artifacts and the events of a run that none of them names stay as they
were; no run is added; a named run keeps its project, its config and its deployment, it
gets no other owner than the sender, and once it has ended it keeps outcome and owner. -/
theorem frames_touch_named (agent : Guid) (frames : List AgentFrame) (w : World) :
    TouchesOnlyNamed agent frames w (afterFrames agent frames w) := by
  have hissues := issues_handleFrames agent frames
  refine ⟨fun run hrun => ?_, ?_⟩
  · refine Proc.Issues.run_preserves (I := SameRun run w) hissues ?_ (.refl run w)
    rintro l s ⟨f, hf, hl⟩ hs
    exact hs.trans (sameRun_exec hl (hrun f hf) s)
  · refine Proc.Issues.run_preserves (I := RowsKept agent w) hissues ?_ (.refl agent w)
    rintro l s ⟨f, -, hl⟩ hs
    exact hs.trans (rowsKept_exec hl s)

namespace TwoProjects

def config : TestConfig :=
  .basic 0 "p" "network" (.obj [("kind", .str "network"), ("host", .str "h"), ("port", .int 443)])
    (.obj [("modes", .arr [.str "http1"])])

/-- Agent 0 is of project `p` and runs run 0 of that project, agent 1 is of project `q`. -/
def world : World :=
  { World.initial with
    configs := ⟨[config], 1, by decide, by decide⟩
    agents := ⟨[⟨0, "p", some "0.30.0", none, "online", none⟩,
      ⟨1, "q", some "0.30.0", none, "online", none⟩], 2, by decide, by decide⟩
    runs := ⟨[{ newRun config none none 0 0 with status := .running, workerId := some 0 }], 1,
      by decide, by decide⟩
    online := [0, 1] }

/-- Agent 1 reports run 0 as failed. -/
def frames : List AgentFrame := [.runFinished 0 "failed" none none none none]

end TwoProjects

open TwoProjects in
/-- The report of an agent of another project ends the run. -/
theorem foreign_run_failed : ¬ TouchesOnlyOwn world 1 frames := by
  intro hown
  have hrun : ∃ r, world.runs.find? 0 = some r ∧ r.workerId = some 0 := ⟨_, rfl, rfl⟩
  obtain ⟨r, hr, hworker⟩ := hrun
  have hforeign : ¬ Owns world 1 r := fun hr => absurd (hr.2 0 hworker) (by decide)
  have hsame := (hown.others 0 r hr hforeign).row
  have hbefore : (world.runs.find? 0).map TestRun.status = some .running := by decide
  have hafter : ((afterFrames 1 frames world).runs.find? 0).map TestRun.status = some .failed := by
    decide +kernel
  rw [hsame, hbefore] at hafter
  exact absurd hafter (by decide)

end Networker
