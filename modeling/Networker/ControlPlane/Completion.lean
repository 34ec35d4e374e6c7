/-
Who announces the end of a run.

A run is completed by the one guarded update that finds it non-terminal; the routine
that has issued it announces the end on the event bus, and nobody else does.

* `DashboardEvent.ends`, `RunWrite.completes`: the events that announce the end of a run
  and the updates that bring it about;
* `completion`: the end of a run as a key: taken by the update, needed for the
  end-of-run counters, used up by the announcement;
* `contends_cancelRun`, `contends_watchdogTick`, `contends_onRunFinished`, …: one lemma
  for each routine, assembled in `Task.contends`;
* `along_landsInTime`: the tasks besides the orchestrator bring no run back;
* `completion_lawful`: the laws of the key, up to the invariant a user puts on top.
-/
import Networker.Concurrency.Ownership
import Networker.ControlPlane.Routines
import Networker.ControlPlane.TerminalStatus

namespace Networker

open Data Concurrency

/-! ### The statements around the end of a run -/

/-- The event announces the end of the run. -/
def DashboardEvent.ends (run : Guid) : DashboardEvent → Bool
  | .jobComplete job _ _ _ => job == run
  | .jobUpdate job status _ _ _ => job == run && (status == "failed" || status == "cancelled")
  | _ => false

/-- Some event on the bus announces the end of the run. -/
def World.announced (run : Guid) (w : World) : Prop := ∃ e ∈ w.bus, e.ends run = true

/-- The run has a terminal status. -/
def World.over (run : Guid) (w : World) : Bool := (w.statusOf run).any RunStatus.terminal

/-- The counters of the run; a run that cannot be read counts as empty. -/
def World.countsOf (run : Guid) (w : World) : ℤ × ℤ :=
  (w.runs.find? run).elim (0, 0) fun r => (r.successCount, r.failureCount)

/-- The update sets a terminal status on a run that has none. -/
def RunWrite.completes : RunWrite → Bool
  | .cancel _ | .agentError _ | .reapRunning _ _ | .reapQueued _ _ | .reapProvisioning _ _ => true
  | .runFinished status _ => status.terminal
  | _ => false

/-- The update overwrites the counters with the end-of-run ones. -/
def RunWrite.isFinalCounts : RunWrite → Bool
  | .finalCounts _ _ => true
  | _ => false

lemma RunWrite.not_terminal_of_completes {u : RunWrite} (hu : u.completes = true) {r : TestRun}
    (hg : u.guard r = true) : r.status.terminal = false := by
  cases u with
  | cancel now =>
      simp only [guard, Bool.or_eq_true, beq_iff_eq] at hg
      rcases hg with (hs | hs) | hs <;> rw [hs] <;> rfl
  | runFinished status envelope => simpa [guard] using hg
  | agentError msg => simpa [guard] using hg
  | reapRunning msg now => rw [show r.status = .running by simpa [guard] using hg]; rfl
  | reapQueued msg now => rw [show r.status = .queued by simpa [guard] using hg]; rfl
  | reapProvisioning msg now => rw [show r.status = .provisioning by simpa [guard] using hg]; rfl
  | _ => exact absurd hu Bool.false_ne_true

lemma RunWrite.terminal_set_of_completes {u : RunWrite} (hu : u.completes = true) (t : Time)
    (r : TestRun) : (u.set t r).status.terminal = true := by
  cases u with
  | runFinished status envelope => exact hu
  | _ => first | rfl | exact absurd hu Bool.false_ne_true

lemma World.over_iff {run : Guid} {w : World} :
    w.over run = true ↔ ∃ r, w.runs.find? run = some r ∧ r.status.terminal = true := by
  rw [World.over, World.statusOf]
  cases hr : w.runs.find? run with
  | none => simp
  | some r => simp

/-- A run stays over, as long as no unguarded write brings it back. -/
lemma World.over_exec {run : Guid} {w : World} (h : w.over run = true) {l : Stmt}
    (hl : LandsInTime l w) : (l.exec w).over run = true := by
  obtain ⟨r, hr, hterm⟩ := World.over_iff.mp h
  refine World.over_iff.mpr ⟨_, find?_runs_exec hr l, ?_⟩
  rw [status_onRun_of_terminal hl hr hterm, hterm]

/-- The events a statement puts on the bus. -/
def Stmt.events (w : World) : Stmt → List DashboardEvent
  | .publish e => [e]
  | .connect agent => [.agentStatus agent "online" (some w.now)]
  | .disconnect agent => [.agentStatus agent "offline" none]
  | _ => []

/-- The bus only grows. -/
lemma bus_exec (l : Stmt) (w : World) : (l.exec w).bus = w.bus ++ l.events w := by
  cases l with
  | insertAttempt a =>
      simp only [Stmt.exec, Stmt.events, List.append_nil]
      split_ifs <;> rfl
  | sendAssign agent run x y =>
      simp only [Stmt.exec, Stmt.events, List.append_nil]
      split_ifs <;> rfl
  | sendCancel agent run =>
      simp only [Stmt.exec, Stmt.events, List.append_nil]
      split_ifs <;> rfl
  | publish e => rfl
  | connect agent => rfl
  | disconnect agent => rfl
  | _ => exact (List.append_nil _).symm

/-- An event about a run comes from a publication. -/
lemma eq_publish_of_mem_events {l : Stmt} {w : World} {e : DashboardEvent} (he : e ∈ l.events w)
    {run : Guid} (hrun : e.run? = some run) : l = .publish e := by
  cases l with
  | publish e' => rw [List.mem_singleton.mp he]
  | connect agent =>
      rw [List.mem_singleton.mp he] at hrun
      exact absurd hrun nofun
  | disconnect agent =>
      rw [List.mem_singleton.mp he] at hrun
      exact absurd hrun nofun
  | _ => exact absurd he List.not_mem_nil

lemma DashboardEvent.run?_of_ends {run : Guid} {e : DashboardEvent} (h : e.ends run = true) :
    e.run? = some run := by
  cases e with
  | jobUpdate job status agent startedAt finishedAt =>
      rw [ends, Bool.and_eq_true, beq_iff_eq] at h
      exact congrArg some h.1
  | jobComplete job r x y => exact congrArg some (beq_iff_eq.mp h)
  | _ => exact absurd h Bool.false_ne_true

/-- Only a publication announces the end of a run. -/
lemma World.announced_exec {run : Guid} {w : World} {l : Stmt} (h : (l.exec w).announced run) :
    w.announced run ∨ ∃ e, l = .publish e ∧ e.ends run = true := by
  obtain ⟨e, he, hends⟩ := h
  rw [bus_exec, List.mem_append] at he
  rcases he with he | he
  · exact Or.inl ⟨e, he, hends⟩
  · exact Or.inr ⟨e, eq_publish_of_mem_events he (DashboardEvent.run?_of_ends hends), hends⟩

/-- Neither an announcement of the end of the run nor an update around it. -/
def Stmt.unrelated (run : Guid) : Stmt → Bool
  | .publish e => !e.ends run
  | .updateRun j u => !(j == run && (u.completes || u.isFinalCounts))
  | _ => true

/-- An update that neither completes a run nor writes its end-of-run counters. -/
lemma unrelated_updateRun {run j : Guid} {u : RunWrite} (hcompletes : u.completes = false)
    (hcounts : u.isFinalCounts = false) : (Stmt.updateRun j u).unrelated run = true := by
  rw [Stmt.unrelated, hcompletes, hcounts, Bool.or_false, Bool.and_false, Bool.not_false]

/-- A statement that neither updates a run nor publishes. -/
lemma unrelated_of_silent {run : Guid} {l : Stmt} (hupdate : ∀ j u, l ≠ .updateRun j u)
    (hpublish : ∀ e, l ≠ .publish e) : l.unrelated run = true := by
  cases l with
  | updateRun j u => exact absurd rfl (hupdate j u)
  | publish e => exact absurd rfl (hpublish e)
  | _ => rfl

/-! ### The end of a run as a key -/

/-- The end of a run.  Where its counters are `frozen`, the holder counts on them, and
announces them. -/
def completion (run : Guid) (frozen : Prop) (inv : World → Prop) (ok : Stmt → World → Prop) :
    Key Stmt World where
  takes l w :=
    match l with
    | .updateRun j u => j == run && u.completes && w.runs.hits run u.guard
    | _ => false
  needs l := (∃ e, l = .publish e ∧ e.ends run = true) ∨ ∃ x y, l = .updateRun run (.finalCounts x y)
  spends l :=
    match l with
    | .publish e => e.ends run
    | _ => false
  taken w := w.over run = true
  spent w := w.announced run
  inv := inv
  ok := ok
  rely w w' := frozen → w'.countsOf run = w.countsOf run
  guar l w := frozen → ∀ job x y, l = .publish (.jobComplete run job x y) → w.countsOf run = (x, y)

section Contends

variable {run : Guid} {frozen : Prop} {inv : World → Prop} {ok : Stmt → World → Prop}

lemma neutral_of_unrelated {l : Stmt} (hl : l.unrelated run = true) :
    (completion run frozen inv ok).Neutral l := by
  cases l with
  | publish e =>
      have he : e.ends run = false := by simpa [Stmt.unrelated] using hl
      refine ⟨fun _ => rfl, ?_, he, fun w _ job x y heq => ?_⟩
      · rintro (⟨e', heq, hends⟩ | ⟨x, y, heq⟩)
        · rw [← Stmt.publish.inj heq, he] at hends
          exact absurd hends Bool.false_ne_true
        · exact absurd heq nofun
      · rw [Stmt.publish.inj heq, DashboardEvent.ends, beq_self_eq_true] at he
        exact absurd he.symm Bool.false_ne_true
  | updateRun j u =>
      have hu : (j == run && (u.completes || u.isFinalCounts)) = false := by
        rw [← Bool.not_eq_true']
        exact hl
      refine ⟨fun w => ?_, ?_, rfl, fun w _ job x y heq => absurd heq nofun⟩
      · by_cases hj : (j == run) = true
        · rw [hj, Bool.true_and, Bool.or_eq_false_iff] at hu
          simp only [completion, hu.1, Bool.and_false, Bool.false_and]
        · simp only [completion, Bool.eq_false_iff.mpr hj, Bool.false_and]
      · rintro (⟨e', heq, -⟩ | ⟨x, y, heq⟩)
        · exact absurd heq nofun
        · obtain ⟨rfl, rfl⟩ := Stmt.updateRun.inj heq
          rw [beq_self_eq_true] at hu
          exact absurd hu.symm Bool.false_ne_true
  | _ =>
      refine ⟨fun _ => rfl, ?_, rfl, fun w _ job x y heq => absurd heq nofun⟩
      rintro (⟨e', heq, -⟩ | ⟨x, y, heq⟩) <;> exact absurd heq nofun

/-- The process keeps to the end of the run, starting without it and ending without it. -/
def Completes (run : Guid) (frozen : Prop) (inv : World → Prop) (ok : Stmt → World → Prop)
    {α : Type} (mine : Bool) (p : Svc α) (w : World) : Prop :=
  p.Contends Stmt.exec (completion run frozen inv ok) (fun m _ => m = false) mine w

variable {α : Type}

lemma Completes.read_bind {β : Type} {f : World → β} {k : β → Svc α} {mine : Bool} {w : World}
    (hk : ∀ w', Completes run frozen inv ok mine (k (f w')) w') :
    Completes run frozen inv ok mine (Svc.read f >>= k) w :=
  Proc.Contends.neutral_bind (neutral_of_unrelated rfl) hk

/-- A routine of unrelated statements. -/
lemma Completes.of_issues {p : Svc α} (hp : p.Issues fun l => l.unrelated run = true) (w : World) :
    Completes run frozen inv ok false p w :=
  (hp.mono fun _ => neutral_of_unrelated).contends false w

/-- A routine of unrelated statements in front of another one. -/
lemma Completes.issues_bind {β : Type} {p : Svc β} {k : β → Svc α} {mine : Bool} {w : World}
    (hp : p.Issues fun l => l.unrelated run = true)
    (hk : ∀ b w', Completes run frozen inv ok mine (k b) w') :
    Completes run frozen inv ok mine (p >>= k) w :=
  ((hp.mono fun _ => neutral_of_unrelated).contends mine w).bind fun m b w' hm => by
    subst hm
    exact hk b w'

lemma Completes.bind {β : Type} {p : Svc β} {k : β → Svc α} {mine : Bool} {w : World}
    (hp : Completes run frozen inv ok mine p w)
    (hk : ∀ b w', Completes run frozen inv ok false (k b) w') :
    Completes run frozen inv ok mine (p >>= k) w :=
  Proc.Contends.bind hp fun m b w' hm => by
    subst hm
    exact hk b w'

/-- The guarded update that completes a run takes the key exactly if it hits the row of
that run. -/
lemma Completes.accept_bind {j : Guid} {u : RunWrite} (hu : u.completes = true) {k : Bool → Svc α}
    {w : World} (hit : ∀ w', Completes run frozen inv ok (j == run) (k true) w')
    (miss : ∀ w', Completes run frozen inv ok false (k false) w') :
    Completes run frozen inv ok false (Svc.updateRun j u >>= k) w := by
  intro w' _ _ _
  refine ⟨?_, fun _ job x y heq => absurd heq nofun, ?_⟩
  · rintro (⟨e, heq, -⟩ | ⟨x, y, heq⟩)
    · exact absurd heq nofun
    · rw [(Stmt.updateRun.inj heq).2] at hu
      exact absurd hu Bool.false_ne_true
  · have hafter : (completion run frozen inv ok).after false (.updateRun j u) w' =
        (j == run && w'.runs.hits run u.guard) := by
      simp only [Key.after, completion, hu, Bool.false_or, Bool.and_true, Bool.not_false]
    show Completes run frozen inv ok _ (k (w'.runs.hits j u.guard)) _
    rw [hafter]
    by_cases hj : j = run
    · subst hj
      rw [beq_self_eq_true] at hit ⊢
      cases w'.runs.hits j u.guard with
      | true => exact hit _
      | false => exact miss _
    · rw [beq_eq_false_iff_ne.mpr hj] at hit ⊢
      cases w'.runs.hits j u.guard with
      | true => exact hit _
      | false => exact miss _

/-- The announcement of the end of a run uses the key up. -/
lemma Completes.announce_bind {j : Guid} {e : DashboardEvent} (he : ∀ r, e.ends r = (j == r))
    (hguar : ∀ w, (completion run frozen inv ok).guar (.publish e) w) {k : Unit → Svc α} {w : World}
    (hk : ∀ w', Completes run frozen inv ok false (k ()) w') :
    Completes run frozen inv ok (j == run) (Svc.publish e >>= k) w := by
  intro w' _ _ _
  refine ⟨?_, hguar w', ?_⟩
  · rintro (⟨e', heq, hends⟩ | ⟨x, y, heq⟩)
    · rw [← he run, Stmt.publish.inj heq, hends]
    · exact absurd heq nofun
  · have hafter : (completion run frozen inv ok).after (j == run) (.publish e) w' = false := by
      simp only [Key.after, completion, he, Bool.or_false, Bool.and_not_self]
    rw [hafter]
    exact hk _

lemma ends_jobUpdate {j r : Guid} {status : String} (h : status = "failed" ∨ status = "cancelled")
    (agent : Option Guid) (startedAt finishedAt : Option Time) :
    DashboardEvent.ends r (.jobUpdate j status agent startedAt finishedAt) = (j == r) := by
  rcases h with rfl | rfl
  · rw [DashboardEvent.ends, beq_self_eq_true, Bool.true_or, Bool.and_true]
  · rw [DashboardEvent.ends, beq_self_eq_true, Bool.or_true, Bool.and_true]

/-- A terminal `JobUpdate` behind the update that justifies it. -/
lemma Completes.jobUpdate_bind {j : Guid} {status : String}
    (h : status = "failed" ∨ status = "cancelled") {agent : Option Guid}
    {startedAt finishedAt : Option Time} {k : Unit → Svc α} {w : World}
    (hk : ∀ w', Completes run frozen inv ok false (k ()) w') :
    Completes run frozen inv ok (j == run)
      (Svc.publish (.jobUpdate j status agent startedAt finishedAt) >>= k) w :=
  .announce_bind (fun _ => ends_jobUpdate h agent startedAt finishedAt)
    (fun _ _ _ _ _ heq => absurd (Stmt.publish.inj heq) nofun) hk

lemma Completes.jobUpdate {j : Guid} {status : String} (h : status = "failed" ∨ status = "cancelled")
    {agent : Option Guid} {startedAt finishedAt : Option Time} {w : World} :
    Completes run frozen inv ok (j == run)
      (Svc.publish (.jobUpdate j status agent startedAt finishedAt)) w :=
  Completes.jobUpdate_bind (k := fun _ => .ret ()) h fun _ => rfl

/-! ### The routines -/

open RunDispatcher in
/-- `CancelAsync` publishes behind its own update. -/
lemma contends_cancelRun (j : Guid) (w : World) :
    Completes run frozen inv ok false (cancelRun j) w := by
  refine .read_bind fun w₁ => .accept_bind rfl (fun w₂ => ?_) fun w₂ => ?_
  · refine .read_bind fun w₃ => ?_
    refine .issues_bind (issues_cancelTarget (P := (Stmt.unrelated run · = true)) rfl _)
      fun target w₄ => ?_
    refine .issues_bind (issues_fanOutCancel (P := (Stmt.unrelated run · = true)) rfl j
      (fun _ => rfl) target) fun _ w₅ => ?_
    exact .read_bind fun w₆ => .jobUpdate (Or.inr rfl)
  · refine .read_bind fun w₃ => ?_
    split
    · trivial
    · exact rfl

namespace WatchdogService

lemma contends_reapRunningOne (h : Host) (now : Time) (r : TestRun) (w : World) :
    Completes run frozen inv ok false (reapRunningOne h now r) w := by
  refine .read_bind fun w₁ => ?_
  dsimp only
  split_ifs
  · exact rfl
  all_goals
    refine .accept_bind rfl (fun w₂ => ?_) fun w₂ => rfl
    exact .jobUpdate_bind (Or.inl rfl) fun _ => rfl

lemma contends_reapQueuedOne (now : Time) (j : Guid) (w : World) :
    Completes run frozen inv ok false (reapQueuedOne now j) w :=
  .accept_bind rfl (fun _ => .jobUpdate_bind (Or.inl rfl) fun _ => rfl) fun _ => rfl

lemma contends_reapProvisioningOne (now : Time) (r : Guid × Option Guid) (w : World) :
    Completes run frozen inv ok false (reapProvisioningOne now r) w := by
  refine .read_bind fun w₁ => ?_
  split
  · exact rfl
  · exact .accept_bind rfl (fun _ => .jobUpdate_bind (Or.inl rfl) fun _ => rfl) fun _ => rfl

lemma contends_sweepQueued (now : Time) (w : World) :
    Completes run frozen inv ok false (sweepQueued now) w := by
  refine .read_bind fun w₁ => ?_
  split
  · exact rfl
  · refine .read_bind fun w₂ => ?_
    split
    · exact rfl
    · exact .read_bind fun w₃ =>
        Proc.Contends.count _ (fun j _ w₄ => contends_reapQueuedOne now j w₄) w₃

/-- Every sweep of the watchdog publishes behind its own update. -/
lemma contends_watchdogTick (h : Host) (w : World) :
    Completes run frozen inv ok false (watchdogTick h) w := by
  refine .read_bind fun w₁ => .read_bind fun w₂ => ?_
  refine .bind (Proc.Contends.count _ (fun r _ => contends_reapRunningOne h _ r) _) fun _ w₃ => ?_
  refine .bind (contends_sweepQueued _ w₃) fun _ w₄ => .read_bind fun w₅ => ?_
  refine .issues_bind (Proc.Issues.count _ fun d _ =>
    issues_reapDeploymentOne _ d fun _ _ => rfl) fun _ w₆ => .read_bind fun w₇ => ?_
  exact .bind (Proc.Contends.count _ (fun r _ => contends_reapProvisioningOne _ r) _)
    fun _ _ => rfl

end WatchdogService

namespace AgentMessageProcessor

/-- `OnError` publishes behind its own update. -/
lemma contends_onError (agent : Guid) (j : Option Guid) (message : String) (w : World) :
    Completes run frozen inv ok false (onError agent j message) w := by
  cases j with
  | none => exact rfl
  | some j =>
      simp only [onError]
      split
      · exact rfl
      · refine .accept_bind rfl (fun w₁ => ?_) fun _ => rfl
        exact .read_bind fun w₂ => .jobUpdate (Or.inl rfl)

/-- The end-of-run counters are written by the holder only. -/
lemma contends_writeFinalCounts (j : Guid) (attemptsOk attemptsFailed : Option ℤ) (w : World) :
    (writeFinalCounts j attemptsOk attemptsFailed).Contends Stmt.exec
      (completion run frozen inv ok) (fun m _ => m = (j == run)) (j == run) w := by
  cases attemptsOk with
  | none => exact rfl
  | some a =>
      cases attemptsFailed with
      | none => exact rfl
      | some b =>
          intro w₁ _ _ _
          refine ⟨?_, fun _ _ _ _ heq => absurd heq nofun, ?_⟩
          · rintro (⟨e, heq, -⟩ | ⟨x, y, heq⟩)
            · exact absurd heq nofun
            · rw [(Stmt.updateRun.inj heq).1, beq_self_eq_true]
          · have hafter : (completion run frozen inv ok).after (j == run)
                (.updateRun j (.finalCounts a b)) w₁ = (j == run) := by
              simp [Key.after, completion, RunWrite.completes]
            rw [hafter]
            refine Proc.Issues.contends (Proc.Issues.mono (P := (Stmt.unrelated run · = true))
              (fun _ => neutral_of_unrelated) ?_) _ _
            split
            · refine Svc.issues_read_bind.mpr ⟨rfl, fun w₂ => ?_⟩
              split
              · exact Svc.issues_updateRun_bind.mpr ⟨unrelated_updateRun rfl rfl, fun _ => trivial⟩
              · trivial
            · trivial

lemma unrelated_writeArtifact (j : Guid) (document : Option Json) :
    (writeArtifact j document).Issues fun l => l.unrelated run = true := by
  cases document with
  | none => trivial
  | some d =>
      exact ⟨rfl, fun _ => Svc.issues_updateRun_bind.mpr
        ⟨unrelated_updateRun rfl rfl, fun _ => trivial⟩⟩

/-- `OnRunFinished` announces the counters it has read while it held the run. -/
lemma contends_onRunFinished (j : Guid) (status : String) (artifact envelope : Option Json)
    (attemptsOk attemptsFailed : Option ℤ) (w : World) :
    Completes run frozen inv ok false
      (onRunFinished j status artifact envelope attemptsOk attemptsFailed) w := by
  rw [onRunFinished]
  split
  · exact rfl
  · rename_i st hst
    have hcompletes : (RunWrite.runFinished st (extractEnvelopeJson envelope)).completes = true :=
      RunStatus.terminal_ofTerminalText? hst
    refine .accept_bind hcompletes (fun w₁ => ?_) fun _ => rfl
    refine Proc.Contends.bind (contends_writeFinalCounts j _ _ w₁) fun m _ w₂ hm => ?_
    subst hm
    refine Completes.issues_bind (unrelated_writeArtifact j artifact) fun _ w₃ => ?_
    refine Completes.read_bind fun w₄ => ?_
    intro w₅ hr _ _
    have hguar : (completion run frozen inv ok).guar
        (.publish (.jobComplete j j (w₄.countsOf j).1 (w₄.countsOf j).2)) w₅ := by
      intro hfrozen job x y heq
      obtain ⟨rfl, rfl, rfl, rfl⟩ := DashboardEvent.jobComplete.inj (Stmt.publish.inj heq)
      exact hr (beq_self_eq_true _) hfrozen
    refine ⟨?_, hguar, ?_⟩
    · rintro (⟨e, heq, hends⟩ | ⟨x, y, heq⟩)
      · rw [← Stmt.publish.inj heq] at hends
        exact hends
      · exact absurd heq (by simp)
    · show Key.after _ _ _ _ = false
      simp only [Key.after, completion, DashboardEvent.ends, Bool.or_false, Bool.and_not_self]

/-- Every frame keeps to the end of its run. -/
lemma contends_handleFrame (agent : Guid) (f : AgentFrame) (w : World) :
    Completes run frozen inv ok false (handleFrame agent f) w := by
  cases f with
  | runStarted j startedAt =>
      refine .of_issues (Svc.issues_read_bind.mpr ⟨rfl, fun w₁ => ?_⟩) w
      refine Svc.issues_updateRun_bind.mpr ⟨unrelated_updateRun rfl rfl, fun w₂ => ?_⟩
      split
      · exact Svc.issues_publish.mpr (by simp [Stmt.unrelated, DashboardEvent.ends])
      · trivial
  | runProgress j success failure =>
      have hissues : (onRunProgress j success failure).Issues fun l => l.unrelated run = true :=
        Svc.issues_updateRun_bind.mpr ⟨unrelated_updateRun rfl rfl, fun _ => trivial⟩
      exact .of_issues hissues w
  | attemptEvent j attempt =>
      refine .of_issues (Svc.issues_updateRun_bind.mpr
        ⟨unrelated_updateRun rfl rfl, fun w₁ => ?_⟩) w
      have hpersist : (persistAttempt j attempt).Issues fun l => l.unrelated run = true := by
        rw [persistAttempt]
        split
        · exact Svc.issues_exec.mpr rfl
        · trivial
      exact hpersist.bind fun _ => Svc.issues_publish.mpr rfl
  | runFinished j status artifact envelope attemptsOk attemptsFailed =>
      exact contends_onRunFinished j status artifact envelope attemptsOk attemptsFailed w
  | error j message => exact contends_onError agent j message w

end AgentMessageProcessor

/-! ### Tasks -/

/-- An event that is about no run announces no end. -/
lemma ends_of_run?_eq_none {e : DashboardEvent} (he : e.run? = none) : e.ends run = false :=
  Bool.eq_false_iff.mpr fun hends =>
    absurd (he.symm.trans (DashboardEvent.run?_of_ends hends)) nofun

lemma unrelated_publish {e : DashboardEvent} (he : e.run? = none) :
    (Stmt.publish e).unrelated run = true := by
  rw [Stmt.unrelated, ends_of_run?_eq_none he, Bool.not_false]

/-- The orchestrator completes no run: its writes are no business of the key. -/
lemma unrelated_of_ofOrchestrator {j : Guid} {u : RunWrite} (hu : u.ofOrchestrator) :
    (Stmt.updateRun j u).unrelated run = true := by
  cases u <;> first
    | exact hu.elim
    | exact unrelated_updateRun rfl rfl

/-- A task that may issue unrelated statements only. -/
lemma Completes.of_mayIssue (h : Host) {t : Task} {w : World}
    (ht : ∀ l, t.mayIssue l → l.unrelated run = true) :
    Completes run frozen inv ok false (t.code h) w :=
  .of_issues ((Task.issues_mayIssue h t).2.mono ht) w

/-- **Every task keeps to the end of a run.** -/
theorem Task.contends (h : Host) (t : Task) (w : World) :
    Completes run frozen inv ok false (t.code h) w := by
  have queued : ∀ j agent, (Stmt.publish (.jobUpdate j "queued" (some agent) none none)).unrelated
      run = true := fun j agent => by simp [Stmt.unrelated, DashboardEvent.ends]
  have stamp : ∀ j agent tester, (Stmt.updateRun j (.stampAssignment agent tester)).unrelated
      run = true := fun j agent tester => unrelated_updateRun rfl rfl
  cases t with
  | launch config group tester =>
      exact .issues_bind (RunDispatcher.issues_launch (P := (Stmt.unrelated run · = true)) h rfl
        queued (fun _ _ _ _ => rfl) stamp (fun _ _ _ _ => rfl) _ _ _) fun _ _ => rfl
  | dispatch j =>
      exact .of_issues (RunDispatcher.issues_dispatchRun (P := (Stmt.unrelated run · = true)) h rfl
        queued (fun _ _ _ _ => rfl) stamp j) w
  | redispatch =>
      exact .issues_bind (RunDispatcher.issues_redispatchQueued (P := (Stmt.unrelated run · = true))
        h rfl queued (fun _ _ _ _ => rfl) stamp) fun _ _ => rfl
  | cancel j => exact contends_cancelRun j w
  | frame agent f => exact AgentMessageProcessor.contends_handleFrame agent f w
  | watchdog => exact WatchdogService.contends_watchdogTick h w
  | orchestrator =>
      refine .of_mayIssue h fun l hl => ?_
      cases l with
      | updateRun j u => exact unrelated_of_ofOrchestrator hl
      | publish e => exact hl.elim
      | _ => rfl
  | reaper resources =>
      refine .of_mayIssue h fun l hl => ?_
      subst hl
      rfl
  | deploy k d outcome =>
      exact .of_issues (DeployRunner.issues_runDeployment (P := (Stmt.unrelated run · = true)) rfl
        (fun _ => unrelated_publish) (fun _ _ => rfl) (fun _ _ => rfl) rfl outcome) w
  | createDeployment projectId name config createdBy =>
      refine .of_mayIssue h fun l hl => unrelated_of_silent ?_ ?_
      · rintro j u rfl
        exact hl.elim
      · rintro e rfl
        exact hl.elim
  | stopDeployment projectId d =>
      exact .of_issues (DeploymentWriteEndpoints.issues_stopDeployment (P := (Stmt.unrelated run · = true)) rfl
        (fun _ => unrelated_publish) _ _ fun _ => rfl) w
  | updateDeployment projectId d =>
      refine .of_mayIssue h fun l hl => unrelated_of_silent ?_ ?_
      · rintro j u rfl
        exact hl.elim
      · rintro e rfl
        exact hl.elim
  | deleteDeployment projectId d =>
      refine .of_mayIssue h fun l hl => unrelated_of_silent ?_ ?_
      · rintro j u rfl
        exact hl.elim
      · rintro e rfl
        exact hl.elim

/-- Only the orchestrator writes a status without a condition on the current one. -/
lemma landsInTime_of_mayIssue {t : Task} (ht : t.isOrchestrator = false) {l : Stmt}
    (hl : t.mayIssue l) (w : World) : LandsInTime l w := by
  intro j u st r heq hu _ _
  subst heq
  exfalso
  cases t with
  | orchestrator => exact absurd ht nofun
  | launch config group tester => cases u <;> first | exact hl.elim | exact absurd hu nofun
  | dispatch i => cases u <;> first | exact hl.elim | exact absurd hu nofun
  | redispatch => cases u <;> first | exact hl.elim | exact absurd hu nofun
  | cancel i => cases u <;> first | exact hl.elim | exact absurd hu nofun
  | frame agent f => cases u <;> first | exact hl.2.elim | exact absurd hu nofun
  | watchdog => cases u <;> first | exact hl.elim | exact absurd hu nofun
  | reaper resources => exact absurd hl nofun
  | _ => exact hl.elim

/-- The schedules of the other tasks. -/
lemma along_landsInTime (h : Host) (w : World) (as : List Move)
    (hkind : (controlPlane h).Along (System.Starts (Task.isOrchestrator · = false)) (.fresh w) as) :
    (controlPlane h).Along ((controlPlane h).Meets LandsInTime) (.fresh w) as := by
  refine (System.along_of_issues (P := fun l => ∀ w, LandsInTime l w) (fun t ht => ?_)
    (fun l v hl => ?_) (by simp [System.Config.fresh]) as hkind).mono fun c a ha l hl => ha l hl _
  · obtain ⟨hentry, hcode⟩ := Task.issues_mayIssue h t
    exact ⟨landsInTime_of_mayIssue ht hentry, hcode.mono fun l hl => landsInTime_of_mayIssue ht hl⟩
  · intro w' j u st r heq
    subst heq
    exact absurd hl Bool.false_ne_true

/-- The laws of the key: what is left to show is the invariant on top, and what the others
leave alone while the key is held. -/
lemma completion_lawful (h : Host) (inTime : ∀ l w, ok l w → LandsInTime l w)
    (ended : ∀ w, inv w → w.announced run → w.over run = true)
    (keep : ∀ l w, inv w → ok l w → (completion run frozen inv ok).guar l w →
      ((completion run frozen inv ok).needs l → w.over run = true ∧ ¬ w.announced run) →
        inv (l.exec w))
    (rely : ∀ l w, ¬ (completion run frozen inv ok).needs l → inv w → ok l w →
      w.over run = true → (completion run frozen inv ok).rely w (l.exec w)) :
    (controlPlane h).LawfulKey (completion run frozen inv ok) fun _ => True where
  refl _ _ := rfl
  trans h₁ h₂ hfrozen := (h₂ hfrozen).trans (h₁ hfrozen)
  takes l w htakes := by
    cases l with
    | updateRun j u =>
        simp only [completion, Bool.and_eq_true, beq_iff_eq] at htakes
        obtain ⟨⟨rfl, hu⟩, hhits⟩ := htakes
        obtain ⟨r, hr, hg⟩ := Table.hits_iff.mp hhits
        have hid : r.id = j := run_id_of_find? hr
        refine ⟨fun hover => ?_, World.over_iff.mpr ⟨_, find?_runs_exec hr _, ?_⟩⟩
        · obtain ⟨r', hr', hterm⟩ := World.over_iff.mp hover
          obtain rfl := Option.some.inj (hr.symm.trans hr')
          rw [RunWrite.not_terminal_of_completes hu hg] at hterm
          exact absurd hterm Bool.false_ne_true
        · rw [Stmt.onRun, if_pos ⟨hid, hg⟩]
          exact RunWrite.terminal_set_of_completes hu _ r
    | _ => exact absurd htakes Bool.false_ne_true
  spends l hspends := by
    cases l with
    | publish e => exact Or.inl ⟨e, rfl, hspends⟩
    | _ => exact absurd hspends Bool.false_ne_true
  taken l w _ hok hover := World.over_exec hover (inTime l w hok)
  spent := ended
  unspent l w hspends hnot hann := by
    rcases World.announced_exec hann with hann | ⟨e, rfl, hends⟩
    · exact hnot hann
    · exact absurd hends (Bool.eq_false_iff.mp hspends)
  inv := keep
  rely l w hneeds hinv hok _ hover := rely l w hneeds hinv hok hover
  entry t _ := by
    cases t with
    | deploy k d outcome => exact neutral_of_unrelated rfl
    | _ => exact neutral_of_unrelated rfl
  code t _ w := (Task.contends h t w).mono fun _ _ _ => trivial
  env l w hl := by
    cases l with
    | updateRun j u => exact absurd hl Bool.false_ne_true
    | publish e => exact absurd hl Bool.false_ne_true
    | _ => exact neutral_of_unrelated rfl

end Contends

end Networker
