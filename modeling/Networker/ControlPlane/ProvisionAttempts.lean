/-
How often the orchestrator kicks a run.

* `Stmt.kicks`: the write that links a run to its deployment takes effect;
* `World.attemptsOf`: what the counter of provisioning attempts says;
* `Kicked`: an unlinked run was kicked as often as the counter says, a linked one once more;
* `Steady`: what the other tasks leave to a tick of the orchestrator;
* `attemptKeeping_lawful`: a retry raises the counter of a linked run by one;
* `kicks_bounded_iff`: the runs that are not kicked too often;
* `kicks_le`: one kick more than the counter allows is the most there is;
* `kicked_five_times`: a run whose deploys all hit a quota.
-/
import Networker.Concurrency.Restarts
import Networker.ControlPlane.Capacity

namespace Networker

open Data Concurrency ProvisioningOrchestrator

/-! ### Kicks and the counter -/

/-- The counter of provisioning attempts in the row of a run. -/
def World.attemptsOf (w : World) (run : Guid) : ℕ :=
  (w.runs.find? run).elim 0 TestRun.provisionAttempts

/-- The statement kicks the run: it links it to a deployment of its own. -/
def Stmt.kicks (run : Guid) (l : Stmt) (w : World) : Bool :=
  match l with
  | .updateRun r (.linkDeployment d) => r == run && w.runs.hits r (RunWrite.linkDeployment d).guard
  | _ => false

/-- How often a run is kicked over the lives of the control plane. -/
def kicksOf (h : Host) (run : Guid) (w : World) (lives : List (List Move)) : ℕ :=
  (controlPlane h).tallyLives (Stmt.kicks run) World.restarted w lives

/-- The run has been kicked so often, as its counter and its link tell. -/
def Kicked (run : Guid) (n : ℕ) (w : World) : Prop :=
  n = w.attemptsOf run + (w.linkOf run).isSome.toNat

/-- The statements that change neither a counter nor a link. -/
def Stmt.keepsTries : Stmt → Prop
  | .updateRun _ u => u.leavesLink
  | _ => True

/-- The counters and the links stay as they are. -/
def Steady (w w' : World) : Prop :=
  ∀ run, w'.attemptsOf run = w.attemptsOf run ∧ w'.linkOf run = w.linkOf run

lemma Steady.refl (w : World) : Steady w w := fun _ => ⟨rfl, rfl⟩

lemma Steady.trans {u v w : World} (huv : Steady u v) (hvw : Steady v w) : Steady u w :=
  fun run => ⟨(hvw run).1.trans (huv run).1, (hvw run).2.trans (huv run).2⟩

variable {w : World} {run : Guid}

lemma attemptsOf_of_find? {r : TestRun} (h : w.runs.find? run = some r) :
    w.attemptsOf run = r.provisionAttempts := by rw [World.attemptsOf, h, Option.elim_some]

lemma linkOf_of_find? {r : TestRun} (h : w.runs.find? run = some r) :
    w.linkOf run = r.provisioningDeploymentId := by rw [World.linkOf, h, Option.bind_some]

lemma RunWrite.attempts_set {u : RunWrite} (hu : u.leavesLink) (t : Time) (r : TestRun) :
    (u.set t r).provisionAttempts = r.provisionAttempts := by
  cases u with
  | linkDeployment d | retryProvisioning n b note => exact hu.elim
  | _ => rfl

lemma Stmt.tries_onRun {l : Stmt} (hl : l.keepsTries) (t : Time) (r : TestRun) :
    (l.onRun t r).provisionAttempts = r.provisionAttempts ∧
      (l.onRun t r).provisioningDeploymentId = r.provisioningDeploymentId := by
  cases l with
  | updateRun run u =>
      rw [Stmt.onRun]
      split_ifs
      · exact ⟨RunWrite.attempts_set hl t r, RunWrite.link_set hl t r⟩
      · exact ⟨rfl, rfl⟩
  | _ => exact ⟨rfl, rfl⟩

/-- Such a statement is steady; a run it adds starts without link and attempts. -/
lemma steady_exec {l : Stmt} (hl : l.keepsTries) (w : World) : Steady w (l.exec w) := by
  intro run
  cases hr : w.runs.find? run with
  | some r =>
      have hr' := find?_runs_exec hr l
      obtain ⟨hattempts, hlink⟩ := Stmt.tries_onRun hl w.now r
      rw [attemptsOf_of_find? hr', attemptsOf_of_find? hr, linkOf_of_find? hr', linkOf_of_find? hr]
      exact ⟨hattempts, hlink⟩
  | none =>
      have hnone : w.attemptsOf run = 0 ∧ w.linkOf run = none := by
        simp [World.attemptsOf, World.linkOf, hr]
      cases hr' : (l.exec w).runs.find? run with
      | none => simp [World.attemptsOf, World.linkOf, hr, hr']
      | some r' =>
          rcases runs_exec_cases hr' with ⟨r, hsome, -⟩ | ⟨cfg, group, tester, now, -, -, rfl⟩
          · exact absurd (hr.symm.trans hsome) (by simp)
          · rw [attemptsOf_of_find? hr', linkOf_of_find? hr', hnone.1, hnone.2]
            exact ⟨rfl, rfl⟩

/-- The row of a run that a write takes effect on. -/
lemma find?_updateRun_of_hits {u : RunWrite} (h : w.runs.hits run u.guard = true) :
    ∃ r, w.runs.find? run = some r ∧ u.guard r = true ∧
      (Stmt.exec (.updateRun run u) w).runs.find? run = some (u.set w.now r) := by
  obtain ⟨r, hr, hg⟩ := Table.hits_iff.mp h
  have hid : r.id = run := run_id_of_find? hr
  refine ⟨r, hr, hg, ?_⟩
  rw [find?_runs_exec hr, Stmt.onRun, if_pos ⟨hid, hg⟩]

/-- A write of one run is steady for every other, and for the run it does not take effect
on. -/
lemma tries_updateRun {run' : Guid} {u : RunWrite}
    (h : ¬ (run' = run ∧ w.runs.hits run' u.guard = true)) :
    (Stmt.exec (.updateRun run' u) w).attemptsOf run = w.attemptsOf run ∧
      (Stmt.exec (.updateRun run' u) w).linkOf run = w.linkOf run := by
  have hsame : (Stmt.exec (.updateRun run' u) w).runs.find? run = w.runs.find? run := by
    cases hr : w.runs.find? run with
    | none => simp [Stmt.exec, updateRuns, Table.find?_update, hr]
    | some r =>
        have hid : r.id = run := run_id_of_find? hr
        have hmiss : ¬ (r.id = run' ∧ u.guard r = true) := by
          rintro ⟨rfl, hg⟩
          exact h ⟨hid, Table.hits_iff.mpr ⟨r, hid ▸ hr, hg⟩⟩
        rw [find?_runs_exec hr, Stmt.onRun, if_neg hmiss]
  rw [World.attemptsOf, World.attemptsOf, World.linkOf, World.linkOf, hsame]
  exact ⟨rfl, rfl⟩

/-! ### What a tick owes -/

/-- A retry counts one attempt of a linked run, and never more than there may be. -/
def CountsRetry (l : Stmt) (w : World) : Prop :=
  match l with
  | .updateRun run (.retryProvisioning n _ _) =>
      (w.linkOf run).isSome = true ∧ n = w.attemptsOf run + 1 ∧ n ≤ maxProvisionAttempts
  | _ => True

lemma countsRetry_of_keepsTries {l : Stmt} (hl : l.keepsTries) (w : World) : CountsRetry l w := by
  cases l with
  | updateRun run u =>
      cases u with
      | retryProvisioning n b note => exact hl.elim
      | _ => trivial
  | _ => trivial

lemma not_kicks_of_keepsTries {l : Stmt} (hl : l.keepsTries) (run : Guid) (w : World) :
    l.kicks run w = false := by
  cases l with
  | updateRun run' u =>
      cases u with
      | linkDeployment d => exact hl.elim
      | _ => rfl
  | _ => rfl

/-- Only the orchestrator kicks and retries. -/
lemma keepsTries_of_mayIssue {t : Task} (hno : t.isOrchestrator = false) {l : Stmt}
    (hl : t.mayIssue l) : l.keepsTries := by
  cases l with
  | updateRun run u =>
      cases t with
      | orchestrator => exact absurd hno (by decide)
      | launch | dispatch | redispatch | cancel | watchdog =>
          cases u <;> trivial
      | frame agent f => cases u <;> first | trivial | exact hl.2.elim
      | reaper resources => exact absurd hl (by simp [Task.mayIssue])
      | deploy | createDeployment | stopDeployment | updateDeployment | deleteDeployment =>
          exact hl.elim
  | _ => trivial

/-- A kick finds its run unlinked, with as many kicks as attempts. -/
lemma Kicked.of_kicks {l : Stmt} {n : ℕ} (hn : Kicked run n w) (hkick : l.kicks run w = true) :
    n = w.attemptsOf run := by
  cases l with
  | updateRun run' u =>
      cases u with
      | linkDeployment d =>
          rw [Stmt.kicks, Bool.and_eq_true, beq_iff_eq] at hkick
          obtain ⟨rfl, hhit⟩ := hkick
          obtain ⟨r, hr, hg, -⟩ := find?_updateRun_of_hits hhit
          rw [RunWrite.guard, Bool.and_eq_true, Option.isNone_iff_eq_none] at hg
          have hlink : w.linkOf run' = none := (linkOf_of_find? hr).trans hg.2
          rw [Kicked, hlink] at hn
          exact hn
      | _ => exact absurd hkick Bool.false_ne_true
  | _ => exact absurd hkick Bool.false_ne_true

/-- A statement that counts its retry moves the counter and the kicks together. -/
lemma Kicked.exec {l : Stmt} {n : ℕ} (hn : Kicked run n w) (hl : CountsRetry l w) :
    Kicked run (n + (l.kicks run w).toNat) (l.exec w) := by
  have hkeep : l.keepsTries → Kicked run (n + (l.kicks run w).toNat) (l.exec w) := by
    intro hkeeps
    obtain ⟨hattempts, hlink⟩ := steady_exec hkeeps w run
    rw [not_kicks_of_keepsTries hkeeps, Kicked, hattempts, hlink]
    exact hn
  cases l with
  | updateRun run' u =>
      cases u with
      | linkDeployment d =>
          by_cases hhit : run' = run ∧ w.runs.hits run' (RunWrite.linkDeployment d).guard = true
          · obtain ⟨rfl, hhit⟩ := hhit
            have hkick : Stmt.kicks run' (.updateRun run' (.linkDeployment d)) w = true := by
              rw [Stmt.kicks, hhit, beq_self_eq_true, Bool.and_self]
            have hbefore := hn.of_kicks hkick
            obtain ⟨r, hr, -, hr'⟩ := find?_updateRun_of_hits hhit
            rw [attemptsOf_of_find? hr] at hbefore
            rw [hkick, Kicked, attemptsOf_of_find? hr', linkOf_of_find? hr', hbefore]
            rfl
          · have hkick : Stmt.kicks run (.updateRun run' (.linkDeployment d)) w = false := by
              rw [Bool.eq_false_iff, Stmt.kicks, ne_eq, Bool.and_eq_true, beq_iff_eq]
              exact hhit
            obtain ⟨hattempts, hlink⟩ := tries_updateRun hhit
            rw [hkick, Kicked, hattempts, hlink]
            exact hn
      | retryProvisioning attempt b note =>
          have hkick : Stmt.kicks run (.updateRun run' (.retryProvisioning attempt b note)) w =
              false := rfl
          by_cases hhit : run' = run ∧
              w.runs.hits run' (RunWrite.retryProvisioning attempt b note).guard = true
          · obtain ⟨rfl, hhit⟩ := hhit
            obtain ⟨hlinked, hattempt, -⟩ := hl
            obtain ⟨r, -, -, hr'⟩ := find?_updateRun_of_hits hhit
            rw [Kicked, hlinked, Bool.toNat_true, ← hattempt] at hn
            rw [hkick, Kicked, attemptsOf_of_find? hr', linkOf_of_find? hr', hn]
            rfl
          · obtain ⟨hattempts, hlink⟩ := tries_updateRun hhit
            rw [hkick, Kicked, hattempts, hlink]
            exact hn
      | _ => exact hkeep trivial
  | _ => exact hkeep trivial

/-- Such a statement leaves the counters within the allowed attempts. -/
lemma attemptsOf_exec_le {l : Stmt} (hw : w.attemptsOf run ≤ maxProvisionAttempts)
    (hl : CountsRetry l w) : (l.exec w).attemptsOf run ≤ maxProvisionAttempts := by
  have hkeep : l.keepsTries → (l.exec w).attemptsOf run ≤ maxProvisionAttempts := by
    intro hkeeps
    rw [(steady_exec hkeeps w run).1]
    exact hw
  cases l with
  | updateRun run' u =>
      by_cases hhit : run' = run ∧ w.runs.hits run' u.guard = true
      · obtain ⟨rfl, hhit⟩ := hhit
        obtain ⟨r, hr, -, hr'⟩ := find?_updateRun_of_hits hhit
        rw [attemptsOf_of_find? hr] at hw
        rw [attemptsOf_of_find? hr']
        cases u with
        | retryProvisioning attempt b note => exact hl.2.2
        | _ => exact hw
      · rw [(tries_updateRun hhit).1]
        exact hw
  | _ => exact hkeep trivial

/-! ### A tick among the other tasks -/

section Tick

variable {ok : Stmt → World → Prop} {E : SvcError → World → Prop}

/-- A routine of the orchestrator that counts its retries and ends with `Q`. -/
abbrev CountingTick (ok : Stmt → World → Prop) {α : Type} (E : SvcError → World → Prop)
    (Q : World → Prop) (p : Svc α) (w : World) : Prop :=
  p.Safe Stmt.exec Steady ok CountsRetry E (fun _ => Q) w

/-- The runs still to be resolved are distinct and linked. -/
def StillLinked (ps : List (Guid × Guid × Guid)) (w : World) : Prop :=
  (ps.map Prod.fst).Nodup ∧ ∀ p ∈ ps, (w.linkOf p.1).isSome = true

lemma stable_stillLinked (ps : List (Guid × Guid × Guid)) : Proc.Stable Steady (StillLinked ps) :=
  fun _ _ hs hw => ⟨hw.1, fun p hp => by rw [(hs p.1).2]; exact hw.2 p hp⟩

lemma stable_true : Proc.Stable Steady fun _ => True := fun _ _ _ _ => trivial

/-- What neither kicks nor retries counts its retries and is safe anywhere. -/
lemma safe_of_keepsTries {I : World → Prop} (hI : Proc.Stable Steady I) {α : Type} {p : Svc α}
    (hp : p.Issues Stmt.keepsTries) (hw : I w) : CountingTick ok (fun _ => I) I p w :=
  Proc.Issues.safe hI (hp.mono fun _ hl t ht _ =>
    ⟨countsRetry_of_keepsTries hl t, hI t _ (steady_exec hl t) ht⟩) hw

variable {p : Guid × Guid × Guid} {ps : List (Guid × Guid × Guid)}

lemma StillLinked.tail (hw : StillLinked (p :: ps) w) : StillLinked ps w :=
  ⟨(List.nodup_cons.mp hw.1).2, fun q hq => hw.2 q (List.mem_cons_of_mem p hq)⟩

/-- A retry lets go of its own run. -/
lemma StillLinked.retry {n : ℕ} {b : Time} {note : String} (hw : StillLinked (p :: ps) w) :
    StillLinked ps (Stmt.exec (.updateRun p.1 (.retryProvisioning n b note)) w) := by
  refine ⟨(List.nodup_cons.mp hw.1).2, fun q hq => ?_⟩
  have hne : q.1 ≠ p.1 := fun heq =>
    (List.nodup_cons.mp hw.1).1 (List.mem_map.mpr ⟨q, hq, heq⟩)
  rw [linkOf_retry hne]
  exact hw.2 q (List.mem_cons_of_mem p hq)

/-- The run is still linked, and its counter still what was read. -/
lemma stable_read (n : ℕ) : Proc.Stable Steady fun w =>
    StillLinked (p :: ps) w ∧ w.attemptsOf p.1 = n := fun w w' hs hw =>
  ⟨stable_stillLinked _ w w' hs hw.1, (hs p.1).1.trans hw.2⟩

lemma counting_retryOrFail (d : Guid) (backoff : ℕ → Time) (note : ℕ → String) (exhausted : String)
    (hw : StillLinked (p :: ps) w) :
    CountingTick ok E (StillLinked ps) (retryOrFail p.1 d backoff note exhausted) w := by
  refine (stable_stillLinked _).safe_issue_bind hw fun t ht _ => ⟨trivial, ?_⟩
  split
  · next hroom =>
      refine (stable_read (t.attemptsOf p.1)).safe_issue_bind ⟨ht, rfl⟩ fun u hu _ => ⟨?_, ?_⟩
      · refine ⟨hu.1.2 p List.mem_cons_self, ?_, hroom⟩
        rw [hu.2]
        rfl
      refine (stable_stillLinked ps).safe_issue_bind hu.1.retry fun v hv _ => ⟨trivial, ?_⟩
      exact (stable_stillLinked ps).safe_ret hv
  · refine (stable_stillLinked _).safe_issue_bind ht fun u hu _ => ⟨trivial, ?_⟩
    have hkeeps : (Stmt.updateRun p.1 (.failProvisioning exhausted)).keepsTries := trivial
    exact (stable_stillLinked ps).safe_ret
      (stable_stillLinked ps u _ (steady_exec hkeeps u) hu.tail)

/-- What neither kicks nor retries resolves a run. -/
lemma counting_resolved {α : Type} {q : Svc α} (hq : q.Issues Stmt.keepsTries)
    (hw : StillLinked (p :: ps) w) :
    CountingTick ok (fun _ => StillLinked ps) (StillLinked ps) q w :=
  safe_of_keepsTries (stable_stillLinked ps) hq hw.tail

lemma counting_handleProvisioningRun (hw : StillLinked (p :: ps) w) :
    CountingTick ok (fun _ => StillLinked ps) (StillLinked ps)
      (handleProvisioningRun p.1 p.2.1 p.2.2) w := by
  refine (stable_stillLinked _).safe_issue_bind hw fun t ht _ => ⟨trivial, ?_⟩
  split
  · exact (stable_stillLinked ps).safe_ret ht.tail
  · split
    · refine counting_resolved ?_ ht
      exact (issues_promote trivial (fun _ => trivial) _ _ trivial fun _ _ _ => trivial).bind
        fun _ => trivial
    · simp only [handleFailedDeployment]
      split_ifs
      · exact counting_retryOrFail _ _ _ _ ht
      · exact counting_retryOrFail _ _ _ _ ht
      · refine counting_resolved ?_ ht
        exact Svc.issues_updateRun_bind.mpr ⟨trivial, fun _ => trivial⟩
    · refine counting_resolved ?_ ht
      exact Svc.issues_updateRun_bind.mpr ⟨trivial, fun _ => trivial⟩
    · exact (stable_stillLinked ps).safe_ret ht.tail

/-- A promotion pass counts the retries of the runs it has read as linked. -/
lemma counting_promoteProvisioningRuns :
    CountingTick ok E (fun _ => True) promoteProvisioningRuns w := by
  refine stable_true.safe_issue_bind trivial fun t _ _ => ⟨trivial, ?_⟩
  have hread : StillLinked (provisioningPairs t) t := by
    refine ⟨fst_provisioningPairs_nodup t, fun q hq => ?_⟩
    rw [linkOf_of_mem_provisioningPairs hq]
    rfl
  refine (Proc.Safe.count (I := StillLinked) Steady.refl (stable_stillLinked [])
    (fun q qs s hs => ?_) _ _ hread).mono (fun _ _ h => h) fun _ _ _ => trivial
  exact (counting_handleProvisioningRun hs).rescue Steady.refl
    fun _ _ hs => (stable_stillLinked qs).safe_ret hs

/-- A tick of the orchestrator counts its retries. -/
lemma counting_orchestratorTick (h : Host) :
    CountingTick ok (fun _ _ => True) (fun _ => True) (orchestratorTick h) w := by
  have hkick : (kickPendingRuns h).Issues fun l =>
      ∀ t, True → ok l t → CountsRetry l t ∧ True :=
    issues_kickPendingRuns (fun _ _ _ => ⟨trivial, trivial⟩) (fun _ _ _ _ _ => ⟨trivial, trivial⟩)
      (fun _ _ _ _ _ => ⟨trivial, trivial⟩) (fun _ _ _ _ _ => ⟨trivial, trivial⟩)
      (fun _ _ _ _ _ => ⟨trivial, trivial⟩) (fun _ _ _ _ => ⟨trivial, trivial⟩) h
  have hteardown : teardownFinishedRuns.Issues Stmt.keepsTries :=
    issues_teardownFinishedRuns trivial (fun _ _ => trivial) fun _ => trivial
  refine (Proc.Issues.safe stable_true hkick trivial).bind Steady.refl fun _ t _ => ?_
  refine counting_promoteProvisioningRuns.bind Steady.refl fun _ u _ => ?_
  refine (safe_of_keepsTries stable_true hteardown trivial).bind Steady.refl fun _ v _ => ?_
  exact stable_true.safe_ret trivial

end Tick

/-! ### All tasks side by side -/

/-- A tick relies on the other tasks to leave the counters and links alone and counts its
retries. -/
def attemptKeeping : System.Discipline Stmt World Task where
  inv _ := True
  holds _ := False
  res _ := True
  here _ _ := True
  ok _ _ := True
  rely t w w' := t.isOrchestrator = true → Steady w w'
  guar t l w := t.mayIssue l ∧ CountsRetry l w

/-- Every task keeps the discipline. -/
lemma attemptKeeping_keeps (h : Host) (t : Task) (w : World) :
    attemptKeeping.Keeps (controlPlane h) t (t.code h) w := by
  have hissues := (t.issues_mayIssue h).2
  cases ht : t.isOrchestrator with
  | true =>
      cases t with
      | orchestrator =>
          have htick : CountingTick (fun l s => attemptKeeping.inv s ∧ attemptKeeping.ok l s)
              (fun _ _ => True) (fun _ => True) (orchestratorTick h) w :=
            counting_orchestratorTick h
          exact ((htick.issues hissues).weaken (fun _ _ hr => hr ht) fun _ _ hg => hg).mono
            (fun _ _ _ => False.elim) fun _ _ _ => False.elim
      | _ => exact absurd ht Bool.false_ne_true
  | false =>
      refine (Proc.Issues.safe (I := fun _ => True) (fun _ _ _ h => h) (hissues.mono
        fun l hl s _ _ => ⟨⟨hl, ?_⟩, trivial⟩) trivial).mono (fun _ _ _ => False.elim)
        fun _ _ _ => False.elim
      exact countsRetry_of_keepsTries (keepsTries_of_mayIssue ht hl) s

/-- **Retries are counted.**  In any interleaving of the tasks of the control plane a retry
raises the counter of a linked run by one, up to the allowed attempts. -/
theorem attemptKeeping_lawful (h : Host) :
    (controlPlane h).Lawful attemptKeeping (fun _ => True) Task.OneOrchestrator where
  symm := by
    intro t u htu hu
    cases ht : t.isOrchestrator with
    | false => rfl
    | true => exact absurd (hu.symm.trans (htu ht)) (by decide)
  excl := fun _ => False.elim
  refl := fun _ w _ => Steady.refl w
  trans := fun _ {_ _ _} hab hbc ht => (hab ht).trans (hbc ht)
  inv := fun _ _ _ _ _ _ => trivial
  here := fun _ _ _ _ _ _ _ _ => trivial
  res := fun _ _ _ _ _ _ _ _ => trivial
  rely := by
    intro t u l w htu _ _ hg hu
    have ht : t.isOrchestrator = false := by
      rw [Bool.eq_false_iff]
      intro hyes
      exact absurd (hu.symm.trans (htu hyes)) (by decide)
    exact steady_exec (keepsTries_of_mayIssue ht hg.1) w
  start := by
    intro ts t w _ hadm _ _ _ _
    have hentry : t.entry.keepsTries := by cases t <;> trivial
    refine ⟨fun u hu ht => ?_, ⟨(Task.issues_mayIssue h t).1, countsRetry_of_keepsTries hentry w⟩,
      trivial, attemptKeeping_keeps h t _⟩
    cases t with
    | orchestrator =>
        have halone : ∀ u ∈ ts, ¬ u.isOrchestrator = true := by
          simpa [controlPlane, Task.admits] using hadm
        rw [Bool.eq_false_iff]
        exact halone u hu
    | _ => exact absurd ht Bool.false_ne_true
  env := by
    intro l w hl _ _
    have hkeeps : l.keepsTries := by
      cases l with
      | updateRun run u => exact absurd hl Bool.false_ne_true
      | _ => trivial
    exact ⟨trivial, fun _ => trivial, fun _ => ⟨fun _ => steady_exec hkeeps w, fun _ => trivial⟩⟩

/-! ### Runs -/

/-- Every retry of every schedule is counted. -/
lemma along_countsRetry (h : Host) (w : World) (as : List Move) :
    (controlPlane h).Along ((controlPlane h).Meets CountsRetry) (.fresh w) as := by
  have hguar := System.along_guar (attemptKeeping_lawful h)
    (System.Sound.fresh (s := w) trivial trivial) (System.along_starts_any as) (System.along_meets_any as)
  refine hguar.mono fun c a ha l hl => ?_
  rcases ha l hl with ⟨t, -, hcounts⟩ | hmove
  · exact hcounts
  · cases l with
    | updateRun run u => exact absurd hmove Bool.false_ne_true
    | _ => trivial

lemma Kicked.restarted {n : ℕ} (hn : Kicked run n w) : Kicked run n w.restarted := hn

lemma kicked_of_unknown (hnew : w.runs.find? run = none) : Kicked run 0 w := by
  simp [Kicked, World.attemptsOf, World.linkOf, hnew]

/-- A kick takes effect only while the counter leaves room for it. -/
def KicksInTime (run : Guid) (l : Stmt) (w : World) : Prop :=
  l.kicks run w = true → w.attemptsOf run < maxProvisionAttempts

instance (run : Guid) (l : Stmt) (w : World) : Decidable (KicksInTime run l w) :=
  inferInstanceAs (Decidable (_ → _))

/-- **Bounded kicks.**  Over any lives of the control plane a run is kicked at most
`MaxProvisionAttempts` times exactly when no kick takes effect on a run whose counter has
reached that number. -/
theorem kicks_bounded_iff (h : Host) (w : World) (run : Guid) (lives : List (List Move))
    (hnew : w.runs.find? run = none) :
    kicksOf h run w lives ≤ maxProvisionAttempts ↔
      (controlPlane h).AlongLives World.restarted ((controlPlane h).Meets (KicksInTime run)) w
        lives := by
  have hcounts : (controlPlane h).AlongLives World.restarted
      ((controlPlane h).Meets CountsRetry) w lives :=
    System.alongLives_of_fresh (fun s as => along_countsRetry h s as) w lives
  have hiff : 0 + kicksOf h run w lives ≤ maxProvisionAttempts ↔
      (controlPlane h).AlongLives World.restarted ((controlPlane h).Meets (KicksInTime run)) w
        lives :=
    System.tallyLives_le_iff (I := Kicked run) (fun _ _ _ hn hl => hn.exec hl) (fun _ _ _ hn hkick => by rw [hn.of_kicks hkick])
    (fun _ _ hn => hn.restarted) (kicked_of_unknown hnew) (Nat.zero_le _) lives hcounts
  rw [Nat.zero_add] at hiff
  exact hiff

/-- The counter is checked by the retry and not by the kick, so that there is one kick more
at most. -/
theorem kicks_le (h : Host) (w : World) (run : Guid) (lives : List (List Move))
    (hnew : w.runs.find? run = none) : kicksOf h run w lives ≤ maxProvisionAttempts + 1 := by
  have hcounts : (controlPlane h).AlongLives World.restarted
      ((controlPlane h).Meets CountsRetry) w lives :=
    System.alongLives_of_fresh (fun s as => along_countsRetry h s as) w lives
  have hstart : Kicked run 0 w ∧ w.attemptsOf run ≤ maxProvisionAttempts := by
    refine ⟨kicked_of_unknown hnew, ?_⟩
    rw [World.attemptsOf, hnew]
    exact Nat.zero_le _
  have hcrash : ∀ (n : ℕ) (w : World), (Kicked run n w ∧ w.attemptsOf run ≤ maxProvisionAttempts) →
      Kicked run n w.restarted ∧ w.restarted.attemptsOf run ≤ maxProvisionAttempts :=
    fun _ _ hn => hn
  have hend := System.survive_tally
    (I := fun n w => Kicked run n w ∧ w.attemptsOf run ≤ maxProvisionAttempts)
    (fun _ _ _ hn hl => ⟨hn.1.exec hl, attemptsOf_exec_le hn.2 hl⟩) hcrash hstart lives hcounts
  obtain ⟨hkicked, hle⟩ := hend
  rw [Nat.zero_add, Kicked] at hkicked
  have hlink := Bool.toNat_le (((controlPlane h).survive World.restarted w lives).linkOf run).isSome
  rw [kicksOf, hkicked]
  omega

namespace QuotaHits

def host : Host := { Host.plain with dockerEnabled := true }

def config : TestConfig :=
  .basic 0 "p" "pending" (.obj [("kind", .str "pending"), ("provider", .str "docker")])
    (.obj [("modes", .arr [.str "http1"])])

def world : World :=
  { World.initial with configs := ⟨[config], 1, by decide, by decide⟩ }

/-- The cloud refuses the machine. -/
def outcome : DeployRunner.Outcome :=
  .refused none "QuotaExceeded"

/-- The run is launched and kicked. -/
def kicked : List Move :=
  .start (.launch 0 none none) :: steps 0 8 ++ .start .orchestrator :: steps 1 40

/-- Its deploy hits a quota, a tick schedules a retry, and the next one kicks it again. -/
def retried (k : ℕ) : List Move :=
  .start (.deploy k k outcome) :: steps (3 * k + 2) 6 ++
    .start .orchestrator :: steps (3 * k + 3) 40 ++ .env (.elapse (minutes 12)) ::
    .start .orchestrator :: steps (3 * k + 4) 40

/-- The same again and again. -/
def life (retries : ℕ) : List Move := kicked ++ (List.range retries).flatMap retried

end QuotaHits

open QuotaHits in
theorem kicks_bounded_iff_three : kicksOf host 0 world [life 3] ≤ maxProvisionAttempts :=
  (kicks_bounded_iff host world 0 [life 3] (by decide)).mpr (by decide +kernel)

open QuotaHits in
/-- The fourth retry is allowed, and kicks the run for the fifth time. -/
theorem kicked_five_times : ¬ kicksOf host 0 world [life 4] ≤ maxProvisionAttempts := by
  have hfive : kicksOf host 0 world [life 4] = 5 := by decide +kernel
  rw [hfive]
  decide

end Networker
