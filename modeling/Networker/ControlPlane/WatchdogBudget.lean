/-
Whether the watchdog leaves a deployment to the timer of its runner.

* `DueForReap`, `isStaleDeployment_of_due`, `reapWrite_guard_iff`: the rows the sweep fails,
  and what its query lets through;
* `RunnerAttempt.TimedOut`: the timer of the attempt has ended it;
* `Prompt`, `Ordered`: the condition on the delays of the runner;
* `Backed`, `Aging`: the row is at most the slack behind the timers that it stands for;
* `watchdog_outlasts_runner`: the sweep fails a row behind the timers of its attempts;
* `install_stamp_lost`: a re-anchored install that the sweep fails.
-/
import Networker.ControlPlane.DeployTimers

namespace Networker

open Data Concurrency WatchdogService

/-! ### The sweep -/

/-- The row has not ended and is older than its budget with the slack. -/
def DueForReap (now : Time) (dep : Deployment) : Prop :=
  (dep.status = .pending ∨ dep.status = .running) ∧
    ∃ cutoff, deploymentReapCutoffFor dep.config = .ok cutoff ∧ dep.ageBasis < now - cutoff

lemma deployTimeoutFor_eq_ok {j : Json} {timeout : Time} (h : deployTimeoutFor j = .ok timeout) :
    ∃ n : ℕ, languageCountFor j = .ok n ∧
      timeout = min (baseDeployTimeout + n * perLanguageBudget) maxDeployTimeout := by
  rw [deployTimeoutFor] at h
  cases hn : languageCountFor j with
  | error e =>
      rw [hn] at h
      exact absurd h (by simp [Except.map])
  | ok n =>
      rw [hn] at h
      exact ⟨n, rfl, (Except.ok.inj h).symm⟩

/-- The budget is never below its base. -/
lemma base_le_timeout {j : Json} {timeout : Time} (h : deployTimeoutFor j = .ok timeout) :
    baseDeployTimeout ≤ timeout := by
  obtain ⟨n, -, rfl⟩ := deployTimeoutFor_eq_ok h
  have hn : (0 : ℤ) ≤ n * perLanguageBudget :=
    mul_nonneg (Int.natCast_nonneg n) (by decide)
  have hmax : baseDeployTimeout ≤ maxDeployTimeout := by decide
  exact le_min (le_add_of_nonneg_right hn) hmax

lemma cutoff_eq {j : Json} {cutoff : Time} (h : deploymentReapCutoffFor j = .ok cutoff) :
    ∃ timeout, deployTimeoutFor j = .ok timeout ∧ cutoff = timeout + deploymentBudgetSlack := by
  rw [deploymentReapCutoffFor] at h
  cases ht : deployTimeoutFor j with
  | error e =>
      rw [ht] at h
      exact absurd h (by simp [Except.map])
  | ok timeout =>
      rw [ht] at h
      exact ⟨timeout, rfl, (Except.ok.inj h).symm⟩

/-- The query hides no row that is due. -/
lemma isStaleDeployment_of_due {now : Time} {dep : Deployment} (h : DueForReap now dep) :
    isStaleDeployment now dep = true := by
  obtain ⟨hstatus, cutoff, hcutoff, hold⟩ := h
  obtain ⟨timeout, htimeout, rfl⟩ := cutoff_eq hcutoff
  have hbase := base_le_timeout htimeout
  have hlive : (dep.status == .pending || dep.status == .running) = true := by
    rcases hstatus with hst | hst <;> rw [hst] <;> rfl
  rw [isStaleDeployment, hlive, Bool.true_and, decide_eq_true_eq]
  linarith

/-- The write of the sweep, if it decides on one. -/
lemma reapWrite_eq_some {now : Time} {dep : Deployment} {u : DeploymentWrite}
    (h : reapWrite now dep = .ok (some u)) :
    ∃ cutoff msg, deploymentReapCutoffFor dep.config = .ok cutoff ∧
      u = .reap dep.status (now - cutoff) msg now := by
  rw [reapWrite] at h
  cases hcutoff : deploymentReapCutoffFor dep.config with
  | error e =>
      rw [hcutoff] at h
      exact absurd h (by simp [bind, Except.bind])
  | ok cutoff =>
      rw [hcutoff] at h
      by_cases hearly : now - dep.ageBasis < cutoff
      · simp [bind, Except.bind, hearly, pure, Except.pure] at h
      · cases hmsg : reapErrorFor dep with
        | error e => simp [bind, Except.bind, hearly, hmsg] at h
        | ok msg =>
            simp only [bind, Except.bind, hearly, hmsg, pure, Except.pure, if_false,
              Except.ok.injEq, Option.some.injEq] at h
            exact ⟨cutoff, msg, rfl, h.symm⟩

/-- The messages can be built whenever the budget can. -/
lemma exists_reapErrorFor {dep : Deployment} {timeout : Time}
    (h : deployTimeoutFor dep.config = .ok timeout) : ∃ msg, reapErrorFor dep = .ok msg := by
  obtain ⟨n, hn, -⟩ := deployTimeoutFor_eq_ok h
  rw [reapErrorFor]
  split_ifs
  · rw [neverStartedReapedErrorFor, h]
    exact ⟨_, rfl⟩
  · rw [deploymentReapedErrorFor, h, hn]
    exact ⟨_, rfl⟩

/-- A row that has not ended is failed exactly when it is due, as long as it stays the row
that was read. -/
lemma reapWrite_guard_iff {now : Time} {dep : Deployment}
    (hlive : dep.status = .pending ∨ dep.status = .running) :
    (∃ u, reapWrite now dep = .ok (some u) ∧ u.guard dep = true) ↔ DueForReap now dep := by
  constructor
  · rintro ⟨u, hu, hguard⟩
    obtain ⟨cutoff, msg, hcutoff, rfl⟩ := reapWrite_eq_some hu
    rw [DeploymentWrite.guard, Bool.and_eq_true, decide_eq_true_eq] at hguard
    exact ⟨hlive, cutoff, hcutoff, hguard.2⟩
  · rintro ⟨-, cutoff, hcutoff, hold⟩
    obtain ⟨timeout, htimeout, -⟩ := cutoff_eq hcutoff
    obtain ⟨msg, hmsg⟩ := exists_reapErrorFor htimeout
    have hlate : ¬ now - dep.ageBasis < cutoff := by linarith
    refine ⟨.reap dep.status (now - cutoff) msg now, ?_, ?_⟩
    · simp only [reapWrite, hcutoff, hmsg, bind, Except.bind, hlate, if_false, pure, Except.pure]
    · rw [DeploymentWrite.guard, beq_self_eq_true, Bool.true_and, decide_eq_true_eq]
      exact hold

/-! ### The document of an attempt -/

/-- Switching the tests off leaves the endpoints alone. -/
lemma languageCountFor_set {fs : List (String × Json)} {tests : Json}
    (hdepth : (Json.obj fs).depth ≤ Json.maxDepth) (htests : tests.depth < Json.maxDepth) :
    languageCountFor ((Json.obj fs).set "tests" tests) = languageCountFor (.obj fs) := by
  have hset : ((Json.obj fs).set "tests" tests).depth ≤ Json.maxDepth := by
    have hfields := Json.depthFields_setField_le "tests" tests fs
    rw [Json.depth] at hdepth
    rw [Json.set, Json.depth]
    omega
  have hparse : Json.parse (.obj fs) = .ok (.obj fs) := if_pos hdepth
  have hparsed : Json.parse ((Json.obj fs).set "tests" tests) =
      .ok ((Json.obj fs).set "tests" tests) := if_pos hset
  have hendpoints : ((Json.obj fs).set "tests" tests).get? "endpoints" =
      (Json.obj fs).get? "endpoints" := Json.get?_set_ne (by decide) _ _
  rw [languageCountFor, languageCountFor, hparsed, hparse]
  show (Except.ok (((Json.obj fs).set "tests" tests).get? "endpoints")).bind _ = _
  rw [hendpoints]
  rfl

/-- The document of the update endpoint has the budget of the stored one. -/
lemma timeout_updateConfig {config j : Json} {timeout : Time}
    (h : DeploymentWriteEndpoints.updateConfig config = .ok j)
    (ht : deployTimeoutFor config = .ok timeout) : deployTimeoutFor j = .ok timeout := by
  by_cases hdepth : config.depth ≤ Json.maxDepth
  · have hparse : Json.parse config = .ok config := if_pos hdepth
    rw [DeploymentWriteEndpoints.updateConfig, hparse] at h
    cases config with
    | obj fs =>
        obtain rfl := Except.ok.inj h
        rw [deployTimeoutFor] at ht
        show deployTimeoutFor ((Json.obj fs).set "tests" _) = .ok timeout
        rw [deployTimeoutFor, languageCountFor_set hdepth (by decide), ht]
    | _ =>
        rw [deployTimeoutFor, languageCountFor, hparse] at ht
        exact absurd ht (by simp [Json.tryGetProperty, Except.bind, Except.map, bind])
  · rw [DeploymentWriteEndpoints.updateConfig, Json.parse, if_neg hdepth] at h
    exact absurd h (by simp [Except.map])

/-- A launch is given a document with the budget of the row. -/
lemma timeout_documentOf {updated : Bool} {config j : Json} {timeout : Time}
    (h : TimelineStep.documentOf updated config = some j)
    (ht : deployTimeoutFor config = .ok timeout) : deployTimeoutFor j = .ok timeout := by
  cases updated with
  | false =>
      obtain rfl := Option.some.inj h
      exact ht
  | true =>
      rw [TimelineStep.documentOf, if_pos rfl] at h
      cases hu : DeploymentWriteEndpoints.updateConfig config with
      | error e =>
          rw [hu] at h
          exact absurd h (by simp [Except.toOption])
      | ok j' =>
          rw [hu] at h
          obtain rfl := Option.some.inj h
          exact timeout_updateConfig hu ht

/-! ### Timers and stamps -/

namespace RunnerAttempt

/-- The row is at most the slack behind the timer that its stamp stands for. -/
def BackedBy (basis : Time) (a : RunnerAttempt) : Prop :=
  match a.stage with
  | .running stamp => stamp ≤ basis
  | .installing _ stampedAt _ => stampedAt ≤ basis + deploymentBudgetSlack
  | _ => True

instance (basis : Time) : DecidablePred (BackedBy basis) := fun a => by
  rw [BackedBy]
  split <;> infer_instance

/-- The runner is not behind: it arms its timer within the slack, and the stamp of the
install phase is written before the timer it replaces would have fired. -/
def Prompt (now : Time) (a : RunnerAttempt) : Prop :=
  match a.stage with
  | .running stamp => now ≤ stamp + deploymentBudgetSlack
  | .installing armedAt stampedAt _ =>
      armedAt = stampedAt ∨ ∀ timeout ∈ a.timeout?, now ≤ stampedAt + timeout
  | _ => True

instance (now : Time) : DecidablePred (Prompt now) := fun a => by
  rw [Prompt]
  split <;> infer_instance

/-- The timer of the attempt has ended it.  An attempt that has flipped the row and has no
timer yet is not ended. -/
def TimedOut (now : Time) (a : RunnerAttempt) : Prop :=
  match a.stage with
  | .running _ => False
  | .installing armedAt _ _ => ∃ timeout ∈ a.timeout?, armedAt + timeout < now
  | _ => True

instance (now : Time) : DecidablePred (TimedOut now) := fun a => by
  rw [TimedOut]
  split <;> infer_instance

/-- What was read off the clock lies in the past. -/
def Past (now : Time) (a : RunnerAttempt) : Prop :=
  match a.stage with
  | .flipping stamp | .running stamp => stamp ≤ now
  | .installing armedAt stampedAt _ => armedAt ≤ now ∧ stampedAt ≤ now
  | _ => True

/-- An attempt next to a row of this age and config. -/
structure Fits (now basis : Time) (config : Json) (a : RunnerAttempt) : Prop where
  backed : a.BackedBy basis
  past : a.Past now
  budget : ∀ timeout, deployTimeoutFor config = .ok timeout → a.timeout? = some timeout

end RunnerAttempt

/-- The start stamp a step writes to the row. -/
def TimelineStep.startStamp? : TimelineStep → DeployTimeline → Option Time
  | setRunning k, s =>
      match stageOf k s with
      | some (.flipping stamp) => some stamp
      | _ => none
  | claim c now, s => if DeploymentRecoveryService.claimGuard c s.row then some now else none
  | _, _ => none

/-- The sweep fails the row. -/
def TimelineStep.fails : TimelineStep → DeployTimeline → Bool
  | reap, s => (reapOf s).any fun u => u.guard s.row
  | _, _ => false

/-- The runners are not behind, and a start stamp is no older than what the other attempts
were started with. -/
def InStep (l : TimelineStep) (s : DeployTimeline) : Prop :=
  (∀ a ∈ s.attempts, a.Prompt s.now) ∧
    ∀ stamp ∈ l.startStamp? s, ∀ a ∈ s.attempts, a.BackedBy stamp

instance (l : TimelineStep) (s : DeployTimeline) : Decidable (InStep l s) :=
  inferInstanceAs (Decidable (_ ∧ _))

/-- When the sweep fails the row, the timers have ended all attempts before. -/
def Outlasted (l : TimelineStep) (s : DeployTimeline) : Prop :=
  l.fails s = true → ∀ a ∈ s.attempts, a.TimedOut s.now

instance (l : TimelineStep) (s : DeployTimeline) : Decidable (Outlasted l s) :=
  inferInstanceAs (Decidable (_ → _))

/-- What the sweep writes, it has decided on for the row it has read. -/
lemma reapOf_eq_some {s : DeployTimeline} {u : DeploymentWrite}
    (h : TimelineStep.reapOf s = some u) :
    ∃ sweep dep, s.sweep = some sweep ∧ sweep.stuck = some dep ∧
      reapWrite sweep.now dep = .ok (some u) := by
  obtain ⟨sweep, hsweep, h⟩ := Option.bind_eq_some_iff.mp h
  obtain ⟨dep, hdep, h⟩ := Option.bind_eq_some_iff.mp h
  cases hwrite : reapWrite sweep.now dep with
  | error e =>
      rw [hwrite] at h
      exact absurd h (by simp [Except.toOption])
  | ok write =>
      rw [hwrite] at h
      exact ⟨sweep, dep, hsweep, hdep, hwrite.trans (congrArg Except.ok h)⟩

/-- Every attempt fits the row, and so does the row a sweep has read. -/
structure Aging (s : DeployTimeline) : Prop where
  fits : ∀ a ∈ s.attempts, a.Fits s.now s.row.ageBasis s.row.config
  swept : ∀ sweep ∈ s.sweep, sweep.now ≤ s.now ∧
    ∀ dep ∈ sweep.stuck, dep.config = s.row.config

namespace RunnerAttempt

variable {now now' basis basis' : Time} {config : Json} {a : RunnerAttempt}

lemma BackedBy.mono (h : a.BackedBy basis) (hle : basis ≤ basis') : a.BackedBy basis' := by
  obtain ⟨j, stage⟩ := a
  cases stage with
  | running stamp => exact le_trans h hle
  | installing armedAt stampedAt started => exact le_trans h (by linarith)
  | _ => trivial

/-- A stamp with the current time backs everything. -/
lemma Past.backedBy (h : a.Past now) : a.BackedBy now := by
  obtain ⟨j, stage⟩ := a
  have hslack : (0 : ℤ) ≤ deploymentBudgetSlack := by decide
  cases stage with
  | running stamp => exact h
  | installing armedAt stampedAt started => exact le_trans h.2 (by linarith)
  | _ => trivial

lemma Past.mono (h : a.Past now) (hle : now ≤ now') : a.Past now' := by
  obtain ⟨j, stage⟩ := a
  cases stage with
  | flipping stamp | running stamp => exact le_trans h hle
  | installing armedAt stampedAt started => exact ⟨le_trans h.1 hle, le_trans h.2 hle⟩
  | _ => trivial

lemma Fits.mono (h : a.Fits now basis config) (hle : now ≤ now') : a.Fits now' basis config :=
  ⟨h.backed, h.past.mono hle, h.budget⟩

/-- An attempt that fits the row once its stamp is another one. -/
lemma Fits.restamp (h : a.Fits now basis config) (hb : a.BackedBy basis') :
    a.Fits now basis' config := ⟨hb, h.past, h.budget⟩

lemma Fits.over (h : a.Fits now basis config) :
    Fits now basis config { a with stage := .over } := ⟨trivial, trivial, h.budget⟩

/-- The timer is armed within the slack of the stamp, so the row backs it. -/
lemma Fits.arm (h : a.Fits now basis config) (hp : a.Prompt now) :
    (a.arm now).Fits now basis config := by
  obtain ⟨j, stage⟩ := a
  cases stage with
  | running stamp =>
      have hstamp : stamp ≤ basis := h.backed
      have hnow : now ≤ stamp + deploymentBudgetSlack := hp
      rw [RunnerAttempt.arm]
      dsimp only
      split_ifs
      · have hbacked : now ≤ basis + deploymentBudgetSlack := by linarith
        exact ⟨hbacked, ⟨le_refl now, le_refl now⟩, h.budget⟩
      · exact h
  | _ => exact h

lemma Fits.rearm (h : a.Fits now basis config) : (a.rearm now).Fits now basis config := by
  obtain ⟨j, stage⟩ := a
  cases stage with
  | installing armedAt stampedAt started =>
      refine ⟨h.backed, ⟨?_, h.past.2⟩, h.budget⟩
      split_ifs
      · exact h.past.1
      · exact le_refl now
  | _ => exact h

lemma Fits.stamped (h : a.Fits now basis config) : a.stamped.Fits now now config := by
  obtain ⟨j, stage⟩ := a
  have hslack : (0 : ℤ) ≤ deploymentBudgetSlack := by decide
  have hrest := h.restamp h.past.backedBy
  cases stage with
  | installing armedAt stampedAt started =>
      have harmed : armedAt ≤ now := h.past.1
      have hbacked : armedAt ≤ now + deploymentBudgetSlack := by linarith
      exact ⟨hbacked, ⟨harmed, harmed⟩, h.budget⟩
  | _ => exact hrest

/-- A row past its budget and the slack is past the timers that it backs. -/
lemma Fits.timedOut (h : a.Fits now basis config) (hp : a.Prompt now) {timeout : Time}
    (ht : deployTimeoutFor config = .ok timeout)
    (hold : basis + timeout + deploymentBudgetSlack < now) : a.TimedOut now := by
  have hbase := base_le_timeout ht
  have hpos : (0 : ℤ) ≤ baseDeployTimeout := by decide
  have hbudget := h.budget timeout ht
  obtain ⟨j, stage⟩ := a
  cases stage with
  | running stamp =>
      have hstamp : stamp ≤ basis := h.backed
      have hnow : now ≤ stamp + deploymentBudgetSlack := hp
      have hcontra : now < now := by linarith
      exact lt_irrefl now hcontra
  | installing armedAt stampedAt started =>
      have hstamp : stampedAt ≤ basis + deploymentBudgetSlack := h.backed
      refine ⟨timeout, hbudget, ?_⟩
      rcases hp with heq | hwait
      · rw [heq]
        linarith
      · have hnow := hwait timeout hbudget
        have hcontra : now < now := by linarith
        exact absurd hcontra (lt_irrefl now)
  | _ => trivial

end RunnerAttempt

/-- The writes that leave the start stamp alone. -/
def DeploymentWrite.leavesStamp : DeploymentWrite → Prop
  | .setRunning _ | .stampInstallStart => False
  | _ => True

lemma DeploymentWrite.config_set (t : Time) (u : DeploymentWrite) (d : Deployment) :
    (u.set t d).config = d.config := by
  cases u with
  | finish args now => by_cases h : args.success = true <;> simp [DeploymentWrite.set, h]
  | _ => rfl

lemma DeploymentWrite.ageBasis_set {u : DeploymentWrite} (hu : u.leavesStamp) (t : Time)
    (d : Deployment) : (u.set t d).ageBasis = d.ageBasis := by
  cases u with
  | setRunning now | stampInstallStart => exact hu.elim
  | finish args now =>
      by_cases h : args.success = true <;> simp [DeploymentWrite.set, h, Deployment.ageBasis]
  | _ => rfl

namespace DeployTimeline

variable {s : DeployTimeline} {k : ℕ} {f : RunnerAttempt → RunnerAttempt}

/-- The attempts after one of them has moved on. -/
lemma mem_onAttempt {a : RunnerAttempt} (h : a ∈ s.attempts.modify k f) :
    a ∈ s.attempts ∨ ∃ b ∈ s.attempts, s.attempts[k]? = some b ∧ a = f b := by
  obtain ⟨i, hi, rfl⟩ := List.getElem_of_mem h
  rw [List.length_modify] at hi
  rw [List.getElem_modify]
  split_ifs with hk
  · subst hk
    exact Or.inr ⟨_, List.getElem_mem hi, List.getElem?_eq_getElem hi, rfl⟩
  · exact Or.inl (List.getElem_mem hi)

lemma write_rest (u : DeploymentWrite) :
    (s.write u).now = s.now ∧ (s.write u).attempts = s.attempts ∧ (s.write u).sweep = s.sweep ∧
      (s.write u).row.config = s.row.config := by
  rw [write]
  split_ifs
  · exact ⟨rfl, rfl, rfl, u.config_set _ _⟩
  · exact ⟨rfl, rfl, rfl, rfl⟩

lemma ageBasis_write {u : DeploymentWrite} (hu : u.leavesStamp) :
    (s.write u).row.ageBasis = s.row.ageBasis := by
  rw [write]
  split_ifs
  · exact u.ageBasis_set hu _ _
  · rfl

end DeployTimeline

namespace Aging

open DeployTimeline

variable {s s' : DeployTimeline} {k : ℕ} {f : RunnerAttempt → RunnerAttempt}

/-- A change of the row that leaves its stamp and its config. -/
lemma write (h : Aging s) {u : DeploymentWrite} (hu : u.leavesStamp) : Aging (s.write u) := by
  obtain ⟨hnow, hattempts, hsweep, hconfig⟩ := s.write_rest u
  refine ⟨?_, ?_⟩
  · rw [hnow, hattempts, hconfig, ageBasis_write hu]
    exact h.fits
  · rw [hnow, hsweep, hconfig]
    exact h.swept

/-- One attempt moves on. -/
lemma onAttempt (h : Aging s)
    (hf : ∀ a ∈ s.attempts, s.attempts[k]? = some a → a.Fits s.now s.row.ageBasis s.row.config →
      (f a).Fits s.now s.row.ageBasis s.row.config) : Aging (s.onAttempt k f) := by
  refine ⟨fun a ha => ?_, h.swept⟩
  rcases mem_onAttempt ha with ha | ⟨b, hb, hk, rfl⟩
  · exact h.fits a ha
  · exact hf b hb hk (h.fits b hb)

/-- The row gets a start stamp that backs all attempts. -/
lemma restamp (h : Aging s) {row : Deployment} (hconfig : row.config = s.row.config)
    (hb : ∀ a ∈ s.attempts, a.BackedBy row.ageBasis) : Aging { s with row := row } := by
  refine ⟨fun a ha => ?_, fun sweep hs => ?_⟩
  · show a.Fits s.now row.ageBasis row.config
    rw [hconfig]
    exact (h.fits a ha).restamp (hb a ha)
  · obtain ⟨hle, hstuck⟩ := h.swept sweep hs
    exact ⟨hle, fun dep hdep => (hstuck dep hdep).trans hconfig.symm⟩

lemma ended (h : Aging s) (k : ℕ) :
    Aging (s.onAttempt k fun a => { a with stage := .over }) :=
  h.onAttempt fun _ _ _ ha => ha.over

/-- The flip of an attempt that has read the clock. -/
lemma setRunning (h : Aging s) {stamp : Time}
    (hk : TimelineStep.stageOf k s = some (.flipping stamp))
    (hb : ∀ a ∈ s.attempts, a.BackedBy stamp) :
    Aging ((s.write (.setRunning stamp)).onAttempt k fun a => { a with stage := .running stamp }) := by
  have hwritten : Aging (s.write (.setRunning stamp)) := h.restamp rfl hb
  refine hwritten.onAttempt fun a _ hget ha => ⟨le_refl stamp, ?_, ha.budget⟩
  have hstage : a.stage = .flipping stamp := by
    have hgetk : s.attempts[k]? = some a := hget
    rw [TimelineStep.stageOf, hgetk] at hk
    exact Option.some.inj hk
  have hpast := ha.past
  rw [RunnerAttempt.Past, hstage] at hpast
  exact hpast

/-- The stamp of the install phase backs everything. -/
lemma stampInstallStart (h : Aging s) (hrow : DeploymentWrite.stampInstallStart.guard s.row = true) :
    Aging ((s.write .stampInstallStart).onAttempt k RunnerAttempt.stamped) := by
  have hwrite : s.write .stampInstallStart =
      { s with row := DeploymentWrite.stampInstallStart.set s.now s.row } := if_pos hrow
  have hstamped : Aging { s with row := DeploymentWrite.stampInstallStart.set s.now s.row } :=
    h.restamp rfl fun a ha => (h.fits a ha).past.backedBy
  rw [hwrite]
  exact hstamped.onAttempt fun a _ _ ha => ha.stamped

/-- Every step of runners that are not behind keeps the age of the row in order. -/
lemma exec (h : Aging s) {l : TimelineStep} (hl : l.can s = true) (hok : InStep l s) :
    Aging (l.exec s) := by
  obtain ⟨hprompt, hstamp⟩ := hok
  cases l with
  | elapse ticks =>
      have hle : s.now ≤ s.now + ticks := le_add_of_nonneg_right (Int.natCast_nonneg ticks)
      refine ⟨fun a ha => (h.fits a ha).mono hle, fun sweep hs => ?_⟩
      exact ⟨le_trans (h.swept sweep hs).1 hle, (h.swept sweep hs).2⟩
  | launch updated =>
      rw [TimelineStep.exec]
      split
      · next j hj =>
          refine ⟨fun a ha => ?_, h.swept⟩
          rcases List.mem_append.mp ha with ha | ha
          · exact h.fits a ha
          · obtain rfl := List.mem_singleton.mp ha
            refine ⟨trivial, trivial, fun timeout ht => ?_⟩
            show (deployTimeoutFor j).toOption = some timeout
            rw [timeout_documentOf hj ht]
            rfl
      · exact h
  | readClock k => exact h.onAttempt fun a _ _ ha => ⟨trivial, le_refl s.now, ha.budget⟩
  | setRunning k =>
      rw [TimelineStep.exec]
      split
      · next stamp hk => exact h.setRunning hk (hstamp stamp (by simp [TimelineStep.startStamp?, hk]))
      · exact h
  | arm k => exact h.onAttempt fun a ha _ hfits => hfits.arm (hprompt a ha)
  | installPhaseStarted k =>
      have hrearmed := h.onAttempt (k := k) (f := RunnerAttempt.rearm s.now) fun _ _ _ ha => ha.rearm
      exact ⟨hrearmed.fits, hrearmed.swept⟩
  | stampInstallStart k =>
      have hlanded : Aging (s.endStamp k) := ⟨h.fits, h.swept⟩
      rw [TimelineStep.exec]
      split_ifs with hrow
      · exact hlanded.stampInstallStart hrow
      · exact hlanded
  | loseStamp k => exact ⟨h.fits, h.swept⟩
  | finish k args => exact Aging.ended (h.write (u := .finish args s.now) trivial) k
  | vanish k => exact h.ended k
  | claim c now =>
      rw [TimelineStep.exec]
      split_ifs with hguard
      · exact h.restamp rfl (hstamp now (by simp [TimelineStep.startStamp?, hguard]))
      · exact h
  | flushLog log | stop now | claimTeardown prior | releaseFailed => exact h.write trivial
  | tick =>
      refine ⟨h.fits, fun sweep hs => ?_⟩
      obtain rfl := Option.some.inj hs
      exact ⟨le_refl s.now, fun dep hdep => absurd hdep (by simp)⟩
  | select =>
      refine ⟨h.fits, fun sweep hs => ?_⟩
      obtain ⟨before, hbefore, rfl⟩ := Option.map_eq_some_iff.mp hs
      refine ⟨(h.swept before hbefore).1, fun dep hdep => ?_⟩
      have hread : (some s.row).filter (isStaleDeployment before.now) = some dep := hdep
      obtain ⟨heq, -⟩ := Option.filter_eq_some_iff.mp hread
      rw [← Option.some.inj heq]
      rfl
  | reap =>
      have hwritten : Aging ((TimelineStep.reapOf s).elim s s.write) := by
        cases hu : TimelineStep.reapOf s with
        | none => exact h
        | some u =>
            obtain ⟨sweep, dep, -, -, hreap⟩ := reapOf_eq_some hu
            obtain ⟨cutoff, msg, -, rfl⟩ := reapWrite_eq_some hreap
            exact h.write trivial
      exact ⟨hwritten.fits, fun sweep hs => absurd hs (by simp [TimelineStep.exec])⟩

end Aging

/-! ### Runs -/

/-- A row that the sweep fails is past the timers that it backs. -/
lemma Aging.outlasted {s : DeployTimeline} (h : Aging s) {l : TimelineStep} (hok : InStep l s) :
    Outlasted l s := by
  intro hfails a ha
  cases l with
  | reap =>
      obtain ⟨u, hu, hguard⟩ := (Option.any_eq_true _ _).mp hfails
      obtain ⟨sweep, dep, hsweep, hdep, hreap⟩ := reapOf_eq_some hu
      obtain ⟨cutoff, msg, hcutoff, rfl⟩ := reapWrite_eq_some hreap
      obtain ⟨hnow, hstuck⟩ := h.swept sweep hsweep
      rw [hstuck dep hdep] at hcutoff
      obtain ⟨timeout, htimeout, rfl⟩ := cutoff_eq hcutoff
      rw [DeploymentWrite.guard, Bool.and_eq_true, decide_eq_true_eq] at hguard
      have hold : s.row.ageBasis + timeout + deploymentBudgetSlack < s.now := by
        have hbasis := hguard.2
        linarith
      exact (h.fits a ha).timedOut (hok.1 a ha) htimeout hold
  | _ => exact absurd hfails Bool.false_ne_true

lemma aging_fresh (now : Time) (row : Deployment) : Aging (.fresh now row) :=
  ⟨fun _ ha => absurd ha List.not_mem_nil, fun _ hs => absurd hs (by simp [DeployTimeline.fresh])⟩

/-- **The watchdog waits for the runner.**  On every timeline of a deployment whose runners
are not behind, the sweep fails the row only after the timers have ended its attempts; its
query returns every row that is due, and a row that it returns early is not failed. -/
theorem watchdog_outlasts_runner (now : Time) (row : Deployment) (ls : List TimelineStep)
    (steady : deployTimeline.Along InStep (.fresh now row) ls) :
    deployTimeline.Along Outlasted (.fresh now row) ls ∧
      (∀ t dep, DueForReap t dep → isStaleDeployment t dep = true) ∧
      ∀ t dep, isStaleDeployment t dep = true →
        ((∃ u, reapWrite t dep = .ok (some u) ∧ u.guard dep = true) ↔ DueForReap t dep) := by
  refine ⟨?_, fun t dep => isStaleDeployment_of_due, fun t dep hstale => reapWrite_guard_iff ?_⟩
  · exact Machine.along_of_inv (fun l s hl h hok => h.exec hl hok) (fun l s _ h hok => h.outlasted hok)
      (aging_fresh now row) ls steady
  · rw [isStaleDeployment, Bool.and_eq_true, Bool.or_eq_true, beq_iff_eq, beq_iff_eq] at hstale
    exact hstale.1

namespace Reanchored

/-- A deployment of a reverse proxy stack and of one language. -/
def config (languages : List String) : Json :=
  .obj [("endpoints", .arr [.obj [("provider", .str "azure"),
    ("languages", .arr (languages.map .str))]])]

def row (languages : List String) : Deployment :=
  newDeployment ⟨"d", config languages, none, "p", none⟩ 0 0

/-- The installer is spawned, and reaches its install phase after twenty minutes. -/
def installing : List TimelineStep :=
  [.launch false, .readClock 0, .setRunning 0, .arm 0, .elapse (20 * 600000000),
    .installPhaseStarted 0]

/-- Time passes, and a tick of the watchdog looks at the row. -/
def swept (minutes : ℕ) : List TimelineStep := [.elapse (minutes * 600000000), .tick, .select, .reap]

end Reanchored

open Reanchored in
theorem watchdog_outlasts_runner_stamped :
    deployTimeline.Along Outlasted (.fresh 0 (row []))
      (installing ++ .stampInstallStart 0 :: swept 16 ++ swept 20) :=
  (watchdog_outlasts_runner 0 (row []) _ (by decide +kernel)).1

open Reanchored in
/-- The stamp of the install phase is lost, and the sweep fails the row while its installer
has fourteen minutes left; and the query returns a row seven minutes before it is due. -/
theorem install_stamp_lost :
    ¬ deployTimeline.Along Outlasted (.fresh 0 (row []))
        (installing ++ .loseStamp 0 :: swept 16) ∧
      isStaleDeployment (minutes 36) (row ["go"]) = true ∧
      deploymentReapCutoffFor (row ["go"]).config = .ok (minutes 43) := by
  decide +kernel

end Networker
