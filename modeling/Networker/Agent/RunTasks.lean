/-
One task for each run, at most.

* `Worker.outline`: the runs and the stages of the tasks;
* `Effect`, `exec_effect`: everything a step can do to them;
* `Slotted`: the free slots and the held ones; it needs no condition;
* `Disciplined`: what the running map, the recently finished runs and the tasks have to
  do with each other; `Disciplined.effect` is its step lemma;
* `executes_once`: the four properties of a worker along every run.
-/
import Networker.Agent.AgentWorker

namespace Networker

open Data Concurrency

/-- The run and the stage of a task. -/
def RunTask.outline (t : RunTask) : Guid × TaskStage := (t.run, t.stage)

/-- A task at this stage holds a slot. -/
def TaskStage.holds : TaskStage → Bool
  | executing | recorded => true
  | _ => false

/-- A task at this stage has not recorded its run. -/
def TaskStage.unfinished : TaskStage → Bool
  | queued | waiting | executing => true
  | _ => false

/-- The stages a task moves on to. -/
def TaskStage.next : TaskStage → TaskStage → Bool
  | queued, waiting | queued, ended | waiting, executing | waiting, ended | executing, recorded
  | recorded, released | released, ended => true
  | _, _ => false

namespace TaskStage

variable {st st' : TaskStage}

lemma ne_ended_of_next (h : st.next st' = true) : st ≠ .ended := by
  rintro rfl
  cases st' <;> exact absurd h (by decide)

lemma ne_ended_of_unfinished (h : st.unfinished = true) : st ≠ .ended := by
  rintro rfl
  exact absurd h (by decide)

/-- An unfinished task has been unfinished before. -/
lemma unfinished_of_next (h : st.next st' = true) (h' : st'.unfinished = true) :
    st.unfinished = true := by
  revert h h'
  cases st <;> cases st' <;> decide

/-- A run is recorded behind its executor. -/
lemma unfinished_of_next_recorded (h : st.next .recorded = true) : st.unfinished = true := by
  revert h
  cases st <;> decide

lemma eq_released_of_next (h : TaskStage.recorded.next st' = true) : st' = .released := by
  revert h
  cases st' <;> decide

end TaskStage

namespace Worker

variable {w : Worker} {k : TaskId} {f : RunTask → RunTask} {run : Guid} {stage : TaskStage}
  {t : RunTask}

/-- The runs and the stages of the tasks. -/
def outline (w : Worker) : List (Guid × TaskStage) := w.tasks.map RunTask.outline

lemma outline_getElem? (hget : w.tasks[k]? = some t) : w.outline[k]? = some t.outline := by
  rw [outline, List.getElem?_map, hget, Option.map_some]

lemma exists_of_outline {p : Guid × TaskStage} (h : w.outline[k]? = some p) :
    ∃ t, w.tasks[k]? = some t ∧ t.outline = p := by
  rw [outline, List.getElem?_map] at h
  exact Option.map_eq_some_iff.mp h

lemma outline_onTask (hf : ∀ t, (f t).outline = t.outline) :
    (w.onTask k f).outline = w.outline := by
  refine List.ext_getElem? fun i => ?_
  simp only [outline, onTask, List.getElem?_map, List.getElem?_modify]
  cases w.tasks[i]? with
  | none => rfl
  | some t =>
      simp only [Option.map_eq_map, Option.map_some]
      split_ifs
      · rw [hf]
      · rfl

@[simp] lemma outline_cancel (t : RunTask) : t.cancel.outline = t.outline := rfl

@[simp] lemma outline_dispose (t : RunTask) : t.dispose.outline = t.outline := rfl

lemma outline_tryRemove (hf : ∀ t, (f t).outline = t.outline) :
    (w.tryRemove run f).outline = w.outline := by
  rw [tryRemove]
  split
  · rfl
  · exact outline_onTask hf

/-- A task that moves on. -/
lemma outline_enter (hget : w.tasks[k]? = some t) :
    (w.enter k stage).outline = w.outline.set k (t.run, stage) := by
  refine List.ext_getElem? fun i => ?_
  simp only [outline, enter, onTask, List.getElem?_map, List.getElem?_modify, List.getElem?_set,
    List.length_map]
  by_cases hki : k = i
  · subst hki
    obtain ⟨hlt, rfl⟩ := List.getElem?_eq_some_iff.mp hget
    simp [hlt, RunTask.outline]
  · simp [hki]

/-- A removal takes at most the handle of its run. -/
lemma running_tryRemove {r : Guid} {h : TaskId} :
    (w.tryRemove run f).running r = some h ↔ w.running r = some h ∧ r ≠ run := by
  rw [tryRemove]
  split
  · rename_i hnone
    constructor
    · intro hr
      refine ⟨hr, ?_⟩
      rintro rfl
      exact absurd (hnone.symm.trans hr) (by simp)
    · exact And.left
  · simp only [onTask]
    split_ifs with hr
    · simp [hr]
    · simp [hr]

end Worker

/-! ### What a step can do -/

/-- What a step does to the tasks, the running map, the recently finished runs, the slots
and the receive loop. -/
inductive Effect (l : WorkerStep) (w w' : Worker) : Prop
  /-- No task moves; handles may be removed, and a run may pass the check. -/
  | keep (outline : w'.outline = w.outline)
      (running : ∀ r h, w'.running r = some h → w.running r = some h)
      (kept : ∀ k, l = .advance k → w'.running = w.running)
      (recent : w'.recentlyFinished = w.recentlyFinished)
      (completions : w'.completions = w.completions) (slots : w'.runSlots = w.runSlots)
      (loop : ∀ r, w'.loop = .assigning r → w.loop = .assigning r ∨ r ∉ w.recentlyFinished)
  /-- A run without a handle gets a task. -/
  | start (run : Guid) (step : l = .tryAdd) (assigning : w.loop = .assigning run)
      (free : w.running run = none)
      (outline : w'.outline = w.outline ++ [(run, .queued)])
      (running : ∀ r, w'.running r = if r = run then some w.outline.length else w.running r)
      (recent : w'.recentlyFinished = w.recentlyFinished)
      (completions : w'.completions = w.completions) (slots : w'.runSlots = w.runSlots)
      (loop : ∀ r, w'.loop ≠ .assigning r)
  /-- A task moves on. -/
  | move (k : TaskId) (run : Guid) (stage stage' : TaskStage) (step : l = .advance k)
      (get : w.outline[k]? = some (run, stage)) (next : stage.next stage' = true)
      (outline : w'.outline = w.outline.set k (run, stage'))
      (running : ∀ r h, w'.running r = some h ↔
        w.running r = some h ∧ ¬ (stage = .released ∧ r = run))
      (recent : w'.recentlyFinished =
        if stage' = .recorded then w.recentlyFinished.add run else w.recentlyFinished)
      (completions : w'.completions =
        if stage' = .recorded then run :: w.completions else w.completions)
      (slots : w'.runSlots + stage'.holds.toNat = w.runSlots + stage.holds.toNat)
      (loop : w'.loop = w.loop)

namespace AgentWorker

variable {l : WorkerStep} {w : Worker}

lemma effect_refl (w : Worker) : Effect l w w :=
  .keep rfl (fun _ _ h => h) (fun _ _ => rfl) rfl rfl rfl fun _ h => Or.inl h

/-- What a removal of a handle leaves alone. -/
lemma tryRemove_frame (run : Guid) (f : RunTask → RunTask) (w : Worker) :
    (w.tryRemove run f).recentlyFinished = w.recentlyFinished ∧
      (w.tryRemove run f).completions = w.completions ∧
      (w.tryRemove run f).runSlots = w.runSlots ∧ (w.tryRemove run f).loop = w.loop := by
  rw [Worker.tryRemove]
  split <;> exact ⟨rfl, rfl, rfl, rfl⟩

lemma effect_handleAssignRun (run : Guid) (w : Worker) : Effect l w (handleAssignRun run w) := by
  rw [handleAssignRun]
  split_ifs with hrun
  · exact effect_refl w
  · refine .keep rfl (fun _ _ h => h) (fun _ _ => rfl) rfl rfl rfl fun r hr => Or.inr ?_
    obtain rfl : run = r := Loop.assigning.inj hr
    exact hrun

lemma effect_tryAdd {run : Guid} (hloop : w.loop = .assigning run) :
    Effect .tryAdd w (tryAdd run w) := by
  rw [tryAdd]
  split
  · exact .keep rfl (fun _ _ h => h) (fun _ _ => rfl) rfl rfl rfl fun r hr => absurd hr (by simp)
  · rename_i hfree
    refine .start run rfl hloop hfree ?_ (fun r => ?_) rfl rfl rfl (fun r hr => absurd hr (by simp))
    · simp [Worker.outline, RunTask.outline]
    · rw [Worker.outline, List.length_map]

lemma effect_handleCancelRun (run : Guid) (w : Worker) :
    Effect (.cancelRun run) w (handleCancelRun run w) := by
  obtain ⟨hrecent, hcompletions, hslots, hloop⟩ :=
    tryRemove_frame run (fun t => t.cancel.dispose) w
  exact .keep (Worker.outline_tryRemove fun _ => rfl)
    (fun r h hr => (Worker.running_tryRemove.mp hr).1) (fun _ hl => absurd hl (by simp)) hrecent
    hcompletions hslots fun r hr => Or.inl (hloop ▸ hr)

lemma effect_disconnect (w : Worker) : Effect l w (disconnect w) := by
  refine .keep ?_ (fun _ _ h => h) (fun _ _ => rfl) rfl rfl rfl fun r hr => Or.inl hr
  rw [Worker.outline, disconnect, List.map_map]
  rfl

lemma effect_cancelNext (left : List (Guid × TaskId)) (w : Worker) :
    Effect .cancelNext w (cancelNext left w) := by
  cases left with
  | nil =>
      exact .keep rfl (fun _ _ h => h) (fun _ _ => rfl) rfl rfl rfl
        fun r hr => absurd hr (by simp [cancelNext])
  | cons x left =>
      obtain ⟨run, k⟩ := x
      obtain ⟨hrecent, hcompletions, hslots, -⟩ :=
        tryRemove_frame run RunTask.dispose (w.onTask k RunTask.cancel)
      refine .keep ?_ (fun r h hr => ?_) (fun _ hl => absurd hl (by simp)) hrecent hcompletions hslots
        fun r hr => absurd hr (by simp [cancelNext])
      · calc (cancelNext ((run, k) :: left) w).outline
            = ((w.onTask k RunTask.cancel).tryRemove run RunTask.dispose).outline := rfl
          _ = (w.onTask k RunTask.cancel).outline := Worker.outline_tryRemove fun _ => rfl
          _ = w.outline := Worker.outline_onTask fun _ => rfl
      · exact (Worker.running_tryRemove.mp
          (show ((w.onTask k RunTask.cancel).tryRemove run RunTask.dispose).running r = some h
            from hr)).1

/-- A task that moves on without its handle. -/
lemma effect_enter {k : TaskId} {t : RunTask} (stage : TaskStage) {w' : Worker}
    (hget : w.tasks[k]? = some t) (hnext : t.stage.next stage = true)
    (hne : t.stage ≠ .released) (houtline : w'.outline = (w.enter k stage).outline)
    (hrunning : w'.running = w.running) (hloop : w'.loop = w.loop)
    (hrecent : w'.recentlyFinished =
      if stage = .recorded then w.recentlyFinished.add t.run else w.recentlyFinished)
    (hcompletions : w'.completions =
      if stage = .recorded then t.run :: w.completions else w.completions)
    (hslots : w'.runSlots + stage.holds.toNat = w.runSlots + t.stage.holds.toNat) :
    Effect (.advance k) w w' := by
  refine .move k t.run t.stage stage rfl (Worker.outline_getElem? hget) hnext
    (houtline.trans (Worker.outline_enter hget)) (fun r h => ?_) hrecent hcompletions hslots hloop
  rw [hrunning]
  simp [hne]

lemma effect_statement {k : TaskId} {t : RunTask} (hget : w.tasks[k]? = some t) :
    Effect (.advance k) w (statement k t w) := by
  rw [statement]
  cases hst : t.stage with
  | queued =>
      dsimp only
      split_ifs
      · exact effect_enter _ hget (by rw [hst]; rfl) (by simp [hst]) rfl rfl rfl rfl rfl
          (by rw [hst]; rfl)
      · exact effect_enter _ hget (by rw [hst]; rfl) (by simp [hst]) rfl rfl rfl rfl rfl
          (by rw [hst]; rfl)
  | waiting =>
      dsimp only
      split_ifs with hcancel hslot
      · exact effect_enter _ hget (by rw [hst]; rfl) (by simp [hst]) rfl rfl rfl rfl rfl
          (by rw [hst]; rfl)
      · refine effect_enter .executing hget (by rw [hst]; rfl) (by simp [hst]) rfl rfl
          rfl rfl rfl ?_
        simp only [hst, TaskStage.holds, Bool.toNat_true, Bool.toNat_false]
        omega
      · exact effect_refl w
  | executing =>
      exact effect_enter .recorded hget (by rw [hst]; rfl) (by simp [hst]) rfl rfl rfl
        rfl rfl (by rw [hst]; rfl)
  | recorded =>
      refine effect_enter .released hget (by rw [hst]; rfl) (by simp [hst]) rfl rfl rfl
        rfl rfl ?_
      simp only [hst, TaskStage.holds, Bool.toNat_true, Bool.toNat_false]
  | released =>
      dsimp only
      obtain ⟨hrecent, hcompletions, hslots, hloop⟩ :=
        tryRemove_frame t.run RunTask.dispose (w.enter k .ended)
      refine .move k t.run .released .ended rfl (hst ▸ Worker.outline_getElem? hget) rfl ?_
        (fun r h => ?_) hrecent hcompletions ?_ hloop
      · exact (Worker.outline_tryRemove Worker.outline_dispose).trans (Worker.outline_enter hget)
      · rw [Worker.running_tryRemove]
        simp [Worker.enter, Worker.onTask]
      · rw [hslots]
        rfl
  | ended => exact effect_refl w

end AgentWorker

/-- Every step has one of the effects. -/
lemma WorkerStep.exec_effect (l : WorkerStep) (w : Worker) : Effect l w (l.exec w) := by
  cases l with
  | assignRun run => exact AgentWorker.effect_handleAssignRun run w
  | tryAdd =>
      rw [exec]
      split
      · rename_i run hloop
        exact AgentWorker.effect_tryAdd hloop
      · exact AgentWorker.effect_refl w
  | cancelRun run => exact AgentWorker.effect_handleCancelRun run w
  | disconnect => exact AgentWorker.effect_disconnect w
  | cancelAllRuns =>
      exact .keep rfl (fun _ _ h => h) (fun _ _ => rfl) rfl rfl rfl fun r hr =>
        absurd hr (by simp [exec, AgentWorker.cancelAllRuns])
  | cancelNext =>
      rw [exec]
      split
      · exact AgentWorker.effect_cancelNext _ w
      · exact AgentWorker.effect_refl w
  | advance k =>
      rw [exec, AgentWorker.advance]
      cases hget : w.tasks[k]? with
      | none => exact AgentWorker.effect_refl w
      | some t => exact AgentWorker.effect_statement hget

/-! ### The slots -/

/-- The free slots and the held ones. -/
def Slotted (w : Worker) : Prop :=
  w.runSlots + w.outline.countP (fun p => p.2.holds) = maxConcurrentRuns

lemma Slotted.effect {l : WorkerStep} {w w' : Worker} (h : Slotted w) (he : Effect l w w') :
    Slotted w' := by
  rw [Slotted] at h ⊢
  cases he with
  | keep outline _ _ _ _ slots _ => rw [slots, outline, h]
  | start run _ _ _ outline _ _ _ slots _ =>
      rw [slots, outline, List.countP_append, List.countP_singleton]
      simpa [TaskStage.holds] using h
  | move k run stage stage' _ get _ outline _ _ _ slots _ =>
      obtain ⟨hlt, hk⟩ := List.getElem?_eq_some_iff.mp get
      have hone : w.outline.countP (fun p => p.2.holds) ≥ stage.holds.toNat := by
        cases hst : stage.holds with
        | false => simp
        | true =>
            rw [Bool.toNat_true, ge_iff_le, List.one_le_countP_iff]
            exact ⟨(run, stage), List.mem_of_getElem? get, hst⟩
      rw [outline, List.countP_set hlt, hk]
      dsimp only
      cases hst : stage.holds <;> cases hst' : stage'.holds <;>
        simp only [hst, hst', Bool.toNat_true, Bool.toNat_false] at slots hone <;> simp <;> omega

/-- Every slot is free or held by a task. -/
lemma slotted_run (ls : List WorkerStep) : Slotted (agentWorker.run .started ls) :=
  Machine.run_inv_all (I := Slotted) (fun l w _ hw => hw.effect (l.exec_effect w)) (by rfl) ls

/-! ### Runs without overlap -/

/-- The condition on a step: no run gets a task while an earlier task of it is still alive
without a handle, and no task of a run ends its cleanup between the check and the add of an
assignment of the run. -/
def WorkerStep.Orderly : WorkerStep → Worker → Prop
  | tryAdd, w => ∀ t ∈ w.tasks, w.loop = .assigning t.run → w.running t.run = none →
      t.stage = .ended
  | advance k, w => ∀ t ∈ w.tasks[k]?, t.stage = .released → w.loop ≠ .assigning t.run
  | _, _ => True

instance WorkerStep.decidableOrderly : ∀ l w, Decidable (WorkerStep.Orderly l w)
  | .tryAdd, w => inferInstanceAs (Decidable (∀ t ∈ w.tasks, _))
  | .advance k, w => inferInstanceAs (Decidable (∀ t ∈ w.tasks[k]?, _))
  | .assignRun _, _ | .cancelRun _, _ | .disconnect, _ | .cancelAllRuns, _ | .cancelNext, _ =>
      isTrue trivial

/-- The running map, the recently finished runs and the tasks. -/
structure Disciplined (w : Worker) : Prop where
  /-- Two tasks of one run are not alive together. -/
  unique : ∀ (i j : TaskId) (run : Guid) (st st' : TaskStage), w.outline[i]? = some (run, st) →
    w.outline[j]? = some (run, st') → st ≠ .ended → st' ≠ .ended → i = j
  /-- The handle of a run is the one of its task that is alive. -/
  own : ∀ (run : Guid) (k i : TaskId) (st : TaskStage), w.running run = some k →
    w.outline[i]? = some (run, st) → st ≠ .ended → i = k
  /-- A task that has not recorded its run is of a run that may be started. -/
  unfinished : ∀ (i : TaskId) (run : Guid) (st : TaskStage), w.outline[i]? = some (run, st) →
    st.unfinished = true → run ∉ w.recentlyFinished
  /-- A run that has been recorded behind its check has a task in its cleanup. -/
  window : ∀ run, w.loop = .assigning run → run ∈ w.recentlyFinished →
    ∃ (i : TaskId) (st : TaskStage), w.outline[i]? = some (run, st) ∧
      (st = .recorded ∨ st = .released)
  remembers : w.recentlyFinished.Remembers w.completions

namespace Disciplined

variable {w w' : Worker}

lemma started : Disciplined .started := by
  refine ⟨?_, ?_, ?_, ?_, RecentSet.remembers_empty⟩ <;>
    simp [Worker.started, Worker.outline]

/-- A run that is about to be added has not been recorded. -/
lemma not_recent (h : Disciplined w) {run : Guid} (hloop : w.loop = .assigning run)
    (hdead : ∀ (i : TaskId) (st : TaskStage), w.outline[i]? = some (run, st) → st = .ended) :
    run ∉ w.recentlyFinished := by
  intro hmem
  obtain ⟨i, st, hget, hst⟩ := h.window run hloop hmem
  rw [hdead i st hget] at hst
  simp at hst

lemma keep (h : Disciplined w) (outline : w'.outline = w.outline)
    (running : ∀ r h, w'.running r = some h → w.running r = some h)
    (recent : w'.recentlyFinished = w.recentlyFinished)
    (completions : w'.completions = w.completions)
    (loop : ∀ r, w'.loop = .assigning r → w.loop = .assigning r ∨ r ∉ w.recentlyFinished) :
    Disciplined w' where
  unique := outline ▸ h.unique
  own run k i st hrun := outline ▸ h.own run k i st (running run k hrun)
  unfinished := by
    rw [outline, recent]
    exact h.unfinished
  window run hloop hmem := by
    rw [recent] at hmem
    rw [outline]
    exact h.window run ((loop run hloop).resolve_right fun hn => hn hmem) hmem
  remembers := by
    rw [recent, completions]
    exact h.remembers

lemma start (h : Disciplined w) {run : Guid} (assigning : w.loop = .assigning run)
    (hdead : ∀ (i : TaskId) (st : TaskStage), w.outline[i]? = some (run, st) → st = .ended)
    (outline : w'.outline = w.outline ++ [(run, .queued)])
    (running : ∀ r, w'.running r = if r = run then some w.outline.length else w.running r)
    (recent : w'.recentlyFinished = w.recentlyFinished)
    (completions : w'.completions = w.completions) (loop : ∀ r, w'.loop ≠ .assigning r) :
    Disciplined w' := by
  -- the entries of the new outline: the old ones and the new task
  have hget : ∀ i p, w'.outline[i]? = some p → w.outline[i]? = some p ∨
      i = w.outline.length ∧ p = (run, .queued) := by
    intro i p hi
    rw [outline, List.getElem?_append] at hi
    split_ifs at hi with hlt
    · exact Or.inl hi
    · rw [List.getElem?_singleton] at hi
      split_ifs at hi with hzero
      exact Or.inr ⟨by omega, (Option.some.inj hi).symm⟩
  refine ⟨fun i j r st st' hi hj hst hst' => ?_, fun r k i st hrun hi hst => ?_,
    fun i r st hi hst => ?_, fun r hr => absurd hr (loop r), ?_⟩
  · rcases hget i _ hi with hi | ⟨rfl, hp⟩ <;> rcases hget j _ hj with hj | ⟨rfl, hq⟩
    · exact h.unique i j r st st' hi hj hst hst'
    · obtain ⟨rfl, -⟩ := Prod.mk.inj hq
      exact absurd (hdead i st hi) hst
    · obtain ⟨rfl, -⟩ := Prod.mk.inj hp
      exact absurd (hdead j st' hj) hst'
    · rfl
  · rw [running] at hrun
    rcases hget i _ hi with hi | ⟨rfl, hp⟩
    · split_ifs at hrun with hr
      · exact absurd (hdead i st (hr ▸ hi)) hst
      · exact h.own r k i st hrun hi hst
    · rw [if_pos (Prod.mk.inj hp).1] at hrun
      exact Option.some.inj hrun
  · rw [recent]
    rcases hget i _ hi with hi | ⟨-, hp⟩
    · exact h.unfinished i r st hi hst
    · obtain ⟨rfl, -⟩ := Prod.mk.inj hp
      exact h.not_recent assigning hdead
  · rw [recent, completions]
    exact h.remembers

lemma move (h : Disciplined w) {k : TaskId} {run : Guid} {stage stage' : TaskStage}
    (get : w.outline[k]? = some (run, stage)) (next : stage.next stage' = true)
    (hclean : stage = .released → w.loop ≠ .assigning run)
    (outline : w'.outline = w.outline.set k (run, stage'))
    (running : ∀ r h, w'.running r = some h ↔
      w.running r = some h ∧ ¬ (stage = .released ∧ r = run))
    (recent : w'.recentlyFinished =
      if stage' = .recorded then w.recentlyFinished.add run else w.recentlyFinished)
    (completions : w'.completions =
      if stage' = .recorded then run :: w.completions else w.completions)
    (loop : w'.loop = w.loop) : Disciplined w' := by
  have halive := TaskStage.ne_ended_of_next next
  -- the entries of the new outline: the task at its new stage and the others
  have hget : ∀ i p, w'.outline[i]? = some p → i = k ∧ p = (run, stage') ∨
      i ≠ k ∧ w.outline[i]? = some p := by
    intro i p hi
    by_cases hik : i = k
    · subst hik
      rw [outline, List.getElem?_set_self (List.getElem?_eq_some_iff.mp get).1] at hi
      exact Or.inl ⟨rfl, (Option.some.inj hi).symm⟩
    · rw [outline, List.getElem?_set_ne (Ne.symm hik)] at hi
      exact Or.inr ⟨hik, hi⟩
  have hself : w'.outline[k]? = some (run, stage') := by
    rw [outline, List.getElem?_set_self (List.getElem?_eq_some_iff.mp get).1]
  -- no other task of the run is alive
  have halone : ∀ i st, i ≠ k → w.outline[i]? = some (run, st) → st = .ended := by
    intro i st hik hi
    by_contra hst
    exact hik (h.unique i k run st stage hi get hst halive)
  refine ⟨fun i j r st st' hi hj hst hst' => ?_, fun r m i st hrun hi hst => ?_,
    fun i r st hi hst hmem => ?_, fun r hr hmem => ?_, ?_⟩
  · rcases hget i _ hi with ⟨rfl, hp⟩ | ⟨hik, hi⟩ <;> rcases hget j _ hj with ⟨rfl, hq⟩ | ⟨hjk, hj⟩
    · rfl
    · obtain ⟨rfl, -⟩ := Prod.mk.inj hp
      exact absurd (halone j st' hjk hj) hst'
    · obtain ⟨rfl, -⟩ := Prod.mk.inj hq
      exact absurd (halone i st hik hi) hst
    · exact h.unique i j r st st' hi hj hst hst'
  · have hrun := ((running r m).mp hrun).1
    rcases hget i _ hi with ⟨rfl, hp⟩ | ⟨-, hi⟩
    · obtain ⟨rfl, -⟩ := Prod.mk.inj hp
      exact h.own r m i stage hrun get halive
    · exact h.own r m i st hrun hi hst
  · rcases hget i _ hi with ⟨rfl, hp⟩ | ⟨hik, hi⟩
    · obtain ⟨rfl, rfl⟩ := Prod.mk.inj hp
      have hne : st ≠ .recorded := by
        rintro rfl
        exact absurd hst (by decide)
      rw [recent, if_neg hne] at hmem
      exact h.unfinished i r stage get (TaskStage.unfinished_of_next next hst) hmem
    · rw [recent] at hmem
      split_ifs at hmem
      · rcases RecentSet.mem_of_mem_add hmem with rfl | hmem
        · exact TaskStage.ne_ended_of_unfinished hst (halone i st hik hi)
        · exact h.unfinished i r st hi hst hmem
      · exact h.unfinished i r st hi hst hmem
  · rw [loop] at hr
    have hold : r ∈ w.recentlyFinished → ∃ (i : TaskId) (st : TaskStage),
        w'.outline[i]? = some (r, st) ∧ (st = .recorded ∨ st = .released) := by
      intro hmem
      obtain ⟨i, st, hi, hst⟩ := h.window r hr hmem
      by_cases hik : i = k
      · subst hik
        obtain ⟨rfl, rfl⟩ := Prod.mk.inj (Option.some.inj (get.symm.trans hi))
        rcases hst with rfl | rfl
        · exact ⟨i, stage', hself, Or.inr (TaskStage.eq_released_of_next next)⟩
        · exact absurd hr (hclean rfl)
      · exact ⟨i, st, by rwa [outline, List.getElem?_set_ne (Ne.symm hik)], hst⟩
    rw [recent] at hmem
    split_ifs at hmem with hrec
    · rcases RecentSet.mem_of_mem_add hmem with rfl | hmem
      · exact ⟨k, stage', hself, Or.inl hrec⟩
      · exact hold hmem
    · exact hold hmem
  · rw [recent, completions]
    split_ifs with hrec
    · subst hrec
      exact h.remembers.add
        (h.unfinished k run stage get (TaskStage.unfinished_of_next_recorded next))
    · exact h.remembers

/-- A step that meets the condition. -/
lemma exec (h : Disciplined w) {l : WorkerStep} (hok : l.Orderly w) : Disciplined (l.exec w) := by
  cases l.exec_effect w with
  | keep outline running _ recent completions _ loop =>
      exact h.keep outline running recent completions loop
  | start run step assigning free outline running recent completions _ loop =>
      subst step
      refine h.start assigning (fun i st hi => ?_) outline running recent completions loop
      obtain ⟨t, ht, hp⟩ := Worker.exists_of_outline hi
      obtain ⟨rfl, rfl⟩ := Prod.mk.inj hp
      exact hok t (List.mem_of_getElem? ht) assigning free
  | move k run stage stage' step get next outline running recent completions _ loop =>
      subst step
      refine h.move get next (fun hst => ?_) outline running recent completions loop
      obtain ⟨t, ht, hp⟩ := Worker.exists_of_outline get
      obtain ⟨rfl, rfl⟩ := Prod.mk.inj hp
      exact hok t ht hst

end Disciplined

lemma disciplined_run (ls : List WorkerStep) (h : agentWorker.Along WorkerStep.Orderly .started ls) :
    Disciplined (agentWorker.run .started ls) :=
  Machine.run_inv (I := Disciplined) (fun _ _ _ hw hok => hw.exec hok) Disciplined.started ls h

/-! ### The worker along a run -/

/-- At most one task of each run is alive. -/
def Worker.OnePerRun (w : Worker) : Prop :=
  ∀ (i j : TaskId) (t u : RunTask), w.tasks[i]? = some t → w.tasks[j]? = some u →
    t.alive = true → u.alive = true → t.run = u.run → i = j

/-- The step starts no run among the last completions. -/
def WorkerStep.StartsNew (l : WorkerStep) (w : Worker) : Prop :=
  ∀ t ∈ (agentWorker.next l w).tasks.drop w.tasks.length,
    t.run ∉ w.completions.take recentlyFinishedCapacity

/-- The step of a task removes no handle but the one of the task. -/
def WorkerStep.CleansOwn (l : WorkerStep) (w : Worker) : Prop :=
  ∀ k, l = .advance k → ∀ run h, w.running run = some h →
    (agentWorker.next l w).running run ≠ some h → h = k

lemma Disciplined.onePerRun {w : Worker} (h : Disciplined w) : w.OnePerRun := by
  intro i j t u ht hu htalive hualive hrun
  have hi := Worker.outline_getElem? ht
  have hj := Worker.outline_getElem? hu
  refine h.unique i j t.run t.stage u.stage hi ?_ (by simpa [RunTask.alive] using htalive)
    (by simpa [RunTask.alive] using hualive)
  rw [hrun]
  exact hj

/-- A step that starts a task does so behind the check and the add of its run. -/
lemma Disciplined.startsNew {w : Worker} {l : WorkerStep} (h : Disciplined w)
    (hok : agentWorker.moves l w = true → l.Orderly w) : l.StartsNew w := by
  intro t ht
  have hlen : w.outline.length = w.tasks.length := by rw [Worker.outline, List.length_map]
  have hnew : t.outline ∈ (agentWorker.next l w).outline.drop w.outline.length := by
    rw [hlen, Worker.outline, ← List.map_drop]
    exact List.mem_map_of_mem ht
  rw [Machine.next] at hnew
  split_ifs at hnew with hcan
  · cases l.exec_effect w with
    | keep outline _ _ _ _ _ _ =>
        have hsame : (agentWorker.exec l w).outline = w.outline := outline
        rw [hsame, List.drop_length] at hnew
        exact absurd hnew (by simp)
    | start run step assigning free outline _ _ _ _ _ =>
        have hone : (agentWorker.exec l w).outline = w.outline ++ [(run, .queued)] := outline
        rw [hone, List.drop_left, List.mem_singleton] at hnew
        obtain rfl : t.run = run := congrArg Prod.fst hnew
        rw [← h.remembers.mem_iff]
        refine h.not_recent assigning fun i st hi => ?_
        obtain ⟨u, hu, hp⟩ := Worker.exists_of_outline hi
        obtain ⟨hrun, rfl⟩ := Prod.mk.inj hp
        subst step
        exact hok hcan u (List.mem_of_getElem? hu) (hrun ▸ assigning) (hrun ▸ free)
    | move k run stage stage' _ get _ outline _ _ _ _ _ =>
        have hset : (agentWorker.exec l w).outline = w.outline.set k (run, stage') := outline
        have hall : (w.outline.set k (run, stage')).length ≤ w.outline.length := by
          rw [List.length_set]
        rw [hset, List.drop_of_length_le hall] at hnew
        exact absurd hnew (by simp)
  · rw [List.drop_length] at hnew
    exact absurd hnew (by simp)

/-- The cleanup of a task finds its own handle, or none. -/
lemma Disciplined.cleansOwn {w : Worker} (h : Disciplined w) (l : WorkerStep) : l.CleansOwn w := by
  intro k hl run m hrun hgone
  rw [Machine.next] at hgone
  split_ifs at hgone
  · cases l.exec_effect w with
    | keep _ _ kept _ _ _ _ =>
        have hsame : (agentWorker.exec l w).running = w.running := kept k hl
        exact absurd (hsame ▸ hrun) hgone
    | start r step _ _ _ _ _ _ _ _ => exact absurd (hl.symm.trans step) (by simp)
    | move k' r stage stage' step get next _ running _ _ _ _ =>
        obtain rfl : k' = k := WorkerStep.advance.inj (step.symm.trans hl)
        have hback : ¬ (w.running run = some m ∧ ¬ (stage = .released ∧ run = r)) := fun hn =>
          hgone ((running run m).mpr hn)
        have hown : stage = .released ∧ run = r := by
          by_contra hn
          exact hback ⟨hrun, hn⟩
        obtain ⟨-, rfl⟩ := hown
        exact (h.own run m k' stage hrun get (TaskStage.ne_ended_of_next next)).symm
  · exact absurd hrun hgone

/-- A worker executes a run at most once at a time.  In every run of the worker a slot is
free or held by a task, and all are free when no task is alive.  In a run in which no run is
assigned again while a cancelled task of it is alive, and no task ends its cleanup between
the check and the add of an assignment of its run, each run has at most one task, none of the
last completed runs is started, and no task removes the handle of another one. -/
theorem executes_once (ls : List WorkerStep) :
    ((agentWorker.run .started ls).runSlots +
        (agentWorker.run .started ls).tasks.countP RunTask.holds = maxConcurrentRuns ∧
      ((∀ t ∈ (agentWorker.run .started ls).tasks, t.alive = false) →
        (agentWorker.run .started ls).runSlots = maxConcurrentRuns)) ∧
    (agentWorker.Along WorkerStep.Orderly .started ls →
      (agentWorker.run .started ls).OnePerRun) ∧
    ∀ l, agentWorker.Along WorkerStep.Orderly .started (ls ++ [l]) →
      l.StartsNew (agentWorker.run .started ls) ∧ l.CleansOwn (agentWorker.run .started ls) := by
  have hholds : ∀ t : RunTask, t.holds = t.stage.holds := by
    intro t
    rw [RunTask.holds]
    cases t.stage <;> rfl
  have hslots : (agentWorker.run .started ls).runSlots +
      (agentWorker.run .started ls).tasks.countP RunTask.holds = maxConcurrentRuns := by
    have h := slotted_run ls
    rw [Slotted, Worker.outline, List.countP_map] at h
    rw [← h, funext hholds]
    rfl
  refine ⟨⟨hslots, fun hdead => ?_⟩, fun h => (disciplined_run ls h).onePerRun, fun l h => ?_⟩
  · have hnone : (agentWorker.run .started ls).tasks.countP RunTask.holds = 0 := by
      rw [List.countP_eq_zero]
      intro t ht
      have := hdead t ht
      rw [hholds]
      rw [RunTask.alive] at this
      cases hst : t.stage <;> simp_all [TaskStage.holds]
    omega
  · obtain ⟨hls, hl⟩ := Machine.along_concat.mp h
    have hd := disciplined_run ls hls
    exact ⟨hd.startsNew hl, hd.cleansOwn l⟩

namespace OneRun

/-- A run is assigned, started, executed and cleaned up. -/
def executes (run : Guid) (k : TaskId) : List WorkerStep :=
  [.assignRun run, .tryAdd] ++ List.replicate 5 (.advance k)

/-- Two runs, and the first one is assigned again. -/
def repeated : List WorkerStep := executes 7 0 ++ executes 8 1 ++ [.assignRun 7]

/-- A run is cancelled and assigned again while its task is still executing. -/
def reassigned : List WorkerStep :=
  [.assignRun 7, .tryAdd, .advance 0, .advance 0, .cancelRun 7, .assignRun 7, .tryAdd]

/-- The first task of the run goes through its cleanup. -/
def cleanedUp : List WorkerStep := reassigned ++ List.replicate 3 (.advance 0)

end OneRun

open OneRun in
theorem executes_once_repeated :
    (agentWorker.run .started repeated).OnePerRun ∧
      WorkerStep.tryAdd.StartsNew (agentWorker.run .started repeated) ∧
      (agentWorker.run .started repeated).runSlots = maxConcurrentRuns := by
  obtain ⟨hslots, hone, hstep⟩ := executes_once repeated
  exact ⟨hone (by decide +kernel), (hstep .tryAdd (by decide +kernel)).1,
    hslots.2 (by decide +kernel)⟩

open OneRun in
/-- Two tasks of one run are alive, and the cleanup of the first one removes the handle of
the second one. -/
theorem executed_twice :
    ¬ (agentWorker.run .started reassigned).OnePerRun ∧
      (agentWorker.run .started (reassigned ++ List.replicate 2 (.advance 0))).running 7 = some 1 ∧
      (agentWorker.run .started cleanedUp).running 7 = none ∧
      ((agentWorker.run .started cleanedUp).tasks.map RunTask.alive) = [false, true] := by
  refine ⟨fun hone => ?_, by decide +kernel, by decide +kernel, by decide +kernel⟩
  have htwo : (agentWorker.run .started reassigned).tasks.map (fun t => (t.run, t.alive)) =
      [(7, true), (7, true)] := by decide +kernel
  obtain ⟨t, ts, htasks, ht, hts⟩ := List.map_eq_cons_iff.mp htwo
  obtain ⟨u, us, rfl, hu, -⟩ := List.map_eq_cons_iff.mp hts
  obtain ⟨htrun, htalive⟩ := Prod.mk.inj ht
  obtain ⟨hurun, hualive⟩ := Prod.mk.inj hu
  have heq := hone 0 1 t u (by rw [htasks]; rfl) (by rw [htasks]; rfl) htalive hualive
    (htrun.trans hurun.symm)
  exact absurd heq (by decide)

end Networker
