/-
The events the bus carries about one run.

* `WellFormedFeed`: at most one event announces the end of the run, and no `JobUpdate`
  with a non-terminal status follows it;
* `UpdatesInTime`: a `JobUpdate` with a non-terminal status is published while its run is
  not over;
* `run_feed_wellFormed`: under that condition the feed of every run is well formed, in
  every interleaving of requests, frames and watchdog sweeps;
* `queued_after_cancelled`: a schedule in which a cancel lands between the send of an
  assignment and its stamp, which affects no row and is announced all the same.
-/
import Networker.ControlPlane.Completion
import Networker.ControlPlane.SingleExecution

namespace Networker

open Data Concurrency

/-- The event is a `JobUpdate` of the run with a non-terminal status. -/
def DashboardEvent.continues (run : Guid) : DashboardEvent → Bool
  | .jobUpdate job status _ _ _ => job == run && (RunStatus.ofTerminalText? status).isNone
  | _ => false

/-- The events about the run end at most once, and nothing goes on behind the end. -/
structure WellFormedFeed (run : Guid) (es : List DashboardEvent) : Prop where
  once : es.countP (DashboardEvent.ends run) ≤ 1
  last : ∀ xs e ys, es = xs ++ e :: ys → e.ends run = true → ∀ e' ∈ ys, e'.continues run = false

lemma DashboardEvent.run?_of_continues {run : Guid} {e : DashboardEvent}
    (h : e.continues run = true) : e.run? = some run := by
  cases e with
  | jobUpdate job status agent startedAt finishedAt =>
      rw [continues, Bool.and_eq_true, beq_iff_eq] at h
      exact congrArg some h.1
  | _ => exact absurd h Bool.false_ne_true

lemma WellFormedFeed.nil (run : Guid) : WellFormedFeed run [] where
  once := by simp
  last xs e ys heq := absurd (congrArg List.length heq) (by simp)

/-- An event is added: an end, or an update, only where no end has been announced. -/
lemma WellFormedFeed.concat {run : Guid} {es : List DashboardEvent} (h : WellFormedFeed run es)
    {e : DashboardEvent} (he : e.ends run = true ∨ e.continues run = true →
      ∀ e' ∈ es, e'.ends run = false) : WellFormedFeed run (es ++ [e]) where
  once := by
    rw [List.countP_append, List.countP_singleton]
    split_ifs with hends
    · have hnone : es.countP (DashboardEvent.ends run) = 0 :=
        List.countP_eq_zero.mpr fun e' he' => Bool.eq_false_iff.mp (he (Or.inl hends) e' he')
      omega
    · exact h.once
  last xs e₁ ys heq hends e' he' := by
    rcases List.eq_nil_or_concat ys with rfl | ⟨zs, e₂, rfl⟩
    · exact absurd he' List.not_mem_nil
    · rw [List.concat_eq_append] at heq he'
      rw [← List.cons_append, ← List.append_assoc] at heq
      obtain ⟨hes, hlast⟩ := List.append_inj' heq rfl
      rcases List.mem_append.mp he' with hmem | hmem
      · exact h.last xs e₁ zs hes hends e' hmem
      · rw [List.mem_singleton.mp hmem, ← List.cons.inj hlast |>.1]
        refine Bool.eq_false_iff.mpr fun hcont => ?_
        have hnone := he (Or.inr hcont) e₁ (hes ▸ by simp)
        exact absurd hends (Bool.eq_false_iff.mp hnone)

/-- Nothing goes on at a later place of the feed. -/
lemma WellFormedFeed.not_continues {run : Guid} {es : List DashboardEvent}
    (h : WellFormedFeed run es) {i j : ℕ} (hij : i < j)
    (hi : es[i]?.any (DashboardEvent.ends run) = true) :
    es[j]?.any (DashboardEvent.continues run) = false := by
  obtain ⟨e, he, hends⟩ := (Option.any_eq_true _ _).mp hi
  obtain ⟨hlt, hget⟩ := List.getElem?_eq_some_iff.mp he
  cases hj : es[j]? with
  | none => rfl
  | some e' =>
      have hsplit : es = es.take i ++ e :: es.drop (i + 1) := by
        rw [← hget, List.getElem_cons_drop, List.take_append_drop]
      refine h.last _ e _ hsplit hends e' (List.mem_of_getElem? (i := j - (i + 1)) ?_)
      rw [List.getElem?_drop, show i + 1 + (j - (i + 1)) = j by omega, hj]

/-- The run whose `JobUpdate` with a non-terminal status is published. -/
def Stmt.update? : Stmt → Option Guid
  | .publish (.jobUpdate job status _ _ _) =>
      if RunStatus.ofTerminalText? status = none then some job else none
  | _ => none

/-- A `JobUpdate` with a non-terminal status is published while its run is not over. -/
def UpdatesInTime (l : Stmt) (w : World) : Prop := ∀ job ∈ l.update?, w.over job = false

instance (l : Stmt) (w : World) : Decidable (UpdatesInTime l w) :=
  inferInstanceAs (Decidable (∀ job ∈ l.update?, w.over job = false))

/-- What the bus of a control plane satisfies: a feed that has ended is that of a run that
is over. -/
structure FeedInvariant (run : Guid) (w : World) : Prop where
  wellFormed : WellFormedFeed run w.bus
  announced : w.announced run → w.over run = true

/-- The end of a run, without a word about its counters. -/
def feedKey (run : Guid) : Key Stmt World :=
  completion run False (FeedInvariant run) fun l w => LandsInTime l w ∧ UpdatesInTime l w

/-- A statement keeps the invariant: an end is announced by the holder of the key, before
anybody else, and an update while the run is not over. -/
lemma feedInvariant_exec {run : Guid} {l : Stmt} {w : World} (h : FeedInvariant run w)
    (hok : LandsInTime l w ∧ UpdatesInTime l w)
    (hneeds : (feedKey run).needs l → w.over run = true ∧ ¬ w.announced run) :
    FeedInvariant run (l.exec w) := by
  obtain ⟨hland, htime⟩ := hok
  refine ⟨?_, fun hann => ?_⟩
  · have hnone : ∀ e ∈ l.events w, e.ends run = true ∨ e.continues run = true →
        ¬ w.announced run := by
      intro e he hkind
      have hrun : e.run? = some run :=
        hkind.elim DashboardEvent.run?_of_ends DashboardEvent.run?_of_continues
      have hl := eq_publish_of_mem_events he hrun
      subst hl
      rcases hkind with hends | hcont
      · exact (hneeds (Or.inl ⟨e, rfl, hends⟩)).2
      · intro hann
        have hover := h.announced hann
        cases e with
        | jobUpdate job status agent startedAt finishedAt =>
            obtain rfl : job = run := Option.some.inj hrun
            rw [DashboardEvent.continues, beq_self_eq_true, Bool.true_and,
              Option.isNone_iff_eq_none] at hcont
            rw [htime job (by rw [Stmt.update?, if_pos hcont, Option.mem_def])] at hover
            exact absurd hover Bool.false_ne_true
        | _ => exact absurd hcont Bool.false_ne_true
    have hadd : ∀ e, l.events w = [e] → WellFormedFeed run (l.exec w).bus := by
      intro e heq
      rw [bus_exec, heq]
      refine h.wellFormed.concat fun hkind e' he' => Bool.eq_false_iff.mpr fun hends => ?_
      exact hnone e (by rw [heq]; exact List.mem_singleton_self e) hkind ⟨e', he', hends⟩
    cases l with
    | publish e => exact hadd e rfl
    | connect agent => exact hadd _ rfl
    | disconnect agent => exact hadd _ rfl
    | _ =>
        rw [bus_exec]
        simpa only [Stmt.events, List.append_nil] using h.wellFormed
  · rcases World.announced_exec hann with hann | ⟨e, rfl, hends⟩
    · exact World.over_exec (h.announced hann) hland
    · exact World.over_exec (hneeds (Or.inl ⟨e, rfl, hends⟩)).1 hland

lemma feedKey_lawful (h : Host) (run : Guid) :
    (controlPlane h).LawfulKey (feedKey run) fun _ => True :=
  completion_lawful h (fun _ _ hok => hok.1) (fun _ hinv => hinv.announced)
    (fun _ _ hinv hok _ hneeds => feedInvariant_exec hinv hok hneeds)
    fun _ _ _ _ _ _ hfrozen => hfrozen.elim

/-- **The feed of a run.**  From a restart on, in every interleaving of requests, agent
frames, deploy attempts, watchdog and reaper sweeps that publishes no non-terminal
`JobUpdate` of a run that is over, the bus announces the end of each run at most once,
and no non-terminal `JobUpdate` of the run behind it. -/
theorem run_feed_wellFormed (h : Host) (w : World) (as : List Move)
    (hkind : (controlPlane h).Along (System.Starts (Task.isOrchestrator · = false))
      (.fresh w.restarted) as)
    (htime : (controlPlane h).Along ((controlPlane h).Meets UpdatesInTime) (.fresh w.restarted) as)
    (run : Guid) :
    WellFormedFeed run ((controlPlane h).after (.fresh w.restarted) as).state.bus := by
  have hinv : FeedInvariant run w.restarted := by
    refine ⟨.nil run, ?_⟩
    rintro ⟨e, he, -⟩
    exact absurd he List.not_mem_nil
  have hland := along_landsInTime h w.restarted as hkind
  obtain ⟨owner, hheld, -⟩ := System.Held.after (feedKey_lawful h run) as (.fresh hinv)
    (System.along_starts_any as) (System.along_meets_and hland htime)
  exact hheld.inv.wellFormed

open TwoAgents in
theorem run_feed_wellFormed_undisturbed :
    WellFormedFeed 0 ((controlPlane Host.plain).after (.fresh world.restarted) undisturbed).state.bus :=
  run_feed_wellFormed Host.plain world undisturbed (by decide +kernel) (by decide +kernel) 0

/-! ### A cancel between the send and the stamp of an assignment -/

open TwoAgents in
/-- The stamp affects no row, and the assignment is announced behind the cancellation. -/
theorem queued_after_cancelled :
    ¬ WellFormedFeed 0 ((controlPlane Host.plain).after (.fresh world.restarted)
      (untilSent ++ .start (.cancel 0) :: steps 1 12 ++ steps 0 3)).state.bus := by
  intro hfeed
  have hlate := hfeed.not_continues (i := 1) (j := 2) (by decide) (by decide +kernel)
  exact absurd hlate (by decide +kernel)

end Networker
