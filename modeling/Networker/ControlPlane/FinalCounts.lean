/-
The counters of a finished run.

* `World.countsAgree`: every `JobComplete` on the bus carries the stored counters;
* `Accepts`: a `run_finished` frame finds its run non-terminal and completes it;
* `CountsFrozen`: from then on only the handling of that frame changes the counters;
* `ProgressInTime`: a `run_progress` frame finds its run not over, or says what is stored;
* `final_counts_frozen`: under that condition the counters are frozen and agree with the
  bus, in every interleaving of frames with requests and sweeps;
* `counts_overwritten`: three frames of one agent, the last one a late `run_progress`.
-/
import Networker.ControlPlane.Completion
import Networker.ControlPlane.SingleExecution

namespace Networker

open Data Concurrency

/-- What the event says about the counters of the run, if it does. -/
def DashboardEvent.agrees (run : Guid) (counts : ℤ × ℤ) : DashboardEvent → Bool
  | .jobComplete job _ successCount failureCount =>
      job != run || counts == (successCount, failureCount)
  | _ => true

/-- Every `JobComplete` of the run carries the stored counters. -/
def World.countsAgree (run : Guid) (w : World) : Prop :=
  ∀ e ∈ w.bus, e.agrees run (w.countsOf run) = true

instance (run : Guid) (w : World) : Decidable (w.countsAgree run) :=
  inferInstanceAs (Decidable (∀ e ∈ w.bus, e.agrees run (w.countsOf run) = true))

/-- The run and the counters of a `run_progress` frame that is applied. -/
def Stmt.progress? : Stmt → Option (Guid × ℤ × ℤ)
  | .updateRun run (.runProgress success failure) => some (run, success, failure)
  | _ => none

/-- A `run_progress` frame finds its run not over, or its counters are stored already. -/
def ProgressInTime (l : Stmt) (w : World) : Prop :=
  ∀ p ∈ l.progress?, w.over p.1 = true → w.countsOf p.1 = p.2

instance (l : Stmt) (w : World) : Decidable (ProgressInTime l w) :=
  inferInstanceAs (Decidable (∀ p ∈ l.progress?, w.over p.1 = true → w.countsOf p.1 = p.2))

/-- Only two updates write the counters. -/
lemma RunWrite.counts_set {u : RunWrite} (hfinal : u.isFinalCounts = false)
    (hprogress : ∀ x y, u ≠ .runProgress x y) (t : Time) (r : TestRun) :
    (u.set t r).successCount = r.successCount ∧ (u.set t r).failureCount = r.failureCount := by
  cases u with
  | runProgress x y => exact absurd rfl (hprogress x y)
  | finalCounts x y => exact absurd hfinal.symm Bool.false_ne_true
  | _ => exact ⟨rfl, rfl⟩

/-- The counters of a run that is over are left alone by everything but its end-of-run
counters and a late `run_progress`. -/
lemma countsOf_exec {run : Guid} {l : Stmt} {w : World} (hover : w.over run = true)
    (htime : ProgressInTime l w) (hfinal : ∀ x y, l ≠ .updateRun run (.finalCounts x y)) :
    (l.exec w).countsOf run = w.countsOf run := by
  obtain ⟨r, hr, -⟩ := World.over_iff.mp hover
  have hid : r.id = run := run_id_of_find? hr
  have hnow : w.countsOf run = (r.successCount, r.failureCount) := by
    rw [World.countsOf, hr, Option.elim_some]
  rw [hnow, World.countsOf, find?_runs_exec hr, Option.elim_some]
  cases l with
  | updateRun j u =>
      rw [Stmt.onRun]
      split_ifs with hhit
      · obtain ⟨hj, -⟩ := hhit
        obtain rfl : run = j := hid.symm.trans hj
        by_cases hprogress : ∃ x y, u = .runProgress x y
        · obtain ⟨x, y, rfl⟩ := hprogress
          exact (htime (run, x, y) rfl hover).symm.trans hnow
        · push Not at hprogress
          have hu : u.isFinalCounts = false := by
            cases u with
            | finalCounts x y => exact absurd rfl (hfinal x y)
            | _ => rfl
          obtain ⟨h₁, h₂⟩ := RunWrite.counts_set hu hprogress w.now r
          rw [h₁, h₂]
      · rfl
  | _ => rfl

/-- What the world of a control plane satisfies: the bus agrees with the rows, and a run
whose end has been announced is over. -/
structure CountsInvariant (run : Guid) (w : World) : Prop where
  agree : w.countsAgree run
  announced : w.announced run → w.over run = true

/-- The end of a run, with the counters that are announced. -/
def countsKey (run : Guid) : Key Stmt World :=
  completion run True (CountsInvariant run) fun l w => LandsInTime l w ∧ ProgressInTime l w

lemma DashboardEvent.agrees_iff {run : Guid} {counts : ℤ × ℤ} {e : DashboardEvent} :
    e.agrees run counts = true ↔ ∀ job x y, e = .jobComplete run job x y → counts = (x, y) := by
  cases e with
  | jobComplete job r a b =>
      simp only [agrees, Bool.or_eq_true, bne_iff_ne, beq_iff_eq]
      constructor
      · rintro (hne | heq) job' x y hev
        · exact absurd (DashboardEvent.jobComplete.inj hev).1 hne
        · obtain ⟨-, -, rfl, rfl⟩ := DashboardEvent.jobComplete.inj hev
          exact heq
      · intro h
        by_cases hjob : job = run
        · exact Or.inr (h r a b (by rw [hjob]))
        · exact Or.inl hjob
  | _ => exact iff_of_true rfl fun _ _ _ heq => absurd heq nofun

/-- A statement keeps the invariant: the holder of the key announces what is stored, and
nobody writes the counters behind the announcement. -/
lemma countsInvariant_exec {run : Guid} {l : Stmt} {w : World} (h : CountsInvariant run w)
    (hok : LandsInTime l w ∧ ProgressInTime l w) (hguar : (countsKey run).guar l w)
    (hneeds : (countsKey run).needs l → w.over run = true ∧ ¬ w.announced run) :
    CountsInvariant run (l.exec w) := by
  obtain ⟨hland, htime⟩ := hok
  refine ⟨fun e he => DashboardEvent.agrees_iff.mpr ?_, fun hann => ?_⟩
  · rintro job x y rfl
    rw [bus_exec, List.mem_append] at he
    rcases he with hold | hnew
    · -- an earlier announcement: the run is over and the key has been used up
      have hann : w.announced run := ⟨_, hold, beq_self_eq_true run⟩
      have hcounts := DashboardEvent.agrees_iff.mp (h.agree _ hold) job x y rfl
      rw [countsOf_exec (h.announced hann) htime fun a b heq =>
        (hneeds (Or.inr ⟨a, b, heq⟩)).2 hann, hcounts]
    · obtain rfl := eq_publish_of_mem_events hnew rfl
      exact hguar trivial job x y rfl
  · rcases World.announced_exec hann with hann | ⟨e, rfl, hends⟩
    · exact World.over_exec (h.announced hann) hland
    · exact World.over_exec (hneeds (Or.inl ⟨e, rfl, hends⟩)).1 hland

lemma countsKey_lawful (h : Host) (run : Guid) :
    (controlPlane h).LawfulKey (countsKey run) fun _ => True :=
  completion_lawful h (fun _ _ hok => hok.1) (fun _ hinv => hinv.announced)
    (fun _ _ hinv hok hguar hneeds => countsInvariant_exec hinv hok hguar hneeds)
    fun _ _ hneeds _ hok hover _ => countsOf_exec hover hok.2 fun x y heq =>
      hneeds (Or.inr ⟨x, y, heq⟩)

/-- The thread accepts a `run_finished` frame for the run: its update hits the row. -/
def Accepts (h : Host) (c : Sys) (i : ℕ) (run : Guid) : Prop :=
  ∃ st envelope, (controlPlane h).label c (.step i) = some (.updateRun run (.runFinished st envelope)) ∧
    st.terminal = true ∧ c.state.runs.hits run (RunWrite.runFinished st envelope).guard = true

/-- Behind an accepted `run_finished` frame only its own thread changes the counters. -/
def CountsFrozen (h : Host) (c : Sys) (as : List Move) (run : Guid) : Prop :=
  ∀ xs i ys b zs, as = xs ++ .step i :: (ys ++ b :: zs) →
    Accepts h ((controlPlane h).after c xs) i run → b ≠ .step i →
      ((controlPlane h).after c (xs ++ .step i :: (ys ++ [b]))).state.countsOf run =
        ((controlPlane h).after c (xs ++ .step i :: ys)).state.countsOf run

/-- Another thread than the owner leaves the counters of a run that is over alone. -/
lemma countsOf_next {h : Host} {run : Guid} {c : Sys} {owner : Option ℕ}
    (hheld : (controlPlane h).Held (countsKey run) owner c) (hover : c.state.over run = true)
    {a : Move} (hok : (controlPlane h).Meets (countsKey run).ok c a)
    (hother : ∀ i, owner = some i → a ≠ .step i) :
    ((controlPlane h).next c a).state.countsOf run = c.state.countsOf run := by
  rw [System.state_next]
  cases hl : (controlPlane h).label c a with
  | none => rfl
  | some l =>
      have hoks := hok l hl
      refine countsOf_exec hover hoks.2 fun x y heq => ?_
      have hkind : System.Starts (fun _ => True) c a := by cases a <;> trivial
      obtain ⟨i, hi, ha⟩ := hheld.of_needs (countsKey_lawful h run) hkind hl hoks
        (Or.inr ⟨x, y, heq⟩)
      exact hother i hi ha

/-- **Frozen counters.**  From a restart on, in every interleaving of frames with
requests, deploy attempts and sweeps in which no `run_progress` frame brings other
counters to a run that is over, an accepted `run_finished` frame freezes the counters of
its run, and they are the ones its `JobComplete` carries. -/
theorem final_counts_frozen (h : Host) (w : World) (as : List Move)
    (hkind : (controlPlane h).Along (System.Starts (Task.isOrchestrator · = false))
      (.fresh w.restarted) as)
    (htime : (controlPlane h).Along ((controlPlane h).Meets ProgressInTime) (.fresh w.restarted) as)
    (run : Guid) : CountsFrozen h (.fresh w.restarted) as run ∧
      ((controlPlane h).after (.fresh w.restarted) as).state.countsAgree run := by
  have L := countsKey_lawful h run
  have hinv : CountsInvariant run w.restarted := by
    refine ⟨fun e he => absurd he List.not_mem_nil, ?_⟩
    rintro ⟨e, he, -⟩
    exact absurd he List.not_mem_nil
  have hok := System.along_meets_and (along_landsInTime h w.restarted as hkind) htime
  have hall : ∀ c bs, (controlPlane h).Along (System.Starts fun _ => True) c bs := fun _ =>
    System.along_starts_any
  refine ⟨fun xs i ys b zs heq hacc hne => ?_, ?_⟩
  · obtain ⟨st, envelope, hl, hterm, hhits⟩ := hacc
    rw [heq, System.along_append] at hok
    obtain ⟨hxs, hi, hrest⟩ := hok
    obtain ⟨hys, hb, -⟩ := System.along_append.mp hrest
    obtain ⟨owner, hheld, -⟩ := System.Held.after L xs (.fresh hinv) (hall _ _) hxs
    have htakes : (countsKey run).takes (.updateRun run (.runFinished st envelope))
        ((controlPlane h).after (.fresh w.restarted) xs).state = true := by
      simp only [countsKey, completion, beq_self_eq_true, Bool.true_and, RunWrite.completes,
        hterm, hhits]
    have hown := hheld.acquire L hl (hi _ hl) htakes rfl
    have htaken : ((controlPlane h).next ((controlPlane h).after (.fresh w.restarted) xs)
        (.step i)).state.over run = true := hown.taken i rfl
    obtain ⟨owner', hheld', howner⟩ := System.Held.after L ys hown (hall _ _) hys
    have hover := System.after_inv (I := fun v => v.over run = true)
      (fun l v hv hlv => World.over_exec hv hlv.1) htaken ys hys
    have hother : ∀ j, owner' = some j → b ≠ .step j := by
      intro j hj
      rcases howner htaken with rfl | rfl
      · rwa [← Option.some.inj hj]
      · exact absurd hj.symm (Option.some_ne_none j)
    have hkeep := countsOf_next hheld' hover hb hother
    rwa [← List.cons_append, ← List.append_assoc, System.after_concat, System.after_append,
      System.after_cons]
  · obtain ⟨owner, hheld, -⟩ := System.Held.after L as (.fresh hinv) (hall _ _) hok
    exact hheld.inv.agree

open TwoAgents in
theorem final_counts_frozen_undisturbed :
    CountsFrozen Host.plain (.fresh world.restarted) undisturbed 0 ∧
      ((controlPlane Host.plain).after (.fresh world.restarted) undisturbed).state.countsAgree 0 :=
  final_counts_frozen Host.plain world undisturbed (by decide +kernel) (by decide +kernel) 0

/-! ### A late `run_progress` -/

open TwoAgents in
/-- The run is finished with one success; the `run_progress` behind it is applied. -/
theorem counts_overwritten :
    ¬ ((controlPlane Host.plain).after (.fresh world.restarted)
      (untilSent ++ steps 0 3 ++
        .start (.frame 0 (.runFinished 0 "completed" none none (some 1) (some 0))) :: steps 1 9 ++
        .start (.frame 0 (.runProgress 0 0 7)) :: steps 2 2)).state.countsAgree 0 := by
  decide +kernel

end Networker
