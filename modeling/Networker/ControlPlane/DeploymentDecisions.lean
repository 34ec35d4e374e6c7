/-
Whether the decision that ends a deployment outlives the attempt it ends.

* `Stmt.ends?`: a stop, a reap of the watchdog or a teardown claim that takes effect;
* `DecisionsKept`: afterwards no statement of an attempt that was there changes the
  outcome;
* `outcome_exec`: what an attempt writes besides outcomes;
* `decision_kept`: decisions about deployments without an attempt in flight are kept;
* `stop_overwritten`: a stop of a running attempt.
-/
import Networker.ControlPlane.Attempts

namespace Networker

open Data Concurrency

/-- The status, the error and the endpoints of a deployment. -/
def World.outcome (w : World) (d : Guid) : Option (DeploymentStatus × Option String × Option Json) :=
  (w.deployments.find? d).map fun x => (x.status, x.errorMessage, x.endpointIps)

/-- The writes by which another party ends a deployment: the stop endpoint, the watchdog
and the teardown sweep. -/
def DeploymentWrite.decides : DeploymentWrite → Bool
  | .stop _ | .reap .. | .claimTeardown _ => true
  | _ => false

/-- The deployment a statement ends. -/
def Stmt.ends? (w : World) : Stmt → Option Guid
  | .updateDeployment d u => if u.decides && w.deployments.hits d u.guard then some d else none
  | _ => none

/-- The task of attempt `k` on the deployment. -/
def Task.isAttempt (k d : Guid) : Task → Bool
  | .deploy k' d' _ => k' == k && d' == d
  | _ => false

/-- The move executes a statement of attempt `k` on the deployment. -/
def StepOf (k d : Guid) (c : Sys) (a : Move) : Prop :=
  match a with
  | .step i => (c.threads[i]?.any fun t => t.live && t.task.isAttempt k d) = true
  | _ => False

instance (k d : Guid) (c : Sys) : (a : Move) → Decidable (StepOf k d c a)
  | .step i => inferInstanceAs
      (Decidable ((c.threads[i]?.any fun t => t.live && t.task.isAttempt k d) = true))
  | .start _ | .env _ => isFalse id

/-- Once a decision has ended a deployment, no statement of an attempt that was there
changes its outcome. -/
def DecisionsKept (h : Host) (c : Sys) (as : List Move) : Prop :=
  ∀ xs a ys b zs, as = xs ++ (a :: ys ++ b :: zs) → ∀ d k,
    ((controlPlane h).label ((controlPlane h).after c xs) a).bind
        (Stmt.ends? ((controlPlane h).after c xs).state) = some d →
    (((controlPlane h).after c xs).state.phaseOf k d).isSome = true →
    StepOf k d ((controlPlane h).after c (xs ++ a :: ys)) b →
      ((controlPlane h).after c (xs ++ (a :: ys ++ [b]))).state.outcome d =
        ((controlPlane h).after c (xs ++ a :: ys)).state.outcome d

/-- A decision takes effect only where no attempt on the deployment is in flight. -/
def DecidesIdle (l : Stmt) (w : World) : Prop := ∀ d ∈ l.ends? w, w.inFlight d = false

instance (l : Stmt) (w : World) : Decidable (DecidesIdle l w) :=
  inferInstanceAs (Decidable (∀ d ∈ l.ends? w, w.inFlight d = false))

/-- The statement of an attempt that a move executes. -/
lemma StepOf.thread {k d : Guid} {c : Sys} {b : Move} (hb : StepOf k d c b) :
    ∃ i o l p, b = .step i ∧ c.threads[i]? = some ⟨.deploy k d o, .act l p⟩ := by
  cases b with
  | step i =>
      obtain ⟨⟨task, rest⟩, hget, ht⟩ := (Option.any_eq_true _ _).mp hb
      rw [Bool.and_eq_true] at ht
      obtain ⟨hlive, htask⟩ := ht
      cases task with
      | deploy k' d' o =>
          simp only [Task.isAttempt, Bool.and_eq_true, beq_iff_eq] at htask
          obtain ⟨rfl, rfl⟩ := htask
          cases rest with
          | act l p => exact ⟨i, o, l, p, rfl, hget⟩
          | _ => exact absurd hlive Bool.false_ne_true
      | _ => exact absurd htask Bool.false_ne_true
  | _ => exact hb.elim

/-- What an attempt issues besides its outcomes leaves every outcome as it is. -/
lemma outcome_exec {k d : Guid} {o : DeployRunner.Outcome} {l : Stmt}
    (hl : (Task.deploy k d o).mayIssue l) (hset : l.setsOutcome = false) (w : World) (d' : Guid) :
    (l.exec w).outcome d' = w.outcome d' := by
  cases l with
  | updateDeployment d'' u =>
      have hkeep : ∀ x : Deployment, ((u.set w.now x).status, (u.set w.now x).errorMessage,
          (u.set w.now x).endpointIps) = (x.status, x.errorMessage, x.endpointIps) := by
        intro x
        cases u with
        | flushLog log | stampInstallStart => rfl
        | setRunning now => exact absurd hset (by simp [Stmt.setsOutcome])
        | _ => exact hl.2.elim
      simp only [World.outcome, Stmt.exec, updateDeployments, Table.find?_update, Option.map_map]
      refine Option.map_congr fun x _ => ?_
      rw [Function.comp_apply]
      split_ifs
      · exact hkeep x
      · rfl
  | finishAttempt j d'' args now => exact absurd hset (by simp [Stmt.setsOutcome])
  | query | publish e | beginAttempt j | abandonAttempt j => rfl
  | _ => exact hl.elim

/-- **Decisions about idle deployments are kept.**  In every schedule of the control plane
whose stops, reaps and teardown claims take effect only on deployments without an attempt
in flight, no attempt that was there changes status, error or endpoints afterwards. -/
theorem decision_kept (h : Host) (w : World) (as : List Move)
    (idle : (controlPlane h).Along ((controlPlane h).Meets DecidesIdle) (.fresh w) as) :
    DecisionsKept h (.fresh w) as := by
  intro xs a ys b zs heq d k hend hattempt hb
  subst heq
  obtain ⟨l, hlab, hdec⟩ := Option.bind_eq_some_iff.mp hend
  obtain ⟨i, o, l', p, rfl, hget⟩ := hb.thread
  -- the attempt is over when the decision takes effect
  have hover : ((controlPlane h).after (.fresh w) xs).state.phaseOf k d = some .over := by
    have hidle := idle.meets rfl hlab d hdec
    obtain ⟨q, hq⟩ := Option.isSome_iff_exists.mp hattempt
    by_contra hne
    refine absurd (inFlight_iff.mpr ⟨k, q, hq, ?_⟩) (by simp [hidle])
    rintro rfl
    exact hne hq
  -- and it stays over
  have hdriven := along_driven h w (xs ++ (a :: ys ++ .step i :: zs))
  obtain ⟨-, hrest⟩ := System.along_append.mp hdriven
  obtain ⟨hays, -⟩ := System.along_append.mp hrest
  have hlater : ((controlPlane h).after (.fresh w) (xs ++ a :: ys)).state.phaseOf k d =
      some .over := by
    rw [System.after_append]
    exact System.after_inv (I := fun s => s.phaseOf k d = some .over)
      (fun l s hs hl => phaseOf_over_exec hs hl) hover _ hays
  -- so the statement sets no outcome
  have hguar := (attempts_sound h w (xs ++ a :: ys)).guar (attempts_lawful h) hget trivial
  have hset : l'.setsOutcome = false := by
    by_contra hne
    have hdriving := hguar.2.1 (by simpa using hne)
    exact absurd (hlater.symm.trans hdriving) (by decide)
  have hstate : ((controlPlane h).after (.fresh w) (xs ++ (a :: ys ++ [.step i]))).state =
      l'.exec ((controlPlane h).after (.fresh w) (xs ++ a :: ys)).state := by
    rw [← List.append_assoc, System.after_concat]
    refine System.state_next_of_label ?_
    rw [System.label, hget]
  rw [hstate, outcome_exec hguar.1 hset]

namespace StoppedAttempt

def config : Json :=
  .obj [("endpoints", .arr [.obj [("provider", .str "azure"),
    ("azure", .obj [("vm_name", .str "nwk-ep-a")])]])]

def world : World := World.initial

/-- A deployment is created, and its attempt has set it to `running`. -/
def untilRunning : List Move :=
  .start (.createDeployment "p" "a" config none) :: steps 0 3 ++
    .start (.deploy 0 0 (.ran [] ⟨true, ["10.0.0.4"], none, none, none, some 0, none⟩ true)) ::
      steps 1 3

/-- The attempt ends, up to a late stamp; the stop endpoint finds the deployment completed.
The deployment is updated, and the update ends with an unhandled exception; only then is
the deployment stopped. -/
def orderly : List Move :=
  untilRunning ++ steps 1 3 ++ .start (.stopDeployment "p" 0) :: steps 2 1 ++
    .start (.updateDeployment "p" 0) :: steps 3 2 ++
    .start (.deploy 1 0 (.faulted [])) :: steps 4 4 ++
    .start (.stopDeployment "p" 0) :: steps 5 4 ++ steps 1 1

/-- The stop endpoint has read the deployment. -/
def untilStop : List Move := untilRunning ++ .start (.stopDeployment "p" 0) :: steps 2 2

end StoppedAttempt

open StoppedAttempt in
theorem decision_kept_orderly : DecisionsKept Host.plain (.fresh world) orderly :=
  decision_kept Host.plain world orderly (by decide)

open StoppedAttempt in
/-- The attempt of a stopped deployment completes it. -/
theorem stop_overwritten :
    ¬ DecisionsKept Host.plain (.fresh world) (untilStop ++ (.step 2 :: [.step 1] ++ [.step 1])) := by
  intro hkept
  have hsame := hkept untilStop (.step 2) [.step 1] (.step 1) [] rfl 0 0 rfl
    (by decide) (by decide +kernel)
  have hstopped : (((controlPlane Host.plain).after (.fresh world)
      (untilStop ++ [.step 2, .step 1])).state.outcome 0).map Prod.fst = some .cancelled := by
    rfl
  have hcompleted : (((controlPlane Host.plain).after (.fresh world)
      (untilStop ++ (.step 2 :: [.step 1] ++ [.step 1]))).state.outcome 0).map Prod.fst =
        some .completed := rfl
  rw [hsame, hstopped] at hcompleted
  exact absurd hcompleted (by decide)

end Networker
