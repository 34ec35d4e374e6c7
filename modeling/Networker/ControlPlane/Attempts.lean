/-
When a deploy attempt writes to its deployment.

* `World.phaseOf`, `phaseOf_exec`: how far an attempt on a deployment is, one statement
  at a time; `inFlight_iff`, `inFlight_exec`: the deployments with an attempt in flight;
* `Stmt.setsOutcome`: the flip to `running` and the terminal write;
* `Task.drives`: an attempt sets the outcome only while it is driving, and begins only
  once;
* `attempts_lawful`: every routine keeps this, in any interleaving;
* `along_driven`: what it says about the statements of a schedule.
-/
import Networker.ControlPlane.Routines
import Networker.ControlPlane.Statements

namespace Networker

open Data Concurrency

/-! ### Phases -/

/-- How far attempt `k` is, if it is an attempt on the deployment. -/
def World.phaseOf (w : World) (k d : Guid) : Option Phase :=
  (w.drivers[k]?.filter fun a => a.deploymentId == d).map DeployAttempt.phase

/-- What a statement does to the phase of attempt `k`. -/
def Stmt.onPhase (k : ℕ) : Stmt → Phase → Phase
  | .beginAttempt j, p => if j = k then .driving else p
  | .finishAttempt j _ _ _, p => if j = k then .over else p
  | .abandonAttempt j, p => if j = k then .over else p
  | _, p => p

/-- A started attempt does not go back to the queue. -/
lemma Stmt.onPhase_ne_queued {k : ℕ} {p : Phase} (hp : p ≠ .queued) (l : Stmt) :
    l.onPhase k p ≠ .queued := by
  cases l with
  | beginAttempt j | finishAttempt j d args now | abandonAttempt j =>
      rw [onPhase]
      split_ifs
      · exact fun h => absurd h (by decide)
      · exact hp
  | _ => exact hp

/-- An attempt after a statement. -/
def DeployAttempt.after (k : ℕ) (l : Stmt) (a : DeployAttempt) : DeployAttempt :=
  { a with phase := l.onPhase k a.phase }

lemma getElem?_setPhase (j k : ℕ) (p : Phase) (ds : List DeployAttempt) :
    (setPhase j p ds)[k]? =
      ds[k]?.map fun a => { a with phase := if j = k then p else a.phase } := by
  rw [setPhase, List.getElem?_modify]
  cases ds[k]? with
  | none => rfl
  | some a => by_cases hjk : j = k <;> simp [hjk]

/-- The attempts after a statement: the ones before it, and at the end the one it
spawns. -/
lemma getElem?_drivers_exec (l : Stmt) (w : World) (k : ℕ) :
    (l.exec w).drivers[k]? = (w.drivers[k]?.map (DeployAttempt.after k l)) ∨
      ∃ d j, l = .spawnDeploy d j ∧ k = w.drivers.length ∧
        (l.exec w).drivers[k]? = some ⟨d, j, .queued⟩ := by
  cases l with
  | spawnDeploy d j =>
      rcases Nat.lt_trichotomy k w.drivers.length with hk | rfl | hk
      · left
        simp only [Stmt.exec, List.getElem?_append_left hk]
        rw [List.getElem?_eq_getElem hk]
        rfl
      · exact Or.inr ⟨d, j, rfl, rfl, by simp [Stmt.exec]⟩
      · left
        have hout : w.drivers[k]? = none := List.getElem?_eq_none (by omega)
        rw [hout, Stmt.exec]
        exact List.getElem?_eq_none (by rw [List.length_append, List.length_singleton]; omega)
  | beginAttempt j | abandonAttempt j => exact Or.inl (getElem?_setPhase j k _ _)
  | finishAttempt j d args now => exact Or.inl (getElem?_setPhase j k _ _)
  | insertAttempt a =>
      left
      simp only [Stmt.exec]
      split_ifs <;> exact Option.map_id'.symm
  | sendAssign agent run x y =>
      left
      simp only [Stmt.exec]
      split_ifs <;> exact Option.map_id'.symm
  | sendCancel agent run =>
      left
      simp only [Stmt.exec]
      split_ifs <;> exact Option.map_id'.symm
  | _ => exact Or.inl Option.map_id'.symm

lemma phaseOf_eq_some {w : World} {k d : Guid} {p : Phase} :
    w.phaseOf k d = some p ↔ ∃ a, w.drivers[k]? = some a ∧ a.deploymentId = d ∧ a.phase = p := by
  simp only [World.phaseOf, Option.map_eq_some_iff, Option.filter_eq_some_iff, beq_iff_eq]
  constructor
  · rintro ⟨a, ⟨ha, hd⟩, hp⟩
    exact ⟨a, ha, hd, hp⟩
  · rintro ⟨a, ha, hd, hp⟩
    exact ⟨a, ⟨ha, hd⟩, hp⟩

/-- The phase of an attempt after a statement. -/
lemma phaseOf_exec {w : World} {k d : Guid} {p : Phase} (h : w.phaseOf k d = some p) (l : Stmt) :
    (l.exec w).phaseOf k d = some (l.onPhase k p) := by
  obtain ⟨a, ha, hd, rfl⟩ := phaseOf_eq_some.mp h
  rcases getElem?_drivers_exec l w k with hk | ⟨d', j, -, hlen, -⟩
  · rw [ha] at hk
    exact phaseOf_eq_some.mpr ⟨_, hk, hd, rfl⟩
  · have hlt := (List.getElem?_eq_some_iff.mp ha).1
    omega

/-- An attempt on a deployment is in flight until it is over. -/
lemma inFlight_iff {w : World} {d : Guid} :
    w.inFlight d = true ↔ ∃ k p, w.phaseOf k d = some p ∧ p ≠ .over := by
  simp only [World.inFlight, List.any_eq_true, Bool.and_eq_true, beq_iff_eq, bne_iff_ne, ne_eq]
  constructor
  · rintro ⟨a, hmem, hd, hp⟩
    obtain ⟨k, hk⟩ := List.mem_iff_getElem?.mp hmem
    exact ⟨k, a.phase, phaseOf_eq_some.mpr ⟨a, hk, hd, rfl⟩, hp⟩
  · rintro ⟨k, p, hk, hp⟩
    obtain ⟨a, ha, hd, rfl⟩ := phaseOf_eq_some.mp hk
    exact ⟨a, List.mem_of_getElem? ha, hd, hp⟩

/-! ### What an attempt writes -/

/-- The writes of an attempt that set the status of its deployment. -/
def Stmt.setsOutcome : Stmt → Bool
  | .updateDeployment _ (.setRunning _) => true
  | .finishAttempt .. => true
  | _ => false

/-- The task sets an outcome only while its attempt is driving, and takes the attempt off
the queue when it begins. -/
def Task.drives (t : Task) (l : Stmt) (w : World) : Prop :=
  match t with
  | .deploy k d _ =>
      (l.setsOutcome = true → w.phaseOf k d = some .driving) ∧
        (∀ j, l = .beginAttempt j → w.phaseOf k d = some .queued)
  | _ => True

/-- An outcome is set by an attempt that is driving, and an attempt begins once. -/
def Driven (l : Stmt) (w : World) : Prop :=
  match l with
  | .updateDeployment d (.setRunning _) => ∃ k, w.phaseOf k d = some .driving
  | .finishAttempt k d _ _ => w.phaseOf k d = some .driving
  | .beginAttempt k => ∃ d, w.phaseOf k d = some .queued
  | _ => True

/-- What a task may issue and when. -/
lemma driven_of_drives {t : Task} {l : Stmt} {w : World} (hl : t.mayIssue l) (hd : t.drives l w) :
    Driven l w := by
  cases l with
  | updateDeployment d u =>
      cases u with
      | setRunning now =>
          cases t with
          | deploy k d' o =>
              obtain ⟨rfl, -⟩ := hl
              exact ⟨k, hd.1 rfl⟩
          | _ => cases hl
      | _ => trivial
  | finishAttempt k d args now =>
      cases t with
      | deploy k' d' o =>
          obtain ⟨rfl, rfl⟩ := hl
          exact hd.1 rfl
      | _ => cases hl
  | beginAttempt k =>
      cases t with
      | deploy k' d o =>
          obtain rfl : k = k' := hl
          exact ⟨d, hd.2 k rfl⟩
      | _ => cases hl
  | _ => trivial

lemma driven_of_isEnvironment {l : Stmt} (hl : l.isEnvironment = true) (w : World) :
    Driven l w := by
  cases l with
  | updateDeployment d u => exact absurd hl Bool.false_ne_true
  | _ => trivial

/-- An attempt that is over stays over. -/
lemma phaseOf_over_exec {w : World} {k d : Guid} (hw : w.phaseOf k d = some .over) {l : Stmt}
    (hl : Driven l w) : (l.exec w).phaseOf k d = some .over := by
  have hexec := phaseOf_exec hw l
  cases l with
  | beginAttempt j =>
      have hjk : j ≠ k := by
        rintro rfl
        obtain ⟨d', hd'⟩ := hl
        obtain ⟨a, ha, -, hover⟩ := phaseOf_eq_some.mp hw
        obtain ⟨a', ha', -, hqueued⟩ := phaseOf_eq_some.mp hd'
        obtain rfl : a = a' := Option.some.inj (ha.symm.trans ha')
        exact absurd (hover.symm.trans hqueued) (by decide)
      rwa [Stmt.onPhase, if_neg hjk] at hexec
  | finishAttempt j d' args now | abandonAttempt j =>
      rw [Stmt.onPhase, ite_self] at hexec
      exact hexec
  | _ => exact hexec

/-- No statement but a spawn puts a deployment in flight. -/
lemma inFlight_of_exec {w : World} {l : Stmt} (hl : Driven l w) (hspawn : ∀ d j, l ≠ .spawnDeploy d j)
    {d : Guid} (h : (l.exec w).inFlight d = true) : w.inFlight d = true := by
  obtain ⟨k, p, hk, hp⟩ := inFlight_iff.mp h
  obtain ⟨a', ha', hd, hpa⟩ := phaseOf_eq_some.mp hk
  rcases getElem?_drivers_exec l w k with hsame | ⟨d', j, rfl, -⟩
  · rw [ha'] at hsame
    obtain ⟨a, ha, rfl⟩ := Option.map_eq_some_iff.mp hsame.symm
    have hphase : w.phaseOf k d = some a.phase := phaseOf_eq_some.mpr ⟨a, ha, hd, rfl⟩
    refine inFlight_iff.mpr ⟨k, a.phase, hphase, fun hover => ?_⟩
    rw [hover] at hphase
    have hstill := phaseOf_over_exec hphase hl
    rw [hk] at hstill
    exact hp (Option.some.inj hstill)
  · exact absurd rfl (hspawn d' j)

/-! ### The routine of an attempt -/

namespace DeployRunner

variable {R : World → World → Prop} {ok : Stmt → World → Prop} {E : SvcError → World → Prop}
  {k d : Guid} {o : Outcome}

/-- Driving is not disturbed by the rely relation. -/
def Driving (k d : Guid) (w : World) : Prop := w.phaseOf k d = some .driving

/-- A statement that neither begins nor ends an attempt. -/
def Steady (l : Stmt) : Prop := ∀ k p, l.onPhase k p = p

lemma Steady.driving {l : Stmt} (hl : Steady l) {w : World} (hw : Driving k d w) :
    Driving k d (l.exec w) := by
  have := phaseOf_exec hw l
  rwa [hl k] at this

lemma Steady.ne_begin {l : Stmt} (hl : Steady l) (j : ℕ) : l ≠ .beginAttempt j := by
  rintro rfl
  have := hl j .queued
  rw [Stmt.onPhase, if_pos rfl] at this
  exact absurd this (by decide)

/-- A statement that sets no outcome. -/
def SetsNone (l : Stmt) : Prop := l.setsOutcome = false ∧ ∀ j, l ≠ .beginAttempt j

/-- What comes before the terminal write keeps the attempt driving. -/
lemma safe_steady {α : Type} {p : Svc α} (hR : Proc.Stable R (Driving k d))
    (hp : p.Issues Steady) {w : World} (hw : Driving k d w) :
    p.Safe Stmt.exec R ok (Task.deploy k d o).drives (fun _ _ => True) (fun _ => Driving k d) w := by
  have hsafe : p.Safe Stmt.exec R ok (Task.deploy k d o).drives (fun _ => Driving k d)
      (fun _ => Driving k d) w :=
    Proc.Issues.safe hR (hp.mono fun l hl t ht _ =>
      ⟨⟨fun _ => ht, fun j hj => absurd hj (hl.ne_begin j)⟩, hl.driving ht⟩) hw
  exact hsafe.mono (fun _ _ _ => trivial) fun _ _ h => h

/-- What comes after the terminal write sets no outcome. -/
lemma safe_setsNone {p : Svc Unit} (hp : p.Issues SetsNone) (w : World) :
    p.Safe Stmt.exec R ok (Task.deploy k d o).drives (fun _ _ => True) (fun _ _ => True) w :=
  Proc.Issues.safe (I := fun _ => True) (fun _ _ _ h => h)
    (hp.mono fun l hl _ _ _ => ⟨⟨fun h => absurd h (by simp [hl.1]),
      fun j hj => absurd hj (hl.2 j)⟩, trivial⟩) trivial

lemma safe_finish (hR : Proc.Stable R (Driving k d)) (args : FinishArgs) {w : World}
    (hw : Driving k d w) :
    (finish k d args).Safe Stmt.exec R ok (Task.deploy k d o).drives (fun _ _ => True)
      (fun _ _ => True) w := by
  refine hR.safe_issue_bind hw fun t ht _ => ⟨⟨fun _ => ht, ?_⟩, ?_⟩
  · exact fun j hj => absurd hj (by simp)
  · refine hR.safe_issue_bind ht fun u hu _ => ⟨⟨fun _ => hu, ?_⟩, ?_⟩
    · exact fun j hj => absurd hj (by simp)
    · exact safe_setsNone (Svc.issues_publish.mpr ⟨rfl, by simp⟩) _

/-- The whole routine of an attempt that has begun. -/
lemma safe_runDeployment (hrefl : ∀ w, R w w) (hR : Proc.Stable R (Driving k d)) {w : World}
    (hw : Driving k d w) :
    (runDeployment k d o).Safe Stmt.exec R ok (Task.deploy k d o).drives (fun _ _ => True)
      (fun _ _ => True) w := by
  have hrunning : (setRunning d).Issues Steady :=
    ⟨fun _ _ => rfl, fun _ => ⟨fun _ _ => rfl, fun _ => ⟨fun _ _ => rfl, fun _ => trivial⟩⟩⟩
  have hsteps : ∀ steps, (Proc.each (installStep d) steps).Issues Steady := fun steps =>
    Proc.Issues.each _ fun s _ => issues_installStep (fun _ _ _ _ => rfl) (fun _ _ _ _ => rfl) s
  cases o with
  | refused log error => exact safe_finish hR _ hw
  | ran steps args lateStamp =>
      refine (safe_steady hR hrunning hw).bind hrefl fun _ v hv => ?_
      refine (safe_steady hR (hsteps steps) hv).bind hrefl fun _ v' hv' => ?_
      refine (safe_finish hR args hv').bind hrefl fun _ v'' _ => safe_setsNone ?_ v''
      split
      · exact Svc.issues_updateDeployment_bind.mpr ⟨⟨rfl, by simp⟩, fun _ => trivial⟩
      · trivial
  | faulted steps =>
      refine (safe_steady hR hrunning hw).bind hrefl fun _ v hv => ?_
      refine (safe_steady hR (hsteps steps) hv).bind hrefl fun _ v' _ => safe_setsNone ?_ v'
      exact Svc.issues_exec.mpr ⟨rfl, by simp⟩

end DeployRunner

/-! ### Attempts side by side -/

/-- The attempt a task drives. -/
def Task.attempt? : Task → Option ℕ
  | .deploy k _ _ => some k
  | _ => none

/-- Two tasks that do not drive one attempt. -/
def Task.Apart (t u : Task) : Prop := ∀ k, t.attempt? = some k → u.attempt? ≠ some k

/-- A deploy task relies on its attempt to keep driving, has taken it off the queue, and
guarantees to set outcomes only while it drives. -/
def attempts : System.Discipline Stmt World Task where
  inv _ := True
  holds _ := False
  res _ := True
  here t w :=
    match t with
    | .deploy k d _ => ∃ p, w.phaseOf k d = some p ∧ p ≠ .queued
    | _ => True
  ok _ _ := True
  rely t w w' :=
    match t with
    | .deploy k d _ => DeployRunner.Driving k d w → DeployRunner.Driving k d w'
    | _ => True
  guar t l w := t.mayIssue l ∧ t.drives l w

/-- Only the task of an attempt moves its phase. -/
lemma onPhase_of_mayIssue {t : Task} {l : Stmt} (hl : t.mayIssue l) {k : ℕ}
    (hk : t.attempt? ≠ some k) (p : Phase) : l.onPhase k p = p := by
  cases l with
  | beginAttempt j | finishAttempt j d args now | abandonAttempt j =>
      cases t with
      | deploy k' d' o =>
          have hj : j ≠ k := by
            rintro rfl
            first
              | exact hk (congrArg some (Eq.symm hl))
              | exact hk (congrArg some (Eq.symm hl.1))
          rw [Stmt.onPhase, if_neg hj]
      | _ => cases hl
  | _ => rfl

lemma onPhase_of_isEnvironment {l : Stmt} (hl : l.isEnvironment = true) (k : ℕ) (p : Phase) :
    l.onPhase k p = p := by
  cases l with
  | beginAttempt j | finishAttempt j d args now | abandonAttempt j =>
      exact absurd hl Bool.false_ne_true
  | _ => rfl

lemma drives_of_no_attempt {t : Task} (ht : t.attempt? = none) (l : Stmt) (w : World) :
    t.drives l w := by
  cases t with
  | deploy k d o => exact absurd ht (by simp [Task.attempt?])
  | _ => trivial

/-- A task that drives no attempt keeps the discipline. -/
lemma attempts_keeps_of_no_attempt (h : Host) {t : Task} (ht : t.attempt? = none) (w : World) :
    attempts.Keeps (controlPlane h) t (t.code h) w := by
  have hissues := (t.issues_mayIssue h).2.mono fun l hl (v : World) (_ : True)
    (_ : attempts.inv v ∧ attempts.ok l v) =>
      (⟨⟨hl, drives_of_no_attempt ht l v⟩, trivial⟩ : attempts.guar t l v ∧ True)
  exact (Proc.Issues.safe (I := fun _ => True) (fun _ _ _ h => h) hissues trivial).mono
    (fun _ _ _ h => h.elim) fun _ _ _ h => h.elim

/-- An attempt that has begun keeps the discipline. -/
lemma attempts_keeps_of_deploy (h : Host) {k d : Guid} {o : DeployRunner.Outcome} {w : World}
    (hw : DeployRunner.Driving k d w) :
    attempts.Keeps (controlPlane h) (.deploy k d o) (Task.code h (.deploy k d o)) w := by
  have hsafe : (Task.code h (.deploy k d o)).Safe Stmt.exec (attempts.rely (.deploy k d o))
      (fun l s => attempts.inv s ∧ attempts.ok l s) (Task.deploy k d o).drives (fun _ _ => True)
      (fun _ _ => True) w :=
    DeployRunner.safe_runDeployment (fun _ => id) (fun _ _ hr => hr) hw
  exact (hsafe.issues ((Task.deploy k d o).issues_mayIssue h).2).mono (fun _ _ _ h => h.elim)
    fun _ _ _ h => h.elim

/-- **Attempts drive their deployments.**  In any interleaving of the tasks of the control
plane an attempt sets outcomes only between its begin and its end. -/
theorem attempts_lawful (h : Host) :
    (controlPlane h).Lawful attempts (fun _ => True) Task.Apart where
  symm := fun hab k hu ht => hab k ht hu
  excl := fun _ h => h.elim
  refl := by
    intro t w
    cases t with
    | deploy k d o => exact id
    | _ => trivial
  trans := by
    intro t a b c hab hbc
    cases t with
    | deploy k d o => exact hbc ∘ hab
    | _ => trivial
  inv := fun _ _ _ _ _ _ => trivial
  here := by
    intro t u l w _ _ _ hu
    cases u with
    | deploy k d o =>
        obtain ⟨p, hp, hne⟩ := hu
        exact ⟨_, phaseOf_exec hp l, l.onPhase_ne_queued hne⟩
    | _ => trivial
  res := fun _ _ _ _ _ _ _ _ => trivial
  rely := by
    intro t u l w hapart _ _ hguar
    cases u with
    | deploy k d o =>
        intro hw
        have hk : t.attempt? ≠ some k := fun ht => hapart k ht rfl
        have := phaseOf_exec hw l
        rwa [onPhase_of_mayIssue hguar.1 hk] at this
    | _ => trivial
  start := by
    intro ts t w _ hadm _ _ hhere _
    cases t with
    | deploy k d o =>
        have hqueued : w.phaseOf k d = some .queued := by
          obtain ⟨a, ha, hcond⟩ := (Option.any_eq_true _ _).mp hadm
          rw [Bool.and_eq_true, beq_iff_eq, beq_iff_eq] at hcond
          exact phaseOf_eq_some.mpr ⟨a, ha, hcond⟩
        have hbegun : DeployRunner.Driving k d (Stmt.exec (.beginAttempt k) w) := by
          have := phaseOf_exec hqueued (.beginAttempt k)
          rwa [Stmt.onPhase, if_pos rfl] at this
        refine ⟨fun u hu j hj hju => ?_, ⟨rfl, fun hset => absurd hset Bool.false_ne_true, fun j hj => ?_⟩,
          ⟨_, hbegun, by decide⟩, attempts_keeps_of_deploy h hbegun⟩
        · -- a live task of this attempt would have taken it off the queue
          obtain rfl : k = j := Option.some.inj hj
          cases u with
          | deploy k' d' o' =>
              obtain rfl : k' = k := Option.some.inj hju
              obtain ⟨p, hp, hne⟩ := hhere _ hu
              obtain ⟨a, ha, -, hpa⟩ := phaseOf_eq_some.mp hqueued
              obtain ⟨a', ha', -, hpa'⟩ := phaseOf_eq_some.mp hp
              obtain rfl : a = a' := Option.some.inj (ha.symm.trans ha')
              exact hne (hpa'.symm.trans hpa)
          | _ => exact absurd hju (by simp [Task.attempt?])
        · exact hqueued
    | _ =>
        exact ⟨fun u _ j hj => absurd hj (by simp [Task.attempt?]),
          ⟨(Task.issues_mayIssue h _).1, trivial⟩, trivial, attempts_keeps_of_no_attempt h rfl _⟩
  env := by
    intro l w hl _ _
    refine ⟨trivial, fun _ => trivial, fun t => ?_⟩
    cases t with
    | deploy k d o =>
        refine ⟨fun hw => ?_, ?_⟩
        · have := phaseOf_exec hw l
          rwa [onPhase_of_isEnvironment hl] at this
        · rintro ⟨p, hp, hne⟩
          exact ⟨_, phaseOf_exec hp l, l.onPhase_ne_queued hne⟩
    | _ => exact ⟨trivial, fun _ => trivial⟩

/-- Any schedule from a fresh start leads to a configuration whose attempts keep to their
discipline. -/
theorem attempts_sound (h : Host) (w : World) (as : List Move) :
    (controlPlane h).Sound attempts Task.Apart ((controlPlane h).after (.fresh w) as) :=
  System.after_sound (attempts_lawful h) (System.Sound.fresh trivial trivial) as
    (System.along_starts_any as) (System.along_meets_any as)

/-- Every schedule sets outcomes by driving attempts alone. -/
theorem along_driven (h : Host) (w : World) (as : List Move) :
    (controlPlane h).Along ((controlPlane h).Meets Driven) (.fresh w) as := by
  have hguar := System.along_guar (attempts_lawful h) (System.Sound.fresh trivial trivial)
    (System.along_starts_any as) (System.along_meets_any (c := .fresh w) as)
  refine hguar.mono fun c a ha l hl => ?_
  rcases ha l hl with ⟨t, hmay, hdrives⟩ | henv
  · exact driven_of_drives hmay hdrives
  · exact driven_of_isEnvironment henv _

end Networker
