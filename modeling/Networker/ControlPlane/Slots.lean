/-
The provisioning slots and what a statement does to them.

* `World.occupied`, `World.standing`, `World.provisioned`: the deployments whose VM may
  still exist, and their number among the auto-provisioned ones;
* `World.held`, `Linked`: the deployments a run refers to; every occupied one is;
* `slots_le_activeProvisions`: what the throttle counts;
* `Calm`: changes that neither take nor free a slot;
* `Stmt.leavesSlots`, `calm_exec`: the statements that make such changes.
-/
import Networker.ControlPlane.Attempts

namespace Networker

open Data Concurrency

/-! ### Slots -/

namespace World

/-- The row of the deployment is there and not torn down. -/
def occupied (w : World) (d : Guid) : Bool :=
  (w.deployments.find? d).any fun x => x.status != .tornDown

/-- The VM of the deployment may still exist: its deploy process is in flight, or its row
is not torn down. -/
def standing (w : World) (d : Guid) : Bool := w.inFlight d || w.occupied d

/-- The number of auto-provisioned deployments whose VM may still exist. -/
def provisioned (auto : Guid → Bool) (w : World) : ℕ :=
  ((Finset.range w.deployments.next).filter fun d => auto d = true ∧ w.standing d = true).card

/-- The number of auto-provisioned rows that are not torn down. -/
def slots (auto : Guid → Bool) (w : World) : ℕ :=
  ((Finset.range w.deployments.next).filter fun d => auto d = true ∧ w.occupied d = true).card

/-- Some run refers to the deployment. -/
def held (w : World) (d : Guid) : Bool :=
  w.runs.rows.any fun r => r.provisioningDeploymentId == some d

/-- The deployment a run refers to. -/
def linkOf (w : World) (run : Guid) : Option Guid :=
  (w.runs.find? run).bind TestRun.provisioningDeploymentId

end World

lemma occupied_iff {w : World} {d : Guid} :
    w.occupied d = true ↔ ∃ x, w.deployments.find? d = some x ∧ x.status ≠ .tornDown := by
  simp [World.occupied, Option.any_eq_true]

lemma lt_of_occupied {w : World} {d : Guid} (h : w.occupied d = true) :
    d < w.deployments.next := by
  obtain ⟨x, hx, -⟩ := occupied_iff.mp h
  exact Table.lt_of_find? hx

lemma held_iff {w : World} {d : Guid} : w.held d = true ↔ ∃ run, w.linkOf run = some d := by
  simp only [World.held, List.any_eq_true, beq_iff_eq, World.linkOf, Option.bind_eq_some_iff]
  constructor
  · rintro ⟨r, hr, hd⟩
    exact ⟨Keyed.key r, r, Table.find?_key hr, hd⟩
  · rintro ⟨run, r, hr, hd⟩
    exact ⟨r, Table.mem_of_find? hr, hd⟩

/-- Every occupied auto-provisioned deployment, but for the given ones, is one a run
refers to. -/
def LinkedBut (auto : Guid → Bool) (but : List Guid) (w : World) : Prop :=
  ∀ d, auto d = true → d ∉ but → w.occupied d = true → w.held d = true

/-- Every occupied auto-provisioned deployment is one a run refers to. -/
def Linked (auto : Guid → Bool) (w : World) : Prop := LinkedBut auto [] w

/-- An attempt in flight has a row that is not torn down. -/
def Backed (w : World) : Prop := ∀ d, w.inFlight d = true → w.occupied d = true

variable {auto : Guid → Bool} {w w' : World}

lemma provisioned_eq_slots (hw : Backed w) : w.provisioned auto = w.slots auto := by
  have hsame : ∀ d, w.standing d = w.occupied d := by
    intro d
    cases hf : w.inFlight d with
    | false => simp [World.standing, hf]
    | true => simp [World.standing, hf, hw d hf]
  simp only [World.provisioned, World.slots, hsame]

/-- The slots of a state whose occupied deployments are among those of another. -/
lemma slots_le_of_occupied (h : ∀ d, w'.occupied d = true → w.occupied d = true) :
    w'.slots auto ≤ w.slots auto := by
  refine Finset.card_le_card fun d hd => ?_
  rw [Finset.mem_filter, Finset.mem_range] at hd ⊢
  have hocc := h d hd.2.2
  exact ⟨lt_of_occupied hocc, hd.2.1, hocc⟩

/-- One more occupied deployment takes at most one more slot. -/
lemma slots_le_succ {d : Guid} (h : ∀ x, x ≠ d → w'.occupied x = true → w.occupied x = true) :
    w'.slots auto ≤ w.slots auto + 1 := by
  refine le_trans (Finset.card_le_card fun x hx => ?_)
    (Finset.card_insert_le d
      ((Finset.range w.deployments.next).filter fun d => auto d = true ∧ w.occupied d = true))
  rw [Finset.mem_filter] at hx
  by_cases hxd : x = d
  · exact Finset.mem_insert.mpr (Or.inl hxd)
  · have hocc := h x hxd hx.2.2
    refine Finset.mem_insert.mpr (Or.inr (Finset.mem_filter.mpr ⟨?_, hx.2.1, hocc⟩))
    exact Finset.mem_range.mpr (lt_of_occupied hocc)

/-- The throttle counts every slot, when every occupied deployment is one a run refers
to. -/
lemma slots_le_activeProvisions (hw : Linked auto w) :
    w.slots auto ≤ ProvisioningOrchestrator.activeProvisions w := by
  let links := (w.runs.select fun r =>
    (ProvisioningOrchestrator.heldDeployment w r).isSome).filterMap
      TestRun.provisioningDeploymentId
  have hsub : (Finset.range w.deployments.next).filter (fun d =>
      auto d = true ∧ w.occupied d = true) ⊆ links.toFinset := by
    intro d hd
    rw [Finset.mem_filter] at hd
    obtain ⟨-, hauto, hocc⟩ := hd
    obtain ⟨r, hr, hlink⟩ := List.any_eq_true.mp (hw d hauto List.not_mem_nil hocc)
    rw [beq_iff_eq] at hlink
    have hheld : (ProvisioningOrchestrator.heldDeployment w r).isSome = true := by
      obtain ⟨x, hx, hst⟩ := occupied_iff.mp hocc
      simp [ProvisioningOrchestrator.heldDeployment, hlink, hx, hst]
    exact List.mem_toFinset.mpr
      (List.mem_filterMap.mpr ⟨r, Table.mem_select.mpr ⟨hr, hheld⟩, hlink⟩)
  calc w.slots auto ≤ links.toFinset.card := Finset.card_le_card hsub
    _ ≤ links.length := List.toFinset_card_le links
    _ ≤ ProvisioningOrchestrator.activeProvisions w := List.length_filterMap_le _ _

/-! ### Changes that leave the slots alone -/

/-- No slot is taken or freed, no attempt is spawned, and no link moves. -/
structure Calm (w w' : World) : Prop where
  occupied : ∀ d, w'.occupied d = w.occupied d
  inFlight : ∀ d, w'.inFlight d = true → w.inFlight d = true
  link : ∀ run, (w.linkOf run).isSome = true → w'.linkOf run = w.linkOf run

lemma Calm.refl (w : World) : Calm w w := ⟨fun _ => rfl, fun _ => id, fun _ _ => rfl⟩

lemma Calm.trans {u v w : World} (huv : Calm u v) (hvw : Calm v w) : Calm u w where
  occupied d := (hvw.occupied d).trans (huv.occupied d)
  inFlight d := fun h => huv.inFlight d (hvw.inFlight d h)
  link run h := by
    have hv := huv.link run h
    exact (hvw.link run (by rw [hv]; exact h)).trans hv

lemma Calm.slots (h : Calm w w') : w'.slots auto ≤ w.slots auto :=
  slots_le_of_occupied fun d hd => (h.occupied d).symm.trans hd

lemma Calm.linkOf (h : Calm w w') {run d : Guid} (hd : w.linkOf run = some d) :
    w'.linkOf run = some d := by
  rw [h.link run (by rw [hd]; rfl), hd]

lemma Calm.held (h : Calm w w') {d : Guid} (hd : w.held d = true) : w'.held d = true := by
  obtain ⟨run, hrun⟩ := held_iff.mp hd
  exact held_iff.mpr ⟨run, h.linkOf hrun⟩

lemma Calm.linkedBut (h : Calm w w') {but : List Guid} (hw : LinkedBut auto but w) :
    LinkedBut auto but w' := fun d hauto hbut hocc =>
  h.held (hw d hauto hbut ((h.occupied d).symm.trans hocc))

lemma Calm.backed (h : Calm w w') (hw : Backed w) : Backed w' := fun d hd =>
  (h.occupied d).trans (hw d (h.inFlight d hd))

/-! ### Statements that leave the slots alone -/

/-- The writes of a run that move no link. -/
def RunWrite.leavesLink : RunWrite → Prop
  | .linkDeployment _ | .retryProvisioning .. => False
  | _ => True

/-- The writes of a deployment that neither revive nor release it. -/
def DeploymentWrite.leavesSlot : DeploymentWrite → Prop
  | .finish .. | .stop _ | .claimTeardown _ | .releaseFailed => False
  | .reap st .. => st.unfinished = true
  | _ => True

/-- The statements that take no slot, free none and move no link. -/
def Stmt.leavesSlots : Stmt → Prop
  | .insertDeployment .. | .deleteDeployment .. | .spawnDeploy .. => False
  | .updateRun _ u => u.leavesLink
  | .updateDeployment _ u => u.leavesSlot
  | _ => True

lemma RunWrite.link_set {u : RunWrite} (hu : u.leavesLink) (t : Time) (r : TestRun) :
    (u.set t r).provisioningDeploymentId = r.provisioningDeploymentId := by
  cases u with
  | linkDeployment d | retryProvisioning n b note => exact hu.elim
  | _ => rfl

/-- The link of a run after a statement that moves none. -/
lemma linkOf_exec {l : Stmt} (hl : l.leavesSlots) {run : Guid} (h : (w.linkOf run).isSome = true) :
    (l.exec w).linkOf run = w.linkOf run := by
  obtain ⟨d, hd⟩ := Option.isSome_iff_exists.mp h
  obtain ⟨r, hr, hlink⟩ := Option.bind_eq_some_iff.mp hd
  have hsame : (l.onRun w.now r).provisioningDeploymentId = r.provisioningDeploymentId := by
    cases l with
    | updateRun run' u =>
        rw [Stmt.onRun]
        split_ifs
        · exact RunWrite.link_set hl w.now r
        · rfl
    | _ => rfl
  rw [World.linkOf, find?_runs_exec hr l, World.linkOf, hr, Option.bind_some, Option.bind_some,
    hsame]

/-- The row of a deployment is torn down after such a statement if it was before. -/
lemma tornDown_onDeployment {l : Stmt} (hl : l.leavesSlots) (hd : Driven l w) (hw : Backed w)
    {d : Guid} {x : Deployment} (hx : w.deployments.find? d = some x) :
    (l.onDeployment w.now x).status = .tornDown ↔ x.status = .tornDown := by
  have hid : x.deploymentId = d := Table.key_of_find? hx
  -- an attempt in flight stands behind an outcome
  have hopen : ∀ k p, w.phaseOf k d = some p → p ≠ .over → x.status ≠ .tornDown := by
    intro k p hk hp
    obtain ⟨y, hy, hst⟩ := occupied_iff.mp (hw d (inFlight_iff.mpr ⟨k, p, hk, hp⟩))
    obtain rfl : x = y := Option.some.inj (hx.symm.trans hy)
    exact hst
  cases l with
  | updateDeployment d' u =>
      simp only [Stmt.onDeployment, Stmt.deploymentWrite?]
      split_ifs with hcond
      · obtain ⟨rfl, hg⟩ := hcond
        cases u with
        | setRunning now =>
            obtain ⟨k, hk⟩ := hd
            rw [hid] at hk
            exact iff_of_false (by simp [DeploymentWrite.set]) (hopen k _ hk (by decide))
        | flushLog log | stampInstallStart => rfl
        | reap st basis e now =>
            have hst : x.status = st := by
              rw [DeploymentWrite.guard, Bool.and_eq_true, beq_iff_eq] at hg
              exact hg.1
            refine iff_of_false (by simp [DeploymentWrite.set]) fun htorn => ?_
            have hunf : st.unfinished = true := hl
            rw [← hst, htorn] at hunf
            exact absurd hunf (by decide)
        | _ => exact hl.elim
      · rfl
  | finishAttempt k d' args now =>
      simp only [Stmt.onDeployment, Stmt.deploymentWrite?]
      split_ifs with hcond
      · obtain ⟨rfl, -⟩ := hcond
        have hk : w.phaseOf k x.deploymentId = some .driving := hd
        rw [hid] at hk
        refine iff_of_false ?_ (hopen k _ hk (by decide))
        by_cases hsucc : args.success = true <;> simp [DeploymentWrite.set, hsucc]
      · rfl
  | _ => rfl

/-- A statement that leaves the slots alone makes a calm change. -/
lemma calm_exec {l : Stmt} (hl : l.leavesSlots) (hd : Driven l w) (hw : Backed w) :
    Calm w (l.exec w) where
  occupied := by
    intro d
    have hdel : ∀ x : Deployment, ¬ l.deletes x := by
      intro x hdel
      cases l with
      | deleteDeployment d' p => exact hl
      | _ => exact hdel
    cases hx : w.deployments.find? d with
    | some x =>
        have htorn := tornDown_onDeployment hl hd hw hx
        rw [World.occupied, World.occupied, find?_deployments_exec hx (hdel x), hx,
          Option.any_some, Option.any_some, Bool.eq_iff_iff, bne_iff_ne, bne_iff_ne, ne_eq, ne_eq,
          htorn]
    | none =>
        cases hx' : (l.exec w).deployments.find? d with
        | none => rw [World.occupied, World.occupied, hx, hx']
        | some x' =>
            rcases deployments_exec_cases hx' with ⟨x, hsome, -⟩ | ⟨spec, now, rfl, -, -⟩
            · exact absurd (hx.symm.trans hsome) (by simp)
            · exact hl.elim
  inFlight := by
    intro d
    refine inFlight_of_exec hd fun d' j => ?_
    rintro rfl
    exact hl
  link := fun run h => linkOf_exec hl h

lemma leavesSlots_of_isEnvironment {l : Stmt} (hl : l.isEnvironment = true) : l.leavesSlots := by
  cases l <;> trivial

/-! ### Statements of the orchestrator -/

/-- What is occupied and in flight depends on the deployments and the attempts alone. -/
lemma occupied_congr (h : w'.deployments = w.deployments) (d : Guid) :
    w'.occupied d = w.occupied d := by
  rw [World.occupied, World.occupied, h]

lemma inFlight_congr (h : w'.drivers = w.drivers) (d : Guid) : w'.inFlight d = w.inFlight d := by
  rw [World.inFlight, World.inFlight, h]

/-- An added deployment takes one slot. -/
lemma occupied_insert {spec : DeploymentSpec} {now : Time} {d : Guid} :
    (Stmt.exec (.insertDeployment spec now) w).occupied d = true ↔
      d = w.deployments.next ∨ w.occupied d = true := by
  by_cases hd : d = w.deployments.next
  · subst hd
    simp [World.occupied, Stmt.exec, Table.find?_insert_self, newDeployment]
  · simp [World.occupied, Stmt.exec, Table.find?_insert_ne hd, hd]

/-- A dropped deployment is gone, and the others stay. -/
lemma occupied_delete {d d' : Guid} :
    (Stmt.exec (.deleteDeployment d none) w).occupied d' = true ↔
      d' ≠ d ∧ w.occupied d' = true := by
  simp only [occupied_iff, Stmt.exec, Table.find?_delete_eq_some, Option.all_none, and_true]
  constructor
  · rintro ⟨x, ⟨hx, hne⟩, hst⟩
    exact ⟨hne, x, hx, hst⟩
  · rintro ⟨hne, x, hx, hst⟩
    exact ⟨x, ⟨hx, hne⟩, hst⟩

/-- A release takes effect on one deployment and leaves it torn down. -/
lemma occupied_release {u : DeploymentWrite} (hu : ∀ t x, (u.set t x).status = .tornDown)
    {d d' : Guid} :
    (Stmt.exec (.updateDeployment d u) w).occupied d' = true ↔
      w.occupied d' = true ∧ ¬ (d' = d ∧ w.deployments.hits d u.guard = true) := by
  simp only [World.occupied, Stmt.exec, updateDeployments, Table.find?_update]
  cases hx : w.deployments.find? d' with
  | none => simp
  | some x =>
      by_cases hd : d' = d
      · subst hd
        by_cases hg : u.guard x = true <;> simp [Table.hits, hx, hg, hu]
      · simp [hd]

/-- A spawned attempt puts its deployment in flight. -/
lemma inFlight_spawn {d d' : Guid} {j : Json} :
    (Stmt.exec (.spawnDeploy d j) w).inFlight d' = true ↔ w.inFlight d' = true ∨ d' = d := by
  simp only [World.inFlight, Stmt.exec, List.any_append, List.any_cons, List.any_nil,
    Bool.or_false, Bool.or_eq_true, Bool.and_eq_true, beq_iff_eq]
  refine or_congr Iff.rfl ⟨fun h => h.1.symm, fun h => ⟨h.symm, by decide⟩⟩

/-- Linking a run that is linked to no deployment. -/
lemma linkOf_link {run d : Guid} (hhit : w.runs.hits run (RunWrite.linkDeployment d).guard = true) :
    (Stmt.exec (.updateRun run (.linkDeployment d)) w).linkOf run = some d ∧
      ∀ run', (w.linkOf run').isSome = true →
        (Stmt.exec (.updateRun run (.linkDeployment d)) w).linkOf run' = w.linkOf run' := by
  obtain ⟨r, hr, hg⟩ := Table.hits_iff.mp hhit
  refine ⟨?_, fun run' hlink => ?_⟩
  · simp [World.linkOf, Stmt.exec, updateRuns, Table.find?_update, hr, hg, RunWrite.set]
  · have hne : run' ≠ run := by
      rintro rfl
      simp only [RunWrite.guard, Bool.and_eq_true, Option.isNone_iff_eq_none] at hg
      rw [World.linkOf, hr, Option.bind_some, hg.2] at hlink
      exact absurd hlink Bool.false_ne_true
    rw [World.linkOf, Stmt.exec, updateRuns, Table.find?_update_ne hne, World.linkOf]

/-- A link that does not take effect changes nothing. -/
lemma linkOf_link_miss {run d run' : Guid}
    (hmiss : w.runs.hits run (RunWrite.linkDeployment d).guard = false) :
    (Stmt.exec (.updateRun run (.linkDeployment d)) w).linkOf run' = w.linkOf run' := by
  rw [World.linkOf, Stmt.exec, updateRuns, Table.find?_update, World.linkOf]
  cases hr : w.runs.find? run' with
  | none => rfl
  | some r =>
      have hnot : ¬ (run' = run ∧ (RunWrite.linkDeployment d).guard r = true) := by
        rintro ⟨rfl, hg⟩
        rw [Table.hits_eq_false_iff.mp hmiss r hr] at hg
        exact absurd hg Bool.false_ne_true
      rw [Option.map_some, if_neg hnot]

/-- A retry frees the link of its run alone. -/
lemma linkOf_retry {run run' : Guid} {n : ℕ} {b : Time} {note : String} (hne : run' ≠ run) :
    (Stmt.exec (.updateRun run (.retryProvisioning n b note)) w).linkOf run' = w.linkOf run' := by
  rw [World.linkOf, Stmt.exec, updateRuns, Table.find?_update_ne hne, World.linkOf]

/-! ### The runs of a promotion pass -/

namespace ProvisioningOrchestrator

lemma fst_provisioningPairs_sublist (rs : List TestRun) :
    ((rs.filterMap fun r => r.provisioningDeploymentId.map fun d =>
      (r.id, r.testConfigId, d)).map Prod.fst).Sublist (rs.map Keyed.key) := by
  induction rs with
  | nil => exact List.Sublist.slnil
  | cons r rs ih =>
      cases hd : r.provisioningDeploymentId with
      | none =>
          rw [List.filterMap_cons_none (by simp [hd])]
          exact ih.trans (List.sublist_cons_self _ _)
      | some d =>
          rw [List.filterMap_cons_some (by rw [hd]; rfl)]
          exact ih.cons_cons _

/-- The runs of a promotion pass are distinct. -/
lemma fst_provisioningPairs_nodup (w : World) : ((provisioningPairs w).map Prod.fst).Nodup := by
  have hids : ((w.runs.select fun r => r.status == .provisioning).map Keyed.key).Nodup :=
    w.runs.nodup.sublist (List.filter_sublist.map _)
  exact hids.sublist (fst_provisioningPairs_sublist _)

/-- They refer to the deployments they are read with. -/
lemma linkOf_of_mem_provisioningPairs {q : Guid × Guid × Guid} (hq : q ∈ provisioningPairs w) :
    w.linkOf q.1 = some q.2.2 := by
  obtain ⟨r, hr, hpair⟩ := List.mem_filterMap.mp hq
  obtain ⟨d, hd, rfl⟩ := Option.map_eq_some_iff.mp hpair
  have hfind : w.runs.find? r.id = some r := Table.find?_key (Table.mem_select.mp hr).1
  rw [World.linkOf, hfind, Option.bind_some, hd]

end ProvisioningOrchestrator

end Networker
