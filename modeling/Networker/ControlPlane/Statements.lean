/-
What one statement does to one row.

* `Stmt.onRun`, `find?_runs_exec`, `runs_exec_cases`: a statement updates a run by
  one `RunWrite`, or adds the run, or leaves it;
* `Stmt.onDeployment`, `find?_deployments_exec`, `deployments_exec_cases`: the same
  for deployments, which can also be deleted;
* `World.SameSetting`, `Stmt.keepsSetting`: the statements that leave the clock, the
  registry, the configs, the agents and the outside world as they are;
* `assigned_exec_iff`, `mem_unstamped_exec`: the assignments that were delivered and
  those whose stamp is still to be written.
-/
import Networker.ControlPlane.World

namespace Networker

open Data Concurrency

/-! ### Runs -/

/-- What a statement executed at `t` does to the row of a run. -/
def Stmt.onRun (t : Time) : Stmt → TestRun → TestRun
  | .updateRun run write, r => if r.id = run ∧ write.guard r = true then write.set t r else r
  | _, r => r

@[simp] lemma Stmt.id_onRun (t : Time) (l : Stmt) (r : TestRun) : (l.onRun t r).id = r.id := by
  cases l with
  | updateRun run write =>
      rw [onRun]
      split_ifs
      · exact write.id_set t r
      · rfl
  | _ => rfl

/-- A write of one run leaves the other rows alone. -/
lemma find?_updateRuns_ne {run j : Guid} (hj : j ≠ run) (u : RunWrite) (w : World) :
    (updateRuns run u w).find? j = w.runs.find? j :=
  Table.find?_update_ne hj

lemma run_id_of_find? {w : World} {run : Guid} {r : TestRun} (h : w.runs.find? run = some r) :
    r.id = run := Table.key_of_find? h

/-- The row of a run after a statement. -/
lemma find?_runs_exec {w : World} {run : Guid} {r : TestRun} (h : w.runs.find? run = some r)
    (l : Stmt) : (l.exec w).runs.find? run = some (l.onRun w.now r) := by
  have hid : r.id = run := Table.key_of_find? h
  cases l with
  | updateRun run' write =>
      simp only [Stmt.exec, updateRuns, Table.find?_update, h, Option.map_some, Stmt.onRun, hid]
  | insertRun cfg group tester now =>
      simp only [Stmt.exec, Stmt.onRun]
      exact Table.find?_insert_of_find? h
  | insertAttempt a =>
      simp only [Stmt.exec, Stmt.onRun]
      split_ifs <;> exact h
  | sendAssign agent run' runJson configJson =>
      simp only [Stmt.exec, Stmt.onRun]
      split_ifs <;> exact h
  | sendCancel agent run' =>
      simp only [Stmt.exec, Stmt.onRun]
      split_ifs <;> exact h
  | _ => exact h

/-- A row that is there after a statement was there before, or was just added. -/
lemma runs_exec_cases {w : World} {l : Stmt} {run : Guid} {r' : TestRun}
    (h : (l.exec w).runs.find? run = some r') :
    (∃ r, w.runs.find? run = some r ∧ r' = l.onRun w.now r) ∨
      (∃ cfg group tester now, l = .insertRun cfg group tester now ∧ run = w.runs.next ∧
        r' = newRun cfg group tester now run) := by
  cases hr : w.runs.find? run with
  | some r =>
      rw [find?_runs_exec hr, Option.some.injEq] at h
      exact Or.inl ⟨r, rfl, h.symm⟩
  | none =>
      cases l with
      | insertRun cfg group tester now =>
          by_cases hrun : run = w.runs.next
          · subst hrun
            simp only [Stmt.exec, Table.find?_insert_self, Option.some.injEq] at h
            exact Or.inr ⟨cfg, group, tester, now, rfl, rfl, h.symm⟩
          · simp only [Stmt.exec, Table.find?_insert_ne hrun, hr] at h
            exact absurd h (by simp)
      | updateRun run' write =>
          simp only [Stmt.exec, updateRuns, Table.find?_update, hr] at h
          exact absurd h (by simp)
      | insertAttempt a =>
          simp only [Stmt.exec] at h
          split_ifs at h <;> simp [hr] at h
      | sendAssign agent run' runJson configJson =>
          simp only [Stmt.exec] at h
          split_ifs at h <;> simp [hr] at h
      | sendCancel agent run' =>
          simp only [Stmt.exec] at h
          split_ifs at h <;> simp [hr] at h
      | _ => simp [Stmt.exec, hr] at h

/-! ### Deployments -/

/-- A write of one deployment leaves the other rows alone. -/
lemma find?_updateDeployments_ne {d j : Guid} (hj : j ≠ d) (u : DeploymentWrite) (w : World) :
    (updateDeployments d u w).find? j = w.deployments.find? j :=
  Table.find?_update_ne hj

/-- The write a statement sends to a deployment. -/
def Stmt.deploymentWrite? : Stmt → Option (Guid × DeploymentWrite)
  | .updateDeployment d write => some (d, write)
  | .finishAttempt _ d args now => some (d, .finish args now)
  | _ => none

/-- What a statement executed at `t` does to the row of a deployment that it does not
delete. -/
def Stmt.onDeployment (t : Time) (l : Stmt) (d : Deployment) : Deployment :=
  match l.deploymentWrite? with
  | some (id, write) => if d.deploymentId = id ∧ write.guard d = true then write.set t d else d
  | none => d

/-- The statement deletes the row of a deployment. -/
def Stmt.deletes (d : Deployment) : Stmt → Prop
  | .deleteDeployment id projectId =>
      d.deploymentId = id ∧ (projectId.all fun p => d.projectId == p) = true
  | _ => False

instance (d : Deployment) : (l : Stmt) → Decidable (l.deletes d)
  | .deleteDeployment id projectId => inferInstanceAs
      (Decidable (d.deploymentId = id ∧ (projectId.all fun p => d.projectId == p) = true))
  | .query | .insertRun .. | .updateRun .. | .insertAttempt .. | .insertArtifact ..
  | .promoteConfig .. | .insertDeployment .. | .updateDeployment .. | .finishAttempt ..
  | .spawnDeploy .. | .beginAttempt .. | .abandonAttempt .. | .spawnVmTeardown .. | .sendAssign ..
  | .sendCancel .. | .publish .. | .elapse .. | .connect .. | .disconnect .. | .breakSocket ..
  | .setPower .. | .setListening .. => isFalse id

@[simp] lemma Stmt.id_onDeployment (t : Time) (l : Stmt) (d : Deployment) :
    (l.onDeployment t d).deploymentId = d.deploymentId := by
  rw [onDeployment]
  split
  · split_ifs
    · exact DeploymentWrite.id_set t _ d
    · rfl
  · rfl

/-- The row of a deployment after a statement that does not delete it. -/
lemma find?_deployments_exec {w : World} {id : Guid} {d : Deployment}
    (h : w.deployments.find? id = some d) {l : Stmt} (hl : ¬ l.deletes d) :
    (l.exec w).deployments.find? id = some (l.onDeployment w.now d) := by
  have hid : d.deploymentId = id := Table.key_of_find? h
  cases l with
  | updateDeployment id' write =>
      simp only [Stmt.exec, updateDeployments, Table.find?_update, h, Option.map_some,
        Stmt.onDeployment, Stmt.deploymentWrite?, hid]
  | finishAttempt k id' args now =>
      simp only [Stmt.exec, updateDeployments, Table.find?_update, h, Option.map_some,
        Stmt.onDeployment, Stmt.deploymentWrite?, hid]
  | insertDeployment spec now =>
      simp only [Stmt.exec, Stmt.onDeployment, Stmt.deploymentWrite?]
      exact Table.find?_insert_of_find? h
  | deleteDeployment id' projectId =>
      refine Table.find?_delete_eq_some.mpr ⟨h, fun hdel => hl ?_⟩
      exact ⟨hid.trans hdel.1, hdel.2⟩
  | insertAttempt a =>
      simp only [Stmt.exec, Stmt.onDeployment, Stmt.deploymentWrite?]
      split_ifs <;> exact h
  | sendAssign agent run' runJson configJson =>
      simp only [Stmt.exec, Stmt.onDeployment, Stmt.deploymentWrite?]
      split_ifs <;> exact h
  | sendCancel agent run' =>
      simp only [Stmt.exec, Stmt.onDeployment, Stmt.deploymentWrite?]
      split_ifs <;> exact h
  | _ => exact h

/-- A row that is there after a statement was there before, or was just added. -/
lemma deployments_exec_cases {w : World} {l : Stmt} {id : Guid} {d' : Deployment}
    (h : (l.exec w).deployments.find? id = some d') :
    (∃ d, w.deployments.find? id = some d ∧ ¬ l.deletes d ∧ d' = l.onDeployment w.now d) ∨
      (∃ spec now, l = .insertDeployment spec now ∧ id = w.deployments.next ∧
        d' = newDeployment spec now id) := by
  cases hd : w.deployments.find? id with
  | some d =>
      have hdel : ¬ l.deletes d := by
        intro hdel
        cases l with
        | deleteDeployment id' projectId =>
            have hid : d.deploymentId = id := Table.key_of_find? hd
            obtain ⟨h1, h2⟩ := Table.find?_delete_eq_some.mp h
            rw [hd, Option.some.injEq] at h1
            subst h1
            exact h2 ⟨hid ▸ hdel.1, hdel.2⟩
        | _ => exact hdel
      rw [find?_deployments_exec hd hdel, Option.some.injEq] at h
      exact Or.inl ⟨d, rfl, hdel, h.symm⟩
  | none =>
      cases l with
      | insertDeployment spec now =>
          by_cases hid : id = w.deployments.next
          · subst hid
            simp only [Stmt.exec, Table.find?_insert_self, Option.some.injEq] at h
            exact Or.inr ⟨spec, now, rfl, rfl, h.symm⟩
          · simp only [Stmt.exec, Table.find?_insert_ne hid, hd] at h
            exact absurd h (by simp)
      | updateDeployment id' write =>
          simp only [Stmt.exec, updateDeployments, Table.find?_update, hd] at h
          exact absurd h (by simp)
      | finishAttempt k id' args now =>
          simp only [Stmt.exec, updateDeployments, Table.find?_update, hd] at h
          exact absurd h (by simp)
      | deleteDeployment id' projectId =>
          rw [(Table.find?_delete_eq_some.mp h).1] at hd
          exact absurd hd (by simp)
      | insertAttempt a =>
          simp only [Stmt.exec] at h
          split_ifs at h <;> simp [hd] at h
      | sendAssign agent run' runJson configJson =>
          simp only [Stmt.exec] at h
          split_ifs at h <;> simp [hd] at h
      | sendCancel agent run' =>
          simp only [Stmt.exec] at h
          split_ifs at h <;> simp [hd] at h
      | _ => simp [Stmt.exec, hd] at h

/-! ### The setting of the services -/

/-- The clock, the registry, the configs, the agents and the outside world are the
same. -/
structure World.SameSetting (w w' : World) : Prop where
  now : w'.now = w.now
  online : w'.online = w.online
  broken : w'.broken = w.broken
  configs : w'.configs = w.configs
  agents : w'.agents = w.agents
  testers : w'.testers = w.testers
  accounts : w'.accounts = w.accounts
  listening : w'.listening = w.listening

lemma World.SameSetting.refl (w : World) : w.SameSetting w := ⟨rfl, rfl, rfl, rfl, rfl, rfl, rfl, rfl⟩

lemma World.SameSetting.trans {u v w : World} (huv : u.SameSetting v) (hvw : v.SameSetting w) :
    u.SameSetting w where
  now := hvw.now.trans huv.now
  online := hvw.online.trans huv.online
  broken := hvw.broken.trans huv.broken
  configs := hvw.configs.trans huv.configs
  agents := hvw.agents.trans huv.agents
  testers := hvw.testers.trans huv.testers
  accounts := hvw.accounts.trans huv.accounts
  listening := hvw.listening.trans huv.listening

/-- Neither a move of the environment nor the promotion of a config. -/
def Stmt.keepsSetting : Stmt → Bool
  | .promoteConfig .. => false
  | l => !l.isEnvironment

lemma sameSetting_exec {l : Stmt} (hl : l.keepsSetting = true) (w : World) :
    w.SameSetting (l.exec w) := by
  cases l with
  | insertAttempt a =>
      simp only [Stmt.exec]
      split_ifs
      · exact .refl w
      · exact ⟨rfl, rfl, rfl, rfl, rfl, rfl, rfl, rfl⟩
  | sendAssign agent run x y =>
      simp only [Stmt.exec]
      split_ifs
      · exact ⟨rfl, rfl, rfl, rfl, rfl, rfl, rfl, rfl⟩
      · exact .refl w
  | sendCancel agent run =>
      simp only [Stmt.exec]
      split_ifs
      · exact ⟨rfl, rfl, rfl, rfl, rfl, rfl, rfl, rfl⟩
      · exact .refl w
  | _ => first | exact ⟨rfl, rfl, rfl, rfl, rfl, rfl, rfl, rfl⟩ | exact absurd hl Bool.false_ne_true

/-! ### Delivered assignments -/

/-- The run an `assign_run` frame is about. -/
def Delivery.assigned? (d : Delivery) : Option Guid :=
  match d.frame with
  | .assignRun run _ _ => some run
  | .cancelRun _ => none

/-- `assign_run` for the run has been delivered to the agent. -/
def World.assigned (w : World) (run agent : Guid) : Prop :=
  ∃ d ∈ w.outbox, d.assigned? = some run ∧ d.agent = agent

instance (w : World) (run agent : Guid) : Decidable (w.assigned run agent) :=
  inferInstanceAs (Decidable (∃ d ∈ w.outbox, d.assigned? = some run ∧ d.agent = agent))

/-- The agent and the run of an assignment that is sent. -/
def Stmt.assignment? : Stmt → Option (Guid × Guid)
  | .sendAssign agent run _ _ => some (agent, run)
  | _ => none

lemma Stmt.eq_sendAssign {l : Stmt} {agent run : Guid} (h : l.assignment? = some (agent, run)) :
    ∃ x y, l = .sendAssign agent run x y := by
  cases l with
  | sendAssign agent' run' x y =>
      obtain ⟨rfl, rfl⟩ := Prod.mk.inj (Option.some.inj h)
      exact ⟨x, y, rfl⟩
  | _ => exact absurd h (by simp [assignment?])

/-- Only a send that reaches its agent delivers an assignment. -/
lemma assigned_exec_iff {w : World} {l : Stmt} {run agent : Guid} :
    (l.exec w).assigned run agent ↔ w.assigned run agent ∨
      ∃ x y, l = .sendAssign agent run x y ∧ w.reachable agent = true := by
  cases l with
  | sendAssign agent' run' x' y' =>
      simp only [Stmt.exec]
      split_ifs with hr
      · simp only [World.assigned, List.mem_append, List.mem_singleton, Stmt.sendAssign.injEq]
        constructor
        · rintro ⟨d, hd | rfl, hrun, hag⟩
          · exact Or.inl ⟨d, hd, hrun, hag⟩
          · simp only [Delivery.assigned?, Option.some.injEq] at hrun hag
            exact Or.inr ⟨x', y', ⟨hag, hrun, rfl, rfl⟩, hag ▸ hr⟩
        · rintro (⟨d, hd, hrun, hag⟩ | ⟨x, y, ⟨rfl, rfl, rfl, rfl⟩, -⟩)
          · exact ⟨d, Or.inl hd, hrun, hag⟩
          · exact ⟨_, Or.inr rfl, rfl, rfl⟩
      · constructor
        · exact Or.inl
        · rintro (h | ⟨x, y, heq, hreach⟩)
          · exact h
          · obtain ⟨rfl, -⟩ := Stmt.sendAssign.inj heq
            exact absurd hreach hr
  | sendCancel agent' run' =>
      simp only [Stmt.exec]
      split_ifs with hr
      · simp only [World.assigned, List.mem_append, List.mem_singleton, false_and,
          exists_false, or_false]
        constructor
        · rintro ⟨d, hd | rfl, hrun, hag⟩
          · exact ⟨d, hd, hrun, hag⟩
          · exact absurd hrun (by simp [Delivery.assigned?])
        · rintro ⟨d, hd, hrun, hag⟩
          exact ⟨d, Or.inl hd, hrun, hag⟩
      · simp
  | insertAttempt a =>
      simp only [Stmt.exec]
      split_ifs <;> simp [World.assigned]
  | _ => simp [Stmt.exec, World.assigned]

/-- An assignment leaves the unstamped ones only by a stamp for its agent. -/
lemma mem_unstamped_exec {w : World} {run agent : Guid} (h : (run, agent) ∈ w.unstamped)
    (l : Stmt) : (run, agent) ∈ (l.exec w).unstamped ∨
      ∃ tester, l = .updateRun run (.stampAssignment agent tester) := by
  cases l with
  | updateRun run' write =>
      cases write with
      | stampAssignment agent' tester =>
          by_cases heq : (run, agent) = (run', agent')
          · obtain ⟨rfl, rfl⟩ := Prod.mk.inj heq
            exact Or.inr ⟨tester, rfl⟩
          · exact Or.inl ((List.mem_erase_of_ne heq).mpr h)
      | _ => exact Or.inl h
  | sendAssign agent' run' x y =>
      left
      simp only [Stmt.exec]
      split_ifs
      · exact List.mem_append_left _ h
      · exact h
  | sendCancel agent' run' =>
      left
      simp only [Stmt.exec]
      split_ifs <;> exact h
  | insertAttempt a =>
      left
      simp only [Stmt.exec]
      split_ifs <;> exact h
  | _ => exact Or.inl h

end Networker
