/-
The statements each service routine may issue.

One lemma for each routine: if a predicate holds of the statement forms in its
hypotheses, it holds of every statement the routine issues, in whatever states.
`Task.mayIssue` collects the forms for each task, and `Task.issues_mayIssue` is what
later proofs start from.
-/
import Networker.ControlPlane.System

namespace Networker

open Data Concurrency

variable {P : Stmt → Prop}

/-! ### The building blocks -/

namespace Svc

variable {α β : Type}

@[simp] lemma issues_read_bind {f : World → α} {k : α → Svc β} :
    (Svc.read f >>= k).Issues P ↔ P .query ∧ ∀ w, (k (f w)).Issues P := Iff.rfl

@[simp] lemma issues_exec_bind {l : Stmt} {k : Unit → Svc β} :
    (Svc.exec l >>= k).Issues P ↔ P l ∧ ∀ _ : World, (k ()).Issues P := Iff.rfl

@[simp] lemma issues_updateRun_bind {run : Guid} {write : RunWrite} {k : Bool → Svc β} :
    (Svc.updateRun run write >>= k).Issues P ↔
      P (.updateRun run write) ∧ ∀ w : World, (k (w.runs.hits run write.guard)).Issues P := Iff.rfl

@[simp] lemma issues_updateDeployment_bind {d : Guid} {write : DeploymentWrite}
    {k : Bool → Svc β} :
    (Svc.updateDeployment d write >>= k).Issues P ↔
      P (.updateDeployment d write) ∧
        ∀ w : World, (k (w.deployments.hits d write.guard)).Issues P := Iff.rfl

@[simp] lemma issues_publish_bind {e : DashboardEvent} {k : Unit → Svc β} :
    (Svc.publish e >>= k).Issues P ↔ P (.publish e) ∧ ∀ _ : World, (k ()).Issues P := Iff.rfl

@[simp] lemma issues_exec {l : Stmt} : (Svc.exec l).Issues P ↔ P l := by simp [Svc.exec]

@[simp] lemma issues_publish {e : DashboardEvent} : (Svc.publish e).Issues P ↔ P (.publish e) := by
  simp [Svc.publish]

@[simp] lemma issues_read {f : World → α} : (Svc.read f).Issues P ↔ P .query := by
  simp [Svc.read]

@[simp] lemma issues_updateDeployment {d : Guid} {write : DeploymentWrite} :
    (Svc.updateDeployment d write).Issues P ↔ P (.updateDeployment d write) := by
  simp [Svc.updateDeployment]

@[simp] lemma issues_lift {x : Except Fault α} : (Svc.lift x).Issues P := by
  cases x <;> trivial

lemma issues_lift_bind {x : Except Fault α} {k : α → Svc β} (h : ∀ a, (k a).Issues P) :
    (Svc.lift x >>= k).Issues P := issues_lift.bind h

end Svc

/-! ### The dispatcher -/

namespace RunDispatcher

lemma issues_selectTargetAgent (query : P .query) (projectId : String) (tester : Option Guid) :
    (selectTargetAgent projectId tester).Issues P := by
  simp only [selectTargetAgent, Svc.issues_read_bind]
  refine ⟨query, fun w => ?_⟩
  split
  · trivial
  · refine Svc.issues_read_bind.mpr ⟨query, fun w' => ?_⟩
    split
    · trivial
    · split
      · trivial
      · split
        · trivial
        · exact Svc.issues_read_bind.mpr ⟨query, fun _ => trivial⟩

lemma issues_resolveProxyEndpoint (query : P .query) (endpointRef : Json) :
    (resolveProxyEndpoint endpointRef).Issues P := by
  refine Svc.issues_lift_bind fun ref => ?_
  split
  · trivial
  · refine Svc.issues_read_bind.mpr ⟨query, fun w => ?_⟩
    split
    · trivial
    · exact Svc.issues_lift

lemma issues_wireEndpoint (query : P .query) (cfg : TestConfig) (workload : Json) :
    (wireEndpoint cfg workload).Issues P := by
  rw [wireEndpoint]
  split_ifs
  · refine (issues_resolveProxyEndpoint query _).bind fun resolved => ?_
    split <;> trivial
  · trivial

lemma issues_wireToken (h : Host) (query : P .query) (run : TestRun) (cfg : TestConfig)
    (agent : Guid) (workload : Json) : (wireToken h run cfg agent workload).Issues P := by
  rw [wireToken]
  split
  · split_ifs
    · exact Svc.issues_read_bind.mpr ⟨query, fun _ => trivial⟩
    · trivial
  · trivial

lemma issues_serializeForAssign (h : Host) (query : P .query) (run : TestRun) (cfg : TestConfig)
    (agent : Guid) : (serializeForAssign h run cfg agent).Issues P := by
  refine Svc.issues_lift_bind fun workloadText => ?_
  refine (issues_wireEndpoint query cfg workloadText).bind fun wire => ?_
  refine (issues_wireToken h query run cfg agent wire.2).bind fun workload => ?_
  exact Svc.issues_lift_bind fun _ => trivial

lemma issues_assignRun (query : P .query) (agent run : Guid) (runJson configJson : Json)
    (send : P (.sendAssign agent run runJson configJson)) :
    (assignRun agent run runJson configJson).Issues P := by
  refine Svc.issues_read_bind.mpr ⟨query, fun w => ?_⟩
  split
  · exact Svc.issues_lift_bind fun _ => ⟨send, fun _ => trivial⟩
  · trivial

lemma issues_cancelOnAgent (query : P .query) (agent run : Guid) (send : P (.sendCancel agent run)) :
    (cancelOnAgent agent run).Issues P := by
  refine Svc.issues_read_bind.mpr ⟨query, fun w => ?_⟩
  split
  · exact ⟨send, fun _ => trivial⟩
  · trivial

section Assign

variable (h : Host) (query : P .query)
  (publish : ∀ run agent, P (.publish (.jobUpdate run "queued" (some agent) none none)))

include query publish

lemma issues_tryAssign (run : TestRun) (cfg : TestConfig)
    (send : ∀ agent x y, P (.sendAssign agent run.id x y))
    (stamp : ∀ agent tester, P (.updateRun run.id (.stampAssignment agent tester))) :
    (tryAssign h run cfg).Issues P := by
  refine (issues_selectTargetAgent query _ _).bind fun target => ?_
  split
  · trivial
  · refine (issues_serializeForAssign h query run cfg _).bind fun wire => ?_
    refine (issues_assignRun query _ _ _ _ (send _ _ _)).bind fun sent => ?_
    split
    · exact ⟨query, fun _ => ⟨stamp _ _, fun _ => ⟨publish _ _, fun _ => trivial⟩⟩⟩
    · trivial

lemma issues_redispatchOne (candidate : TestRun × String)
    (send : ∀ agent x y, P (.sendAssign agent candidate.1.id x y))
    (stamp : ∀ agent tester, P (.updateRun candidate.1.id (.stampAssignment agent tester))) :
    (redispatchOne h candidate).Issues P := by
  rw [redispatchOne]
  split
  · trivial
  · refine Svc.issues_read_bind.mpr ⟨query, fun w => ?_⟩
    split
    · trivial
    · exact issues_tryAssign h query publish _ _ send stamp

variable (send : ∀ agent run x y, P (.sendAssign agent run x y))
  (stamp : ∀ run agent tester, P (.updateRun run (.stampAssignment agent tester)))

include send stamp

lemma issues_dispatchRun (run : Guid) : (dispatchRun h run).Issues P := by
  refine Svc.issues_read_bind.mpr ⟨query, fun w => ?_⟩
  split
  · trivial
  · refine Svc.issues_read_bind.mpr ⟨query, fun w' => ?_⟩
    split
    · trivial
    · split
      · trivial
      · exact (issues_tryAssign h query publish _ _ (fun _ => send _ _) (stamp _)).bind
          fun _ => trivial

lemma issues_launch (insert : ∀ cfg group tester now, P (.insertRun cfg group tester now))
    (config : Guid) (group tester : Option Guid) : (launch h config group tester).Issues P := by
  refine Svc.issues_read_bind.mpr ⟨query, fun w => ?_⟩
  split
  · trivial
  · refine Svc.issues_read_bind.mpr ⟨query, fun w' => ⟨insert _ _ _ _, fun w'' => ?_⟩⟩
    exact (issues_dispatchRun h query publish send stamp _).bind fun _ => trivial

lemma issues_redispatchQueued : (redispatchQueued h).Issues P := by
  refine Svc.issues_read_bind.mpr ⟨query, fun w => ?_⟩
  split
  · trivial
  · refine Svc.issues_read_bind.mpr ⟨query, fun w' => ?_⟩
    refine Svc.issues_read_bind.mpr ⟨query, fun w'' => ?_⟩
    exact Proc.Issues.count _ fun c _ =>
      issues_redispatchOne h query publish c (fun _ => send _ _) (stamp _)

end Assign

lemma issues_cancelTarget (query : P .query) (run : Option TestRun) :
    (cancelTarget run).Issues P := by
  cases run with
  | none => exact Svc.issues_read.mpr query
  | some r => exact issues_selectTargetAgent query _ _

lemma issues_fanOutCancel (query : P .query) (run : Guid) (send : ∀ agent, P (.sendCancel agent run))
    (target : Option Guid) : (fanOutCancel target run).Issues P := by
  cases target with
  | none => trivial
  | some agent => exact (issues_cancelOnAgent query agent run (send agent)).bind fun _ => trivial

lemma issues_cancelRun (query : P .query) (publish : ∀ e, P (.publish e)) (run : Guid)
    (cancel : ∀ now, P (.updateRun run (.cancel now))) (send : ∀ agent, P (.sendCancel agent run)) :
    (cancelRun run).Issues P := by
  refine Svc.issues_read_bind.mpr ⟨query, fun w => ?_⟩
  refine Svc.issues_updateRun_bind.mpr ⟨cancel _, fun w' => ?_⟩
  split
  · refine Svc.issues_read_bind.mpr ⟨query, fun w'' => ?_⟩
    refine (issues_cancelTarget query _).bind fun target => ?_
    refine (issues_fanOutCancel query run send target).bind fun _ => ?_
    exact ⟨query, fun _ => Svc.issues_publish.mpr (publish _)⟩
  · refine Svc.issues_read_bind.mpr ⟨query, fun w'' => ?_⟩
    split <;> trivial

end RunDispatcher

/-! ### Agent frames -/

/-- The run a frame names. -/
def AgentFrame.run? : AgentFrame → Option Guid
  | .runStarted run _ => some run
  | .runProgress run _ _ => some run
  | .attemptEvent run _ => some run
  | .runFinished run _ _ _ _ _ => some run
  | .error run _ => run

/-- The writes a frame of the agent may cause. -/
def RunWrite.ofFrame (agent : Guid) : RunWrite → Prop
  | .runStarted a _ _ => a = agent
  | .runFinished status _ => status.terminal = true
  | .runProgress _ _ | .attemptHeartbeat | .finalCounts _ _ | .attemptsLost _
  | .linkArtifact _ | .agentError _ => True
  | _ => False

/-- The run an event is about. -/
def DashboardEvent.run? : DashboardEvent → Option Guid
  | .jobUpdate run _ _ _ _ => some run
  | .attemptResult run _ => some run
  | .jobComplete run _ _ _ => some run
  | _ => none

namespace AgentMessageProcessor

-- no routine looks further into the text of a frame
attribute [local irreducible] isRelayedSubprocessOutput

section Frames

variable {run agent : Guid} (query : P .query) (publish : ∀ e, e.run? = some run → P (.publish e))
  (write : ∀ u, RunWrite.ofFrame agent u → P (.updateRun run u))

lemma issues_writeFinalCounts (query : P .query)
    (write : ∀ u, RunWrite.ofFrame agent u → P (.updateRun run u)) (ok failed : Option ℤ) :
    (writeFinalCounts run ok failed).Issues P := by
  cases ok with
  | none => trivial
  | some n =>
      cases failed with
      | none => trivial
      | some m =>
          refine Svc.issues_updateRun_bind.mpr ⟨write _ trivial, fun w => ?_⟩
          split
          · refine Svc.issues_read_bind.mpr ⟨query, fun w' => ?_⟩
            split
            · exact Svc.issues_updateRun_bind.mpr ⟨write _ trivial, fun _ => trivial⟩
            · trivial
          · trivial

lemma issues_writeArtifact (write : ∀ u, RunWrite.ofFrame agent u → P (.updateRun run u))
    (artifact : ∀ document, P (.insertArtifact run document)) (document : Option Json) :
    (writeArtifact run document).Issues P := by
  cases document with
  | none => trivial
  | some d => exact ⟨artifact d, fun _ => Svc.issues_updateRun_bind.mpr ⟨write _ trivial, fun _ => trivial⟩⟩

include query publish write

lemma issues_onRunStarted (startedAt : Time) : (onRunStarted agent run startedAt).Issues P := by
  refine Svc.issues_read_bind.mpr ⟨query, fun w => ?_⟩
  refine Svc.issues_updateRun_bind.mpr ⟨write _ rfl, fun w' => ?_⟩
  split
  · exact Svc.issues_publish.mpr (publish _ rfl)
  · trivial

omit query in
lemma issues_onAttemptEvent (insert : ∀ a : Attempt, a.runId = run → P (.insertAttempt a))
    (attempt : Json) : (onAttemptEvent run attempt).Issues P := by
  refine Svc.issues_updateRun_bind.mpr ⟨write _ trivial, fun w => ?_⟩
  have hpersist : (persistAttempt run attempt).Issues P := by
    rw [persistAttempt]
    split
    · exact Svc.issues_exec.mpr (insert _ rfl)
    · trivial
  exact hpersist.bind fun _ => Svc.issues_publish.mpr (publish _ rfl)

lemma issues_onRunFinished (artifact : ∀ document, P (.insertArtifact run document))
    (status : String) (document envelope : Option Json) (ok failed : Option ℤ) :
    (onRunFinished run status document envelope ok failed).Issues P := by
  rw [onRunFinished]
  split
  · trivial
  · rename_i st hst
    have hterm := RunStatus.terminal_ofTerminalText? hst
    refine Svc.issues_updateRun_bind.mpr ⟨write _ hterm, fun w => ?_⟩
    split
    · refine (issues_writeFinalCounts query write ok failed).bind fun _ => ?_
      refine (issues_writeArtifact write artifact document).bind fun _ => ?_
      exact Svc.issues_read_bind.mpr ⟨query, fun _ => Svc.issues_publish.mpr (publish _ rfl)⟩
    · trivial

lemma issues_onError (message : String) : (onError agent (some run) message).Issues P := by
  simp only [onError]
  split
  · trivial
  · refine Svc.issues_updateRun_bind.mpr ⟨write _ trivial, fun w => ?_⟩
    split
    · exact Svc.issues_read_bind.mpr ⟨query, fun _ => Svc.issues_publish.mpr (publish _ rfl)⟩
    · trivial

end Frames

/-- A frame leads to statements about the run it names alone. -/
lemma issues_handleFrame {agent : Guid} (f : AgentFrame) (query : P .query)
    (publish : ∀ run e, f.run? = some run → e.run? = some run → P (.publish e))
    (write : ∀ run u, f.run? = some run → RunWrite.ofFrame agent u → P (.updateRun run u))
    (insert : ∀ run a, f.run? = some run → Attempt.runId a = run → P (.insertAttempt a))
    (artifact : ∀ run document, f.run? = some run → P (.insertArtifact run document)) :
    (handleFrame agent f).Issues P := by
  cases f with
  | runStarted run startedAt =>
      exact issues_onRunStarted query (fun e => publish run e rfl) (fun u => write run u rfl) _
  | runProgress run success failure =>
      exact Svc.issues_updateRun_bind.mpr ⟨write run _ rfl trivial, fun _ => trivial⟩
  | attemptEvent run attempt =>
      exact issues_onAttemptEvent (fun e => publish run e rfl) (fun u => write run u rfl)
        (fun a => insert run a rfl) _
  | runFinished run status document envelope ok failed =>
      exact issues_onRunFinished query (fun e => publish run e rfl) (fun u => write run u rfl)
        (fun d => artifact run d rfl) _ _ _ _ _
  | error run message =>
      cases run with
      | none => trivial
      | some run =>
          exact issues_onError query (fun e => publish run e rfl) (fun u => write run u rfl) _

end AgentMessageProcessor

/-! ### The watchdog -/

/-- `pending` or `running`. -/
def DeploymentStatus.unfinished : DeploymentStatus → Bool
  | .pending | .running => true
  | _ => false

/-- The writes of the watchdog to a run. -/
def RunWrite.ofWatchdog : RunWrite → Prop
  | .reapRunning _ _ | .reapQueued _ _ | .reapProvisioning _ _ => True
  | _ => False

namespace WatchdogService

lemma unfinished_of_mem_staleDeployments {now : Time} {w : World} {d : Deployment}
    (hd : d ∈ staleDeployments now w) : d.status.unfinished = true := by
  have hstale := (Table.mem_select.mp hd).2
  rw [isStaleDeployment, Bool.and_eq_true] at hstale
  cases hst : d.status <;> simp_all [DeploymentStatus.unfinished]

variable (query : P .query) (publish : ∀ e, P (.publish e))
  (write : ∀ run u, RunWrite.ofWatchdog u → P (.updateRun run u))

include query publish write

lemma issues_reapRunningOne (h : Host) (now : Time) (run : TestRun) :
    (reapRunningOne h now run).Issues P := by
  refine Svc.issues_read_bind.mpr ⟨query, fun w => ?_⟩
  dsimp only
  split_ifs
  · trivial
  all_goals
    refine Svc.issues_updateRun_bind.mpr ⟨write _ _ trivial, fun w' => ?_⟩
    split
    · exact Svc.issues_publish_bind.mpr ⟨publish _, fun _ => trivial⟩
    · trivial

omit query in
lemma issues_reapQueuedOne (now : Time) (run : Guid) : (reapQueuedOne now run).Issues P := by
  refine Svc.issues_updateRun_bind.mpr ⟨write _ _ trivial, fun w => ?_⟩
  split
  · exact Svc.issues_publish_bind.mpr ⟨publish _, fun _ => trivial⟩
  · trivial

lemma issues_sweepQueued (now : Time) : (sweepQueued now).Issues P := by
  refine Svc.issues_read_bind.mpr ⟨query, fun w => ?_⟩
  split
  · trivial
  · refine Svc.issues_read_bind.mpr ⟨query, fun w' => ?_⟩
    split
    · trivial
    · refine Svc.issues_read_bind.mpr ⟨query, fun w'' => ?_⟩
      exact Proc.Issues.count _ fun run _ => issues_reapQueuedOne publish write now run

omit query publish write in
lemma issues_reapDeploymentOne (now : Time) (dep : Deployment)
    (reap : ∀ basis e, P (.updateDeployment dep.deploymentId (.reap dep.status basis e now))) :
    (reapDeploymentOne now dep).Issues P := by
  refine Svc.issues_lift_bind fun reapCutoff => ?_
  split
  · trivial
  · exact Svc.issues_lift_bind fun reapError => Svc.issues_updateDeployment.mpr (reap _ _)

omit write in
lemma issues_reapProvisioningOne (now : Time) (run : Guid × Option Guid)
    (reap : ∀ msg, P (.updateRun run.1 (.reapProvisioning msg now))) :
    (reapProvisioningOne now run).Issues P := by
  refine Svc.issues_read_bind.mpr ⟨query, fun w => ?_⟩
  split
  · trivial
  · refine Svc.issues_updateRun_bind.mpr ⟨reap _, fun w' => ?_⟩
    split
    · exact Svc.issues_publish_bind.mpr ⟨publish _, fun _ => trivial⟩
    · trivial

lemma issues_watchdogTick (h : Host) (reap : ∀ d st basis e now, st.unfinished = true →
      P (.updateDeployment d (.reap st basis e now))) :
    (watchdogTick h).Issues P := by
  refine Svc.issues_read_bind.mpr ⟨query, fun w => ?_⟩
  refine Svc.issues_read_bind.mpr ⟨query, fun w' => ?_⟩
  refine (Proc.Issues.count _ fun r _ =>
    issues_reapRunningOne query publish write h _ r).bind fun _ => ?_
  refine (issues_sweepQueued query publish write _).bind fun _ => ?_
  refine Svc.issues_read_bind.mpr ⟨query, fun w'' => ?_⟩
  refine (Proc.Issues.count _ fun d hd => issues_reapDeploymentOne _ d fun _ _ =>
    reap _ _ _ _ _ (unfinished_of_mem_staleDeployments hd)).bind fun _ => ?_
  refine Svc.issues_read_bind.mpr ⟨query, fun w3 => ?_⟩
  exact (Proc.Issues.count _ fun r _ =>
    issues_reapProvisioningOne query publish _ r fun _ => write _ _ trivial).bind fun _ => trivial

end WatchdogService

/-! ### The orchestrator -/

/-- The writes of the orchestrator to a run. -/
def RunWrite.ofOrchestrator : RunWrite → Prop
  | .accountGate _ | .linkDeployment _ | .retryProvisioning _ _ _ | .failProvisioning _
  | .requeuePromoted => True
  | _ => False

namespace ProvisioningOrchestrator

variable (query : P .query) (write : ∀ run u, RunWrite.ofOrchestrator u → P (.updateRun run u))

lemma issues_kickDeployment (run : TestRun) (spec : DeploymentSpec) (query : P .query)
    (insert : ∀ now, P (.insertDeployment spec now))
    (link : ∀ d, P (.updateRun run.id (.linkDeployment d)))
    (spawn : ∀ d, P (.spawnDeploy d spec.config)) (drop : ∀ d, P (.deleteDeployment d none)) :
    (kickDeployment run spec).Issues P := by
  refine Svc.issues_read_bind.mpr ⟨query, fun w => ⟨insert _, fun w' => ?_⟩⟩
  refine Svc.issues_updateRun_bind.mpr ⟨link _, fun w'' => ?_⟩
  split
  · exact Svc.issues_exec_bind.mpr ⟨spawn _, fun _ => trivial⟩
  · exact Svc.issues_exec_bind.mpr ⟨drop _, fun _ => trivial⟩

include query

lemma issues_resolveProvider (h : Host) (run : TestRun) (pending : PendingEndpoint)
    (gate : ∀ why, P (.updateRun run.id (.accountGate why))) :
    (resolveProvider h run pending).Issues P := by
  rw [resolveProvider]
  split_ifs
  · trivial
  · trivial
  · refine Svc.issues_read_bind.mpr ⟨query, fun w => ?_⟩
    split
    · trivial
    · split
      · trivial
      · split
        · exact Svc.issues_updateRun_bind.mpr ⟨gate _, fun _ => trivial⟩
        · trivial

section Kick

variable (gate : ∀ run why, P (.updateRun run (.accountGate why)))
  (link : ∀ run d, P (.updateRun run (.linkDeployment d)))
  (insert : ∀ spec now, P (.insertDeployment spec now)) (spawn : ∀ d j, P (.spawnDeploy d j))
  (drop : ∀ d, P (.deleteDeployment d none))

include gate link insert spawn drop

lemma issues_kickOne (h : Host) (run : TestRun) (cfg : TestConfig) :
    (kickOne h run cfg).Issues P := by
  rw [kickOne]
  split
  · trivial
  · refine (issues_resolveProvider query h run _ (gate _)).bind fun found => ?_
    split
    · trivial
    · exact issues_kickDeployment _ _ query (insert _) (link _) (fun _ => spawn _ _) drop

lemma issues_kickPendingRuns (h : Host) : (kickPendingRuns h).Issues P := by
  refine Svc.issues_read_bind.mpr ⟨query, fun w => ?_⟩
  split
  · trivial
  · refine Svc.issues_read_bind.mpr ⟨query, fun w' => ?_⟩
    refine Svc.issues_read_bind.mpr ⟨query, fun w'' => ?_⟩
    exact Proc.Issues.count _ fun c _ =>
      (issues_kickOne query gate link insert spawn drop h c.1 c.2).rescue fun _ => trivial

end Kick

section Retry

include write

lemma issues_retryOrFail (runId d : Guid) (backoff : ℕ → Time) (note : ℕ → String)
    (exhausted : String) (release : P (.updateDeployment d .releaseFailed)) :
    (retryOrFail runId d backoff note exhausted).Issues P := by
  refine Svc.issues_read_bind.mpr ⟨query, fun w => ?_⟩
  split
  · refine Svc.issues_updateRun_bind.mpr ⟨write _ _ trivial, fun w' => ?_⟩
    exact Svc.issues_updateDeployment_bind.mpr ⟨release, fun _ => trivial⟩
  · exact Svc.issues_updateRun_bind.mpr ⟨write _ _ trivial, fun _ => trivial⟩

lemma issues_handleFailedDeployment (runId : Guid) (dep : Deployment)
    (release : ∀ d, P (.updateDeployment d .releaseFailed)) :
    (handleFailedDeployment runId dep).Issues P := by
  simp only [handleFailedDeployment]
  split_ifs
  · exact issues_retryOrFail query write _ _ _ _ _ (release _)
  · exact issues_retryOrFail query write _ _ _ _ _ (release _)
  · exact Svc.issues_updateRun_bind.mpr ⟨write _ _ trivial, fun _ => trivial⟩

end Retry

section Promote

variable {runId : Guid} (fail : ∀ msg, P (.updateRun runId (.failProvisioning msg)))

include fail

lemma issues_gateReadiness (dep : Deployment) (host : String) (port : ℤ) :
    (gateReadiness runId dep host port).Issues P := by
  refine Svc.issues_read_bind.mpr ⟨query, fun w => ?_⟩
  split
  · trivial
  · refine Svc.issues_read_bind.mpr ⟨query, fun w' => ?_⟩
    dsimp only
    split
    · trivial
    · exact Svc.issues_updateRun_bind.mpr ⟨fail _, fun _ => trivial⟩

lemma issues_promote (config : Guid) (dep : Deployment)
    (back : P (.updateRun runId .requeuePromoted)) (rewrite : ∀ c e v, P (.promoteConfig c e v)) :
    (promote runId config dep).Issues P := by
  have hrequeue : (requeue runId).Issues P :=
    Svc.issues_updateRun_bind.mpr ⟨back, fun _ => trivial⟩
  refine Svc.issues_read_bind.mpr ⟨query, fun w => ?_⟩
  split
  · trivial
  · split
    · rw [promoteRewritten]
      split
      · exact hrequeue
      · refine (issues_gateReadiness query fail _ _ _).bind fun gate => ?_
        split
        · exact hrequeue
        · trivial
    · rw [promoteFresh]
      split
      · exact Svc.issues_updateRun_bind.mpr ⟨fail _, fun _ => trivial⟩
      · refine (issues_gateReadiness query fail _ _ _).bind fun gate => ?_
        split
        · exact Svc.issues_exec_bind.mpr ⟨rewrite _ _ _, fun _ => hrequeue⟩
        · trivial

end Promote

include write in
lemma issues_promoteProvisioningRuns (rewrite : ∀ c e v, P (.promoteConfig c e v))
    (release : ∀ d, P (.updateDeployment d .releaseFailed)) :
    promoteProvisioningRuns.Issues P := by
  refine Svc.issues_read_bind.mpr ⟨query, fun w => ?_⟩
  refine Proc.Issues.count _ fun p _ => Proc.Issues.rescue ?_ fun _ => trivial
  refine Svc.issues_read_bind.mpr ⟨query, fun w' => ?_⟩
  split
  · trivial
  · split
    · exact (issues_promote query (fun _ => write _ _ trivial) _ _ (write _ _ trivial) rewrite).bind fun _ => trivial
    · exact issues_handleFailedDeployment query write _ _ release
    · exact Svc.issues_updateRun_bind.mpr ⟨write _ _ trivial, fun _ => trivial⟩
    · trivial

lemma issues_spawnTeardown (dep : Deployment) (hosts : List String)
    (spawnVm : ∀ t, P (.spawnVmTeardown t)) : (spawnTeardown dep hosts).Issues P := by
  refine Svc.issues_read_bind.mpr ⟨query, fun w => ?_⟩
  dsimp only
  split
  · split
    · trivial
    · exact Svc.issues_exec.mpr (spawnVm _)
  · trivial

lemma issues_teardownFinishedRuns (claim : ∀ d st, P (.updateDeployment d (.claimTeardown st)))
    (spawnVm : ∀ t, P (.spawnVmTeardown t)) : teardownFinishedRuns.Issues P := by
  refine Svc.issues_read_bind.mpr ⟨query, fun w => ?_⟩
  refine Svc.issues_read_bind.mpr ⟨query, fun w' => ?_⟩
  split
  · trivial
  · refine Svc.issues_read_bind.mpr ⟨query, fun w'' => ?_⟩
    refine Proc.Issues.count _ fun c _ => ?_
    refine Svc.issues_read_bind.mpr ⟨query, fun w3 => ?_⟩
    split
    · trivial
    · dsimp only
      split
      · trivial
      · refine Svc.issues_updateDeployment_bind.mpr ⟨claim _ _, fun w4 => ?_⟩
        split
        · exact (issues_spawnTeardown query _ _ spawnVm).bind fun _ => trivial
        · trivial

end ProvisioningOrchestrator

/-! ### The deploy runner and the deployment endpoints -/

/-- The writes of an attempt to its deployment besides its terminal write. -/
def DeploymentWrite.ofAttempt : DeploymentWrite → Prop
  | .setRunning _ | .flushLog _ | .stampInstallStart => True
  | _ => False

namespace DeployRunner

variable {d k : Guid} (query : P .query) (publish : ∀ e, e.run? = none → P (.publish e))
  (write : ∀ u, DeploymentWrite.ofAttempt u → P (.updateDeployment d u))

include publish write

lemma issues_installStep (s : InstallStep) : (installStep d s).Issues P := by
  cases s with
  | output line stream => exact Svc.issues_publish.mpr (publish _ rfl)
  | flushLog log => exact Svc.issues_updateDeployment_bind.mpr ⟨write _ trivial, fun _ => trivial⟩
  | installPhaseStarted =>
      exact Svc.issues_updateDeployment_bind.mpr ⟨write _ trivial, fun _ => trivial⟩

include query

lemma issues_runDeployment (finish : ∀ args now, P (.finishAttempt k d args now))
    (abandon : P (.abandonAttempt k)) (o : Outcome) : (runDeployment k d o).Issues P := by
  have hrunning : (setRunning d).Issues P :=
    Svc.issues_read_bind.mpr ⟨query, fun _ => Svc.issues_updateDeployment_bind.mpr
      ⟨write _ trivial, fun _ => Svc.issues_publish.mpr (publish _ rfl)⟩⟩
  have hfinish : ∀ args, (DeployRunner.finish k d args).Issues P := fun args =>
    Svc.issues_read_bind.mpr ⟨query, fun _ => Svc.issues_exec_bind.mpr
      ⟨finish _ _, fun _ => Svc.issues_publish.mpr (publish _ rfl)⟩⟩
  have hsteps : ∀ steps, (Proc.each (installStep d) steps).Issues P := fun steps =>
    Proc.Issues.each _ fun s _ => issues_installStep publish write s
  cases o with
  | refused log error => exact hfinish _
  | ran steps args lateStamp =>
      refine hrunning.bind fun _ => (hsteps steps).bind fun _ => (hfinish args).bind fun _ => ?_
      split
      · exact issues_installStep publish write _
      · trivial
  | faulted steps =>
      exact hrunning.bind fun _ => (hsteps steps).bind fun _ => Svc.issues_exec.mpr abandon

end DeployRunner

namespace DeploymentWriteEndpoints

variable (query : P .query)

include query

lemma issues_createAndSpawn (preflight : Json → List String) (projectId name : String)
    (config : Json) (createdBy : Option Guid) (insert : ∀ spec now, P (.insertDeployment spec now))
    (spawn : ∀ d j, P (.spawnDeploy d j)) :
    (createAndSpawn preflight projectId name config createdBy).Issues P := by
  rw [createAndSpawn]
  split
  · trivial
  · refine Svc.issues_read_bind.mpr ⟨query, fun w => ⟨insert _ _, fun w' => ?_⟩⟩
    exact Svc.issues_exec_bind.mpr ⟨spawn _ _, fun _ => trivial⟩

lemma issues_stopDeployment (publish : ∀ e, e.run? = none → P (.publish e)) (projectId : String) (d : Guid)
    (stop : ∀ now, P (.updateDeployment d (.stop now))) :
    (stopDeployment projectId d).Issues P := by
  refine Svc.issues_read_bind.mpr ⟨query, fun w => ?_⟩
  split
  · trivial
  · split
    · refine Svc.issues_read_bind.mpr ⟨query, fun w' => ?_⟩
      refine Svc.issues_updateDeployment_bind.mpr ⟨stop _, fun w'' => ?_⟩
      split
      · exact Svc.issues_publish.mpr (publish _ rfl)
      · trivial
    · trivial

lemma issues_updateDeployment (projectId : String) (d : Guid) (spawn : ∀ j, P (.spawnDeploy d j)) :
    (updateDeployment projectId d).Issues P := by
  refine Svc.issues_read_bind.mpr ⟨query, fun w => ?_⟩
  split
  · trivial
  · exact Svc.issues_lift_bind fun config => Svc.issues_exec.mpr (spawn _)

lemma issues_deleteDeployment (projectId : String) (d : Guid)
    (delete : P (.deleteDeployment d (some projectId))) (spawnVm : ∀ t, P (.spawnVmTeardown t)) :
    (deleteDeployment projectId d).Issues P := by
  refine Svc.issues_read_bind.mpr ⟨query, fun w => ?_⟩
  split
  · trivial
  · refine Svc.issues_read_bind.mpr ⟨query, fun w' => ?_⟩
    dsimp only
    refine ⟨delete, fun w'' => ?_⟩
    dsimp only [Proc.bind]
    split
    · split
      · exact Svc.issues_exec.mpr (spawnVm _)
      · trivial
    · trivial

end DeploymentWriteEndpoints

/-! ### Tasks -/

/-- The statements that assign a run to an agent. -/
def Stmt.assigns : Stmt → Prop
  | .query | .publish _ | .sendAssign .. => True
  | .updateRun _ (.stampAssignment ..) => True
  | _ => False

/-- The statements a task may issue. -/
def Task.mayIssue (t : Task) (l : Stmt) : Prop :=
  match t with
  | .launch .. =>
      match l with
      | .insertRun .. => True
      | l => l.assigns
  | .dispatch _ => l.assigns
  | .redispatch => l.assigns
  | .cancel r =>
      match l with
      | .query | .publish _ => True
      | .updateRun run (.cancel _) => run = r
      | .sendCancel _ run => run = r
      | _ => False
  | .frame agent f =>
      match l with
      | .query => True
      | .publish e => ∃ run, f.run? = some run ∧ e.run? = some run
      | .updateRun run u => f.run? = some run ∧ u.ofFrame agent
      | .insertAttempt a => f.run? = some a.runId
      | .insertArtifact run _ => f.run? = some run
      | _ => False
  | .watchdog =>
      match l with
      | .query | .publish _ => True
      | .updateRun _ u => u.ofWatchdog
      | .updateDeployment _ (.reap st ..) => st.unfinished = true
      | _ => False
  | .orchestrator =>
      match l with
      | .query | .promoteConfig .. | .spawnVmTeardown _ => True
      | .updateRun _ u => u.ofOrchestrator
      | .insertDeployment .. | .spawnDeploy .. | .deleteDeployment _ none => True
      | .updateDeployment _ .releaseFailed | .updateDeployment _ (.claimTeardown _) => True
      | _ => False
  | .reaper _ => l = .query
  | .deploy k d _ =>
      match l with
      | .query | .publish _ => True
      | .beginAttempt k' | .abandonAttempt k' => k' = k
      | .updateDeployment d' u => d' = d ∧ u.ofAttempt
      | .finishAttempt k' d' _ _ => k' = k ∧ d' = d
      | _ => False
  | .createDeployment .. =>
      match l with
      | .query | .insertDeployment .. | .spawnDeploy .. => True
      | _ => False
  | .stopDeployment _ d =>
      match l with
      | .query | .publish _ => True
      | .updateDeployment d' (.stop _) => d' = d
      | _ => False
  | .updateDeployment _ d =>
      match l with
      | .query => True
      | .spawnDeploy d' _ => d' = d
      | _ => False
  | .deleteDeployment p d =>
      match l with
      | .query | .spawnVmTeardown _ => True
      | .deleteDeployment d' p' => d' = d ∧ p' = some p
      | _ => False

/-- A task issues only the statements listed for it. -/
theorem Task.issues_mayIssue (h : Host) (t : Task) :
    t.mayIssue t.entry ∧ (Task.code h t).Issues t.mayIssue := by
  cases t with
  | launch config group tester =>
      refine ⟨trivial, Proc.Issues.bind ?_ fun _ => trivial⟩
      exact RunDispatcher.issues_launch h trivial (fun _ _ => trivial) (fun _ _ _ _ => trivial)
        (fun _ _ _ => trivial) (fun _ _ _ _ => trivial) _ _ _
  | dispatch run =>
      exact ⟨trivial, RunDispatcher.issues_dispatchRun h trivial (fun _ _ => trivial)
        (fun _ _ _ _ => trivial) (fun _ _ _ => trivial) run⟩
  | redispatch =>
      refine ⟨trivial, Proc.Issues.bind ?_ fun _ => trivial⟩
      exact RunDispatcher.issues_redispatchQueued h trivial (fun _ _ => trivial)
        (fun _ _ _ _ => trivial) fun _ _ _ => trivial
  | cancel run =>
      exact ⟨trivial, RunDispatcher.issues_cancelRun trivial (fun _ => trivial) run
        (fun _ => rfl) fun _ => rfl⟩
  | frame agent f =>
      refine ⟨trivial, AgentMessageProcessor.issues_handleFrame f trivial ?_ ?_ ?_ ?_⟩
      · exact fun run e hf he => ⟨run, hf, he⟩
      · exact fun run u hf hu => ⟨hf, hu⟩
      · exact fun run a hf ha => hf.trans (congrArg some ha.symm)
      · exact fun run document hf => hf
  | watchdog =>
      exact ⟨trivial, WatchdogService.issues_watchdogTick trivial (fun _ => trivial)
        (fun _ _ hu => hu) h fun _ _ _ _ _ hst => hst⟩
  | orchestrator =>
      refine ⟨trivial, Proc.Issues.bind ?_ fun _ => Proc.Issues.bind ?_ fun _ =>
        Proc.Issues.bind ?_ fun _ => trivial⟩
      · exact ProvisioningOrchestrator.issues_kickPendingRuns trivial (fun _ _ => trivial)
          (fun _ _ => trivial) (fun _ _ => trivial) (fun _ _ => trivial) (fun _ => trivial) h
      · exact ProvisioningOrchestrator.issues_promoteProvisioningRuns trivial (fun _ _ hu => hu)
          (fun _ _ _ => trivial) fun _ => trivial
      · exact ProvisioningOrchestrator.issues_teardownFinishedRuns trivial (fun _ _ => trivial)
          fun _ => trivial
  | reaper resources =>
      refine ⟨rfl, Proc.Issues.bind ?_ fun _ => trivial⟩
      refine Svc.issues_read_bind.mpr ⟨rfl, fun w => ?_⟩
      refine Svc.issues_read_bind.mpr ⟨rfl, fun w' => ?_⟩
      refine Svc.issues_read_bind.mpr ⟨rfl, fun w'' => ?_⟩
      exact Svc.issues_lift_bind fun _ => trivial
  | deploy k d outcome =>
      exact ⟨rfl, DeployRunner.issues_runDeployment (P := Task.mayIssue (.deploy k d outcome)) trivial
        (fun _ _ => trivial)
        (fun _ hu => ⟨rfl, hu⟩) (fun _ _ => ⟨rfl, rfl⟩) rfl outcome⟩
  | createDeployment projectId name config createdBy =>
      refine ⟨trivial, Proc.Issues.bind ?_ fun _ => trivial⟩
      exact DeploymentWriteEndpoints.issues_createAndSpawn trivial _ _ _ _ _ (fun _ _ => trivial)
        fun _ _ => trivial
  | stopDeployment projectId d =>
      exact ⟨trivial, DeploymentWriteEndpoints.issues_stopDeployment trivial (fun _ _ => trivial) _ _
        fun _ => rfl⟩
  | updateDeployment projectId d =>
      exact ⟨trivial, DeploymentWriteEndpoints.issues_updateDeployment trivial _ _ fun _ => rfl⟩
  | deleteDeployment projectId d =>
      exact ⟨trivial, DeploymentWriteEndpoints.issues_deleteDeployment trivial _ _ ⟨rfl, rfl⟩
        fun _ => trivial⟩

end Networker
