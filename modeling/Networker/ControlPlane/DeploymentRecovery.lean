/-
The recovery of interrupted deployments when the control plane starts
(`Background/DeploymentRecoveryService.cs`).

* `Candidate`, `recoverable`, `candidates`: the deployments a pass looks at;
* `linkedRunStatuses`, `skipped`: the look at the runs linked to one of them;
* `RecoveryWorld`: the shared state, with a log of the claims and of the re-runs;
* `RecoveryStmt`: the statements of a pass and what happens next to it;
* `recoverAsync`, `startAsync`: the claim pass and the startup around it;
* `startups`: the system of startup passes, any number of them for every restart.
-/
import Networker.ControlPlane.Statements

namespace Networker

open Data Concurrency

namespace DeploymentRecoveryService

/-! ### The queries -/

/-- `MaxRecoveryAttempts`. -/
def maxRecoveryAttempts : ℤ := 3

/-- `InterruptedRetryWindow`. -/
def interruptedRetryWindow : Time := minutes 30

/-- `ProvisioningFailureClassifier.InterruptedErrorPrefix`. -/
def interruptedErrorPrefix : String := "Deployment interrupted (install.sh received SIG"

/-- A row of the candidate query. -/
structure Candidate where
  deploymentId : Guid
  status : DeploymentStatus
  config : Json
  recoveryAttempts : ℤ

/-- The row failed with the marker of an interruption, recently. -/
def interrupted (interruptedCutoff : Time) (d : Deployment) : Bool :=
  d.status == .failed && (d.errorMessage.any fun m => Text.startsWith m interruptedErrorPrefix) &&
    d.finishedAt.any fun t => interruptedCutoff ≤ t

/-- The condition of the candidate query. -/
def recoverable (interruptedCutoff : Time) (d : Deployment) : Bool :=
  decide (d.recoveryAttempts < maxRecoveryAttempts) &&
    (d.status == .pending || d.status == .running || interrupted interruptedCutoff d)

/-- The columns the candidate query selects. -/
def candidate (d : Deployment) : Candidate :=
  ⟨d.deploymentId, d.status, d.config, d.recoveryAttempts⟩

def candidates (interruptedCutoff : Time) (w : World) : List Candidate :=
  (w.deployments.select (recoverable interruptedCutoff)).map candidate

/-- The statuses of the runs linked to a deployment. -/
def linkedRunStatuses (d : Guid) (w : World) : List RunStatus :=
  (w.runs.select fun r => r.provisioningDeploymentId == some d).map TestRun.status

/-- There are linked runs and none of them is `provisioning`. -/
def skipped (linkedRunStatuses : List RunStatus) : Bool :=
  !linkedRunStatuses.isEmpty && !linkedRunStatuses.contains .provisioning

/-- The `WHERE` of the claim, besides the id. -/
def claimGuard (c : Candidate) (d : Deployment) : Bool :=
  d.status == c.status && d.recoveryAttempts == c.recoveryAttempts

/-- The `SET` of the claim. -/
def claimSet (c : Candidate) (now : Time) (d : Deployment) : Deployment :=
  { d with status := .pending, recoveryAttempts := c.recoveryAttempts + 1, errorMessage := none,
           finishedAt := none, startedAt := some now }

lemma key_claimSet (c : Candidate) (now : Time) (d : Deployment) :
    Keyed.key (claimSet c now d) = Keyed.key d := rfl

end DeploymentRecoveryService

/-! ### The shared state -/

/-- A claim or a re-run of a deployment by a startup pass, with the statuses of the linked
runs at that moment. -/
structure Recovery where
  restart : ℕ
  deployment : Guid
  linked : List RunStatus
  deriving DecidableEq

/-- Some linked run is not over, or no run is linked. -/
def Wanted (linked : List RunStatus) : Prop := linked = [] ∨ ∃ s ∈ linked, s.terminal = false

instance (linked : List RunStatus) : Decidable (Wanted linked) :=
  inferInstanceAs (Decidable (_ ∨ _))

/-- The state the startup passes run in.  Besides the world it has the number of the
current restart and what the passes have done so far, the newest first. -/
structure RecoveryWorld where
  world : World
  restarts : ℕ
  /-- The passes that have started. -/
  passes : List ℕ
  /-- The passes whose startup is being cancelled. -/
  cancelled : List ℕ
  /-- The deployments a pass has found wanted and has not re-run or lost yet. -/
  considered : List (ℕ × Guid)
  /-- The deployments a pass has claimed and not re-run yet. -/
  waiting : List (ℕ × Guid)
  claims : List Recovery
  reruns : List Recovery

namespace RecoveryWorld

/-- The state before any pass. -/
def starting (w : World) : RecoveryWorld := ⟨w, 0, [], [], [], [], [], []⟩

/-- The entry a claim or a re-run makes now. -/
def entry (restart : ℕ) (d : Guid) (W : RecoveryWorld) : Recovery :=
  ⟨restart, d, DeploymentRecoveryService.linkedRunStatuses d W.world⟩

/-- The deployments after a claim. -/
def claimed (c : DeploymentRecoveryService.Candidate) (now : Time) (W : RecoveryWorld) :
    Table Deployment :=
  W.world.deployments.update c.deploymentId (DeploymentRecoveryService.claimGuard c)
    (DeploymentRecoveryService.claimSet c now) (DeploymentRecoveryService.key_claimSet c now)

end RecoveryWorld

open DeploymentRecoveryService in
/-- The statements of a startup pass, and what happens next to it. -/
inductive RecoveryStmt
  /-- The pass starts. -/
  | enter (pass : ℕ)
  /-- Look at the clock or at the cancellation token. -/
  | look
  | readCandidates (restart : ℕ) (interruptedCutoff : Time)
  | readLinked (pass : ℕ) (d : Guid)
  | claim (pass restart : ℕ) (c : Candidate) (now : Time)
  | spawnRerun (pass restart : ℕ) (d : Guid) (config : Json)
  /-- The startup logs that its claim pass has failed. -/
  | logFailed (pass : ℕ)
  /-- A statement of another service, here or in another replica. -/
  | other (l : Stmt)
  /-- The control plane is restarted. -/
  | restarted
  /-- The startup of the pass is cancelled. -/
  | cancelStart (pass : ℕ)

namespace RecoveryStmt

open DeploymentRecoveryService

/-- What happens next to the passes. -/
def isOutside : RecoveryStmt → Bool
  | other _ | restarted | cancelStart _ => true
  | _ => false

/-- What a statement does to the shared state. -/
def exec : RecoveryStmt → RecoveryWorld → RecoveryWorld
  | enter pass, W => { W with passes := pass :: W.passes }
  | look, W => W
  | readCandidates _ _, W => W
  | readLinked pass d, W =>
      if skipped (linkedRunStatuses d W.world) then W
      else { W with considered := (pass, d) :: W.considered }
  | claim pass restart c now, W =>
      if W.world.deployments.hits c.deploymentId (claimGuard c) then
        { W with world := { W.world with deployments := W.claimed c now }
                 waiting := (pass, c.deploymentId) :: W.waiting
                 claims := W.entry restart c.deploymentId :: W.claims }
      else { W with considered := W.considered.filter (· != (pass, c.deploymentId)) }
  | spawnRerun pass restart d config, W =>
      { W with world := Stmt.exec (.spawnDeploy d config) W.world
               considered := W.considered.filter (· != (pass, d))
               waiting := W.waiting.erase (pass, d)
               reruns := W.entry restart d :: W.reruns }
  | logFailed pass, W =>
      { W with considered := W.considered.filter (·.1 != pass)
               waiting := W.waiting.filter (·.1 != pass) }
  | other l, W => { W with world := l.exec W.world }
  | restarted, W => { W with world := W.world.restarted, restarts := W.restarts + 1 }
  | cancelStart pass, W => { W with cancelled := pass :: W.cancelled }

end RecoveryStmt

/-! ### The pass -/

/-- What a pass runs into. -/
inductive RecoveryError
  /-- `OperationCanceledException`. -/
  | cancelled

/-- A routine of the recovery service. -/
abbrev RecoverySvc (α : Type) : Type := Proc RecoveryStmt RecoveryError RecoveryWorld α

/-- A startup pass, with the restart it belongs to. -/
structure Startup where
  pass : ℕ
  restart : ℕ
  deriving DecidableEq

namespace DeploymentRecoveryService

/-- A deployment the pass has claimed for a re-run. -/
structure RecoveredDeployment where
  deploymentId : Guid
  config : Json
  priorStatus : DeploymentStatus
  attempt : ℤ

/-- What is recorded of a claimed candidate. -/
def Candidate.recovered (c : Candidate) : RecoveredDeployment :=
  ⟨c.deploymentId, c.config, c.status, c.recoveryAttempts + 1⟩

/-- The body of the loop over the candidates. -/
def recoverOne (t : Startup) (now : Time) (recovered : List RecoveredDeployment) (c : Candidate) :
    RecoverySvc (List RecoveredDeployment) := do
  let cancelled ← .issue .look fun W => W.cancelled.contains t.pass
  if cancelled then .raise .cancelled else
  let linkedRunStatuses ← .issue (.readLinked t.pass c.deploymentId) fun W =>
    linkedRunStatuses c.deploymentId W.world
  if skipped linkedRunStatuses then return recovered else
  let claimed ← .issue (.claim t.pass t.restart c now) fun W =>
    W.world.deployments.hits c.deploymentId (claimGuard c)
  return if claimed then recovered ++ [c.recovered] else recovered

/-- `RecoverAsync`. -/
def recoverAsync (t : Startup) : RecoverySvc (List RecoveredDeployment) := do
  let now ← .issue .look fun W => W.world.now
  let interruptedCutoff := now - interruptedRetryWindow
  let candidates ← .issue (.readCandidates t.restart interruptedCutoff) fun W =>
    candidates interruptedCutoff W.world
  Proc.fold (recoverOne t now) [] candidates

/-- `SpawnRerun`. -/
def spawnRerun (t : Startup) (r : RecoveredDeployment) : RecoverySvc Unit :=
  .issue (.spawnRerun t.pass t.restart r.deploymentId r.config) fun _ => ()

/-- `StartAsync`: a failed claim pass is logged and nothing is re-run. -/
def startAsync (t : Startup) : RecoverySvc Unit := do
  let recovered ← (do return some (← recoverAsync t)).rescue fun _ => do
    .issue (.logFailed t.pass) fun _ => none
  match recovered with
  | none => return ()
  | some recovered => Proc.each (spawnRerun t) recovered

end DeploymentRecoveryService

/-! ### The system of passes -/

/-- Startup passes side by side, any number of them for every restart, with everything else
in between. -/
def startups : System RecoveryStmt RecoveryError RecoveryWorld Startup where
  exec := RecoveryStmt.exec
  code := DeploymentRecoveryService.startAsync
  entry t := .enter t.pass
  admits _ t W := t.restart == W.restarts && !W.passes.contains t.pass
  moves l _ := l.isOutside

end Networker
