/-
The deploy runner and the deployment endpoints
(`Provisioning/DeployRunner.cs`, `Endpoints/DeploymentWriteEndpoints.cs`).

* `InstallStep`, `Outcome`: what an attempt of the installer does; the installer
  itself is outside the repository's services, so an outcome is an input;
* `runDeployment`: one detached attempt, from the flip to `running` to the
  terminal write; none of its status writes looks at the current status;
* `createAndSpawn`, `stopDeployment`, `updateDeployment`, `deleteDeployment`: the
  endpoints.
-/
import Networker.ControlPlane.Provisioning

namespace Networker

open Data Concurrency

namespace DeployRunner

/-- What happens while the installer runs. -/
inductive InstallStep
  | output (line stream : String)
  | flushLog (log : String)
  | installPhaseStarted

/-- How an attempt goes. -/
inductive Outcome
  /-- It ends before the flip to `running`: a rejected plan, no installer. -/
  | refused (log : Option String) (error : String)
  /-- The installer runs and ends; the start stamp of its install phase may be
  written late, after the terminal write. -/
  | ran (steps : List InstallStep) (args : FinishArgs) (lateStamp : Bool)
  /-- An unhandled exception after the flip to `running`. -/
  | faulted (steps : List InstallStep)

/-- `SetStatusAsync(…, "running")`. -/
def setRunning (d : Guid) : Svc Unit := do
  let now ← Svc.read World.now
  let _ ← Svc.updateDeployment d (.setRunning now)
  Svc.publish (.deployLog d "Deployment started..." "stdout")

/-- One step of the installer. -/
def installStep (d : Guid) : InstallStep → Svc Unit
  | .output line stream => Svc.publish (.deployLog d line stream)
  | .flushLog log => do
      let _ ← Svc.updateDeployment d (.flushLog log)
      return ()
  | .installPhaseStarted => do
      let _ ← Svc.updateDeployment d .stampInstallStart
      return ()

/-- `FinishAsync`, the terminal write of attempt `k`. -/
def finish (k d : Guid) (args : FinishArgs) : Svc Unit := do
  let now ← Svc.read World.now
  Svc.exec (.finishAttempt k d args now)
  Svc.publish (.deployComplete d (if args.success then "completed" else "failed") args.ips)

/-- `RunDeploymentAsync`, as attempt `k`. -/
def runDeployment (k d : Guid) : Outcome → Svc Unit
  | .refused log error => finish k d ⟨false, [], none, log, some error, none, none⟩
  | .ran steps args lateStamp => do
      setRunning d
      Proc.each (installStep d) steps
      finish k d args
      if lateStamp then installStep d .installPhaseStarted else return ()
  | .faulted steps => do
      setRunning d
      Proc.each (installStep d) steps
      Svc.exec (.abandonAttempt k)

end DeployRunner

namespace DeploymentWriteEndpoints

/-- The row of a project's deployment. -/
def findScoped (projectId : String) (d : Guid) (w : World) : Option Deployment :=
  (w.deployments.find? d).filter fun x => x.projectId == projectId

/-- `CreateAndSpawnAsync`; `preflight` lists the contradictions of the config. -/
def createAndSpawn (preflight : Json → List String) (projectId name : String) (config : Json)
    (createdBy : Option Guid) : Svc (Option Guid) := do
  if preflight config != [] then return none else
  let now ← Svc.read World.now
  let d ← .issue (.insertDeployment ⟨name, config, createdBy, projectId, none⟩ now)
    fun w => w.deployments.next
  Svc.exec (.spawnDeploy d config)
  return some d

/-- Stop a deploy: reads the row, and saves `cancelled` if it was `pending` or
`running` when it was read. -/
def stopDeployment (projectId : String) (d : Guid) : Svc Unit := do
  match ← Svc.read (findScoped projectId d) with
  | none => return ()
  | some row =>
      if row.status == .running || row.status == .pending then
        let now ← Svc.read World.now
        if ← Svc.updateDeployment d (.stop now) then
          Svc.publish (.deployComplete d "cancelled" [])
        else .raise .concurrency
      else return ()

/-- The stored config with the tests switched off. -/
def updateConfig (config : Json) : Except Fault Json :=
  (Json.parse config).map fun c =>
    (if c.isObj then c else .obj []).set "tests" (.obj [("run_tests", .bool false)])

/-- Re-run the deploy of an existing deployment in place. -/
def updateDeployment (projectId : String) (d : Guid) : Svc Unit := do
  match ← Svc.read (findScoped projectId d) with
  | none => return ()
  | some row =>
      let config ← Svc.lift (updateConfig row.config)
      Svc.exec (.spawnDeploy d config)

/-- `ParseHosts`: the non-empty strings of an array column. -/
def parseHosts (endpointIps : Option Json) : List String :=
  match endpointIps.map Json.parse with
  | some (.ok (.arr xs)) => (xs.filterMap Json.str?).filter (· != "")
  | _ => []

/-- The provider and the region of a deployment's account, with the provider of the
config as fallback. -/
def teardownInputs (cloudAccountId : Option Guid) (config : Json) (w : World) :
    Option String × Option String :=
  match cloudAccountId.bind w.accounts.find? with
  | some acct => (some acct.provider, acct.regionDefault)
  | none => (firstProviderFromConfig config, none)

/-- Delete a deployment and tear its endpoints down in the background. -/
def deleteDeployment (projectId : String) (d : Guid) : Svc Unit := do
  match ← Svc.read (findScoped projectId d) with
  | none => return ()
  | some row =>
      let endpoints := parseHosts row.endpointIps
      let (provider, region) ← Svc.read (teardownInputs row.cloudAccountId row.config)
      let deleted ← .issue (.deleteDeployment d (some projectId)) fun w =>
        (findScoped projectId d w).isSome
      match provider.filter (· != "") with
      | some p =>
          if deleted && !endpoints.isEmpty then
            Svc.exec (.spawnVmTeardown ⟨d, p, region, endpoints⟩)
          else return ()
      | none => return ()

end DeploymentWriteEndpoints

end Networker
