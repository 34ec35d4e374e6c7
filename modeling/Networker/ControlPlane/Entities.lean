/-
The rows of the control plane's database.

* `Guid`, `Guid.text`, `Guid.parse?`: surrogate ids with their text form;
* `Time`: instants and spans in ticks of 100 ns;
* `RunStatus`, `DeploymentStatus`: the status columns, with their wire strings;
* `TestRun`, `TestConfig`, `Agent`, `ProjectTester`, `CloudAccount`,
  `Deployment`, `BenchmarkArtifact`: the rows, keyed by their id.
-/
import Networker.Data.Json
import Networker.Data.Table

namespace Networker

open Data

/-! ### Ids and instants -/

/-- A surrogate id.  `Guid.NewGuid()` is the next id of its table. -/
abbrev Guid := ℕ

namespace Guid

/-- The 32 hexadecimal digits of an id. -/
def digits (g : Guid) : List Char :=
  let ds := Nat.toDigits 16 g
  List.replicate (32 - ds.length) '0' ++ ds

/-- The hyphenated text of an id. -/
def text (g : Guid) : String :=
  let ds := digits g
  String.ofList (ds.take 8 ++ '-' :: (ds.drop 8).take 4 ++ '-' :: (ds.drop 12).take 4 ++
    '-' :: (ds.drop 16).take 4 ++ '-' :: ds.drop 20)

/-- The value of a hexadecimal digit. -/
def hexValue? (c : Char) : Option ℕ :=
  if c.isDigit then some (c.toNat - 48)
  else if 'a' ≤ c ∧ c ≤ 'f' then some (c.toNat - 87)
  else if 'A' ≤ c ∧ c ≤ 'F' then some (c.toNat - 55)
  else none

/-- The value of 32 hexadecimal digits. -/
def ofDigits? (cs : List Char) : Option Guid :=
  if cs.length = 32 then
    cs.foldl (fun acc c => acc.bind fun n => (hexValue? c).map fun d => 16 * n + d) (some 0)
  else none

/-- Parse the hyphenated text or the bare digits of an id. -/
def parse? (s : String) : Option Guid :=
  let cs := Text.trimChars s.toList
  if cs.length = 36 then
    if cs[8]? = some '-' ∧ cs[13]? = some '-' ∧ cs[18]? = some '-' ∧ cs[23]? = some '-' then
      ofDigits? (cs.take 8 ++ (cs.drop 9).take 4 ++ (cs.drop 14).take 4 ++
        (cs.drop 19).take 4 ++ cs.drop 24)
    else none
  else ofDigits? cs

end Guid

/-- Instants and spans, in ticks of 100 ns. -/
abbrev Time := ℤ

def seconds (n : ℤ) : Time := n * 10000000

def minutes (n : ℤ) : Time := n * 600000000

/-! ### Status columns -/

/-- `test_run.status`. -/
inductive RunStatus
  | queued | provisioning | running | completed | failed | cancelled
  deriving DecidableEq, Repr

namespace RunStatus

def text : RunStatus → String
  | queued => "queued"
  | provisioning => "provisioning"
  | running => "running"
  | completed => "completed"
  | failed => "failed"
  | cancelled => "cancelled"

/-- `completed`, `failed` or `cancelled`. -/
def terminal : RunStatus → Bool
  | completed | failed | cancelled => true
  | _ => false

/-- The terminal status a frame names (`TerminalRunStatuses`). -/
def ofTerminalText? (s : String) : Option RunStatus :=
  if s = "completed" then some completed
  else if s = "failed" then some failed
  else if s = "cancelled" then some cancelled
  else none

lemma terminal_ofTerminalText? {s : String} {st : RunStatus} (h : ofTerminalText? s = some st) :
    st.terminal = true := by
  rw [ofTerminalText?] at h
  split_ifs at h <;> cases h <;> rfl

end RunStatus

/-- `deployment.status`. -/
inductive DeploymentStatus
  | pending | running | completed | failed | cancelled | tornDown
  deriving DecidableEq, Repr

namespace DeploymentStatus

def text : DeploymentStatus → String
  | pending => "pending"
  | running => "running"
  | completed => "completed"
  | failed => "failed"
  | cancelled => "cancelled"
  | tornDown => "torn_down"

end DeploymentStatus

/-! ### Rows -/

/-- `test_run`.  `workerId` is the executing agent; the column holds its id as
text and has no other writer than the dispatcher and `run_started`. -/
structure TestRun where
  id : Guid
  testConfigId : Guid
  projectId : String
  status : RunStatus
  startedAt : Option Time
  finishedAt : Option Time
  successCount : ℤ
  failureCount : ℤ
  errorMessage : Option String
  artifactId : Option Guid
  testerId : Option Guid
  workerId : Option Guid
  lastHeartbeat : Option Time
  createdAt : Time
  comparisonGroupId : Option Guid
  provisioningDeploymentId : Option Guid
  provisionAttempts : ℕ
  nextProvisionAttemptAt : Option Time
  clientEnvelope : Option Json

/-- A stored secret: ciphertext and nonce. -/
structure Sealed where
  enc : List UInt8
  nonce : List UInt8

/-- `test_config`; the three JSON columns hold any JSON value. -/
structure TestConfig where
  id : Guid
  projectId : String
  name : String
  description : Option String
  endpointKind : String
  endpointRef : Json
  workload : Json
  methodology : Option Json
  createdBy : Option Guid
  createdAt : Time
  updatedAt : Time
  baselineRunId : Option Guid
  maxDurationSecs : ℤ
  token : Option Sealed

/-- `agent`. -/
structure Agent where
  agentId : Guid
  projectId : String
  version : Option String
  testerId : Option Guid
  status : String
  lastHeartbeat : Option Time

/-- `project_tester`, as far as the modelled services read it. -/
structure ProjectTester where
  testerId : Guid
  vmName : Option String
  vmResourceId : Option String
  powerState : String
  updatedAt : Time

/-- `cloud_account`. -/
structure CloudAccount where
  accountId : Guid
  name : String
  provider : String
  status : String
  validationError : Option String
  credentials : Sealed
  regionDefault : Option String

/-- `deployment`. -/
structure Deployment where
  deploymentId : Guid
  name : String
  status : DeploymentStatus
  config : Json
  createdBy : Option Guid
  createdAt : Time
  startedAt : Option Time
  finishedAt : Option Time
  endpointIps : Option Json
  endpointHosts : Option Json
  errorMessage : Option String
  log : Option String
  projectId : String
  cloudAccountId : Option Guid
  recoveryAttempts : ℤ
  exitCode : Option ℤ
  failedStep : Option String

/-- `benchmark_artifact`. -/
structure BenchmarkArtifact where
  id : Guid
  testRunId : Guid
  document : Json
  createdAt : Time

instance : Keyed TestRun := ⟨TestRun.id⟩
instance : Keyed TestConfig := ⟨TestConfig.id⟩
instance : Keyed Agent := ⟨Agent.agentId⟩
instance : Keyed ProjectTester := ⟨ProjectTester.testerId⟩
instance : Keyed CloudAccount := ⟨CloudAccount.accountId⟩
instance : Keyed Deployment := ⟨Deployment.deploymentId⟩
instance : Keyed BenchmarkArtifact := ⟨BenchmarkArtifact.id⟩

/-- A config with an endpoint and a workload, the other columns at their defaults. -/
def TestConfig.basic (id : Guid) (projectId endpointKind : String) (endpointRef workload : Json) :
    TestConfig where
  id := id
  projectId := projectId
  name := "cell"
  description := none
  endpointKind := endpointKind
  endpointRef := endpointRef
  workload := workload
  methodology := none
  createdBy := none
  createdAt := 0
  updatedAt := 0
  baselineRunId := none
  maxDurationSecs := 60
  token := none

namespace TestRun

/-- `COALESCE(last_heartbeat, created_at)`: since when the run is claimable. -/
def claimableSince (r : TestRun) : Time := r.lastHeartbeat.getD r.createdAt

end TestRun

namespace Deployment

/-- `COALESCE(started_at, created_at)`: the age basis of the stale sweep. -/
def ageBasis (d : Deployment) : Time := d.startedAt.getD d.createdAt

/-- `finished_at ?? now`. -/
def finishedOr (d : Deployment) (now : Time) : Option Time := some (d.finishedAt.getD now)

end Deployment

end Networker
