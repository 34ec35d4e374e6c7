/-
Launch, dispatch, redispatch and cancel of test runs (`Dispatch/RunDispatcher.cs`).

* `AgentVersionGate`: the minimum agent version for `assign_run`;
* `selectTargetAgent`: the target-agent heuristic, tester affinity first, then
  the least loaded candidate;
* `filterModesText`, `resolveProxyEndpoint`, `serializeForAssign`: building the
  `assign_run` payload;
* `tryAssign`, `dispatchRun`, `launch`, `redispatchQueued`, `cancelRun`: the
  operations of the dispatcher.
-/
import Networker.ControlPlane.Provisioning

namespace Networker

open Data Concurrency

/-! ### Minimum agent version -/

namespace AgentVersionGate

/-- A dotted triple. -/
structure Version where
  major : ℤ
  minor : ℤ
  patch : ℤ

/-- Lexicographic comparison of triples. -/
def Version.le (a b : Version) : Bool :=
  a.major < b.major || (a.major == b.major &&
    (a.minor < b.minor || (a.minor == b.minor && a.patch ≤ b.patch)))

def minAssignRunVersion : Version := ⟨0, 28, 0⟩

/-- One part of a version, zero where it is missing or malformed. -/
def partOrZero (parts : List (List Char)) (index : ℕ) : ℤ :=
  match parts[index]? with
  | none => 0
  | some part =>
      match Text.parseInt ((Text.splitOn '-' part).headD []) with
      | some n => if 0 ≤ n then n else 0
      | none => 0

/-- Parse a version: leading `v`s stripped, a suffix after `-` dropped per part. -/
def parse (s : String) : Version :=
  let parts := Text.splitOn '.' (s.toList.dropWhile (· == 'v'))
  ⟨partOrZero parts 0, partOrZero parts 1, partOrZero parts 2⟩

/-- Whether an agent of this version understands `assign_run`. -/
def isCompatible : Option String → Bool
  | none => false
  | some v => if Text.isBlank v then false else minAssignRunVersion.le (parse v)

end AgentVersionGate

namespace RunDispatcher

/-- `QueuedMinAgeSecs`. -/
def queuedMinAge : Time := seconds 15

/-- `QueuedRedispatchLimit`. -/
def queuedRedispatchLimit : ℕ := 50

/-- `endpoint_kind` is `pending`, in any case. -/
def isPendingKind (kind : String) : Bool := Text.eqIgnoreCase kind "pending"

/-- `endpoint_kind` is `proxy`, in any case. -/
def isProxyKind (kind : String) : Bool := Text.eqIgnoreCase kind "proxy"

/-! ### Target-agent selection -/

/-- The agents of the project among the online ones, with a version that
understands `assign_run`, in database order. -/
def compatibleAgents (w : World) (online : List Guid) (projectId : String) : List Agent :=
  (w.agents.select fun a => online.contains a.agentId && a.projectId == projectId).filter
    fun a => AgentVersionGate.isCompatible a.version

/-- The queued or running runs stamped with the agent. -/
def liveClaims (w : World) (agent : Guid) : ℕ :=
  (w.runs.select fun r =>
    r.workerId == some agent && (r.status == .queued || r.status == .running)).length

/-- The least loaded agent; ties keep the earlier one. -/
def leastLoaded (load : Guid → ℕ) : Agent → List Agent → Agent
  | best, [] => best
  | best, c :: cs => leastLoaded load (if load c.agentId < load best.agentId then c else best) cs

/-- `SelectTargetAgentAsync`. -/
def selectTargetAgent (projectId : String) (preferredTesterId : Option Guid) :
    Svc (Option Guid) := do
  let online ← Svc.read World.online
  if online.isEmpty then return none else
  let compatible ← Svc.read fun w => compatibleAgents w online projectId
  match compatible with
  | [] => return none
  | first :: others =>
      match preferredTesterId.bind fun tid => compatible.find? fun a => a.testerId == some tid with
      | some bound => return some bound.agentId
      | none =>
          if others.isEmpty then return some first.agentId else
          let load ← Svc.read liveClaims
          return some (leastLoaded load first others).agentId

/-! ### The workload on the wire -/

/-- `PlatformEndpoints.RunnableModeIds`: the modes a release tester binary runs. -/
def runnableModeIds : List String :=
  ["tcp", "dns", "tls", "tlsresume", "udp", "rpm", "responsiveness", "stamp", "ping", "path",
   "dualstack", "websocket", "pmtud", "http1", "http2", "http3", "curl", "sdkprobe", "pageload",
   "pageload2", "pageload3", "browser1", "browser2", "browser3", "download", "upload",
   "download1", "download2", "download3", "upload1", "upload2", "upload3", "webdownload",
   "webupload", "udpdownload", "udpupload", "mthroughput", "apibench"]

/-- Membership in the catalog, ignoring case. -/
def isRunnableMode (id : String) : Bool := runnableModeIds.any fun m => Text.eqIgnoreCase m id

/-- Read the members of a `modes` array as strings: null members are skipped, a
member of any other kind raises. -/
def modeIds : List Json → Except Fault (List String)
  | [] => .ok []
  | .null :: ms => modeIds ms
  | .str s :: ms => (modeIds ms).map (s :: ·)
  | _ :: _ => .error .invalidOperation

/-- `FilterModesText`: drop the modes outside the catalog, unless nothing or
everything would be dropped. -/
def filterModesText (workload : Json) : Except Fault Json :=
  match Json.parse workload with
  | .error _ => .ok workload
  | .ok node =>
      match (node.get? "modes").bind Json.items? with
      | none => .ok workload
      | some modes =>
          (modeIds modes).map fun ids =>
            let kept := ids.filter isRunnableMode
            if kept.length = ids.length ∨ kept = [] then workload
            else node.set "modes" (.arr (kept.map .str))

/-- `RawJson`: a column spliced in as JSON, or as a string where it does not
parse. -/
def rawJson (column : Json) : Json :=
  match Json.parse column with
  | .ok v => v
  | .error _ => .str column.render

/-- `WithInsecure`: the workload with `insecure: true`. -/
def withInsecure (workload : Json) : Json :=
  match Json.parse workload with
  | .ok v => if v.isObj then v.set "insecure" (.bool true) else rawJson workload
  | .error _ => rawJson workload

/-- `IsSdkProbeWorkload`: the `modes` of the wire workload contain `sdkprobe`. -/
def isSdkProbeWorkload (workload : Json) : Bool :=
  match (workload.get? "modes").bind Json.items? with
  | none => false
  | some modes => modes.any fun m => m.str?.any fun s => Text.eqIgnoreCase s "sdkprobe"

/-- `WithLagHoundToken`: splice the decrypted token into the wire workload. -/
def withLagHoundToken (h : Host) (workload : Json) (token : Sealed) : Json :=
  match h.decrypt token with
  | none => workload
  | some t => if t = "" then workload else workload.set "laghound_token" (.str t)

/-! ### Proxy endpoints -/

/-- The deployment a proxy reference names, with its optional stack override. -/
def proxyReference (endpointRef : Json) : Except Fault (Option (Guid × Option String)) :=
  match Json.parse endpointRef with
  | .error _ => .ok none
  | .ok doc => do
      match ← doc.tryGetProperty "proxy_endpoint_id" with
      | none => return none
      | some idProp =>
          match (← idProp.getString).bind Guid.parse? with
          | none => return none
          | some d => return some (d, (doc.get? "proxy_stack").bind Json.str?)

/-- `ProxyStackFromDeploymentConfig`: `endpoints[0].http_stacks[0]`. -/
def proxyStackFromDeploymentConfig (config : Json) : Except Fault (Option String) :=
  match Json.parse config with
  | .error _ => .ok none
  | .ok doc => do
      match (← doc.tryGetProperty "endpoints").bind Json.items? with
      | some (ep :: _) =>
          match (← ep.tryGetProperty "http_stacks").bind Json.items? with
          | some (.str s :: _) => return if Text.isBlank s then none else some s
          | _ => return none
      | _ => return none

/-- The proxy stack: the override, else the deployment's recorded one, else nginx. -/
def proxyStack (dep : Deployment) (stackHint : Option String) : Except Fault String :=
  match stackHint.filter fun s => !Text.isBlank s with
  | some s => .ok s
  | none => (proxyStackFromDeploymentConfig dep.config).map fun s => s.getD "nginx"

/-- The network endpoint a proxy reference resolves to on a deployment. -/
def proxyEndpoint (dep : Deployment) (stackHint : Option String) : Except Fault (Option Json) :=
  match EndpointAddressing.preferredHost dep.endpointIps dep.endpointHosts with
  | none => .ok none
  | some host => (proxyStack dep stackHint).map fun stack =>
      some (.obj [("kind", .str "network"), ("host", .str host),
        ("port", .int (proxyHttpsPort stack))])

/-- `ResolveProxyEndpointAsync`. -/
def resolveProxyEndpoint (endpointRef : Json) : Svc (Option Json) := do
  match ← Svc.lift (proxyReference endpointRef) with
  | none => return none
  | some (deploymentId, stackHint) =>
      match ← Svc.read fun w => w.deployments.find? deploymentId with
      | none => return none
      | some dep => Svc.lift (proxyEndpoint dep stackHint)

/-! ### The `assign_run` payload -/

def optInt : Option ℤ → Json
  | none => .null
  | some n => .int n

def optText : Option String → Json
  | none => .null
  | some s => .str s

def optGuid (g : Option Guid) : Json := optText (g.map Guid.text)

/-- The run on the wire; instants are written as ticks. -/
def runDto (r : TestRun) : Json :=
  .obj [("id", .str (Guid.text r.id)), ("test_config_id", .str (Guid.text r.testConfigId)),
    ("project_id", .str r.projectId), ("status", .str r.status.text),
    ("started_at", optInt r.startedAt), ("finished_at", optInt r.finishedAt),
    ("success_count", .int r.successCount), ("failure_count", .int r.failureCount),
    ("error_message", optText r.errorMessage), ("artifact_id", optGuid r.artifactId),
    ("tester_id", optGuid r.testerId), ("worker_id", optGuid r.workerId),
    ("last_heartbeat", optInt r.lastHeartbeat), ("created_at", .int r.createdAt),
    ("comparison_group_id", optGuid r.comparisonGroupId)]

/-- The config on the wire, with the resolved endpoint and workload. -/
def configDto (c : TestConfig) (endpoint workload : Json) : Json :=
  .obj [("id", .str (Guid.text c.id)), ("project_id", .str c.projectId), ("name", .str c.name),
    ("description", optText c.description), ("endpoint", endpoint), ("workload", workload),
    ("methodology", (c.methodology.map rawJson).getD .null),
    ("baseline_run_id", optGuid c.baselineRunId), ("max_duration_secs", .int c.maxDurationSecs),
    ("created_by", optGuid c.createdBy), ("created_at", .int c.createdAt),
    ("updated_at", .int c.updatedAt)]

/-- The endpoint and the workload on the wire: a proxy endpoint is resolved on a
copy, and then the workload skips certificate validation. -/
def wireEndpoint (cfg : TestConfig) (workloadText : Json) : Svc (Json × Json) :=
  if isProxyKind cfg.endpointKind then do
    match ← resolveProxyEndpoint cfg.endpointRef with
    | some resolved => return (resolved, withInsecure workloadText)
    | none => return (rawJson cfg.endpointRef, rawJson workloadText)
  else .ret (rawJson cfg.endpointRef, rawJson workloadText)

/-- Splice the token of an `sdkprobe` config, but only when the run, the config
and the selected agent are of one project. -/
def wireToken (h : Host) (run : TestRun) (cfg : TestConfig) (agent : Guid) (workload : Json) :
    Svc Json :=
  match cfg.token with
  | some token =>
      if isSdkProbeWorkload workload && token.enc != [] && token.nonce != [] then do
        let inProject ← Svc.read fun w =>
          (w.agents.find? agent).any fun a => a.projectId == run.projectId
        return if inProject && cfg.projectId == run.projectId then
          withLagHoundToken h workload token else workload
      else .ret workload
  | none => .ret workload

/-- `SerializeForAssignAsync`. -/
def serializeForAssign (h : Host) (run : TestRun) (cfg : TestConfig) (agent : Guid) :
    Svc (Json × Json) := do
  let workloadText ← Svc.lift (filterModesText cfg.workload)
  let (endpoint, workload) ← wireEndpoint cfg workloadText
  let workload ← wireToken h run cfg agent workload
  let config := configDto cfg endpoint workload
  Svc.lift (config.write 0)
  return (runDto run, config)

/-- `AgentConnectionRegistry.AssignRunAsync`: the message is serialized outside
the handler around the send. -/
def assignRun (agent run : Guid) (runJson configJson : Json) : Svc Bool := do
  if ← Svc.read fun w => w.online.contains agent then
    let message := Json.obj [("type", .str "assign_run"), ("run", runJson), ("config", configJson)]
    Svc.lift (message.write 0)
    .issue (.sendAssign agent run runJson configJson) fun w => w.reachable agent
  else return false

/-- `AgentConnectionRegistry.CancelRunAsync`. -/
def cancelOnAgent (agent run : Guid) : Svc Bool := do
  if ← Svc.read fun w => w.online.contains agent then
    .issue (.sendCancel agent run) fun w => w.reachable agent
  else return false

/-! ### The operations -/

/-- `TryAssignAsync`: the claim is written after the send, and only on a queued or
running row. -/
def tryAssign (h : Host) (run : TestRun) (cfg : TestConfig) : Svc Bool := do
  match ← selectTargetAgent run.projectId run.testerId with
  | none => return false
  | some agent =>
      let (runJson, configJson) ← serializeForAssign h run cfg agent
      if ← assignRun agent run.id runJson configJson then
        let boundTesterId ← Svc.read fun w => (w.agents.find? agent).bind Agent.testerId
        let _ ← Svc.updateRun run.id (.stampAssignment agent boundTesterId)
        Svc.publish (.jobUpdate run.id "queued" (some agent) none none)
        return true
      else return false

/-- `DispatchAsync`: reads the row and neither looks at its status nor at its
`worker_id`. -/
def dispatchRun (h : Host) (runId : Guid) : Svc Unit := do
  match ← Svc.read fun w => w.runs.find? runId with
  | none => return ()
  | some run =>
      match ← Svc.read fun w => w.configs.find? run.testConfigId with
      | none => return ()
      | some cfg =>
          if isPendingKind cfg.endpointKind then return () else
          let _ ← tryAssign h run cfg
          return ()

/-- `LaunchAsync`. -/
def launch (h : Host) (testConfigId : Guid) (comparisonGroupId testerId : Option Guid) :
    Svc Guid := do
  match ← Svc.read fun w => w.configs.find? testConfigId with
  | none => .raise (.notFound ("test_config " ++ Guid.text testConfigId ++ " not found"))
  | some cfg =>
      let now ← Svc.read World.now
      let runId ← .issue (.insertRun cfg comparisonGroupId testerId now) fun w => w.runs.next
      dispatchRun h runId
      return runId

/-- The batch of a redispatch pass, read in one query: queued, unclaimed and old
enough, oldest first, each with the endpoint kind of its config. -/
def redispatchCandidates (cutoff : Time) (w : World) : List (TestRun × String) :=
  ((oldest TestRun.createdAt (w.runs.select fun r =>
      r.status == .queued && r.workerId.isNone && r.createdAt < cutoff &&
        (w.configOf r).isSome)).take queuedRedispatchLimit).filterMap fun r =>
    (w.configOf r).map fun c => (r, c.endpointKind)

/-- The body of the redispatch loop. -/
def redispatchOne (h : Host) (candidate : TestRun × String) : Svc Bool := do
  if isPendingKind candidate.2 then return false else
  match ← Svc.read fun w => w.configs.find? candidate.1.testConfigId with
  | none => return false
  | some cfg => tryAssign h candidate.1 cfg

/-- `RedispatchQueuedAsync`. -/
def redispatchQueued (h : Host) : Svc ℕ := do
  if ← Svc.read fun w => w.online.isEmpty then return 0 else
  let now ← Svc.read World.now
  let candidates ← Svc.read (redispatchCandidates (now - queuedMinAge))
  Proc.count (redispatchOne h) candidates

/-- The agent `CancelAsync` fans out to: the assignment heuristic again, or any
online agent when the run cannot be re-read. -/
def cancelTarget (run : Option TestRun) : Svc (Option Guid) :=
  match run with
  | some r => selectTargetAgent r.projectId r.testerId
  | none => Svc.read fun w => w.online.head?

/-- Send `cancel_run` to the target, if there is one. -/
def fanOutCancel (target : Option Guid) (runId : Guid) : Svc Unit :=
  match target with
  | some agent => do
      let _ ← cancelOnAgent agent runId
      return ()
  | none => .ret ()

/-- `CancelAsync`. -/
def cancelRun (runId : Guid) : Svc Unit := do
  let now ← Svc.read World.now
  if ← Svc.updateRun runId (.cancel now) then
    let run ← Svc.read fun w => w.runs.find? runId
    let target ← cancelTarget run
    fanOutCancel target runId
    let later ← Svc.read World.now
    Svc.publish (.jobUpdate runId "cancelled" target none (some later))
  else
    match ← Svc.read fun w => w.runs.find? runId with
    | none => .raise (.notFound ("test_run " ++ Guid.text runId ++ " not found"))
    | some _ => return ()

end RunDispatcher

end Networker
