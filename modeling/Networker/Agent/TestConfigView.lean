/-
The view that the agent has of a configuration (`TestConfigView.cs`), and the command line that
it builds for it (`RunExecutor.cs`).

* `TestConfigView`, `fromConfig`: what is read of a configuration;
* `Accepted`, `accepted_of_fromConfig`: what each field of the view is read from;
* `endpointToTargets`, `testerModeArg`, `requiresPayloadSizes`: what the command line is made of;
* `buildArgs`: the arguments of one invocation of the tester.
-/
import Networker.Data.Json

namespace Networker

open Data

/-- `EndpointNetwork`. -/
structure EndpointNetwork where
  host : String
  port : Option UInt16
  hosts : List String

/-- `TestConfigView`. -/
structure TestConfigView where
  endpointKind : String
  network : Option EndpointNetwork
  modes : List String
  runs : UInt32
  samples : UInt32 := 1
  concurrency : UInt32
  timeoutMs : UInt32
  payloadSizes : List UInt32
  insecure : Bool
  isBenchmark : Bool
  maxDurationSecs : UInt32
  laghoundToken : Option String
  laghoundRoute : Option String

namespace TestConfigView

/-! ### Reading -/

/-- What is thrown while a configuration is read. -/
inductive Fault
  | keyNotFound (name : String)
  | invalidOperation
  | format
deriving DecidableEq

/-- `TryGetProperty`. -/
def member (name : String) (j : Json) : Except Fault (Option Json) :=
  if j.isObj then .ok (j.get? name) else .error .invalidOperation

/-- `GetProperty`. -/
def getProperty (name : String) (j : Json) : Except Fault Json := do
  match ← member name j with
  | some v => return v
  | none => throw (.keyNotFound name)

/-- `GetString`. -/
def getString : Json → Except Fault (Option String)
  | .str s => .ok (some s)
  | .null => .ok none
  | _ => .error .invalidOperation

/-- `JsonValueKind.Number`. -/
def isNumber : Json → Bool
  | .int _ => true
  | .dec _ _ => true
  | _ => false

/-- `GetUInt32`. -/
def getUInt32 : Json → Except Fault UInt32
  | .int n => if 0 ≤ n ∧ n < 2 ^ 32 then .ok (UInt32.ofNat n.toNat) else .error .format
  | .dec _ _ => .error .format
  | _ => .error .invalidOperation

/-- The text of a member, or a text in its place. -/
def textOr (name fallback : String) (j : Json) : Except Fault String := do
  match ← member name j with
  | some v => return (← getString v).getD fallback
  | none => return fallback

/-- The value of a member that is a number. -/
def number? (name : String) (j : Json) : Except Fault (Option UInt32) := do
  match ← member name j with
  | some v => if isNumber v then some <$> getUInt32 v else return none
  | none => return none

/-- `GetUInt`. -/
def getUInt (name : String) (fallback : UInt32) (j : Json) : Except Fault UInt32 := do
  return (← number? name j).getD fallback

/-- The texts of a member that is an array. -/
def texts (name : String) (j : Json) : Except Fault (List String) := do
  match ← member name j with
  | some (.arr items) => return (← items.mapM getString).reduceOption
  | _ => return []

/-- The hosts: the set, with the host in front. -/
def leadHosts (host : String) (hosts : List String) : List String :=
  if hosts.length = 0 ∧ 0 < host.length then hosts ++ [host]
  else if 0 < host.length ∧ host ∉ hosts then host :: hosts
  else hosts

/-- The network endpoint. -/
def networkOf (endpoint : Json) : Except Fault EndpointNetwork := do
  let host ← textOr "host" "" endpoint
  let port ← number? "port" endpoint
  let hosts ← texts "hosts" endpoint
  return {
    host
    -- `(ushort)`, which drops the upper bits
    port := port.map UInt32.toUInt16
    hosts := leadHosts host (hosts.filter fun u => 0 < u.length).eraseDups }

/-- The network endpoint, for this kind alone. -/
def networkFor (kind : String) (endpoint : Json) : Except Fault (Option EndpointNetwork) :=
  if kind = "network" then some <$> networkOf endpoint else .ok none

/-- The payload sizes. -/
def sizes (workload : Json) : Except Fault (List UInt32) := do
  match ← member "payload_sizes" workload with
  | some (.arr items) => (items.filter isNumber).mapM getUInt32
  | _ => return []

/-- The identifier is a text, if there is one; its value is not read here. -/
def checkId (config : Json) : Except Fault Unit := do
  match ← member "id" config with
  | none | some (.str _) => return ()
  | some _ => throw .invalidOperation

/-- Whether there is a methodology. -/
def methodologyPresent (config : Json) : Except Fault Bool := do
  match ← member "methodology" config with
  | none | some .null => return false
  | some _ => return true

/-- The greatest duration, or zero where it is not set. -/
def maxDuration (config : Json) : Except Fault UInt32 := do
  match ← member "max_duration_secs" config with
  | some v => return (getUInt32 v).toOption.getD 0
  | none => return 0

/-- `GetString`, of a member. -/
def text? (name : String) (j : Json) : Except Fault (Option String) := do
  return (← member name j).bind Json.str?

/-- Whether a member is true. -/
def isTrue (name : String) (j : Json) : Except Fault Bool := do
  match ← member name j with
  | some (.bool b) => return b
  | _ => return false

/-- `Math.Max`, with one. -/
def max1 (n : UInt32) : UInt32 := if n < 1 then 1 else n

/-- `TestConfigView.From`. -/
def fromConfig (config : Json) : Except Fault TestConfigView := do
  let endpoint ← getProperty "endpoint" config
  let kind ← textOr "kind" "unknown" endpoint
  let network ← networkFor kind endpoint
  let workload ← getProperty "workload" config
  let modes ← texts "modes" workload
  let payloadSizes ← sizes workload
  let isBenchmark ← methodologyPresent config
  checkId config
  let runs ← getUInt "runs" 1 workload
  let samples ← getUInt "samples" 1 workload
  let concurrency ← getUInt "concurrency" 1 workload
  let timeoutMs ← getUInt "timeout_ms" 30000 workload
  let insecure ← isTrue "insecure" workload
  let maxDurationSecs ← maxDuration config
  let laghoundToken ← text? "laghound_token" workload
  let laghoundRoute ← text? "laghound_route" workload
  return { endpointKind := kind, network, modes, runs, samples := max1 samples, concurrency,
           timeoutMs, payloadSizes, insecure, isBenchmark, maxDurationSecs, laghoundToken,
           laghoundRoute }

lemma toNat_max1 (n : UInt32) : (max1 n).toNat = max 1 n.toNat := by
  have hone : n < 1 ↔ n.toNat < 1 := UInt32.lt_iff_toNat_lt
  rw [max1]
  split_ifs with h
  · rw [hone] at h
    rw [max_eq_left (by omega)]
    rfl
  · rw [hone] at h
    rw [max_eq_right (by omega)]

/-! ### What is accepted -/

lemma bind_eq_ok {ε α β : Type} {x : Except ε α} {f : α → Except ε β} {b : β} :
    (x >>= f) = .ok b ↔ ∃ a, x = .ok a ∧ f a = .ok b := by
  cases x with
  | error e => simp [bind, Except.bind]
  | ok a => simp [bind, Except.bind]

/-- What is read of a configuration that is accepted. -/
structure Accepted (config endpoint workload : Json) (view : TestConfigView) : Prop where
  hasEndpoint : config.get? "endpoint" = some endpoint
  hasWorkload : config.get? "workload" = some workload
  kind : textOr "kind" "unknown" endpoint = .ok view.endpointKind
  network : view.endpointKind = "network" → ∃ network, view.network = some network ∧
    networkOf endpoint = .ok network
  modes : texts "modes" workload = .ok view.modes
  payloadSizes : sizes workload = .ok view.payloadSizes
  runs : getUInt "runs" 1 workload = .ok view.runs
  samples : ∃ n, getUInt "samples" 1 workload = .ok n ∧ view.samples = max1 n
  concurrency : getUInt "concurrency" 1 workload = .ok view.concurrency
  timeoutMs : getUInt "timeout_ms" 30000 workload = .ok view.timeoutMs
  insecure : isTrue "insecure" workload = .ok view.insecure

lemma getProperty_ok {name : String} {j v : Json} (h : getProperty name j = .ok v) :
    j.get? name = some v := by
  obtain ⟨found, hmember, hfound⟩ := bind_eq_ok.mp h
  rw [member] at hmember
  split_ifs at hmember
  cases hmember
  cases hget : j.get? name with
  | none => simp [hget, throw, throwThe, MonadExceptOf.throw] at hfound
  | some w =>
      rw [hget] at hfound
      cases hfound
      rfl

lemma accepted_of_fromConfig {config : Json} {view : TestConfigView}
    (h : fromConfig config = .ok view) : ∃ endpoint workload,
      Accepted config endpoint workload view := by
  obtain ⟨endpoint, hendpoint, h⟩ := bind_eq_ok.mp h
  obtain ⟨kind, hkind, h⟩ := bind_eq_ok.mp h
  obtain ⟨network, hnetwork, h⟩ := bind_eq_ok.mp h
  obtain ⟨workload, hworkload, h⟩ := bind_eq_ok.mp h
  obtain ⟨modes, hmodes, h⟩ := bind_eq_ok.mp h
  obtain ⟨payloadSizes, hsizes, h⟩ := bind_eq_ok.mp h
  obtain ⟨isBenchmark, -, h⟩ := bind_eq_ok.mp h
  obtain ⟨_, -, h⟩ := bind_eq_ok.mp h
  obtain ⟨runs, hruns, h⟩ := bind_eq_ok.mp h
  obtain ⟨samples, hsamples, h⟩ := bind_eq_ok.mp h
  obtain ⟨concurrency, hconcurrency, h⟩ := bind_eq_ok.mp h
  obtain ⟨timeoutMs, htimeout, h⟩ := bind_eq_ok.mp h
  obtain ⟨insecure, hinsecure, h⟩ := bind_eq_ok.mp h
  obtain ⟨maxDurationSecs, -, h⟩ := bind_eq_ok.mp h
  obtain ⟨token, -, h⟩ := bind_eq_ok.mp h
  obtain ⟨route, -, h⟩ := bind_eq_ok.mp h
  cases h
  refine ⟨endpoint, workload, getProperty_ok hendpoint, getProperty_ok hworkload, hkind, ?_,
    hmodes, hsizes, hruns, ⟨samples, hsamples, rfl⟩, hconcurrency, htimeout, hinsecure⟩
  intro hnet
  rw [networkFor, if_pos hnet] at hnetwork
  cases hread : networkOf endpoint with
  | error fault => simp [hread] at hnetwork
  | ok read =>
      rw [hread] at hnetwork
      cases hnetwork
      exact ⟨read, rfl, rfl⟩

end TestConfigView

namespace RunExecutor

/-! ### The command line -/

/-- `ApibenchWorkloads.IsApibenchMode`. -/
def isApibenchMode (mode : String) : Bool := Text.eqIgnoreCase mode "apibench"

/-- `TesterModeArg`. -/
def testerModeArg (catalogMode : String) : String :=
  if Text.eqIgnoreCase catalogMode "pageload" then "pageload1" else catalogMode

/-- `PayloadSizeModes`. -/
def payloadSizeModes : List String :=
  ["download", "download1", "download2", "download3", "upload", "upload1", "upload2", "upload3",
   "webdownload", "webupload", "udpdownload", "udpupload"]

/-- `RequiresPayloadSizes`. -/
def requiresPayloadSizes (mode : String) : Bool :=
  payloadSizeModes.any fun m => Text.eqIgnoreCase m mode

/-- The address of a host. -/
def hostTarget (port : Option UInt16) (host : String) : String :=
  if Text.startsWith host "http://" || Text.startsWith host "https://" then host
  else
    match port with
    | some p => "https://" ++ host ++ ":" ++ Text.ofNat p.toNat ++ "/health"
    | none => "https://" ++ host ++ "/health"

/-- `EndpointToTargets`. -/
def endpointToTargets (config : TestConfigView) : List String :=
  match config.network with
  | none => []
  | some network =>
      if config.endpointKind ≠ "network" then []
      else (network.hosts.map (hostTarget network.port)).eraseDups

/-- The timeout of a request in seconds, rounded up; the sum wraps around. -/
def timeoutSecs (config : TestConfigView) : UInt32 :=
  TestConfigView.max1 ((config.timeoutMs + 999) / 1000)

/-- The modes of the tester, with a comma between them. -/
def modesCsv (config : TestConfigView) : String :=
  Text.join "," ((config.modes.filter fun m => !isApibenchMode m).map testerModeArg)

/-- The payload sizes that are passed. -/
def passedSizes (config : TestConfigView) : List UInt32 :=
  if config.payloadSizes.length = 0 ∧ config.modes.any requiresPayloadSizes then [65536]
  else config.payloadSizes

/-- A flag and its value, if there is a value that is not empty. -/
def textArgs (flag : String) : Option String → List String
  | none => []
  | some value => if value = "" then [] else [flag, value]

/-- The arguments of the `sdkprobe` mode. -/
def laghoundArgs (config : TestConfigView) : List String :=
  if config.modes.any fun m => Text.eqIgnoreCase m "sdkprobe" then
    textArgs "--laghound-token" config.laghoundToken ++
      textArgs "--laghound-route" config.laghoundRoute
  else []

/-- The text of a number. -/
def numeral (n : UInt32) : String := Text.ofNat n.toNat

/-- `BuildArgs`. -/
def buildArgs (config : TestConfigView) (targets : List String) : List String :=
  targets.flatMap (fun t => ["--target", t]) ++
    ["--modes", modesCsv config, "--runs", numeral config.runs,
     "--concurrency", numeral config.concurrency, "--timeout", numeral (timeoutSecs config),
     "--json-stdout"] ++
    (if 1 < config.samples then ["--samples", numeral config.samples] else []) ++
    (if config.insecure then ["--insecure"] else []) ++
    laghoundArgs config ++
    (if 0 < (passedSizes config).length then
      ["--payload-sizes", Text.join "," ((passedSizes config).map numeral)]
    else [])

end RunExecutor

end Networker
