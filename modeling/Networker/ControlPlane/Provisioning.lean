/-
The pure parts of provisioning (`Provisioning/*.cs`).

* `EndpointAddressing`: the host and IP columns of a deployment;
* `ProvisioningFailureClassifier`, `CloudAccountGate`: texts that decide a retry
  or a refusal;
* `languageCountFor`, `deployTimeoutFor`: the budget of a deploy;
* `PendingEndpoint`, `parsePending`, `tryParseNetworkHostPort`: the endpoint
  references the orchestrator reads;
* `sanitizeVmLabel`, `buildDeployJson`: the document handed to the installer.
-/
import Networker.ControlPlane.World

namespace Networker

open Data

/-! ### Endpoint columns -/

namespace EndpointAddressing

/-- The items of an array column, trimmed, with `none` for empty or non-string
items. -/
def parseArray (column : Option Json) : List (Option String) :=
  match column with
  | none => []
  | some c =>
      match Json.parse c with
      | .ok (.arr xs) => xs.map fun x =>
          x.str?.bind fun s => if Text.trim s = "" then none else some (Text.trim s)
      | _ => []

/-- The first captured endpoint, by its host name where one is recorded. -/
def preferredHost (endpointIps endpointHosts : Option Json) : Option String :=
  let ips := parseArray endpointIps
  let hosts := parseArray endpointHosts
  match ips.findIdx? Option.isSome with
  | some i => ((hosts[i]?).join).or ((ips[i]?).join)
  | none => (hosts.find? Option.isSome).join

/-- Every distinct host, ignoring case, IPs before names. -/
def allHosts (endpointIps endpointHosts : Option Json) : List String :=
  ((parseArray endpointIps ++ parseArray endpointHosts).filterMap id).foldl
    (fun seen s => if seen.any fun x => Text.eqIgnoreCase x s then seen else seen ++ [s]) []

end EndpointAddressing

/-- `ProxyHttpsPort`: the HTTPS listener port of a proxy stack. -/
def proxyHttpsPort (stack : String) : ℤ :=
  if stack = "nginx" then 8444
  else if stack = "caddy" then 8454
  else if stack = "traefik" then 8455
  else if stack = "haproxy" then 8456
  else if stack = "apache" then 8457
  else if stack = "iis" then 8445
  else 443

/-- `DockerProviderOptions.IsDocker`. -/
def isDocker (cloud : Option String) : Bool := cloud.any fun c => Text.eqIgnoreCase c "docker"

/-! ### Classification -/

namespace ProvisioningFailureClassifier

def quotaSignatures : List String :=
  ["exceeding approved", "QuotaExceeded", "quota increase", "PublicIPCountLimitReached",
   "quota limit"]

def containsSignature (text : Option String) : Bool :=
  text.any fun t => quotaSignatures.any fun sig => Text.containsIgnoreCase t sig

def isQuotaFailure (log errorMessage : Option String) : Bool :=
  containsSignature log || containsSignature errorMessage

def interruptedErrorPrefix : String := "Deployment interrupted (install.sh received SIG"

def neverStartedReapPrefix : String := "Deployment reaped before its install ever started"

def isInterruptedFailure (errorMessage : String) : Bool :=
  Text.startsWith errorMessage interruptedErrorPrefix

def isNeverStartedReap (errorMessage : String) : Bool :=
  Text.startsWith errorMessage neverStartedReapPrefix

def isRetryableInfrastructureKill (errorMessage : String) : Bool :=
  isInterruptedFailure errorMessage || isNeverStartedReap errorMessage

end ProvisioningFailureClassifier

/-- `CloudAccountGate.NotActiveReason`. -/
def notActiveReason (name status : String) (validationError : Option String) : Option String :=
  if status = "active" then none
  else
    let reason := "cloud account '" ++ name ++ "' is in " ++ status ++ " state"
    match validationError.filter fun s => !Text.isBlank s with
    | none => some reason
    | some e => some (reason ++ ": " ++ e)

/-! ### The budget of a deploy -/

def baseDeployTimeout : Time := minutes 30

def perLanguageBudget : Time := minutes 8

def maxDeployTimeout : Time := minutes 120

/-- The installs one endpoint block asks for; a block that is not an object raises. -/
def endpointLanguages (ep : Json) : Except Fault ℕ :=
  (ep.tryGetProperty "languages").bind fun langs =>
    (ep.tryGetProperty "sdk_samples").map fun samples =>
      ((langs.bind Json.items?).getD []).length + ((samples.bind Json.items?).getD []).length

/-- Add up the installs of all endpoint blocks. -/
def sumLanguages : List Json → Except Fault ℕ
  | [] => .ok 0
  | ep :: eps => (endpointLanguages ep).bind fun n => (sumLanguages eps).map fun m => n + m

/-- `LanguageCountFor`: only a text that does not parse is caught. -/
def languageCountFor (deployJson : Json) : Except Fault ℕ :=
  match Json.parse deployJson with
  | .error _ => .ok 0
  | .ok doc => (doc.tryGetProperty "endpoints").bind fun eps =>
      sumLanguages ((eps.bind Json.items?).getD [])

/-- `DeployTimeoutFor`: base, plus a budget per language, capped. -/
def deployTimeoutFor (deployJson : Json) : Except Fault Time :=
  (languageCountFor deployJson).map fun n =>
    min (baseDeployTimeout + n * perLanguageBudget) maxDeployTimeout

/-- Whole minutes of a span, a half rounded up. -/
def wholeMinutes (span : Time) : String := Text.ofInt ((span + 300000000) / 600000000)

/-! ### Endpoint references -/

/-- A parsed `EndpointRef::Pending`. -/
structure PendingEndpoint where
  cloudAccountId : Option Guid
  region : String
  vmSize : String
  os : String
  proxyStack : String
  language : Option String
  provider : Option String

/-- A member read as a string: missing or null gives the default, another kind
raises. -/
def stringMember (j : Json) (name default : String) : Except Fault String :=
  match j.get? name with
  | none => .ok default
  | some v => v.getString.map fun s => s.getD default

/-- `ParsePending`, before its catch-all handler. -/
def readPending (endpointRef : Json) : Except Fault (Option PendingEndpoint) := do
  let root ← Json.parse endpointRef
  match root.get? "kind" with
  | none => return none
  | some kind =>
      if (← kind.getString) != some "pending" then return none else
      let provider := (root.get? "provider").bind Json.str?
      let cloudAccountId := ((root.get? "cloud_account_id").bind Json.str?).bind Guid.parse?
      if cloudAccountId.isNone && !isDocker provider then throw .json else
      let region ← stringMember root "region" ""
      let vmSize ← stringMember root "vm_size" ""
      let os ← stringMember root "os" ""
      let proxyStack ← stringMember root "proxy_stack" "nginx"
      let language := (root.get? "language").bind Json.str?
      return some ⟨cloudAccountId, region, vmSize, os, proxyStack, language, provider⟩

/-- `ParsePending`: whatever is raised, the reference is not pending. -/
def parsePending (endpointRef : Json) : Option PendingEndpoint :=
  match readPending endpointRef with
  | .ok p => p
  | .error _ => none

/-- `TryParseNetworkHostPort`. -/
def tryParseNetworkHostPort (endpointRef : Json) : Option (String × ℤ) :=
  match Json.parse endpointRef with
  | .error _ => none
  | .ok root =>
      let host := (((root.get? "host").bind Json.str?).map Text.trim).getD ""
      let port := ((root.get? "port").bind Json.int32?).getD 0
      if host != "" && 0 < port then some (host, port) else none

/-- `WithInsecureWorkload`: the stored workload with `insecure: true`. -/
def withInsecureWorkload (workload : Json) : Json :=
  match Json.parse workload with
  | .ok v => v.set "insecure" (.bool true)
  | .error _ => workload

/-! ### deploy.json -/

/-- The label characters of a raw name: lower-case letters and digits, single inner
dashes, at most fifteen. -/
def labelChars : List Char → Bool → List Char → List Char
  | acc, _, [] => acc
  | acc, lastDash, c :: cs =>
      if 15 ≤ acc.length then acc
      else if c.isAlphanum then labelChars (acc ++ [c.toLower]) false cs
      else if c = '-' ∧ acc ≠ [] ∧ lastDash = false then labelChars (acc ++ ['-']) true cs
      else labelChars acc lastDash cs

/-- `SanitizeVmLabel`. -/
def sanitizeVmLabel (raw : String) : String :=
  let label := ((labelChars [] false raw.toList).reverse.dropWhile (· == '-')).reverse
  if label = [] then "nwk-auto-vm" else String.ofList label

/-- `ShortId`: the first eight digits of an id. -/
def shortId (g : Guid) : String := String.ofList ((Guid.digits g).take 8)

/-- The per-provider block of a deploy document. -/
def providerBlock (p : PendingEndpoint) (provider vmLabel : String) (gcpZone : Option String) :
    Json :=
  if provider = "docker" then
    .obj [("os", .str (if p.os = "" then "linux" else p.os)), ("container_name", .str vmLabel)]
  else if provider = "aws" then
    .obj [("region", .str p.region), ("instance_type", .str p.vmSize), ("os", .str p.os),
      ("instance_name", .str vmLabel)]
  else if provider = "gcp" then
    .obj [("region", .str p.region), ("zone", .str (gcpZone.getD (p.region ++ "-a"))),
      ("machine_type", .str p.vmSize), ("os", .str p.os), ("instance_name", .str vmLabel)]
  else
    .obj [("region", .str p.region), ("vm_size", .str p.vmSize), ("os", .str p.os),
      ("vm_name", .str vmLabel)]

/-- `BuildDeployJson`. -/
def buildDeployJson (p : PendingEndpoint) (provider cfgName : String) (runId : Guid)
    (gcpZone : Option String) : Json :=
  let vmLabel := sanitizeVmLabel ("nwk-a-" ++ shortId runId)
  let endpoint := (Json.obj [("provider", .str provider), ("label", .str cfgName),
    ("http_stacks", .arr [.str p.proxyStack])]).set provider
      (providerBlock p provider vmLabel gcpZone)
  let endpoint := match p.language.filter (· != "") with
    | some l => endpoint.set "languages" (.arr [.str l])
    | none => endpoint
  let head := [("version", Json.int 1), ("tester", .obj [("provider", .str "local")])]
  let account := match p.cloudAccountId with
    | some a => [("cloud_account_id", Json.str (Guid.text a))]
    | none => []
  .obj (head ++ account ++ [("endpoints", .arr [endpoint]),
    ("tests", .obj [("run_tests", .bool false)])])

/-- `FirstProviderFromConfig`. -/
def firstProviderFromConfig (config : Json) : Option String :=
  match Json.parse config with
  | .error _ => none
  | .ok doc =>
      (((doc.get? "endpoints").bind Json.items?).getD []).findSome? fun ep =>
        ((ep.get? "provider").bind Json.str?).filter (· != "")

end Networker
