/-
What the tester is told by its command line and by a configuration file
(`networker-tester/src/cli.rs`).

* `Settings`, `Flags`, `Arguments`, `ConfigFile`: what may be set, and where;
* `resolve`: the command line before the file, and the file before the defaults;
* `configFromTestConfigValue`: the file that a `TestConfig` stands for;
* `expand`, `parsedModes`: the protocols that the modes name, each once;
* `parsedPayloadSizes`: the sizes in bytes;
* `Effective`, `effective_file`: what is probed, and what a `TestConfig` says of it.
-/
import Mathlib
import Networker.Data.Json
import Networker.Data.SeparatedText
import Networker.Tester.Cli
import Networker.Tester.TransferSizes

namespace Networker

open Data Metrics

namespace Cli

/-! ### What may be set -/

/-- What the command line and the file may set in the same way. -/
structure Settings where
  modes : Option (List String) := none
  runs : Option ℕ := none
  samples : Option ℕ := none
  concurrency : Option ℕ := none
  timeout : Option ℕ := none
  payloadSize : Option ℕ := none
  payloadSizes : Option (List String) := none
  requestBody : Option String := none
  requestBodyFile : Option String := none
  requestContentType : Option String := none
  laghoundToken : Option String := none
  laghoundRoute : Option String := none
  tlsProfileProjectId : Option String := none
  retries : Option ℕ := none
  benchmarkPhase : Option String := none
  benchmarkScenario : Option String := none
  benchmarkLaunchIndex : Option ℕ := none
  benchmarkMinSamples : Option ℕ := none
  benchmarkMaxSamples : Option ℕ := none
  benchmarkMinDurationMs : Option ℕ := none
  benchmarkTargetRelativeError : Option Float := none
  benchmarkTargetAbsoluteError : Option Float := none
  benchmarkPilotMinSamples : Option ℕ := none
  benchmarkPilotMaxSamples : Option ℕ := none
  benchmarkPilotMinDurationMs : Option ℕ := none
  benchmarkEnvironmentCheckSamples : Option ℕ := none
  benchmarkEnvironmentCheckIntervalMs : Option ℕ := none
  benchmarkStabilityCheckSamples : Option ℕ := none
  benchmarkStabilityCheckIntervalMs : Option ℕ := none
  benchmarkMaxPacketLossPercent : Option Float := none
  benchmarkMaxJitterRatio : Option Float := none
  benchmarkMaxRttSpreadRatio : Option Float := none
  benchmarkMaxCpuBusyPercent : Option Float := none
  benchmarkMaxCpuStealPercent : Option Float := none
  benchmarkOverheadSamples : Option ℕ := none
  benchmarkCooldownSamples : Option ℕ := none
  dbUrl : Option String := none
  connectionString : Option String := none
  httpStacks : Option (List String) := none

/-- The switches. -/
structure Flags (Switch : Type) where
  connectionReuse : Switch
  ipv4Only : Switch
  ipv6Only : Switch
  insecure : Switch
  jsonStdout : Switch
  benchmarkMode : Switch
  saveToDb : Switch
  saveToSql : Switch

/-- The same switch everywhere. -/
def Flags.all {Switch : Type} (s : Switch) : Flags Switch := ⟨s, s, s, s, s, s, s, s⟩

/-- `Cli`, as far as it is resolved into what is probed. -/
structure Arguments where
  settings : Settings := {}
  flags : Flags Bool := Flags.all false
  target : List String := []
  benchmark : Bool := false
  urlTestUrl : Option String := none
  urlTestProtocolForce : Option String := none
  urlTestHttp3Repeat : Option ℕ := none
  tlsProfileUrl : Option String := none
  tlsProfileIp : Option String := none
  tlsProfileTargetKind : Option String := none

/-- `ConfigFile`. -/
structure ConfigFile where
  settings : Settings := {}
  flags : Flags (Option Bool) := Flags.all none
  targets : Option (List String) := none
  target : Option String := none

/-! ### Resolution -/

/-- The rows of the table of HTTP stacks, `shared/http-stacks.json`. -/
def stackTable : List Benchmark.HttpStack :=
  [⟨"endpoint", 8080, 8443⟩, ⟨"nginx", 8081, 8444⟩, ⟨"iis", 8082, 8445⟩, ⟨"caddy", 8091, 8454⟩,
   ⟨"traefik", 8092, 8455⟩, ⟨"haproxy", 8093, 8456⟩, ⟨"apache", 8094, 8457⟩]

/-- `HttpStack::from_name`: the bare endpoint is not a stack to compare. -/
def stackFromName (name : String) : Option Benchmark.HttpStack :=
  let id := String.ofList ((trimChars name.toList).map Char.toLower)
  (stackTable.find? fun s => s.name == id).filter fun s => s.name != "endpoint"

/-- The targets: those of the command line, then those of the file that are not among them. -/
def resolvedTargets (cli : Arguments) (file : ConfigFile) : List String :=
  let ts := (file.targets.getD [] ++ file.target.toList).foldl
    (fun ts t => if t ∈ ts then ts else ts ++ [t]) cli.target
  if ts = [] then ["http://localhost:8080/health"] else ts

/-- `Cli::resolve`. -/
def resolve (cli : Arguments) (file : Option ConfigFile) : ResolvedConfig :=
  let f := file.getD {}
  let pick {α : Type} (field : Settings → Option α) : Option α :=
    (field cli.settings).or (field f.settings)
  let flag (field : {Switch : Type} → Flags Switch → Switch) : Bool :=
    field cli.flags || (field f.flags).getD false
  { targets := resolvedTargets cli f
    urlTestUrl := cli.urlTestUrl
    urlTestProtocolForce := cli.urlTestProtocolForce
    urlTestHttp3Repeat := cli.urlTestHttp3Repeat.getD 10
    tlsProfileUrl := cli.tlsProfileUrl
    tlsProfileIp := cli.tlsProfileIp
    tlsProfileTargetKind := cli.tlsProfileTargetKind
    tlsProfileProjectId := pick Settings.tlsProfileProjectId
    modes := (pick Settings.modes).getD ["http1", "http2", "udp"]
    runs := (pick Settings.runs).getD 3
    samples := min (max ((pick Settings.samples).getD 1) 1) 50
    concurrency := (pick Settings.concurrency).getD 1
    timeout := (pick Settings.timeout).getD 30
    payloadSize := (pick Settings.payloadSize).getD 0
    payloadSizes := (pick Settings.payloadSizes).getD []
    requestBody := pick Settings.requestBody
    requestBodyFile := pick Settings.requestBodyFile
    requestContentType := pick Settings.requestContentType
    laghoundToken := pick Settings.laghoundToken
    laghoundRoute := pick Settings.laghoundRoute
    connectionReuse := flag Flags.connectionReuse
    ipv4Only := flag Flags.ipv4Only
    ipv6Only := flag Flags.ipv6Only
    insecure := flag Flags.insecure
    retries := (pick Settings.retries).getD 0
    jsonStdout := flag Flags.jsonStdout
    benchmarkMode := flag Flags.benchmarkMode || cli.benchmark
    benchmarkPhase := (pick Settings.benchmarkPhase).getD "measured"
    benchmarkScenario := (pick Settings.benchmarkScenario).getD "default"
    benchmarkLaunchIndex := (pick Settings.benchmarkLaunchIndex).getD 0
    benchmarkMinSamples := pick Settings.benchmarkMinSamples
    benchmarkMaxSamples := pick Settings.benchmarkMaxSamples
    benchmarkMinDurationMs := pick Settings.benchmarkMinDurationMs
    benchmarkTargetRelativeError := pick Settings.benchmarkTargetRelativeError
    benchmarkTargetAbsoluteError := pick Settings.benchmarkTargetAbsoluteError
    benchmarkPilotMinSamples := pick Settings.benchmarkPilotMinSamples
    benchmarkPilotMaxSamples := pick Settings.benchmarkPilotMaxSamples
    benchmarkPilotMinDurationMs := pick Settings.benchmarkPilotMinDurationMs
    benchmarkEnvironmentCheckSamples := pick Settings.benchmarkEnvironmentCheckSamples
    benchmarkEnvironmentCheckIntervalMs := pick Settings.benchmarkEnvironmentCheckIntervalMs
    benchmarkStabilityCheckSamples := pick Settings.benchmarkStabilityCheckSamples
    benchmarkStabilityCheckIntervalMs := pick Settings.benchmarkStabilityCheckIntervalMs
    benchmarkMaxPacketLossPercent := pick Settings.benchmarkMaxPacketLossPercent
    benchmarkMaxJitterRatio := pick Settings.benchmarkMaxJitterRatio
    benchmarkMaxRttSpreadRatio := pick Settings.benchmarkMaxRttSpreadRatio
    benchmarkMaxCpuBusyPercent := pick Settings.benchmarkMaxCpuBusyPercent
    benchmarkMaxCpuStealPercent := pick Settings.benchmarkMaxCpuStealPercent
    benchmarkOverheadSamples := pick Settings.benchmarkOverheadSamples
    benchmarkCooldownSamples := pick Settings.benchmarkCooldownSamples
    saveToDb := flag Flags.saveToDb || flag Flags.saveToSql
    dbUrl := (pick Settings.dbUrl).or (pick Settings.connectionString)
    saveToSql := flag Flags.saveToSql
    connectionString := pick Settings.connectionString
    httpStacks := ((pick Settings.httpStacks).getD []).filterMap stackFromName }

/-! ### A `TestConfig` -/

/-- `as_u64`. -/
def asU64 : Json → Option ℕ
  | .int n => if 0 ≤ n ∧ n < 2 ^ 64 then some n.toNat else none
  | _ => none

/-- The address of a host: as it is, if it is a URL, else its health page. -/
def targetOf (host : String) (port : Option ℕ) : String :=
  if Text.startsWith host "http://" || Text.startsWith host "https://" then host
  else
    match port with
    | some p => "https://" ++ host ++ ":" ++ Text.ofNat p ++ "/health"
    | none => "https://" ++ host ++ "/health"

/-- `config_from_test_config_value`. -/
def configFromTestConfigValue (path : String) (value : Json) : Except String ConfigFile := do
  let target ←
    match value.get? "endpoint" with
    | none => pure none
    | some endpoint =>
        let kind := ((endpoint.get? "kind").bind Json.str?).getD "network"
        if kind = "network" then
          match (endpoint.get? "host").bind Json.str? with
          | none => throw "endpoint.host is required for kind=network"
          | some host => pure (some (targetOf host ((endpoint.get? "port").bind asU64)))
        else
          throw (s!"Config file {path} uses endpoint kind '{kind}' which is not supported by the " ++
            "CLI. Only 'network' kind is supported for standalone CLI execution.")
  let read {α : Type} (name : String) (value? : Json → Option α) : Option α :=
    (value.get? "workload").bind fun workload => (workload.get? name).bind value?
  return {
    target
    settings := {
      modes := (read "modes" Json.items?).map (·.filterMap Json.str?)
      -- `as u32`
      runs := (read "runs" asU64).map (· % 2 ^ 32)
      concurrency := read "concurrency" asU64
      timeout := read "timeout_ms" asU64
      payloadSizes := (read "payload_sizes" Json.items?).map fun sizes =>
        (sizes.filterMap asU64).map Text.ofNat }
    flags := { Flags.all none with
      benchmarkMode := if (value.get? "methodology").isSome then some true else none } }

/-! ### Modes and sizes -/

/-- The protocols, in the order in which they are parsed. -/
def protocols : List Protocol :=
  [.tcp, .http1, .http2, .http3, .udp, .download, .download1, .download2, .download3, .upload,
   .upload1, .upload2, .upload3, .webDownload, .webUpload, .udpDownload, .udpUpload, .mthroughput,
   .rpm, .responsiveness, .stamp, .ping, .path, .dualStack, .webSocket, .pmtud, .dns, .tls,
   .tlsResume, .native, .curl, .pageLoad, .pageLoad2, .pageLoad3, .browser, .browser1, .browser2,
   .browser3, .sdkProbe]

/-- `Protocol::from_str`. -/
def protocolFromStr (s : String) : Option Protocol :=
  let s := toLowercase s
  if s = "tls-resume" then some .tlsResume else protocols.find? fun p => p.name == s

/-- The protocols that a mode names. -/
def expand (s : String) : List Protocol :=
  let s := toLowercase s
  if s = "pageload" then [.pageLoad, .pageLoad2, .pageLoad3]
  else if s = "pageload1" then [.pageLoad]
  else if s = "browser" then [.browser1, .browser2, .browser3]
  else (protocolFromStr s).toList

/-- `parsed_modes`. -/
def parsedModes (cfg : ResolvedConfig) : List Protocol := (cfg.modes.flatMap expand).eraseDups

/-- The lower case of `parse_size`. -/
def casing : Text.Casing := ⟨Char.toUpper, toLowerChar⟩

/-- `parsed_payload_sizes`. -/
def parsedPayloadSizes (cfg : ResolvedConfig) : Option (List ℕ) :=
  cfg.payloadSizes.mapM (parseSize casing)

lemma toLowerChar_of_isDigit {c : Char} (h : c.isDigit = true) : toLowerChar c = c := by
  have hval := Text.val_of_isDigit h
  have hupper : ¬ c.isUpper = true := by
    rw [Char.isUpper, decide_eq_true_iff]
    rintro ⟨hlow, -⟩
    have hle : 65 ≤ c.toNat := UInt32.le_iff_toNat_le.mp hlow
    omega
  rw [toLowerChar, if_neg (by omega), Char.toLower_eq_of_not_isUpper hupper]

/-- The digits of a number are its size. -/
lemma parseSize_ofNat {n : ℕ} (h : n < 2 ^ 64) : parseSize casing (Text.ofNat n) = some n := by
  have hdigits : ∀ c ∈ (Text.ofNat n).toList, c.isDigit = true := fun c =>
    Text.isDigit_of_mem_ofNat
  have htrim : (Text.trimChars (Text.ofNat n).toList).map casing.lower = (Text.ofNat n).toList := by
    rw [Text.trimChars_of_forall fun c hc =>
      Text.isSpace_of_isDigit (hdigits c hc)]
    exact (List.map_congr_left fun c hc => toLowerChar_of_isDigit (hdigits c hc)).trans
      (List.map_id _)
  have hunit : sizeUnit (Text.ofNat n).toList = ((Text.ofNat n).toList, 1) := by
    rw [sizeUnit]
    split
    case h_4 => rfl
    all_goals
      rename_i hlast
      exact absurd (hdigits _ (List.mem_of_getLast? hlast)) (by decide)
  have husize : parseUsize (Text.ofNat n).toList = some n := by
    unfold parseUsize
    split
    case h_1 hplus =>
      exact absurd (hdigits '+' (hplus ▸ List.mem_cons_self)) (by decide)
    case h_2 => simpa [Text.parseDigits_ofNat, Option.filter] using h
  simp only [parseSize, htrim, hunit, husize]
  simpa [Option.filter] using h
/-! ### Names -/

lemma toNat_toUpper (c : Char) : c.toUpper.toNat =
    if 97 ≤ c.toNat ∧ c.toNat ≤ 122 then c.toNat - 32 else c.toNat := by
  have hrange : 'a'.val ≤ c.val ∧ c.val ≤ 'z'.val ↔ 97 ≤ c.toNat ∧ c.toNat ≤ 122 := by
    rw [UInt32.le_iff_toNat_le, UInt32.le_iff_toNat_le]
    rfl
  rw [Char.toUpper]
  split_ifs with h hnat hnat
  · have hsum : c.val.toNat + 4294967264 = (c.toNat - 32) + 2 ^ 32 := by
      have hval : c.val.toNat = c.toNat := rfl
      omega
    calc (c.val + ('A'.val - 'a'.val)).toNat = (c.val.toNat + 4294967264) % 2 ^ 32 :=
          UInt32.toNat_add _ _
      _ = c.toNat - 32 := by
          rw [hsum, Nat.add_mod_right, Nat.mod_eq_of_lt]
          omega
  · exact absurd (hrange.mp h) hnat
  · exact absurd (hrange.mpr hnat) h
  · rfl

lemma toNat_toLower (c : Char) : c.toLower.toNat =
    if 65 ≤ c.toNat ∧ c.toNat ≤ 90 then c.toNat + 32 else c.toNat := by
  have hrange : c.val ≥ 'A'.val ∧ c.val ≤ 'Z'.val ↔ 65 ≤ c.toNat ∧ c.toNat ≤ 90 := by
    rw [ge_iff_le, UInt32.le_iff_toNat_le, UInt32.le_iff_toNat_le]
    rfl
  rw [Char.toLower]
  split_ifs with h hnat hnat
  · calc (c.val + ('a'.val - 'A'.val)).toNat = (c.toNat + 32) % 2 ^ 32 := UInt32.toNat_add _ _
      _ = c.toNat + 32 := Nat.mod_eq_of_lt (by omega)
  · exact absurd (hrange.mp h) hnat
  · exact absurd (hrange.mpr hnat) h
  · rfl

/-- A letter that is another one but for the case is it in lower case. -/
lemma toLowerChar_of_toUpper {c d : Char} (h : c.toUpper = d.toUpper)
    (hd : d.isLower = true) : toLowerChar c = d := by
  have hrange : 97 ≤ d.toNat ∧ d.toNat ≤ 122 := by
    simpa [Char.isLower, UInt32.le_iff_toNat_le] using hd
  have hupper : c.toUpper.toNat = d.toNat - 32 := by
    rw [h, toNat_toUpper, if_pos hrange]
  have hkelvin : c.toNat ≠ 0x212A := by
    intro hc
    rw [toNat_toUpper, hc] at hupper
    norm_num at hupper
    omega
  rw [toLowerChar, if_neg hkelvin, ← Char.toNat_inj, toNat_toLower]
  rw [toNat_toUpper] at hupper
  split_ifs at hupper ⊢ <;> omega

/-- A text that is a name but for the case is that name in lower case. -/
lemma toLowercase_of_eqIgnoreCase {s name : String} (h : Text.eqIgnoreCase s name = true)
    (hname : name.toList.all Char.isLower = true) : toLowercase s = name := by
  have hlist : s.toList.map toLowerChar = name.toList := by
    have hupper : s.toList.map Char.toUpper = name.toList.map Char.toUpper := by
      simpa [Text.eqIgnoreCase, Text.upper, Text.Casing.ascii] using h
    generalize s.toList = cs at *
    generalize name.toList = ds at *
    induction ds generalizing cs with
    | nil => simpa using hupper
    | cons d ds ih =>
        obtain ⟨c, cs, rfl, hc, hcs⟩ := List.map_eq_cons_iff.mp hupper
        rw [List.all_cons, Bool.and_eq_true] at hname
        rw [List.map_cons, toLowerChar_of_toUpper hc hname.1, ih cs hname.2 hcs]
  rw [toLowercase, hlist, String.ofList_toList]

/-! ### What is probed -/

/-- What a configuration says of the probes. -/
structure Effective where
  targets : List String
  modes : List Protocol
  runs : ℕ
  samples : ℕ
  concurrency : ℕ
  timeout : ℕ
  payloadSizes : Option (List ℕ)
  insecure : Bool

/-- What a resolved configuration says of the probes. -/
def effective (cfg : ResolvedConfig) : Effective where
  targets := cfg.targets
  modes := parsedModes cfg
  runs := cfg.runs
  samples := cfg.samples
  concurrency := cfg.concurrency
  timeout := cfg.timeout
  payloadSizes := parsedPayloadSizes cfg
  insecure := cfg.insecure

/-- A value of a member of a member. -/
def entry {α : Type} (outer name : String) (value? : Json → Option α) (d : Json) : Option α :=
  (d.get? outer).bind fun j => (j.get? name).bind value?

/-- The texts among the modes of a `TestConfig`. -/
def modesIn (d : Json) : Option (List String) :=
  (entry "workload" "modes" Json.items? d).map (·.filterMap Json.str?)

/-- The numbers among the payload sizes of a `TestConfig`. -/
def sizesIn (d : Json) : List ℕ :=
  ((entry "workload" "payload_sizes" Json.items? d).getD []).filterMap asU64

section File

variable {path : String} {d : Json} {file : ConfigFile}

lemma mapM_parseSize {ns : List ℕ} (h : ∀ n ∈ ns, n < 2 ^ 64) :
    (ns.map Text.ofNat).mapM (parseSize casing) = some ns := by
  induction ns with
  | nil => rfl
  | cons n ns ih =>
      rw [List.map_cons, List.mapM_cons, parseSize_ofNat (h n List.mem_cons_self),
        ih fun m hm => h m (List.mem_cons_of_mem n hm)]
      rfl

lemma asU64_lt {j : Json} {n : ℕ} (h : asU64 j = some n) : n < 2 ^ 64 := by
  cases j with
  | int m =>
      rw [asU64] at h
      split_ifs at h with hm
      cases h
      omega
  | _ => cases h

lemma sizesIn_lt {n : ℕ} (h : n ∈ sizesIn d) : n < 2 ^ 64 := by
  obtain ⟨j, -, hj⟩ := List.mem_filterMap.mp h
  exact asU64_lt hj

/-- **What a `TestConfig` says of the probes.** -/
lemma effective_file (h : configFromTestConfigValue path d = .ok file)
    (hkind : entry "endpoint" "kind" Json.str? d = some "network") :
    ∃ host, entry "endpoint" "host" Json.str? d = some host ∧
      effective (resolve {} (some file)) = {
        targets := [targetOf host (entry "endpoint" "port" asU64 d)]
        modes := (((modesIn d).getD ["http1", "http2", "udp"]).flatMap expand).eraseDups
        runs := ((entry "workload" "runs" asU64 d).map (· % 2 ^ 32)).getD 3
        samples := 1
        concurrency := (entry "workload" "concurrency" asU64 d).getD 1
        timeout := (entry "workload" "timeout_ms" asU64 d).getD 30
        payloadSizes := some (sizesIn d)
        insecure := false } := by
  obtain ⟨endpoint, hendpoint, hkind⟩ := Option.bind_eq_some_iff.mp hkind
  rw [configFromTestConfigValue, hendpoint] at h
  simp only [hkind, Option.getD_some, if_true] at h
  cases hhost : (endpoint.get? "host").bind Json.str? with
  | none =>
      rw [hhost] at h
      cases h
  | some host =>
      rw [hhost] at h
      cases h
      have hport : entry "endpoint" "port" asU64 d = (endpoint.get? "port").bind asU64 := by
        rw [entry, hendpoint]
        rfl
      refine ⟨host, by rw [entry, hendpoint]; exact hhost, ?_⟩
      rw [hport, effective, Effective.mk.injEq]
      refine ⟨rfl, rfl, rfl, rfl, rfl, rfl, ?_, rfl⟩
      calc parsedPayloadSizes _
          = (((entry "workload" "payload_sizes" Json.items? d).map fun sizes =>
              (sizes.filterMap asU64).map Text.ofNat).getD []).mapM (parseSize casing) := rfl
        _ = ((sizesIn d).map Text.ofNat).mapM (parseSize casing) := by
            rw [sizesIn]
            cases entry "workload" "payload_sizes" Json.items? d <;> rfl
        _ = some (sizesIn d) := mapM_parseSize fun n => sizesIn_lt

end File

end Cli

end Networker
