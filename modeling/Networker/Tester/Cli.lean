/-
The resolved configuration of the tester and its checks (`networker-tester/src/cli.rs`).

* `ResolvedConfig`: the configuration with all defaults applied;
* `Parsers`: what is parsed outside of this program, URLs, addresses and identifiers;
* `checks`, `validate`: the checks in their order, and the first one that fails;
* `validate_eq_ok_iff`: a configuration is accepted if none does.
-/
import Networker.Tester.Benchmark

namespace Networker

open Data Benchmark

namespace Cli

/-- `ResolvedConfig`, as far as it is checked or says what is probed. -/
structure ResolvedConfig extends Benchmark.ResolvedConfig where
  targets : List String
  urlTestUrl : Option String := none
  urlTestProtocolForce : Option String := none
  urlTestHttp3Repeat : ℕ := 10
  tlsProfileUrl : Option String := none
  tlsProfileIp : Option String := none
  tlsProfileTargetKind : Option String := none
  tlsProfileProjectId : Option String := none
  modes : List String
  concurrency : ℕ := 1
  timeout : ℕ := 30
  payloadSize : ℕ := 0
  payloadSizes : List String := []
  requestBody : Option String := none
  requestBodyFile : Option String := none
  requestContentType : Option String := none
  laghoundToken : Option String := none
  laghoundRoute : Option String := none
  ipv4Only : Bool := false
  ipv6Only : Bool := false
  insecure : Bool := false
  jsonStdout : Bool := false
  benchmarkEnvironmentCheckSamples : Option ℕ := none
  benchmarkEnvironmentCheckIntervalMs : Option ℕ := none
  benchmarkStabilityCheckSamples : Option ℕ := none
  benchmarkStabilityCheckIntervalMs : Option ℕ := none
  saveToDb : Bool := false
  dbUrl : Option String := none
  saveToSql : Bool := false
  connectionString : Option String := none

/-! ### Texts -/

/-- White space that `str::trim` drops. -/
def isWhitespace (c : Char) : Bool :=
  Text.isSpace c || (0x2000 ≤ c.toNat && c.toNat ≤ 0x200A) ||
    c.toNat ∈ [0x85, 0xA0, 0x1680, 0x2028, 0x2029, 0x202F, 0x205F, 0x3000]

/-- `str::trim`. -/
def trimChars (cs : List Char) : List Char :=
  ((cs.dropWhile isWhitespace).reverse.dropWhile isWhitespace).reverse

/-- A letter in lower case. Beyond the ASCII letters only the Kelvin sign has an ASCII letter as
its lower case; the others stay, since the texts are compared with ASCII names. -/
def toLowerChar (c : Char) : Char := if c.toNat = 0x212A then 'k' else c.toLower

/-- `str::to_lowercase`, for comparisons with ASCII names. -/
def toLowercase (s : String) : String := String.ofList (s.toList.map toLowerChar)

/-! ### Checks -/

/-- A parsed URL, as far as it is checked. -/
structure ParsedUrl where
  scheme : String
  host : Option String

/-- What parses URLs, addresses and identifiers, with its errors. -/
structure Parsers where
  url : String → Except String ParsedUrl
  ip : String → Except String Unit
  uuid : String → Except String Unit

/-- Whether a check fails, and its message. -/
abbrev Check := Bool × String

/-- A count is not zero. -/
def atLeastOne (flag : String) (n : Option ℕ) : Check :=
  (n == some 0, s!"{flag} must be at least 1")

/-- One count is not below another. -/
def notBelow (high low : String) (max min : ℕ) : Check :=
  (decide (max < min), s!"{high} must be greater than or equal to {low}")

/-- A number is positive and finite. -/
def positiveFinite (flag : String) (x : Option Float) : Check :=
  (x.any fun x => !x.isFinite || decide (x ≤ 0.0), s!"{flag} must be a positive finite number")

/-- A number is a percentage. -/
def percentage (flag : String) (x : Option Float) : Check :=
  (x.any fun x => !x.isFinite || !(decide (0.0 ≤ x) && decide (x ≤ 100.0)),
    s!"{flag} must be a finite number between 0 and 100")

variable (parsers : Parsers) (cfg : ResolvedConfig)

/-- The checks of the phase and the scenario. -/
def lifecycleChecks : List Check :=
  [(!decide (cfg.benchmarkPhase ∈ ["environment-check", "stability-check", "pilot", "warmup",
      "measured", "cooldown", "overhead"]),
    "--benchmark-phase must be one of: environment-check, stability-check, pilot, warmup, " ++
      "measured, cooldown, overhead"),
   ((trimChars cfg.benchmarkScenario.toList).isEmpty, "--benchmark-scenario must not be empty")]

/-- The least number of samples that is checked. -/
def checkedMin : ℕ := cfg.benchmarkMinSamples.getD cfg.runs

/-- The greatest number of samples that is checked. -/
def checkedMax : ℕ := cfg.benchmarkMaxSamples.getD cfg.runs

/-- The least number of pilot samples that is checked. -/
def checkedPilotMin : ℕ := cfg.benchmarkPilotMinSamples.getD 1

/-- The greatest number of pilot samples that is checked. -/
def checkedPilotMax : ℕ := cfg.benchmarkPilotMaxSamples.getD (checkedPilotMin cfg)

/-- The checks of the numbers of samples. -/
def sampleChecks : List Check :=
  [atLeastOne "--benchmark-min-samples" (some (checkedMin cfg)),
   atLeastOne "--benchmark-max-samples" (some (checkedMax cfg)),
   notBelow "--benchmark-max-samples" "--benchmark-min-samples" (checkedMax cfg) (checkedMin cfg),
   atLeastOne "--benchmark-pilot-min-samples" (some (checkedPilotMin cfg)),
   atLeastOne "--benchmark-pilot-max-samples" (some (checkedPilotMax cfg)),
   notBelow "--benchmark-pilot-max-samples" "--benchmark-pilot-min-samples"
     (checkedPilotMax cfg) (checkedPilotMin cfg),
   atLeastOne "--benchmark-stability-check-samples" cfg.benchmarkStabilityCheckSamples,
   atLeastOne "--benchmark-environment-check-samples" cfg.benchmarkEnvironmentCheckSamples,
   atLeastOne "--benchmark-overhead-samples" cfg.benchmarkOverheadSamples,
   atLeastOne "--benchmark-cooldown-samples" cfg.benchmarkCooldownSamples]

/-- The checks of the targets for errors, and of the noise thresholds. -/
def thresholdChecks : List Check :=
  [positiveFinite "--benchmark-target-relative-error" cfg.benchmarkTargetRelativeError,
   positiveFinite "--benchmark-target-absolute-error" cfg.benchmarkTargetAbsoluteError,
   percentage "--benchmark-max-packet-loss-percent" cfg.benchmarkMaxPacketLossPercent,
   positiveFinite "--benchmark-max-jitter-ratio" cfg.benchmarkMaxJitterRatio,
   positiveFinite "--benchmark-max-rtt-spread-ratio" cfg.benchmarkMaxRttSpreadRatio,
   percentage "--benchmark-max-cpu-busy-percent" cfg.benchmarkMaxCpuBusyPercent,
   percentage "--benchmark-max-cpu-steal-percent" cfg.benchmarkMaxCpuStealPercent]

/-- Controls that are not supported in the measured phase with HTTP stacks. -/
def withoutStacks (controls : String) (requested : Bool) : Check :=
  (requested && measuredBenchmark cfg.toResolvedConfig && !cfg.httpStacks.isEmpty,
    s!"{controls} are not yet supported together with --http-stacks")

/-- The checks of the controls of a benchmark with HTTP stacks. -/
def stackChecks : List Check :=
  [withoutStacks cfg "adaptive benchmark stop controls" (controlsRequested cfg.toResolvedConfig),
   withoutStacks cfg "pilot benchmark controls" (pilotRequested cfg.toResolvedConfig),
   withoutStacks cfg "stability-check controls"
     (cfg.benchmarkStabilityCheckSamples.isSome || cfg.benchmarkStabilityCheckIntervalMs.isSome),
   withoutStacks cfg "environment-check controls"
     (cfg.benchmarkEnvironmentCheckSamples.isSome ||
       cfg.benchmarkEnvironmentCheckIntervalMs.isSome),
   withoutStacks cfg "benchmark noise thresholds"
     (cfg.benchmarkMaxPacketLossPercent.isSome || cfg.benchmarkMaxJitterRatio.isSome ||
       cfg.benchmarkMaxRttSpreadRatio.isSome || cfg.benchmarkMaxCpuBusyPercent.isSome ||
       cfg.benchmarkMaxCpuStealPercent.isSome)]

/-- The message of a scheme that is not supported. -/
def unsupportedScheme (flag scheme hint : String) : String :=
  s!"{flag} unsupported URL scheme '{scheme}'{hint}"

/-- The checks of the URL test. -/
def urlTestChecks : List Check :=
  match cfg.urlTestUrl with
  | none => []
  | some url =>
      match parsers.url url with
      | .error e => [(true, s!"--url-test-url invalid URL: {e}")]
      | .ok parsed =>
          [(!decide (parsed.scheme ∈ ["http", "https"]),
            unsupportedScheme "--url-test-url" parsed.scheme ""),
           (cfg.urlTestProtocolForce.any fun force => !decide (force ∈ ["auto", "h1", "h2", "h3"]),
            "--url-test-protocol-force must be one of: auto, h1, h2, h3"),
           atLeastOne "--url-test-http3-repeat" (some cfg.urlTestHttp3Repeat)]

/-- The check that a text can be parsed, if there is one. -/
def parses (what : String) (parse : String → Except String Unit) (text : Option String) : Check :=
  match text.map parse with
  | some (.error e) => (true, s!"{what}: {e}")
  | _ => (false, "")

/-- The checks of the TLS profile. -/
def tlsProfileChecks : List Check :=
  match cfg.tlsProfileUrl with
  | none => []
  | some url =>
      match parsers.url url with
      | .error e => [(true, s!"--tls-profile-url invalid URL: {e}")]
      | .ok parsed =>
          [(parsed.scheme != "https",
            unsupportedScheme "--tls-profile-url" parsed.scheme " (expected https)"),
           (parsed.host.isNone, "--tls-profile-url must include a host"),
           (cfg.tlsProfileTargetKind.any fun kind =>
              !decide (kind ∈ ["managed-endpoint", "managed_endpoint", "external-url",
                "external_url", "external-host", "external_host"]),
            "--tls-profile-target-kind must be one of: managed-endpoint, external-url, " ++
              "external-host"),
           parses "--tls-profile-ip invalid IP" parsers.ip cfg.tlsProfileIp,
           parses "--tls-profile-project-id invalid UUID" parsers.uuid cfg.tlsProfileProjectId]

/-- The checks of the databases. -/
def databaseChecks : List Check :=
  [(cfg.saveToDb && cfg.dbUrl.isNone && !cfg.saveToSql,
    "--save-to-db requires --db-url (or NETWORKER_DB_URL env var)"),
   (cfg.saveToSql && cfg.connectionString.isNone && cfg.dbUrl.isNone,
    "--save-to-sql requires --connection-string (or NETWORKER_SQL_CONN env var)")]

/-- An explicit request body is set. -/
def hasBody : Bool := cfg.requestBody.isSome || cfg.requestBodyFile.isSome

/-- The modes that do not send an explicit body. -/
def bodilessModes : List String :=
  cfg.modes.filter fun m => !decide (toLowercase m ∈ ["http1", "http2"])

/-- The checks of the modes and of what the requests carry. -/
def requestChecks : List Check :=
  let unsupported := Text.join ", " (bodilessModes cfg)
  [(cfg.modes.isEmpty, "At least one --modes value is required"),
   (cfg.ipv4Only && cfg.ipv6Only, "--ipv4-only and --ipv6-only are mutually exclusive"),
   (cfg.requestBody.isSome && cfg.requestBodyFile.isSome,
    "--request-body and --request-body-file are mutually exclusive"),
   (hasBody cfg && decide (0 < cfg.payloadSize),
    "--request-body/--request-body-file conflict with --payload-size"),
   (hasBody cfg && !(bodilessModes cfg).isEmpty,
    "--request-body/--request-body-file only support --modes http1,http2 " ++
      s!"(got unsupported mode(s): {unsupported})"),
   (cfg.requestContentType.isSome && !hasBody cfg,
    "--request-content-type requires --request-body or --request-body-file")]

/-- All checks, in their order. -/
def checks : List Check :=
  lifecycleChecks cfg ++ sampleChecks cfg ++ thresholdChecks cfg ++ stackChecks cfg ++
    urlTestChecks parsers cfg ++ tlsProfileChecks parsers cfg ++ databaseChecks cfg ++
    requestChecks cfg

/-- `ResolvedConfig::validate`. -/
def validate : Except String Unit :=
  match (checks parsers cfg).find? Prod.fst with
  | some check => .error check.2
  | none => .ok ()

variable {parsers cfg}

/-- **A configuration is accepted if no check fails.** -/
lemma validate_eq_ok_iff :
    validate parsers cfg = .ok () ↔ ∀ check ∈ checks parsers cfg, check.1 = false := by
  rw [validate]
  cases h : (checks parsers cfg).find? Prod.fst with
  | some check =>
      have hmem := List.mem_of_find?_eq_some h
      have hfails : check.1 = true := List.find?_some h
      simp only [reduceCtorEq, false_iff, not_forall]
      exact ⟨check, hmem, by simp [hfails]⟩
  | none => simpa using h

/-- What is not accepted has the message of a check that fails. -/
lemma exists_check_of_validate_error {message : String}
    (h : validate parsers cfg = .error message) : (true, message) ∈ checks parsers cfg := by
  rw [validate] at h
  cases hfind : (checks parsers cfg).find? Prod.fst with
  | none => simp [hfind] at h
  | some check =>
      have hmem := List.mem_of_find?_eq_some hfind
      have hfails : check.1 = true := List.find?_some hfind
      rw [hfind] at h
      cases h
      rwa [← hfails]

end Cli

end Networker
