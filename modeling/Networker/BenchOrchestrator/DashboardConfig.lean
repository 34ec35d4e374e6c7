/-
The configuration of a dashboard benchmark (`benchmarks/orchestrator/src/config.rs`).

* `DashboardBenchmarkConfig`: testbeds with their languages and proxies, and the methodology;
* `validate`: what is checked when a configuration is loaded;
* `matrixLanguages`: the languages that an application benchmark runs on a testbed;
* `effectiveHttpVersionsForProxy`, `testerModes`: what is run for a language.
-/
import Networker.Data.Text

namespace Networker

open Data

namespace BenchOrchestrator

/-- `TestbedConfig`, without its place in the cloud. -/
structure TestbedConfig where
  testbedId : String
  existingVmIp : Option String := none
  os : String := "linux"
  languages : List String
  proxies : List String := []

/-- `MethodologyConfig`, as far as a run depends on it. -/
structure MethodologyConfig where
  minMeasured : ℕ := 50
  modes : List String := ["http1", "http2"]
  timeoutSecs : ℕ := 30

/-- `DashboardBenchmarkConfig`. -/
structure DashboardBenchmarkConfig where
  configId : String
  testbeds : List TestbedConfig
  methodology : MethodologyConfig := {}
  autoTeardown : Bool := false
  benchmarkType : String := "fullstack"

/-- A benchmark of applications behind proxies. -/
def DashboardBenchmarkConfig.isApplication (config : DashboardBenchmarkConfig) : Bool :=
  config.benchmarkType == "application"

/-! ### Validation -/

/-- What a configuration is refused for, with what the message names. -/
inductive Invalid
  | emptyConfigId
  | noTestbeds
  | emptyTestbedId
  | noLanguages (testbedId : String)
  | languageName (language testbedId : String)
  | benchmarkType (benchmarkType : String)
  | noProxy (testbedId : String)
  | proxy (proxy testbedId : String)
  | minMeasured
  | timeoutSecs
deriving DecidableEq

/-- A check of a configuration. -/
def ensure (c : Bool) (e : Invalid) : Except Invalid Unit := if c then .ok () else .error e

/-- A name that is safe in a shell. -/
def isSafeName (name : String) : Bool :=
  !name.isEmpty && name.toList.all fun c =>
    c.isAlphanum || c == '-' || c == '_' || c == '.'

/-- `VALID_PROXIES`. -/
def validProxies : List String := ["nginx", "iis", "caddy", "traefik", "haproxy", "apache"]

/-- The checks of one testbed. -/
def validateTestbed (testbed : TestbedConfig) : Except Invalid Unit := do
  ensure (!testbed.testbedId.isEmpty) .emptyTestbedId
  ensure (!testbed.languages.isEmpty) (.noLanguages testbed.testbedId)
  forM testbed.languages fun language =>
    ensure (isSafeName language) (.languageName language testbed.testbedId)

/-- The checks of the proxies of one testbed. -/
def validateProxies (testbed : TestbedConfig) : Except Invalid Unit := do
  ensure (!testbed.proxies.isEmpty) (.noProxy testbed.testbedId)
  forM testbed.proxies fun proxy =>
    ensure (validProxies.contains proxy) (.proxy proxy testbed.testbedId)

/-- `DashboardBenchmarkConfig::validate`. -/
def validate (config : DashboardBenchmarkConfig) : Except Invalid Unit := do
  ensure (!config.configId.isEmpty) .emptyConfigId
  ensure (!config.testbeds.isEmpty) .noTestbeds
  forM config.testbeds validateTestbed
  ensure (["fullstack", "application"].contains config.benchmarkType)
    (.benchmarkType config.benchmarkType)
  if config.isApplication then forM config.testbeds validateProxies
  ensure (decide (0 < config.methodology.minMeasured)) .minMeasured
  ensure (decide (0 < config.methodology.timeoutSecs)) .timeoutSecs

/-- The testbeds of a valid configuration. -/
structure Loaded (config : DashboardBenchmarkConfig) : Prop where
  languages : ∀ testbed ∈ config.testbeds, testbed.languages ≠ []
  proxies : config.isApplication = true → ∀ testbed ∈ config.testbeds, testbed.proxies ≠ []

section Loaded

variable {config : DashboardBenchmarkConfig} {testbed : TestbedConfig}

lemma ok_of_bind {α β : Type} {x : Except Invalid α} {f : α → Except Invalid β} {b : β}
    (h : (x >>= f) = .ok b) : ∃ a, x = .ok a ∧ f a = .ok b := by
  cases x with
  | error e => cases h
  | ok a => exact ⟨a, rfl, h⟩

lemma ok_of_forM {α : Type} {f : α → Except Invalid Unit} {xs : List α}
    (h : forM xs f = .ok ()) : ∀ x ∈ xs, f x = .ok () := by
  induction xs with
  | nil => exact fun x hx => absurd hx List.not_mem_nil
  | cons x xs ih =>
      rw [List.forM_cons] at h
      obtain ⟨_, hx, h⟩ := ok_of_bind h
      exact List.forall_mem_cons.mpr ⟨hx, ih h⟩

lemma ensure_eq_ok {c : Bool} {e : Invalid} {u : Unit} : ensure c e = .ok u ↔ c = true := by
  cases c <;> simp [ensure]

lemma languages_of_validateTestbed (h : validateTestbed testbed = .ok ()) :
    testbed.languages ≠ [] := by
  obtain ⟨_, _, h⟩ := ok_of_bind h
  obtain ⟨_, hlanguages, _⟩ := ok_of_bind h
  simpa using ensure_eq_ok.mp hlanguages

lemma proxies_of_validateProxies (h : validateProxies testbed = .ok ()) :
    testbed.proxies ≠ [] := by
  obtain ⟨_, hproxies, _⟩ := ok_of_bind h
  simpa using ensure_eq_ok.mp hproxies

/-- A configuration that is accepted has a language, and a proxy where it needs one, on every
testbed. -/
lemma loaded_of_validate (h : validate config = .ok ()) : Loaded config := by
  obtain ⟨_, _, h⟩ := ok_of_bind h
  obtain ⟨_, _, h⟩ := ok_of_bind h
  obtain ⟨_, htestbeds, h⟩ := ok_of_bind h
  obtain ⟨_, _, h⟩ := ok_of_bind h
  refine ⟨fun testbed ht => languages_of_validateTestbed (ok_of_forM htestbeds testbed ht),
    fun happlication testbed ht => ?_⟩
  rw [if_pos happlication] at h
  obtain ⟨_, hproxies, _⟩ := ok_of_bind h
  exact proxies_of_validateProxies (ok_of_forM hproxies testbed ht)

end Loaded

/-! ### Languages and modes -/

/-- `APIBENCH_MODE`. -/
def apibenchMode : String := "apibench"

/-- `language_supports_apibench`. -/
def languageSupportsApibench (language : String) : Bool := language != "nginx"

/-- The measured API workloads are asked for. -/
def apibenchRequested (methodology : MethodologyConfig) : Bool :=
  methodology.modes.any (· == apibenchMode)

/-- The modes for the tester, in one text. -/
def testerModes (methodology : MethodologyConfig) : String :=
  Text.join "," (methodology.modes.filter (· != apibenchMode))

/-- A language that the operating system of the testbed can run. -/
def runsOn (testbed : TestbedConfig) (language : String) : Bool :=
  !(language == "csharp-net48" && testbed.os != "windows")

/-- The languages an application benchmark runs, each with its place in the configuration. -/
def matrixLanguages (testbed : TestbedConfig) : List (String × ℕ) :=
  testbed.languages.zipIdx.filter fun language => runsOn testbed language.1

/-- `proxy_supports_http3`. -/
def proxySupportsHttp3 (proxy : String) : Bool := proxy ∈ ["nginx", "caddy", "traefik", "iis"]

/-- `effective_http_versions_for_proxy`. -/
def effectiveHttpVersionsForProxy (proxy : String) (modes : List String) : List String :=
  modes.filterMap fun mode =>
    match mode with
    | "http1" => some "h1"
    | "http2" => some "h2"
    | "http3" => if proxySupportsHttp3 proxy then some "h3" else none
    | _ => none

end BenchOrchestrator

end Networker
