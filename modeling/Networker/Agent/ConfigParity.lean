/-
One configuration, read by the tester and by the agent.

* `number?_ok`, `texts_ok`, `sizes_ok`: what both read of a member that the agent accepts;
* `OneTarget`, `SameProtocols`, `SameMeaning`: what a configuration must look like to mean the
  same to both;
* `sameProtocols_iff`: where no mode has a comma, only the page loads can differ;
* `effective_eq_iff`: the two meanings are the same exactly for these configurations;
* `parseArgs`: a parser of command lines, to run the examples with.
-/
import Networker.Agent.CommandLine
import Networker.Data.FirstMentions

namespace Networker

open Data

namespace TestConfigView

open Cli (asU64)

/-! ### Members that both read -/

section Reading

variable {name : String} {j : Json}

lemma member_ok {found : Option Json} (h : member name j = .ok found) : j.get? name = found := by
  rw [member] at h
  split_ifs at h
  cases h
  rfl

lemma getUInt32_ok {v : UInt32} (h : getUInt32 j = .ok v) : asU64 j = some v.toNat := by
  cases j with
  | int n =>
      rw [getUInt32] at h
      split_ifs at h with hn
      cases h
      have hlt : n.toNat < 2 ^ 32 := by omega
      rw [asU64, if_pos (by omega), UInt32.toNat_ofNat_of_lt' hlt]
  | _ => cases h

lemma asU64_of_isNumber (h : isNumber j = false) : asU64 j = none := by
  cases j with
  | int n => cases h
  | _ => rfl

lemma number?_ok {v : Option UInt32} (h : number? name j = .ok v) :
    v.map UInt32.toNat = (j.get? name).bind asU64 := by
  obtain ⟨found, hmember, h⟩ := bind_eq_ok.mp h
  rw [member_ok hmember]
  cases found with
  | none =>
      cases h
      rfl
  | some w =>
      rw [Option.bind_some]
      by_cases hnumber : isNumber w = true
      · simp only [hnumber, if_true] at h
        cases hread : getUInt32 w with
        | error fault => simp [hread] at h
        | ok n =>
            rw [hread] at h
            cases h
            exact (getUInt32_ok hread).symm
      · simp only [hnumber] at h
        cases h
        exact (asU64_of_isNumber (by simpa using hnumber)).symm

lemma getUInt_ok {fallback v : UInt32} (h : getUInt name fallback j = .ok v) :
    v.toNat = ((j.get? name).bind asU64).getD fallback.toNat := by
  obtain ⟨n, hn, h⟩ := bind_eq_ok.mp h
  cases h
  rw [← number?_ok hn]
  cases n <;> rfl

lemma getString_ok {text : Option String} (h : getString j = .ok text) : j.str? = text := by
  cases j <;> cases h <;> rfl

lemma textOr_ok {fallback text : String} (h : textOr name fallback j = .ok text) :
    text = ((j.get? name).bind Json.str?).getD fallback := by
  obtain ⟨found, hmember, h⟩ := bind_eq_ok.mp h
  rw [member_ok hmember]
  cases found with
  | none =>
      cases h
      rfl
  | some w =>
      obtain ⟨read, hread, h⟩ := bind_eq_ok.mp h
      cases h
      rw [Option.bind_some, getString_ok hread]

/-- Items that are read one by one are read in the other way at once. -/
lemma filterMap_of_mapM_ok {α β γ : Type} {f : α → Except Fault β} {g : α → Option γ}
    {k : β → Option γ} (hread : ∀ a b, f a = .ok b → g a = k b) {as : List α} {bs : List β}
    (h : as.mapM f = .ok bs) : bs.filterMap k = as.filterMap g := by
  induction as generalizing bs with
  | nil =>
      cases h
      rfl
  | cons a as ih =>
      rw [List.mapM_cons] at h
      obtain ⟨b, hb, h⟩ := bind_eq_ok.mp h
      obtain ⟨rest, hrest, h⟩ := bind_eq_ok.mp h
      cases h
      rw [List.filterMap_cons, List.filterMap_cons, ih hrest, hread a b hb]

lemma items?_eq_none {found : Option Json} (h : ∀ items, found ≠ some (.arr items)) :
    found.bind Json.items? = none := by
  cases found with
  | none => rfl
  | some w =>
      cases w with
      | arr items => exact absurd rfl (h items)
      | _ => rfl

lemma texts_ok {ss : List String} (h : texts name j = .ok ss) :
    ss = (((j.get? name).bind Json.items?).getD []).filterMap Json.str? := by
  obtain ⟨found, hmember, h⟩ := bind_eq_ok.mp h
  rw [member_ok hmember]
  split at h
  case h_1 items =>
    obtain ⟨read, hread, h⟩ := bind_eq_ok.mp h
    cases h
    exact filterMap_of_mapM_ok (k := id) (fun _ _ => getString_ok) hread
  case h_2 hother =>
    cases h
    rw [items?_eq_none hother]
    rfl

lemma sizes_ok {us : List UInt32} (h : sizes j = .ok us) :
    us.map UInt32.toNat =
      (((j.get? "payload_sizes").bind Json.items?).getD []).filterMap asU64 := by
  obtain ⟨found, hmember, h⟩ := bind_eq_ok.mp h
  rw [member_ok hmember]
  split at h
  case h_1 items =>
    calc us.map UInt32.toNat = us.filterMap (some ∘ UInt32.toNat) := by
          rw [List.filterMap_eq_map]
      _ = (items.filter isNumber).filterMap asU64 :=
          filterMap_of_mapM_ok (fun _ _ => getUInt32_ok) h
      _ = items.filterMap asU64 := by
          rw [List.filterMap_filter]
          refine List.filterMap_congr fun item _ => ?_
          split_ifs with hnumber
          · rfl
          · exact (asU64_of_isNumber (by simpa using hnumber)).symm
  case h_2 hother =>
    cases h
    rw [items?_eq_none hother]
    rfl

lemma isTrue_ok {b : Bool} (h : isTrue name j = .ok b) :
    b = true ↔ j.get? name = some (.bool true) := by
  obtain ⟨found, hmember, h⟩ := bind_eq_ok.mp h
  rw [member_ok hmember]
  split at h
  case h_1 c =>
    cases h
    simp
  case h_2 hother =>
    cases h
    simp only [Bool.false_eq_true, false_iff]
    rintro rfl
    exact hother true rfl

end Reading

end TestConfigView

namespace RunExecutor

open Cli (ConfigFile Arguments Effective asU64 configFromTestConfigValue effective entry expand modesIn resolve
  sizesIn targetOf)
open TestConfigView
open Metrics (Protocol)

/-! ### What must agree -/

/-- The host of a configuration. -/
def hostIn (d : Json) : String := (entry "endpoint" "host" Json.str? d).getD ""

/-- The port of a configuration. -/
def portIn (d : Json) : Option ℕ := entry "endpoint" "port" asU64 d

/-- The set of hosts of a configuration. -/
def hostsIn (d : Json) : List String :=
  ((entry "endpoint" "hosts" Json.items? d).getD []).filterMap Json.str?

/-- The hosts that a configuration names, without the empty ones. -/
def namedHosts (d : Json) : List String := (hostIn d :: hostsIn d).filter (· ≠ "")

/-- The host is the only target, and its port is one. -/
def OneTarget (d : Json) : Prop :=
  namedHosts d ≠ [] ∧
    ∀ u ∈ namedHosts d, targetOf u ((portIn d).map (· % 2 ^ 16)) = targetOf (hostIn d) (portIn d)

/-- The modes and their tokens name the same protocols, in the same order. -/
def SameProtocols (modes : List String) : Prop :=
  (modes.flatMap expand).eraseDups = ((tokens modes).flatMap expand).eraseDups

/-- The configurations that mean the same to the tester and to the agent. -/
structure SameMeaning (d : Json) : Prop where
  targets : OneTarget d
  modes : ∃ modes, modesIn d = some modes ∧ SameProtocols modes
  runs : entry "workload" "runs" asU64 d ≠ none
  samples : ∀ n ∈ entry "workload" "samples" asU64 d, n ≤ 1
  timeout : ∀ n ∈ entry "workload" "timeout_ms" asU64 d, n = 1
  payloadSizes : sizesIn d = [] → ∀ mode ∈ (modesIn d).getD [], requiresPayloadSizes mode = false
  insecure : entry "workload" "insecure" some d ≠ some (.bool true)

/-! ### Targets -/

section Targets

/-- Without a host the target is not the default one. -/
lemma targetOf_empty_ne (port : Option ℕ) : targetOf "" port ≠ "http://localhost:8080/health" := by
  intro h
  have hfifth := congrArg (fun s : String => s.toList[4]?) h
  cases port <;> simp [targetOf, Text.startsWith] at hfifth

lemma hostTarget_eq (port : Option UInt32) (host : String) :
    hostTarget (port.map UInt32.toUInt16) host =
      targetOf host ((port.map UInt32.toNat).map (· % 2 ^ 16)) := by
  cases port with
  | none => rfl
  | some p => simp [hostTarget, targetOf]

lemma length_pos_iff_ne {s : String} : 0 < s.length ↔ s ≠ "" := by
  rw [Nat.pos_iff_ne_zero, ne_eq, String.length_eq_zero_iff]

lemma mem_leadHosts {host u : String} {hosts : List String} :
    u ∈ leadHosts host hosts ↔ u ∈ hosts ∨ u = host ∧ host ≠ "" := by
  rw [leadHosts]
  simp only [length_pos_iff_ne]
  split_ifs with hempty hlead
  · simp [hempty.2]
  · simp [hlead.1, or_comm]
  · constructor
    · exact Or.inl
    · rintro (hu | ⟨rfl, hne⟩)
      · exact hu
      · by_contra hnot
        exact hlead ⟨hne, hnot⟩

variable {d endpoint : Json} {network : EndpointNetwork}

/-- The hosts of the view are those that the configuration names. -/
lemma mem_hosts_iff (hendpoint : d.get? "endpoint" = some endpoint)
    (h : networkOf endpoint = .ok network) {u : String} :
    u ∈ network.hosts ↔ u ∈ namedHosts d := by
  obtain ⟨host, hhost, h⟩ := bind_eq_ok.mp h
  obtain ⟨port, -, h⟩ := bind_eq_ok.mp h
  obtain ⟨hosts, hhosts, h⟩ := bind_eq_ok.mp h
  cases h
  have hhostIn : hostIn d = host := by
    rw [textOr_ok hhost, hostIn, entry, hendpoint]
    rfl
  have hhostsIn : hostsIn d = hosts := by
    rw [texts_ok hhosts, hostsIn, entry, hendpoint]
    rfl
  rw [mem_leadHosts, namedHosts, hhostIn, hhostsIn]
  simp only [List.mem_eraseDups, List.mem_filter, length_pos_iff_ne, List.mem_cons]
  grind

/-- A target of the view is that of a host with the port as the agent reads it. -/
lemma hostTarget_network (hendpoint : d.get? "endpoint" = some endpoint)
    (h : networkOf endpoint = .ok network) (u : String) :
    hostTarget network.port u = targetOf u ((portIn d).map (· % 2 ^ 16)) := by
  obtain ⟨host, -, h⟩ := bind_eq_ok.mp h
  obtain ⟨port, hport, h⟩ := bind_eq_ok.mp h
  obtain ⟨hosts, -, h⟩ := bind_eq_ok.mp h
  cases h
  have hportIn : portIn d = port.map UInt32.toNat := by
    rw [number?_ok hport, portIn, entry, hendpoint]
    rfl
  rw [hportIn]
  exact hostTarget_eq port u

lemma targets_iff {config : TestConfigView} (hendpoint : d.get? "endpoint" = some endpoint)
    (hkind : config.endpointKind = "network") (hnetwork : config.network = some network)
    (h : networkOf endpoint = .ok network) :
    [targetOf (hostIn d) (portIn d)] =
        (if endpointToTargets config = [] then ["http://localhost:8080/health"]
          else endpointToTargets config) ↔ OneTarget d := by
  have htargets : endpointToTargets config =
      (network.hosts.map (hostTarget network.port)).eraseDups := by
    simp only [endpointToTargets, hnetwork, hkind, ne_eq, not_true_eq_false, if_false]
  have hall : (∀ x ∈ network.hosts.map (hostTarget network.port),
      x = targetOf (hostIn d) (portIn d)) ↔ ∀ u ∈ namedHosts d,
        targetOf u ((portIn d).map (· % 2 ^ 16)) = targetOf (hostIn d) (portIn d) := by
    simp only [List.forall_mem_map, hostTarget_network hendpoint h, mem_hosts_iff hendpoint h]
  have hnil : network.hosts.map (hostTarget network.port) = [] ↔ namedHosts d = [] := by
    rw [List.map_eq_nil_iff, List.eq_nil_iff_forall_not_mem, List.eq_nil_iff_forall_not_mem]
    simp only [mem_hosts_iff hendpoint h]
  rw [htargets, OneTarget, ← hall]
  split_ifs with hempty
  · have hnone : namedHosts d = [] := by
      rw [← hnil, List.eq_nil_iff_forall_not_mem]
      rw [List.eq_nil_iff_forall_not_mem] at hempty
      simpa only [List.mem_eraseDups] using hempty
    have hhost : hostIn d = "" := by
      rw [namedHosts, List.filter_eq_nil_iff] at hnone
      simpa using hnone (hostIn d) List.mem_cons_self
    simp [hnone, hhost, targetOf_empty_ne]
  · rw [eq_comm, eraseDups_eq_singleton, ne_eq, hnil]

end Targets

/-! ### Modes, numbers and sizes -/

section Fields

variable {d workload : Json}

lemma modes_iff : (((modesIn d).getD ["http1", "http2", "udp"]).flatMap expand).eraseDups =
      ((tokens ((modesIn d).getD [])).flatMap expand).eraseDups ↔
    ∃ modes, modesIn d = some modes ∧ SameProtocols modes := by
  cases modesIn d with
  | none =>
      simp only [reduceCtorEq, false_and, exists_false, iff_false]
      decide
  | some modes => simp [SameProtocols]

/-- No number of samples but one is found in the file. -/
lemma samples_iff {config : TestConfigView} {n : UInt32} (h : config.samples = max1 n) :
    1 = min (max ((passedSamples config).getD 1) 1) 50 ↔ n.toNat ≤ 1 := by
  have hlt : 1 < config.samples ↔ 1 < max 1 n.toNat := by
    rw [UInt32.lt_iff_toNat_lt, h, toNat_max1]
    rfl
  rw [passedSamples]
  split_ifs with hmore
  · rw [hlt] at hmore
    rw [Option.getD_some, h, toNat_max1]
    omega
  · rw [hlt] at hmore
    simp only [Option.getD_none]
    omega

/-- A timeout in milliseconds is one in seconds where it is one. -/
lemma timeout_iff {config : TestConfigView} {timeout : Option ℕ}
    (h : config.timeoutMs.toNat = timeout.getD 30000) :
    timeout.getD 30 = (timeoutSecs config).toNat ↔ ∀ n ∈ timeout, n = 1 := by
  have hlt := config.timeoutMs.toNat_lt
  have hsecs : (timeoutSecs config).toNat =
      max 1 ((config.timeoutMs.toNat + 999) % 4294967296 / 1000) := by
    rw [timeoutSecs, toNat_max1, UInt32.toNat_div, UInt32.toNat_add]
    rfl
  rw [hsecs]
  generalize config.timeoutMs.toNat = ms at *
  subst h
  cases timeout with
  | none => simp
  | some n =>
      simp only [Option.getD_some, Option.mem_def, Option.some.injEq, forall_eq'] at *
      by_cases hwraps : n + 999 < 4294967296
      · rw [Nat.mod_eq_of_lt hwraps]
        omega
      · -- what is left of the sum is less than a second
        have hsmall : (n + 999) % 4294967296 / 1000 = 0 := by omega
        rw [hsmall]
        omega

lemma passedSizes_iff {config : TestConfigView} {sizes : List ℕ}
    (h : config.payloadSizes.map UInt32.toNat = sizes) :
    some sizes = some ((passedSizes config).map UInt32.toNat) ↔
      (sizes = [] → ∀ mode ∈ config.modes, requiresPayloadSizes mode = false) := by
  subst h
  simp only [passedSizes, List.length_eq_zero_iff, Option.some.injEq]
  split_ifs with hneeds
  · obtain ⟨hnil, hany⟩ := hneeds
    obtain ⟨mode, hmode, hrequires⟩ := List.any_eq_true.mp hany
    simp only [hnil, List.map_nil, forall_const]
    constructor
    · intro h
      cases h
    · intro h
      rw [h mode hmode] at hrequires
      cases hrequires
  · simp only [true_iff, List.map_eq_nil_iff]
    intro hnil mode hmode
    by_contra hrequires
    rw [Bool.not_eq_false] at hrequires
    exact hneeds ⟨hnil, List.any_eq_true.mpr ⟨mode, hmode, hrequires⟩⟩

lemma runs_iff {runs : UInt32} {found : Option ℕ} (h : runs.toNat = found.getD 1) :
    (found.map (· % 2 ^ 32)).getD 3 = runs.toNat ↔ found ≠ none := by
  have hlt := runs.toNat_lt
  rw [h] at hlt ⊢
  cases found with
  | none => simp
  | some n => simpa using Nat.mod_eq_of_lt hlt

end Fields

/-! ### Modes without a comma -/

section Protocols

variable {mode : String} {modes before after : List String}

/-- The mode that means a page load over HTTP/1.1 to the agent, and over all versions to the
tester. -/
def isPageload (mode : String) : Bool := Text.eqIgnoreCase mode "pageload"

lemma expand_apibench (h : isApibenchMode mode = true) : expand mode = [] := by
  have hlower := Cli.toLowercase_of_eqIgnoreCase h (by decide)
  simp only [expand, hlower]
  decide

lemma expand_pageload (h : isPageload mode = true) :
    expand mode = [.pageLoad, .pageLoad2, .pageLoad3] := by
  have hlower := Cli.toLowercase_of_eqIgnoreCase h (by decide)
  simp only [expand, hlower, if_true]

lemma not_pageload_of_apibench (h : isApibenchMode mode = true) : isPageload mode = false := by
  by_contra hpage
  have happ := Cli.toLowercase_of_eqIgnoreCase h (by decide)
  have hpage := Cli.toLowercase_of_eqIgnoreCase (Bool.not_eq_false _ ▸ hpage) (by decide)
  rw [happ] at hpage
  exact absurd hpage (by decide)

/-- The protocols of a mode as the agent passes it. -/
def passedProtocols (mode : String) : List Protocol :=
  if isPageload mode then [.pageLoad] else expand mode

lemma flatMap_tokens (h : ∀ mode ∈ modes, ',' ∉ mode.toList) :
    (tokens modes).flatMap expand = modes.flatMap passedProtocols := by
  induction modes with
  | nil => rfl
  | cons mode modes ih =>
      have hrest := ih fun m hm => h m (List.mem_cons_of_mem mode hm)
      have hmode := splitComma_eq_singleton (h mode List.mem_cons_self)
      rw [List.flatMap_cons, ← hrest, tokens, tokens, passedProtocols]
      by_cases happ : isApibenchMode mode = true
      · rw [List.filter_cons_of_neg (by simp [happ]), if_neg (by simp [not_pageload_of_apibench happ]),
          expand_apibench happ, List.nil_append]
      · rw [List.filter_cons_of_pos (by simp [happ]), List.map_cons, List.flatMap_cons,
          List.flatMap_append, testerModeArg, ← isPageload]
        by_cases hpage : isPageload mode = true
        · rw [if_pos hpage, if_pos hpage]
          rfl
        · rw [if_neg hpage, if_neg hpage, hmode, List.flatMap_singleton]

/-- The other page loads are named, unless before, right behind the first one. -/
def PageLoadsFollow (before after : List String) : Prop :=
  let named := before.flatMap expand ++ [.pageLoad]
  [.pageLoad2, .pageLoad3].removeAll named <+:
    ((after.flatMap passedProtocols).removeAll named).eraseDups

lemma sameProtocols_of_not_pageload (hcomma : ∀ mode ∈ modes, ',' ∉ mode.toList)
    (h : ∀ mode ∈ modes, isPageload mode = false) : SameProtocols modes := by
  rw [SameProtocols, flatMap_tokens hcomma, List.flatMap_congr]
  intro mode hmode
  rw [passedProtocols, if_neg (by simp [h mode hmode])]

/-- But for the page loads the protocols are the same. -/
lemma filter_flatMap_passed {keep : Protocol → Bool} (h : keep .pageLoad = false)
    (h2 : keep .pageLoad2 = false) (h3 : keep .pageLoad3 = false) :
    (modes.flatMap expand).filter keep = (modes.flatMap passedProtocols).filter keep := by
  rw [List.filter_flatMap, List.filter_flatMap]
  refine List.flatMap_congr fun mode _ => ?_
  rw [passedProtocols]
  split_ifs with hpage
  · rw [expand_pageload hpage]
    simp [h, h2, h3]
  · rfl

/-- **Without commas the protocols differ by those of the first page load alone.** -/
theorem sameProtocols_iff
    (hcomma : ∀ m ∈ before ++ mode :: after, ',' ∉ m.toList)
    (hbefore : ∀ m ∈ before, isPageload m = false) (hmode : isPageload mode = true) :
    SameProtocols (before ++ mode :: after) ↔ PageLoadsFollow before after := by
  have hsame : before.flatMap passedProtocols = before.flatMap expand := by
    refine List.flatMap_congr fun m hm => ?_
    rw [passedProtocols, if_neg (by simp [hbefore m hm])]
  have htester : (before ++ mode :: after).flatMap expand =
      (before.flatMap expand ++ [.pageLoad]) ++
        ([.pageLoad2, .pageLoad3] ++ after.flatMap expand) := by
    rw [List.flatMap_append, List.flatMap_cons, expand_pageload hmode]
    simp
  have hagent : (before ++ mode :: after).flatMap passedProtocols =
      (before.flatMap expand ++ [.pageLoad]) ++ after.flatMap passedProtocols := by
    rw [List.flatMap_append, List.flatMap_cons, hsame, passedProtocols, if_pos hmode,
      List.append_assoc]
  rw [SameProtocols, flatMap_tokens hcomma, htester, hagent, PageLoadsFollow]
  have hnamed : Protocol.pageLoad ∈ before.flatMap expand ++ [.pageLoad] := by simp
  generalize before.flatMap expand ++ [Protocol.pageLoad] = named at *
  rw [List.eraseDups_append, List.eraseDups_append, List.append_cancel_left_eq]
  have happend : ([Protocol.pageLoad2, .pageLoad3] ++ after.flatMap expand).removeAll named =
      [.pageLoad2, .pageLoad3].removeAll named ++ (after.flatMap expand).removeAll named :=
    List.filter_append _ _
  rw [happend]
  refine eraseDups_append_eq_iff (List.Nodup.filter _ (by decide)) ?_
  simp only [List.removeAll, List.filter_filter]
  refine filter_flatMap_passed ?_ ?_ ?_
  · simp [hnamed]
  · by_cases h : Protocol.pageLoad2 ∈ named <;> simp [h]
  · by_cases h : Protocol.pageLoad3 ∈ named <;> simp [h]

end Protocols

/-! ### A parser of command lines -/

/-- A number below a bound. -/
def parseNumber (bound : ℕ) (s : String) : Option ℕ := (Text.parseDigits s.toList).filter (· < bound)

/-- The switches. -/
def switchOf (flag : String) : Option Opt :=
  if flag = "--json-stdout" then some .jsonStdout
  else if flag = "--insecure" then some .insecure
  else none

/-- The options with a value. -/
def valuedOf (flag value : String) : Option Opt :=
  if flag = "--target" then some (.target value)
  else if flag = "--modes" then some (.modes value)
  else if flag = "--runs" then (parseNumber (2 ^ 32) value).map .runs
  else if flag = "--concurrency" then (parseNumber (2 ^ 64) value).map .concurrency
  else if flag = "--timeout" then (parseNumber (2 ^ 64) value).map .timeout
  else if flag = "--samples" then (parseNumber (2 ^ 32) value).map .samples
  else if flag = "--laghound-token" then some (.laghoundToken value)
  else if flag = "--laghound-route" then some (.laghoundRoute value)
  else if flag = "--payload-sizes" then some (.payloadSizes value)
  else none

/-- A parser of the options of the agent. -/
def parseArgs (cli : Arguments) : List String → Option Arguments
  | [] => some cli
  | flag :: rest =>
      match switchOf flag with
      | some opt => parseArgs (opt.apply cli) rest
      | none =>
          match rest with
          | [] => none
          | value :: rest => (valuedOf flag value).bind fun opt => parseArgs (opt.apply cli) rest

lemma parseNumber_ofNat (bound n : ℕ) :
    parseNumber bound (Text.ofNat n) = if n < bound then some n else none := by
  rw [parseNumber, Text.parseDigits_ofNat, Option.filter_some]
  by_cases h : n < bound <;> simp [h]

/-- A number is read as it is, if it is read. -/
lemma map_parseNumber {bound n : ℕ} {opt : ℕ → Opt} :
    ∀ read ∈ (parseNumber bound (Text.ofNat n)).map opt, read = opt n := by
  intro read hread
  rw [parseNumber_ofNat] at hread
  split_ifs at hread
  · exact (Option.some.inj hread).symm
  · cases hread

/-- The arguments of an option are read as that option, if they are read. -/
lemma reads_args (opt : Opt) :
    (∃ flag, opt.args = [flag] ∧ switchOf flag = some opt) ∨
      ∃ flag value, opt.args = [flag, value] ∧ switchOf flag = none ∧
        ∀ read ∈ valuedOf flag value, read = opt := by
  cases opt with
  | jsonStdout => exact Or.inl ⟨_, rfl, rfl⟩
  | insecure => exact Or.inl ⟨_, rfl, rfl⟩
  | target t => exact Or.inr ⟨_, _, rfl, rfl, fun _ h => (Option.some.inj h).symm⟩
  | modes csv => exact Or.inr ⟨_, _, rfl, rfl, fun _ h => (Option.some.inj h).symm⟩
  | laghoundToken token => exact Or.inr ⟨_, _, rfl, rfl, fun _ h => (Option.some.inj h).symm⟩
  | laghoundRoute route => exact Or.inr ⟨_, _, rfl, rfl, fun _ h => (Option.some.inj h).symm⟩
  | payloadSizes csv => exact Or.inr ⟨_, _, rfl, rfl, fun _ h => (Option.some.inj h).symm⟩
  | runs n => exact Or.inr ⟨_, _, rfl, rfl, map_parseNumber⟩
  | concurrency n => exact Or.inr ⟨_, _, rfl, rfl, map_parseNumber⟩
  | timeout n => exact Or.inr ⟨_, _, rfl, rfl, map_parseNumber⟩
  | samples n => exact Or.inr ⟨_, _, rfl, rfl, map_parseNumber⟩

lemma parseArgs_append {cli₀ cli : Arguments} (opt : Opt) (rest : List String)
    (h : parseArgs cli₀ (opt.args ++ rest) = some cli) :
    parseArgs (opt.apply cli₀) rest = some cli := by
  rcases reads_args opt with ⟨flag, hargs, hswitch⟩ | ⟨flag, value, hargs, hswitch, hread⟩
  · rw [hargs, List.singleton_append, parseArgs.eq_def] at h
    simp only [hswitch] at h
    exact h
  · rw [hargs, List.cons_append, List.singleton_append, parseArgs.eq_def] at h
    simp only [hswitch] at h
    obtain ⟨read, hvalue, hrest⟩ := Option.bind_eq_some_iff.mp h
    rwa [hread read hvalue] at hrest

lemma readsOptions_parseArgs (env : Environment) :
    ReadsOptions env (parseArgs env.arguments) := by
  intro opts
  generalize env.arguments = cli₀
  induction opts generalizing cli₀ with
  | nil =>
      intro cli h
      cases h
      rfl
  | cons opt opts ih =>
      intro cli h
      exact ih (opt.apply cli₀) cli (parseArgs_append opt _ h)

/-! ### Both meanings -/

/-- What the view says, as it stands in the configuration. -/
structure Reads (d : Json) (view : TestConfigView) : Prop where
  targets : [targetOf (hostIn d) (portIn d)] =
    (if endpointToTargets view = [] then ["http://localhost:8080/health"]
      else endpointToTargets view) ↔ OneTarget d
  modes : view.modes = (modesIn d).getD []
  runs : view.runs.toNat = (entry "workload" "runs" asU64 d).getD 1
  samples : 1 = min (max ((passedSamples view).getD 1) 1) 50 ↔
    ∀ n ∈ entry "workload" "samples" asU64 d, n ≤ 1
  concurrency : view.concurrency.toNat = (entry "workload" "concurrency" asU64 d).getD 1
  timeoutMs : view.timeoutMs.toNat = (entry "workload" "timeout_ms" asU64 d).getD 30000
  payloadSizes : view.payloadSizes.map UInt32.toNat = sizesIn d
  insecure : view.insecure = true ↔ entry "workload" "insecure" some d = some (.bool true)

section Meaning

variable {env : Environment} {parse : List String → Option Arguments} {path : String} {d : Json}
  {file : ConfigFile} {view : TestConfigView} {cli : Arguments}

lemma reads_of_fromConfig (hkind : entry "endpoint" "kind" Json.str? d = some "network")
    (h : fromConfig d = .ok view) : Reads d view := by
  obtain ⟨endpoint, workload, hread⟩ := accepted_of_fromConfig h
  obtain ⟨samples, hsamples, hmax⟩ := hread.samples
  have hentry : ∀ {α : Type} (name : String) (value? : Json → Option α),
      entry "workload" name value? d = (workload.get? name).bind value? := by
    intro α name value?
    rw [entry, hread.hasWorkload]
    rfl
  have hnumber : ∀ {name : String} {fallback n : UInt32}, getUInt name fallback workload = .ok n →
      n.toNat = (entry "workload" name asU64 d).getD fallback.toNat := by
    intro name fallback n hn
    rw [hentry, getUInt_ok hn]
  have hnet : view.endpointKind = "network" := by
    rw [entry, hread.hasEndpoint, Option.bind_some] at hkind
    rw [textOr_ok hread.kind, hkind]
    rfl
  obtain ⟨network, hnetwork, hendpoint⟩ := hread.network hnet
  refine ⟨targets_iff hread.hasEndpoint hnet hnetwork hendpoint, ?_, hnumber hread.runs, ?_,
    hnumber hread.concurrency, hnumber hread.timeoutMs, ?_, ?_⟩
  · rw [texts_ok hread.modes, modesIn, hentry]
    cases (workload.get? "modes").bind Json.items? <;> rfl
  · rw [samples_iff hmax, hnumber hsamples]
    cases entry "workload" "samples" asU64 d <;> simp
  · rw [sizes_ok hread.payloadSizes, sizesIn, hentry]
  · rw [isTrue_ok hread.insecure, hentry, Option.bind_fun_some]

/-- What the command line of the agent says, if it is accepted. -/
lemma effective_of_parse (hparse : ReadsOptions env parse) {targets : List String}
    (h : parse (buildArgs view targets) = some cli) :
    effective (resolve cli none) =
      effective (resolve ((options view targets).foldl Opt.apply env.arguments) none) := by
  rw [buildArgs_eq] at h
  rw [hparse _ _ h]

/-- **A configuration means the same to the tester and to the agent exactly if it names one
target, modes that are the same protocols for both, a number of runs, no more than one sample, a
timeout of one or none, sizes where they are needed, and no insecure connections.** -/
theorem effective_eq_iff (hparse : ReadsOptions env parse)
    (hkind : entry "endpoint" "kind" Json.str? d = some "network")
    (hfile : configFromTestConfigValue path d = .ok file) (hview : fromConfig d = .ok view)
    (hcli : parse (buildArgs view (endpointToTargets view)) = some cli) :
    effective (resolve {} (some file)) = effective (resolve cli none) ↔ SameMeaning d := by
  have hreads := reads_of_fromConfig hkind hview
  obtain ⟨host, hhost, hfile⟩ := Cli.effective_file hfile hkind
  have hhostIn : host = hostIn d := by
    rw [hostIn, hhost]
    rfl
  have hsizes := passedSizes_iff hreads.payloadSizes
  have hinsecure : false = view.insecure ↔
      entry "workload" "insecure" some d ≠ some (.bool true) := by
    rw [ne_eq, ← hreads.insecure]
    cases view.insecure <;> simp
  rw [effective_of_parse hparse hcli, effective_commandLine, hfile, Effective.mk.injEq, hhostIn,
    hreads.modes, ← hreads.concurrency, modes_iff, runs_iff hreads.runs, hreads.samples,
    timeout_iff hreads.timeoutMs, hsizes, hreads.modes, hinsecure]
  constructor
  · rintro ⟨htargets, hmodes, hruns, hsamples, -, htimeout, hsizes, hinsecure⟩
    exact ⟨hreads.targets.mp htargets, hmodes, hruns, hsamples, htimeout, hsizes, hinsecure⟩
  · rintro ⟨htargets, hmodes, hruns, hsamples, htimeout, hsizes, hinsecure⟩
    exact ⟨hreads.targets.mpr htargets, hmodes, hruns, hsamples, rfl, htimeout, hsizes, hinsecure⟩

end Meaning

/-- A configuration of one host over HTTP/1.1, ten runs of it. -/
def oneHost (workload : List (String × Json)) : Json :=
  .obj [("endpoint", .obj [("kind", .str "network"), ("host", .str "example.com")]),
    ("workload", .obj (("modes", .arr [.str "http1"]) :: ("runs", .int 10) :: workload))]

/-- The file of this configuration. -/
def oneHostFile (timeout : Option ℕ) : ConfigFile where
  target := some "https://example.com/health"
  settings := { modes := some ["http1"], runs := some 10, timeout }

/-- The view of this configuration. -/
def oneHostView (timeoutMs : UInt32) : TestConfigView where
  endpointKind := "network"
  network := some ⟨"example.com", none, ["example.com"]⟩
  modes := ["http1"]
  runs := 10
  concurrency := 1
  timeoutMs
  payloadSizes := []
  insecure := false
  isBenchmark := false
  maxDurationSecs := 0
  laghoundToken := none
  laghoundRoute := none

/-- The command line of this configuration. -/
def oneHostArguments (timeout : ℕ) : Arguments where
  target := ["https://example.com/health"]
  settings := { modes := some ["http1"], runs := some 10, concurrency := some 1,
                timeout := some timeout }
  flags := { Cli.Flags.all false with jsonStdout := true }

theorem effective_eq_iff_oneHost :
    effective (resolve {} (some (oneHostFile none))) =
      effective (resolve (oneHostArguments 30) none) := by
  have hfile : configFromTestConfigValue "test.json" (oneHost []) = .ok (oneHostFile none) := rfl
  have htargets : OneTarget (oneHost []) := ⟨by decide, by decide⟩
  have hmodes : SameProtocols ["http1"] := by
    unfold SameProtocols
    decide
  refine (effective_eq_iff (readsOptions_parseArgs {}) rfl hfile
    (rfl : fromConfig (oneHost []) = .ok (oneHostView 30000)) rfl).mpr ?_
  have hinsecure : entry "workload" "insecure" some (oneHost []) = none := rfl
  refine ⟨htargets, ⟨_, rfl, hmodes⟩, by decide, by decide, by decide, fun _ => by decide, ?_⟩
  rw [hinsecure]
  exact nofun

/-- The timeout in milliseconds is one in seconds to the tester. -/
theorem milliseconds_as_seconds :
    ¬ ∀ (env : Environment) (parse : List String → Option Arguments) (path : String) (d : Json)
      (file : ConfigFile) (view : TestConfigView) (cli : Arguments), ReadsOptions env parse →
      entry "endpoint" "kind" Json.str? d = some "network" →
      configFromTestConfigValue path d = .ok file → fromConfig d = .ok view →
      parse (buildArgs view (endpointToTargets view)) = some cli →
      effective (resolve {} (some file)) = effective (resolve cli none) := by
  intro h
  have heq := h {} (parseArgs ({} : Environment).arguments) "test.json"
    (oneHost [("timeout_ms", .int 5000)]) (oneHostFile (some 5000)) (oneHostView 5000)
    (oneHostArguments 5) (readsOptions_parseArgs {}) rfl rfl rfl rfl
  have htimeout : 5000 = 5 := congrArg Effective.timeout heq
  exact absurd htimeout (by norm_num)


end RunExecutor

end Networker
