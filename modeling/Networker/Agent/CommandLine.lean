/-
The command line of the tester as the tester reads it.

* `Opt`, `options`, `buildArgs_eq`: the arguments that the agent passes, option by option;
* `ReadsOptions`: the parser of the command line, which is not part of the program, reads the
  options one after the other;
* `commandLine_eq`: what the tester is told by the arguments of the agent;
* `tokens`, `expand_splitComma_modesCsv`: the modes that it reads;
* `effective_commandLine`: what is probed for the arguments of the agent.
-/
import Networker.Agent.TestConfigView
import Networker.Data.SeparatedText
import Networker.Tester.ConfigFile

namespace Networker

open Data

namespace RunExecutor

open Cli (Arguments Effective Flags Settings effective expand resolve)

/-- An option of the tester. -/
inductive Opt
  | target (t : String)
  | modes (csv : String)
  | runs (n : ℕ)
  | concurrency (n : ℕ)
  | timeout (n : ℕ)
  | jsonStdout
  | samples (n : ℕ)
  | insecure
  | laghoundToken (token : String)
  | laghoundRoute (route : String)
  | payloadSizes (csv : String)

namespace Opt

/-- The arguments of an option. -/
def args : Opt → List String
  | .target t => ["--target", t]
  | .modes csv => ["--modes", csv]
  | .runs n => ["--runs", Text.ofNat n]
  | .concurrency n => ["--concurrency", Text.ofNat n]
  | .timeout n => ["--timeout", Text.ofNat n]
  | .jsonStdout => ["--json-stdout"]
  | .samples n => ["--samples", Text.ofNat n]
  | .insecure => ["--insecure"]
  | .laghoundToken token => ["--laghound-token", token]
  | .laghoundRoute route => ["--laghound-route", route]
  | .payloadSizes csv => ["--payload-sizes", csv]

/-- The values of a list with commas between them. -/
def splitComma (csv : String) : List String := (csv.toList.splitOn ',').map String.ofList

/-- What an option sets; lists and targets are appended. -/
def apply (cli : Arguments) : Opt → Arguments
  | .target t => { cli with target := cli.target ++ [t] }
  | .modes csv =>
      { cli with settings.modes := some (cli.settings.modes.getD [] ++ splitComma csv) }
  | .runs n => { cli with settings.runs := some n }
  | .concurrency n => { cli with settings.concurrency := some n }
  | .timeout n => { cli with settings.timeout := some n }
  | .jsonStdout => { cli with flags.jsonStdout := true }
  | .samples n => { cli with settings.samples := some n }
  | .insecure => { cli with flags.insecure := true }
  | .laghoundToken token => { cli with settings.laghoundToken := some token }
  | .laghoundRoute route => { cli with settings.laghoundRoute := some route }
  | .payloadSizes csv =>
      { cli with
        settings.payloadSizes := some (cli.settings.payloadSizes.getD [] ++ splitComma csv) }

end Opt

/-- What the environment sets, where no option does. -/
structure Environment where
  laghoundToken : Option String := none
  dbUrl : Option String := none
  connectionString : Option String := none

/-- The empty command line. -/
def Environment.arguments (env : Environment) : Arguments :=
  { settings := { laghoundToken := env.laghoundToken, dbUrl := env.dbUrl,
                  connectionString := env.connectionString } }

/-- The command line parser, where it accepts, reads the options one after the other. -/
def ReadsOptions (env : Environment) (parse : List String → Option Arguments) : Prop :=
  ∀ (opts : List Opt) (cli : Arguments), parse (opts.flatMap Opt.args) = some cli →
    cli = opts.foldl Opt.apply env.arguments

/-! ### The options of the agent -/

/-- A text that is passed. -/
def passedText (config : TestConfigView) (text : Option String) : Option String :=
  if config.modes.any fun m => Text.eqIgnoreCase m "sdkprobe" then text.filter (· ≠ "") else none

/-- The samples that are passed. -/
def passedSamples (config : TestConfigView) : Option ℕ :=
  if 1 < config.samples then some config.samples.toNat else none

/-- The sizes that are passed, with commas between them. -/
def sizesCsv (config : TestConfigView) : Option String :=
  if 0 < (passedSizes config).length then
    some (Text.join "," ((passedSizes config).map numeral))
  else none

/-- The options of one invocation. -/
def options (config : TestConfigView) (targets : List String) : List Opt :=
  targets.map Opt.target ++
    [.modes (modesCsv config), .runs config.runs.toNat, .concurrency config.concurrency.toNat,
     .timeout (timeoutSecs config).toNat, .jsonStdout] ++
    (passedSamples config).toList.map Opt.samples ++
    (if config.insecure then [.insecure] else []) ++
    ((passedText config config.laghoundToken).toList.map Opt.laghoundToken ++
      (passedText config config.laghoundRoute).toList.map Opt.laghoundRoute) ++
    (sizesCsv config).toList.map Opt.payloadSizes

section Options

variable {config : TestConfigView} {targets : List String} {env : Environment}

lemma laghoundArgs_eq : laghoundArgs config =
    ((passedText config config.laghoundToken).toList.map Opt.laghoundToken ++
      (passedText config config.laghoundRoute).toList.map Opt.laghoundRoute).flatMap Opt.args := by
  have htext : ∀ (flag : String) (opt : String → Opt) (text : Option String),
      (∀ s, (opt s).args = [flag, s]) →
        textArgs flag text = ((text.filter (· ≠ "")).toList.map opt).flatMap Opt.args := by
    intro flag opt text hopt
    cases text with
    | none => rfl
    | some s => by_cases hs : s = "" <;> simp [textArgs, Option.filter, hs, hopt]
  rw [laghoundArgs, passedText, passedText]
  split_ifs
  · rw [List.flatMap_append, htext _ .laghoundToken _ fun _ => rfl,
      htext _ .laghoundRoute _ fun _ => rfl]
  · rfl

/-- **The arguments are those of the options.** -/
lemma buildArgs_eq : buildArgs config targets = (options config targets).flatMap Opt.args := by
  have htargets : targets.flatMap (fun t => ["--target", t]) =
      (targets.map Opt.target).flatMap Opt.args := by
    rw [List.flatMap_map]
    rfl
  have hsamples : (if 1 < config.samples then ["--samples", numeral config.samples] else []) =
      ((passedSamples config).toList.map Opt.samples).flatMap Opt.args := by
    rw [passedSamples]
    split_ifs <;> rfl
  have hinsecure : (if config.insecure then ["--insecure"] else []) =
      (if config.insecure then [Opt.insecure] else []).flatMap Opt.args := by
    split_ifs <;> rfl
  have hsizes : (if 0 < (passedSizes config).length then
        ["--payload-sizes", Text.join "," ((passedSizes config).map numeral)] else []) =
      ((sizesCsv config).toList.map Opt.payloadSizes).flatMap Opt.args := by
    rw [sizesCsv]
    split_ifs <;> rfl
  rw [buildArgs, options, htargets, hsamples, hinsecure, hsizes, laghoundArgs_eq]
  simp only [List.flatMap_append]
  rfl

lemma foldl_targets (cli : Arguments) : (targets.map Opt.target).foldl Opt.apply cli =
    { cli with target := cli.target ++ targets } := by
  induction targets generalizing cli with
  | nil => simp
  | cons t targets ih =>
      rw [List.map_cons, List.foldl_cons, ih]
      simp [Opt.apply]

lemma foldl_samples (o : Option ℕ) (cli : Arguments) :
    (o.toList.map Opt.samples).foldl Opt.apply cli =
      { cli with settings.samples := o.or cli.settings.samples } := by
  cases o <;> rfl

lemma foldl_insecure (b : Bool) (cli : Arguments) :
    (if b then [Opt.insecure] else []).foldl Opt.apply cli =
      { cli with flags.insecure := b || cli.flags.insecure } := by
  cases b <;> rfl

lemma foldl_laghoundToken (o : Option String) (cli : Arguments) :
    (o.toList.map Opt.laghoundToken).foldl Opt.apply cli =
      { cli with settings.laghoundToken := o.or cli.settings.laghoundToken } := by
  cases o <;> rfl

lemma foldl_laghoundRoute (o : Option String) (cli : Arguments) :
    (o.toList.map Opt.laghoundRoute).foldl Opt.apply cli =
      { cli with settings.laghoundRoute := o.or cli.settings.laghoundRoute } := by
  cases o <;> rfl

lemma foldl_payloadSizes (o : Option String) {cli : Arguments}
    (h : cli.settings.payloadSizes = none) :
    (o.toList.map Opt.payloadSizes).foldl Opt.apply cli =
      { cli with settings.payloadSizes := o.map Opt.splitComma } := by
  cases o with
  | none => simp [← h]
  | some csv => simp [Opt.apply, h]

/-- **What the tester is told by the options.** -/
lemma commandLine_eq : (options config targets).foldl Opt.apply env.arguments =
    { settings := {
        modes := some (Opt.splitComma (modesCsv config))
        runs := some config.runs.toNat
        concurrency := some config.concurrency.toNat
        timeout := some (timeoutSecs config).toNat
        samples := passedSamples config
        payloadSizes := (sizesCsv config).map Opt.splitComma
        laghoundToken := (passedText config config.laghoundToken).or env.laghoundToken
        laghoundRoute := passedText config config.laghoundRoute
        dbUrl := env.dbUrl
        connectionString := env.connectionString }
      flags := { Flags.all false with insecure := config.insecure, jsonStdout := true }
      target := targets } := by
  rw [options]
  simp only [List.foldl_append, foldl_targets, foldl_samples, foldl_insecure,
    foldl_laghoundToken, foldl_laghoundRoute]
  rw [foldl_payloadSizes _ rfl]
  simp [Opt.apply, Environment.arguments, Flags.all]

/-! ### What is probed -/

/-- The modes that the tester reads. -/
def tokens (modes : List String) : List String :=
  ((modes.filter fun m => !isApibenchMode m).map testerModeArg).flatMap Opt.splitComma

/-- Lists come back as they are passed. -/
lemma splitComma_join (s : String) (ss : List String) :
    Opt.splitComma (Text.join "," (s :: ss)) = (s :: ss).flatMap Opt.splitComma := by
  have hsep : "," = String.singleton ',' := rfl
  rw [Opt.splitComma, hsep, Text.splitOn_join, List.map_flatMap]
  rfl

lemma splitComma_eq_singleton {s : String} (h : ',' ∉ s.toList) : Opt.splitComma s = [s] := by
  rw [Opt.splitComma, List.splitOn_eq_singleton h]
  simp

lemma splitComma_join_of_notMem {ss : List String} (hne : ss ≠ [])
    (h : ∀ s ∈ ss, ',' ∉ s.toList) : Opt.splitComma (Text.join "," ss) = ss := by
  obtain ⟨s, ss, rfl⟩ := List.exists_cons_of_ne_nil hne
  rw [splitComma_join, List.flatMap_congr fun t ht => splitComma_eq_singleton (h t ht)]
  exact List.flatMap_singleton' _

/-- Without a mode an empty one is read, which names no protocol. -/
lemma expand_splitComma_modesCsv (config : TestConfigView) :
    (Opt.splitComma (modesCsv config)).flatMap expand = (tokens config.modes).flatMap expand := by
  rw [modesCsv, tokens]
  cases (config.modes.filter fun m => !isApibenchMode m).map testerModeArg with
  | nil => rfl
  | cons s ss => rw [splitComma_join]

lemma mapM_passedSizes (config : TestConfigView) :
    (((sizesCsv config).map Opt.splitComma).getD []).mapM (parseSize Cli.casing) =
      some ((passedSizes config).map UInt32.toNat) := by
  have hlt : ∀ n ∈ (passedSizes config).map UInt32.toNat, n < 2 ^ 64 := by
    intro n hn
    obtain ⟨u, -, rfl⟩ := List.mem_map.mp hn
    exact u.toNat_lt.trans (by norm_num)
  have htexts : ((sizesCsv config).map Opt.splitComma).getD [] =
      ((passedSizes config).map UInt32.toNat).map Text.ofNat := by
    have hnumerals : (passedSizes config).map numeral =
        ((passedSizes config).map UInt32.toNat).map Text.ofNat := by simp [numeral]
    rw [sizesCsv, ← hnumerals]
    split_ifs with hpos
    · have hne : (passedSizes config).map numeral ≠ [] := by
        simpa [List.length_pos_iff] using hpos
      rw [Option.map_some, Option.getD_some, splitComma_join_of_notMem hne]
      intro s hs
      obtain ⟨u, -, rfl⟩ := List.mem_map.mp hs
      exact Text.notMem_ofNat (by decide)
    · rw [List.length_pos_iff, not_not] at hpos
      rw [hpos]
      rfl
  rw [htexts, Cli.mapM_parseSize hlt]

/-- **What is probed for the arguments of the agent.** -/
lemma effective_commandLine :
    effective (resolve ((options config targets).foldl Opt.apply env.arguments) none) = {
      targets := if targets = [] then ["http://localhost:8080/health"] else targets
      modes := ((tokens config.modes).flatMap expand).eraseDups
      runs := config.runs.toNat
      samples := min (max ((passedSamples config).getD 1) 1) 50
      concurrency := config.concurrency.toNat
      timeout := (timeoutSecs config).toNat
      payloadSizes := some ((passedSizes config).map UInt32.toNat)
      insecure := config.insecure } := by
  rw [commandLine_eq, effective, Effective.mk.injEq]
  refine ⟨rfl, ?_, rfl, ?_, rfl, rfl, ?_, ?_⟩
  · rw [← expand_splitComma_modesCsv]
    rfl
  · cases passedSamples config <;> rfl
  · rw [← mapM_passedSizes]
    cases sizesCsv config <;> rfl
  · cases config.insecure <;> rfl

end Options

end RunExecutor

end Networker
