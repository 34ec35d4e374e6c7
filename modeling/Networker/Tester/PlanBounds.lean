/-
The bounds of the plans of an accepted configuration.

* `AcceptedBounds`, `acceptedBounds_of_validate`: what the checks say of the numbers of samples;
* `adaptive_ordered`, `pilot_ordered_iff`, `derived_ordered_iff`: the bounds of the criteria, of
  the pilot and of the plan that is derived from it;
* `ordered_iff`: all plans have ordered bounds exactly if no explicit pilot bound crosses the
  default of the other one, and no pilot has more samples than an explicit maximum.
-/
import Networker.Tester.Cli
import Networker.Tester.FixedCount

namespace Networker

open Data Metrics Benchmark

namespace Cli

/-! ### What is checked -/

/-- The numbers of samples that are checked are ordered. -/
structure AcceptedBounds (cfg : ResolvedConfig) : Prop where
  min_pos : 1 ≤ checkedMin cfg
  min_le_max : checkedMin cfg ≤ checkedMax cfg
  pilot_min_pos : 1 ≤ checkedPilotMin cfg
  pilot_min_le_max : checkedPilotMin cfg ≤ checkedPilotMax cfg

lemma acceptedBounds_of_validate {parsers : Parsers} {cfg : ResolvedConfig}
    (h : validate parsers cfg = .ok ()) : AcceptedBounds cfg := by
  have hchecks : ∀ check ∈ sampleChecks cfg, check.1 = false := by
    intro check hcheck
    exact validate_eq_ok_iff.mp h check (by simp [checks, hcheck])
  simp only [sampleChecks, atLeastOne, notBelow, List.forall_mem_cons, decide_eq_false_iff_not,
    beq_eq_false_iff_ne, ne_eq, Option.some.injEq] at hchecks
  obtain ⟨hmin, -, hle, hpilot, -, hpilotle, -⟩ := hchecks
  exact ⟨by omega, by omega, by omega, by omega⟩

section Bounds

variable {cfg : ResolvedConfig} {pilotAttempts : List RequestAttempt}

/-- The bounds of criteria are ordered. -/
def OrderedBounds (minSamples maxSamples : ℕ) : Prop := 1 ≤ minSamples ∧ minSamples ≤ maxSamples

/-- **The criteria of the measured loop are ordered.** -/
lemma adaptive_ordered (h : AcceptedBounds cfg) :
    ∀ c ∈ benchmarkAdaptiveCriteria cfg.toResolvedConfig,
      OrderedBounds c.minSamples c.maxSamples := by
  intro c hc
  rw [benchmarkAdaptiveCriteria] at hc
  split_ifs at hc
  · exact absurd hc (Option.not_mem_none c)
  · cases hc
    exact ⟨h.min_pos, h.min_le_max⟩

/-- The default bound of a pilot. -/
def defaultPilotMax (cfg : ResolvedConfig) : ℕ := max 1 (min cfg.runs defaultPilotMaxSamples)

/-- The default least number of samples of a pilot. -/
def defaultPilotMin (cfg : ResolvedConfig) : ℕ := min (defaultPilotMax cfg) defaultPilotMinSamples

/-- An explicit bound of the pilot does not cross the default of the other one. -/
structure PilotFits (cfg : ResolvedConfig) : Prop where
  min_le : ∀ lo, cfg.benchmarkPilotMinSamples = some lo →
    cfg.benchmarkPilotMaxSamples = none → lo ≤ defaultPilotMax cfg
  le_max : ∀ hi, cfg.benchmarkPilotMaxSamples = some hi →
    cfg.benchmarkPilotMinSamples = none → defaultPilotMin cfg ≤ hi

/-- A run has a pilot. -/
def HasPilot (cfg : ResolvedConfig) : Prop :=
  measuredBenchmark cfg.toResolvedConfig = true ∧ cfg.httpStacks = [] ∧
    (pilotRequested cfg.toResolvedConfig = true ∨ controlsRequested cfg.toResolvedConfig = false)

lemma pilotCriteria_eq_some {c : AdaptiveCriteria}
    (hc : benchmarkPilotCriteria cfg.toResolvedConfig = some c) :
    HasPilot cfg ∧
      c.minSamples = cfg.benchmarkPilotMinSamples.getD (defaultPilotMin cfg) ∧
      c.maxSamples = cfg.benchmarkPilotMaxSamples.getD (defaultPilotMax cfg) := by
  rw [benchmarkPilotCriteria] at hc
  split at hc
  · cases hc
  · next happlies =>
      split at hc
      · cases hc
      · next hwanted =>
          cases hc
          refine ⟨⟨?_, ?_, ?_⟩, rfl, rfl⟩
          · simp_all
          · simp_all
          · simp only [Bool.and_eq_true, Bool.not_eq_true', not_and, Bool.not_eq_true] at hwanted
            cases hrequested : pilotRequested cfg.toResolvedConfig with
            | true => exact Or.inl rfl
            | false => exact Or.inr (hwanted hrequested)

lemma exists_pilotCriteria (h : HasPilot cfg) :
    ∃ c, benchmarkPilotCriteria cfg.toResolvedConfig = some c := by
  obtain ⟨hmeasured, hstacks, hwanted⟩ := h
  rw [benchmarkPilotCriteria, hmeasured, hstacks]
  rcases hwanted with hwanted | hwanted
  · simp [hwanted]
  · simp [hwanted]

/-- **The criteria of the pilot are ordered exactly if its explicit bounds fit the defaults.** -/
lemma pilot_ordered_iff (h : AcceptedBounds cfg) :
    (∀ c ∈ benchmarkPilotCriteria cfg.toResolvedConfig,
        OrderedBounds c.minSamples c.maxSamples) ↔ (HasPilot cfg → PilotFits cfg) := by
  have hpos : 1 ≤ defaultPilotMin cfg := by
    rw [defaultPilotMin, defaultPilotMax, defaultPilotMinSamples]
    omega
  have hdefault : defaultPilotMin cfg ≤ defaultPilotMax cfg := min_le_left _ _
  have hmin := h.pilot_min_pos
  have hmax := h.pilot_min_le_max
  rw [checkedPilotMax] at hmax
  rw [checkedPilotMin] at hmin hmax
  constructor
  · intro hordered hpilot
    obtain ⟨c, hc⟩ := exists_pilotCriteria hpilot
    obtain ⟨-, hlo, hhi⟩ := pilotCriteria_eq_some hc
    have hle := (hordered c hc).2
    rw [hlo, hhi] at hle
    refine ⟨fun lo hl hn => ?_, fun hi hl hn => ?_⟩
    · simpa [hl, hn] using hle
    · simpa [hl, hn] using hle
  · intro hfits c hc
    obtain ⟨hpilot, hlo, hhi⟩ := pilotCriteria_eq_some hc
    have hboth := hfits hpilot
    rw [OrderedBounds, hlo, hhi]
    cases hl : cfg.benchmarkPilotMinSamples with
    | none =>
        cases hn : cfg.benchmarkPilotMaxSamples with
        | none => exact ⟨hpos, hdefault⟩
        | some hi => exact ⟨hpos, hboth.le_max hi hn hl⟩
    | some lo =>
        rw [hl] at hmin hmax
        cases hn : cfg.benchmarkPilotMaxSamples with
        | none => exact ⟨hmin, hboth.min_le lo hl hn⟩
        | some hi =>
            rw [hn] at hmax
            exact ⟨hmin, hmax⟩

/-! ### The plan of a pilot -/

/-- The pilot has no more samples than an explicit maximum without a minimum, in some case. -/
def PilotWithin (cfg : ResolvedConfig) (pilotAttempts : List RequestAttempt) : Prop :=
  ∀ hi, cfg.benchmarkMaxSamples = some hi → cfg.benchmarkMinSamples = none →
    2 ^ 32 - 1 ≤ hi ∨ pilotAttempts = [] ∨
      ∃ c ∈ pilotAttempts.map caseId, (pilotAttempts.map caseId).count c ≤ hi

lemma completedSamples_le_iff {hi : ℕ} :
    completedSamples pilotAttempts ≤ hi ↔ 2 ^ 32 - 1 ≤ hi ∨ pilotAttempts = [] ∨
      ∃ c ∈ pilotAttempts.map caseId, (pilotAttempts.map caseId).count c ≤ hi := by
  by_cases hlarge : 2 ^ 32 - 1 ≤ hi
  · have hle : completedSamples pilotAttempts ≤ 2 ^ 32 - 1 := min_le_right _ _
    exact iff_of_true (hle.trans hlarge) (Or.inl hlarge)
  · have hlt := TargetRunner.completedSamples_lt_iff (n := hi + 1) (by omega) (by omega)
      (List.Perm.refl (pilotAttempts.map caseId))
    rw [Nat.lt_succ_iff, List.map_eq_nil_iff] at hlt
    simp only [hlt, or_iff_right hlarge, Nat.lt_succ_iff]

/-- **The plan of a pilot is ordered exactly if the pilot stays within an explicit maximum.** -/
lemma derived_ordered_iff (h : AcceptedBounds cfg) :
    OrderedBounds (deriveMeasuredPlanFromPilot cfg.toResolvedConfig pilotAttempts).minSamples
        (deriveMeasuredPlanFromPilot cfg.toResolvedConfig pilotAttempts).maxSamples ↔
      PilotWithin cfg pilotAttempts := by
  have hmin := h.min_pos
  have hle := h.min_le_max
  rw [checkedMin] at hmin hle
  rw [checkedMax] at hle
  have hcompleted : (benchmarkAdaptiveStatus ⟨1, 2 ^ 32 - 1, 0, none, none⟩
      pilotAttempts).completedSamples = completedSamples pilotAttempts := rfl
  simp only [OrderedBounds, deriveMeasuredPlanFromPilot, hcompleted, PilotWithin,
    ← completedSamples_le_iff]
  cases hl : cfg.benchmarkMinSamples with
  | some lo =>
      rw [hl] at hmin hle
      cases hn : cfg.benchmarkMaxSamples with
      | some hi =>
          rw [hn] at hle
          simpa using ⟨hmin, hle⟩
      | none => simpa using hmin
  | none =>
      cases hn : cfg.benchmarkMaxSamples with
      | some hi =>
          rw [hl, hn] at hle
          rw [hl] at hmin
          simp only [Option.getD_none, Option.getD_some] at hle hmin ⊢
          simp only [Option.some.injEq, forall_eq', forall_true_left]
          omega
      | none => simp

end Bounds

/-! ### All plans -/

/-- Every plan that is returned has ordered bounds. -/
structure PlansOrdered (cfg : ResolvedConfig) (pilotAttempts : List RequestAttempt) : Prop where
  pilot : ∀ c ∈ benchmarkPilotCriteria cfg.toResolvedConfig,
    OrderedBounds c.minSamples c.maxSamples
  adaptive : ∀ c ∈ benchmarkAdaptiveCriteria cfg.toResolvedConfig,
    OrderedBounds c.minSamples c.maxSamples
  derived :
    OrderedBounds (deriveMeasuredPlanFromPilot cfg.toResolvedConfig pilotAttempts).minSamples
      (deriveMeasuredPlanFromPilot cfg.toResolvedConfig pilotAttempts).maxSamples

lemma plansOrdered_iff {cfg : ResolvedConfig} (h : AcceptedBounds cfg)
    (pilotAttempts : List RequestAttempt) :
    PlansOrdered cfg pilotAttempts ↔
      (HasPilot cfg → PilotFits cfg) ∧ PilotWithin cfg pilotAttempts := by
  rw [← pilot_ordered_iff h, ← derived_ordered_iff h]
  exact ⟨fun ⟨hpilot, _, hderived⟩ => ⟨hpilot, hderived⟩,
    fun ⟨hpilot, hderived⟩ => ⟨hpilot, adaptive_ordered h, hderived⟩⟩

/-- **The plans of an accepted configuration are ordered exactly if no explicit bound of the pilot
crosses a default, and the pilot stays within an explicit maximum.** -/
theorem ordered_iff (parsers : Parsers) (cfg : ResolvedConfig)
    (pilotAttempts : List RequestAttempt) (h : validate parsers cfg = .ok ()) :
    PlansOrdered cfg pilotAttempts ↔
      (HasPilot cfg → PilotFits cfg) ∧ PilotWithin cfg pilotAttempts :=
  plansOrdered_iff (acceptedBounds_of_validate h) pilotAttempts

/-! ### Two configurations -/

/-- Four runs of a benchmark, with some least number of pilot samples. -/
def pilotConfig (pilotMin : Option ℕ) : ResolvedConfig where
  runs := 4
  retries := 0
  samples := 1
  connectionReuse := false
  benchmarkMode := true
  benchmarkPilotMinSamples := pilotMin
  targets := ["http://localhost:8080/health"]
  modes := ["http1"]

/-- Nothing is parsed. -/
def noParsers : Parsers where
  url _ := .error "relative URL without a base"
  ip _ := .error "invalid IP address syntax"
  uuid _ := .error "invalid length"

lemma pilotConfig_accepted_none : validate noParsers (pilotConfig none) = .ok () := rfl

lemma pilotConfig_accepted_some : validate noParsers (pilotConfig (some 20)) = .ok () := rfl

/-- Without explicit bounds the plans are ordered. -/
theorem ordered_iff_default : PlansOrdered (pilotConfig none) [] := by
  refine (ordered_iff noParsers (pilotConfig none) [] pilotConfig_accepted_none).mpr ⟨?_, ?_⟩
  · exact fun _ => ⟨nofun, nofun⟩
  · exact nofun

/-- Twenty pilot samples are accepted with four runs, and are more than the pilot can make. -/
theorem pilot_crossed : validate noParsers (pilotConfig (some 20)) = .ok () ∧
    ¬ PlansOrdered (pilotConfig (some 20)) [] := by
  refine ⟨pilotConfig_accepted_some, fun h => ?_⟩
  have hiff := plansOrdered_iff (acceptedBounds_of_validate pilotConfig_accepted_some) []
  have hfits : PilotFits (pilotConfig (some 20)) := (hiff.mp h).1 ⟨rfl, rfl, Or.inl rfl⟩
  have hle : 20 ≤ defaultPilotMax (pilotConfig (some 20)) := hfits.min_le 20 rfl rfl
  exact absurd hle (by decide)

end Cli

end Networker
