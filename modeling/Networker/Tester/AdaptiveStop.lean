/-
The adaptive stop of the measured loop against the published intervals.

* `phaseLoop_stop`: a loop that stops has attempts with that status;
* `phaseLoop_adds`, `phases_attempts`: the attempts of the phases in the artifact, each with
  the tag of its phase;
* `matchingAttempts_measured`: the summary of a case is made of the attempts that decided
  the stop;
* `summary_withinTargets`, `summary_of_nil`: what is published of a case that was judged,
  and of a case that was seen in other phases alone;
* `adaptive_stop_published`: every published interval meets the targets of the plan.
-/
import Networker.Tester.ArtifactViews
import Networker.Tester.TargetRunner

namespace Networker

open Data Metrics Benchmark Statistics

namespace TargetRunner

/-! ### The loops -/

section Loops

variable {cfg : ResolvedConfig} {env : Probes} {tasks : List (Protocol × Option ℕ)}
variable {phase : String} {criteria : Option AdaptiveCriteria}

/-- What an iteration leaves the criteria to decide. -/
def verdict (criteria : Option AdaptiveCriteria) (attempts : List RequestAttempt) :
    Option StopReason :=
  criteria.bind fun c => (benchmarkAdaptiveStatus c attempts).stopReason

section Step

variable {left completed : ℕ} {attempts : List RequestAttempt} {st : RunState}

/-- A loop goes on while the criteria are not met. -/
lemma phaseLoop_continue
    (h : verdict criteria (attempts ++ (phaseIteration cfg env tasks phase st).1) = none) :
    phaseLoop cfg env tasks phase criteria (left + 1) completed attempts st =
      phaseLoop cfg env tasks phase criteria left (completed + 1)
        (attempts ++ (phaseIteration cfg env tasks phase st).1)
        (phaseIteration cfg env tasks phase st).2 := by
  rw [verdict] at h
  simp only [phaseLoop, h]

/-- A loop halts once the criteria are met. -/
lemma phaseLoop_halt {reason : StopReason}
    (h : verdict criteria (attempts ++ (phaseIteration cfg env tasks phase st).1) =
      some reason) :
    phaseLoop cfg env tasks phase criteria (left + 1) completed attempts st =
      ⟨attempts ++ (phaseIteration cfg env tasks phase st).1, completed + 1, some reason,
        (phaseIteration cfg env tasks phase st).2⟩ := by
  rw [verdict] at h
  simp only [phaseLoop, h]

end Step

/-- A loop that stops has attempts with that status. -/
lemma phaseLoop_stop {left completed : ℕ} {attempts : List RequestAttempt} {st : RunState}
    {reason : StopReason}
    (h : (phaseLoop cfg env tasks phase criteria left completed attempts st).stopReason =
      some reason) :
    verdict criteria
      (phaseLoop cfg env tasks phase criteria left completed attempts st).attempts =
        some reason := by
  induction left generalizing completed attempts st with
  | zero => exact absurd h (by simp [phaseLoop])
  | succ left ih =>
      cases hr : verdict criteria (attempts ++ (phaseIteration cfg env tasks phase st).1) with
      | some r =>
          rw [phaseLoop_halt hr] at h ⊢
          rw [hr, ← h]
      | none =>
          rw [phaseLoop_continue hr] at h ⊢
          exact ih h

variable (cfg env tasks phase criteria) in
/-- What a loop adds to the artifact has the tag of its phase. -/
lemma phaseLoop_adds (left completed : ℕ) (attempts : List RequestAttempt) (st : RunState) :
    ∃ added, (∀ a ∈ added, a.phase = benchmarkPhaseTag cfg phase) ∧
      (phaseLoop cfg env tasks phase criteria left completed attempts st).attempts =
        attempts ++ added ∧
      (phaseLoop cfg env tasks phase criteria left completed attempts st).state.allAttempts =
        st.allAttempts ++ added := by
  induction left generalizing completed attempts st with
  | zero => exact ⟨[], by simp [phaseLoop]⟩
  | succ left ih =>
      have htag : ∀ a ∈ (phaseIteration cfg env tasks phase st).1,
          a.phase = benchmarkPhaseTag cfg phase := by
        intro a ha
        obtain ⟨b, _, rfl⟩ := List.mem_map.mp ha
        rfl
      have hall : (phaseIteration cfg env tasks phase st).2.allAttempts =
          st.allAttempts ++ (phaseIteration cfg env tasks phase st).1 := rfl
      cases hr : verdict criteria (attempts ++ (phaseIteration cfg env tasks phase st).1) with
      | some r =>
          rw [phaseLoop_halt hr]
          exact ⟨_, htag, rfl, hall⟩
      | none =>
          obtain ⟨added, hadded, hattempts, hstate⟩ := ih (completed + 1)
            (attempts ++ (phaseIteration cfg env tasks phase st).1)
            (phaseIteration cfg env tasks phase st).2
          rw [phaseLoop_continue hr]
          refine ⟨(phaseIteration cfg env tasks phase st).1 ++ added, ?_, ?_, ?_⟩
          · intro a ha
            exact (List.mem_append.mp ha).elim (htag a) (hadded a)
          · rw [hattempts, List.append_assoc]
          · rw [hstate, hall, List.append_assoc]

variable (cfg env tasks phase criteria) in
/-- What the loop of a phase adds to the artifact is what it has measured. -/
lemma runPhase_adds (iterations : ℕ) (st : RunState) :
    (∀ a ∈ (runPhase cfg env tasks phase criteria iterations st).attempts,
        a.phase = benchmarkPhaseTag cfg phase) ∧
      (runPhase cfg env tasks phase criteria iterations st).state.allAttempts =
        st.allAttempts ++ (runPhase cfg env tasks phase criteria iterations st).attempts := by
  obtain ⟨added, hadded, hattempts, hstate⟩ := phaseLoop_adds cfg env tasks phase criteria
    iterations 0 [] st
  rw [runPhase, hattempts, hstate]
  exact ⟨hadded, rfl⟩

end Loops

/-! ### The phases -/

section Phases

variable {cfg : ResolvedConfig} {env : Probes} {modes : List Protocol} {payloadSizes : List ℕ}

lemma phase_of_mem_warmups {a : RequestAttempt}
    (ha : a ∈ (warmups cfg env modes).allAttempts) : a.phase = benchmarkPhaseTag cfg "warmup" := by
  have hnil : ∀ {b : RequestAttempt}, b ∉ ({} : RunState).allAttempts := List.not_mem_nil
  simp only [warmups, warmup] at ha
  split_ifs at ha
  · rcases List.mem_append.mp ha with ha | ha
    · rcases List.mem_append.mp ha with ha | ha
      · exact absurd ha hnil
      · rw [List.mem_singleton.mp ha]
    · rw [List.mem_singleton.mp ha]
  · rcases List.mem_append.mp ha with ha | ha
    · exact absurd ha hnil
    · rw [List.mem_singleton.mp ha]
  · rcases List.mem_append.mp ha with ha | ha
    · exact absurd ha hnil
    · rw [List.mem_singleton.mp ha]
  · exact absurd ha hnil

variable (cfg env modes payloadSizes) in
/-- The attempts up to the cooldown, phase by phase. -/
lemma cooldown_attempts :
    (phases cfg env modes payloadSizes).cooldown.state.allAttempts =
      (phases cfg env modes payloadSizes).warmedUp.allAttempts ++
        (phases cfg env modes payloadSizes).overhead.attempts ++
        (phases cfg env modes payloadSizes).pilot.attempts ++
        (phases cfg env modes payloadSizes).measured.attempts ++
        (phases cfg env modes payloadSizes).cooldown.attempts :=
  (runPhase_adds _ _ _ _ _ _ _).2.trans <| congrArg (· ++ _) <|
    (runPhase_adds _ _ _ _ _ _ _).2.trans <| congrArg (· ++ _) <|
    (runPhase_adds _ _ _ _ _ _ _).2.trans <| congrArg (· ++ _) <|
    (runPhase_adds _ _ _ _ _ _ _).2

variable (env modes payloadSizes) in
/-- The attempts of a run without HTTP stacks, phase by phase. -/
lemma phases_attempts (hstacks : cfg.httpStacks = []) :
    (phases cfg env modes payloadSizes).last.allAttempts =
      (phases cfg env modes payloadSizes).warmedUp.allAttempts ++
        (phases cfg env modes payloadSizes).overhead.attempts ++
        (phases cfg env modes payloadSizes).pilot.attempts ++
        (phases cfg env modes payloadSizes).measured.attempts ++
        (phases cfg env modes payloadSizes).cooldown.attempts := by
  have hlast : (phases cfg env modes payloadSizes).last =
      (phases cfg env modes payloadSizes).cooldown.state := by
    simp only [phases, hstacks, List.zipIdx_nil, List.foldl_nil]
  rw [hlast, cooldown_attempts]

/-- In the measured phase of a benchmark every phase has its own tag. -/
lemma benchmarkPhaseTag_of_measured (h : measuredBenchmark cfg = true) (phase : String) :
    benchmarkPhaseTag cfg phase = some phase := by
  rw [measuredBenchmark, Bool.and_eq_true, beq_iff_eq] at h
  rw [benchmarkPhaseTag, h.1, h.2]
  rfl

variable (env modes payloadSizes) in
/-- The measured attempts among the attempts of a run. -/
lemma filter_measured (hstacks : cfg.httpStacks = []) (h : measuredBenchmark cfg = true) :
    (∀ a ∈ (phases cfg env modes payloadSizes).last.allAttempts, a.phase.isSome) ∧
      (phases cfg env modes payloadSizes).last.allAttempts.filter
          (fun a => a.phase.getD "" == "measured") =
        (phases cfg env modes payloadSizes).measured.attempts := by
  have htag := benchmarkPhaseTag_of_measured h
  have hphase : cfg.benchmarkPhase = "measured" := by
    rw [measuredBenchmark, Bool.and_eq_true, beq_iff_eq] at h
    exact h.2
  have hwarmup : ∀ a ∈ (phases cfg env modes payloadSizes).warmedUp.allAttempts,
      a.phase = some "warmup" := fun a ha => (phase_of_mem_warmups ha).trans (htag _)
  have hoverhead : ∀ a ∈ (phases cfg env modes payloadSizes).overhead.attempts,
      a.phase = some "overhead" :=
    fun a ha => ((runPhase_adds _ _ _ _ _ _ _).1 a ha).trans (htag _)
  have hpilot : ∀ a ∈ (phases cfg env modes payloadSizes).pilot.attempts,
      a.phase = some "pilot" :=
    fun a ha => ((runPhase_adds _ _ _ _ _ _ _).1 a ha).trans (htag _)
  have hmeasured : ∀ a ∈ (phases cfg env modes payloadSizes).measured.attempts,
      a.phase = some "measured" := fun a ha =>
    ((runPhase_adds _ _ _ _ _ _ _).1 a ha).trans ((htag _).trans (by rw [hphase]))
  have hcooldown : ∀ a ∈ (phases cfg env modes payloadSizes).cooldown.attempts,
      a.phase = some "cooldown" :=
    fun a ha => ((runPhase_adds _ _ _ _ _ _ _).1 a ha).trans (htag _)
  have hnone : ∀ {other : String} {as : List RequestAttempt}, other ≠ "measured" →
      (∀ a ∈ as, a.phase = some other) →
      as.filter (fun a => a.phase.getD "" == "measured") = [] := by
    intro other as hne has
    rw [List.filter_eq_nil_iff]
    intro a ha
    rw [has a ha, Option.getD_some, beq_iff_eq]
    exact hne
  rw [phases_attempts env modes payloadSizes hstacks]
  constructor
  · intro a ha
    simp only [List.mem_append] at ha
    rcases ha with (((ha | ha) | ha) | ha) | ha
    · rw [hwarmup a ha]
      rfl
    · rw [hoverhead a ha]
      rfl
    · rw [hpilot a ha]
      rfl
    · rw [hmeasured a ha]
      rfl
    · rw [hcooldown a ha]
      rfl
  · have hself : (phases cfg env modes payloadSizes).measured.attempts.filter
        (fun a => a.phase.getD "" == "measured") =
          (phases cfg env modes payloadSizes).measured.attempts := by
      rw [List.filter_eq_self]
      intro a ha
      rw [hmeasured a ha]
      rfl
    rw [List.filter_append, List.filter_append, List.filter_append, List.filter_append,
      hnone (by decide) hwarmup, hnone (by decide) hoverhead, hnone (by decide) hpilot,
      hnone (by decide) hcooldown, hself, List.nil_append, List.nil_append, List.nil_append,
      List.append_nil]

end Phases

/-! ### The targets -/

section Targets

variable {cfg : ResolvedConfig} {pilotAttempts : List RequestAttempt}
variable {plan : BenchmarkExecutionPlan}

/-- The targets of a configuration are positive finite numbers. -/
structure ValidTargets (relative absolute : Option Float) : Prop where
  relativeValid : ∀ t, relative = some t → validTarget t = true
  absoluteValid : ∀ a, absolute = some a → validTarget a = true

lemma zero_le_of_validTarget {t : Float} (h : validTarget t = true) : 0.0 ≤ t := by
  rw [validTarget, Bool.and_eq_true, decide_eq_true_iff] at h
  exact Float64.le_of_lt h.2

/-- The targets of a plan are those of the configuration, or the default one. -/
lemma validTargets_executionPlan
    (hcfg : ValidTargets cfg.benchmarkTargetRelativeError cfg.benchmarkTargetAbsoluteError)
    (h : executionPlan cfg pilotAttempts = some plan) :
    ValidTargets plan.targetRelativeError plan.targetAbsoluteError := by
  have hnone : ValidTargets none none := ⟨nofun, nofun⟩
  rw [executionPlan] at h
  split at h
  · cases h
    refine ⟨fun t ht => ?_, hcfg.absoluteValid⟩
    rcases Option.or_eq_some_iff.mp ht with ht | ⟨_, ht⟩
    · exact hcfg.relativeValid t ht
    · cases ht
      rfl
  · split at h
    · next c hc =>
        cases h
        rw [benchmarkAdaptiveCriteria] at hc
        split at hc
        · cases hc
        · cases hc
          exact hcfg
    · split at h
      · cases h
        exact hnone
      · cases h

end Targets

/-! ### One case -/

section Case

variable {case : BenchmarkArtifact.BenchmarkCase} {attempts : List RequestAttempt}
variable {summary : BenchmarkArtifact.BenchmarkSummary} {criteria : AdaptiveCriteria}

/-- The metric values of attempts are finite. -/
def FiniteMetrics (attempts : List RequestAttempt) : Prop :=
  ∀ a ∈ attempts, ∀ v, primaryMetricValue a = some v → v.isFinite = true

/-- A published interval meets the targets. -/
structure WithinTargets (relative absolute : Option Float)
    (summary : BenchmarkArtifact.BenchmarkSummary) : Prop where
  relativeMet : ∀ t, relative = some t → summary.relativeMarginOfError ≤ t
  absoluteMet : ∀ a, absolute = some a → (summary.ci95Upper - summary.ci95Lower) / 2.0 ≤ a

/-- Where all values are finite, the stop looks at the values that the summary includes. -/
lemma ascending_filter_finite (h : FiniteMetrics attempts) :
    Float64.ascending ((attempts.filterMap measuredValue).filter Float.isFinite) =
      BenchmarkArtifact.includedValues attempts := by
  have hself : (attempts.filterMap measuredValue).filter Float.isFinite =
      attempts.filterMap measuredValue := by
    rw [List.filter_eq_self]
    intro v hv
    obtain ⟨a, ha, hv⟩ := List.mem_filterMap.mp hv
    rw [measuredValue] at hv
    split_ifs at hv
    exact h a ha v hv
  rw [hself]
  rfl

/-- What is published of a case that met the targets of the loop. -/
lemma summary_withinTargets (hfinite : FiniteMetrics attempts)
    (hsummary : BenchmarkArtifact.SummaryOf case attempts summary)
    (h : (medianErrorBounds (attempts.filterMap measuredValue)).any (withinTargets criteria) =
      true) :
    WithinTargets criteria.targetRelativeError criteria.targetAbsoluteError summary := by
  have hinterval : Benchmark.bootstrapMedianInterval =
      BenchmarkArtifact.bootstrapMedianInterval := rfl
  simp only [medianErrorBounds, ascending_filter_finite hfinite, hinterval] at h
  split at h
  · exact absurd h (by simp)
  rw [Option.any_some, withinTargets, Bool.and_eq_true, Option.all_eq_true,
    Option.all_eq_true] at h
  refine ⟨fun t ht => ?_, fun a ha => ?_⟩
  · have hrelative := h.1 t ht
    rw [Bool.and_eq_true, decide_eq_true_iff, decide_eq_true_iff] at hrelative
    rw [hsummary.relativeMarginOfError, hsummary.ci95Lower, hsummary.ci95Upper,
      BenchmarkArtifact.relativeMargin, if_pos hrelative.1]
    exact hrelative.2
  · have habsolute := h.2 a ha
    rw [decide_eq_true_iff] at habsolute
    rw [hsummary.ci95Lower, hsummary.ci95Upper]
    exact habsolute

/-- What is published of a case of accurate attempts. -/
lemma withinTargets_of_accuracy {plan : BenchmarkExecutionPlan}
    (hfinite : FiniteMetrics (group adaptiveCaseId case.id attempts))
    (hsummary : BenchmarkArtifact.SummaryOf case (group adaptiveCaseId case.id attempts) summary)
    (haccurate : accuracySatisfied (criteriaOf plan) attempts = true)
    (hseen : case.id ∈ keysOf adaptiveCaseId attempts) :
    WithinTargets plan.targetRelativeError plan.targetAbsoluteError summary := by
  rw [accuracySatisfied] at haccurate
  split at haccurate
  · rw [Bool.and_eq_true, List.all_eq_true] at haccurate
    exact summary_withinTargets hfinite hsummary (haccurate.2 case.id hseen)
  · next hnone =>
      rw [Bool.or_eq_true, not_or, Bool.not_eq_true, Bool.not_eq_true,
        Option.isSome_eq_false_iff, Option.isSome_eq_false_iff, Option.isNone_iff_eq_none,
        Option.isNone_iff_eq_none] at hnone
      exact ⟨fun t ht => absurd (hnone.1.symm.trans ht) nofun,
        fun a ha => absurd (hnone.2.symm.trans ha) nofun⟩

/-- What is published of a case that was seen in other phases alone. -/
lemma summary_of_nil {relative absolute : Option Float} (h : ValidTargets relative absolute)
    (hsummary : BenchmarkArtifact.SummaryOf case [] summary) :
    WithinTargets relative absolute summary := by
  have hmargin : BenchmarkArtifact.relativeMargin 0.0 0.0 0.0 = 0.0 := rfl
  have hhalf : (0.0 - 0.0 : Float) / 2.0 = 0.0 := rfl
  have hvalues : BenchmarkArtifact.includedValues [] = [] := by
    simp [BenchmarkArtifact.includedValues, Float64.ascending]
  refine ⟨fun t ht => ?_, fun a ha => ?_⟩
  · rw [hsummary.relativeMarginOfError, hsummary.ci95Lower, hsummary.ci95Upper, hvalues]
    exact hmargin ▸ zero_le_of_validTarget (h.relativeValid t ht)
  · rw [hsummary.ci95Lower, hsummary.ci95Upper, hvalues]
    exact hhalf ▸ zero_le_of_validTarget (h.absoluteValid a ha)

end Case

/-! ### The stop and the artifact -/

/-- The text of the plan says why the measured loop stopped. -/
lemma stopText_eq_accuracy {reason : Option StopReason}
    (h : stopText reason = "accuracy_target_reached") : reason = some .accuracyTargetReached := by
  rcases reason with _ | (_ | _)
  · exact absurd h (by decide)
  · rfl
  · exact absurd h (by decide)

/-- A loop that stops because of its accuracy has accurate attempts. -/
lemma accuracySatisfied_of_stop {c : AdaptiveCriteria} {attempts : List RequestAttempt}
    (h : (benchmarkAdaptiveStatus c attempts).stopReason = some .accuracyTargetReached) :
    accuracySatisfied c attempts = true := by
  simp only [benchmarkAdaptiveStatus] at h
  split at h
  · cases h
  · split at h
    · next hstop =>
        rw [Bool.and_eq_true] at hstop
        exact hstop.2
    · cases h

/-- What the recorded plan says of the loop, if it stopped because of its accuracy. -/
lemma measured_of_stop {cfg : ResolvedConfig} {env : Probes} {around : Surroundings}
    {modes : List Protocol} {payloadSizes : List ℕ} {plan : BenchmarkExecutionPlan}
    (hplan : (runForTarget cfg env around modes payloadSizes).2.benchmarkExecutionPlan =
      some plan)
    (hstop : plan.stopReason = some "accuracy_target_reached") :
    measuredBenchmark cfg = true ∧
      (∃ p, executionPlan cfg (phases cfg env modes payloadSizes).pilot.attempts = some p ∧
        p.targetRelativeError = plan.targetRelativeError ∧
        p.targetAbsoluteError = plan.targetAbsoluteError) ∧
      accuracySatisfied (criteriaOf plan)
        (phases cfg env modes payloadSizes).measured.attempts = true := by
  obtain ⟨recorded, hrecorded, hjoin⟩ := Option.bind_eq_some_iff.mp hplan
  rw [inBenchmark] at hrecorded
  split_ifs at hrecorded
  cases hrecorded
  obtain ⟨p, hp, rfl⟩ := Option.map_eq_some_iff.mp hjoin
  have hreason := stopText_eq_accuracy (Option.some_inj.mp hstop)
  obtain ⟨c, hc, hstatus⟩ := Option.bind_eq_some_iff.mp (phaseLoop_stop hreason)
  split_ifs at hc with hmeasured
  have hcriteria : c = criteriaOf p := by
    rw [show executionPlan cfg _ = some p from hp, Option.map_some] at hc
    exact (Option.some_inj.mp hc).symm
  rw [hcriteria] at hstatus
  exact ⟨hmeasured, ⟨p, hp, rfl, rfl⟩, accuracySatisfied_of_stop hstatus⟩

/-- Every interval that is published for the measured phase of a run without HTTP stacks
meets the targets that its measured loop stopped for. -/
theorem adaptive_stop_published (cfg : ResolvedConfig) (env : Probes) (around : Surroundings)
    (modes : List Protocol) (payloadSizes : List ℕ) (fuel : ℕ)
    (plan : BenchmarkExecutionPlan) (artifact : BenchmarkArtifact.Artifact)
    (hstacks : cfg.httpStacks = [])
    (hcfg : ValidTargets cfg.benchmarkTargetRelativeError cfg.benchmarkTargetAbsoluteError)
    (hfinite : FiniteMetrics (runForTarget cfg env around modes payloadSizes).2.attempts)
    (hplan : (runForTarget cfg env around modes payloadSizes).2.benchmarkExecutionPlan =
      some plan)
    (hstop : plan.stopReason = some "accuracy_target_reached")
    (hartifact : BenchmarkArtifact.toBenchmarkArtifact fuel
      (runForTarget cfg env around modes payloadSizes).2 = .ok (some artifact)) :
    ∀ summary ∈ artifact.summaries,
      WithinTargets plan.targetRelativeError plan.targetAbsoluteError summary := by
  intro summary hsummary
  obtain ⟨hmeasured, ⟨p, hp, hrelative, habsolute⟩, haccurate⟩ := measured_of_stop hplan hstop
  have hvalid : ValidTargets plan.targetRelativeError plan.targetAbsoluteError := by
    rw [← hrelative, ← habsolute]
    exact validTargets_executionPlan hcfg hp
  have hmode : cfg.benchmarkMode = true ∧ cfg.benchmarkPhase = "measured" := by
    simpa [measuredBenchmark] using hmeasured
  have hof : BenchmarkArtifact.artifactOf fuel (runForTarget cfg env around modes payloadSizes).2
      "measured" cfg.benchmarkScenario = some artifact := by
    have hphase : (runForTarget cfg env around modes payloadSizes).2.benchmarkPhase =
        some "measured" := by
      show inBenchmark cfg cfg.benchmarkPhase = _
      rw [inBenchmark, if_pos hmode.1, hmode.2]
    have hscenario : (runForTarget cfg env around modes payloadSizes).2.benchmarkScenario =
        some cfg.benchmarkScenario := by
      show inBenchmark cfg cfg.benchmarkScenario = _
      rw [inBenchmark, if_pos hmode.1]
    rw [BenchmarkArtifact.toBenchmarkArtifact, hphase, hscenario] at hartifact
    simpa using hartifact
  have hmade := BenchmarkArtifact.artifactOf_eq_some hof
  obtain ⟨htagged, hfilter⟩ := filter_measured env modes payloadSizes hstacks hmeasured
  obtain ⟨case, _, hof⟩ := hmade.summaryOf hsummary
  have hattempts := BenchmarkArtifact.aggregateAttempts_of_tagged
    (runForTarget cfg env around modes payloadSizes).2 "measured" htagged
  rw [hattempts, show (runForTarget cfg env around modes payloadSizes).2.attempts.filter _ = _
    from hfilter] at hof
  -- The case was seen in the measured phase, or in the other phases alone.
  by_cases hseen : case.id ∈
      keysOf adaptiveCaseId (phases cfg env modes payloadSizes).measured.attempts
  · have hgroup : FiniteMetrics (group adaptiveCaseId case.id
        (phases cfg env modes payloadSizes).measured.attempts) := by
      intro a ha
      have hmem := (mem_group.mp ha).1
      rw [← hfilter] at hmem
      exact hfinite a (List.mem_of_mem_filter hmem)
    exact withinTargets_of_accuracy hgroup hof haccurate hseen
  · have hnil : group adaptiveCaseId case.id
        (phases cfg env modes payloadSizes).measured.attempts = [] := by
      rw [List.eq_nil_iff_forall_not_mem]
      intro a ha
      obtain ⟨hmem, hid⟩ := mem_group.mp ha
      exact hseen (mem_keysOf.mpr ⟨a, hmem, hid⟩)
    exact summary_of_nil hvalid (hnil ▸ hof)

/-! ### Steady connections -/

/-- A target whose connections always take a millisecond. -/
def steady : Probes where
  outcome s :=
    { attemptId := siteId s
      startedAt := 0
      finishedAt := some 1000000
      success := true
      results := { tcpConnectDurationMs := some 1.0 } }
  fresh := siteId_injective
  completion := id
  complete := Probes.perm_id
  stackAvailable _ := true

/-- A benchmark that may stop after two samples. -/
def steadyConfig : ResolvedConfig where
  runs := 3
  retries := 0
  samples := 1
  connectionReuse := false
  benchmarkMode := true
  benchmarkMinSamples := some 2
  benchmarkTargetRelativeError := some 0.5

/-- Nothing was measured around the run. -/
def quiet : Surroundings where
  startedAt := 0
  finishedAt := 10000000
  benchmarkStabilityCheck := none
  benchmarkEnvironmentCheck := none
  baseline := none
  clockOffsetMs := none

/-- One millisecond is its own median under every resampling. -/
lemma flat_one : Flat adaptiveBootstrapResamples adaptiveConfidenceLevel 1.0 where
  double := by decide +kernel
  lower := percentileFromSorted_replicate (by decide) rfl (by decide)
    (by decide +kernel) (by decide +kernel)
  upper := percentileFromSorted_replicate (by decide) rfl (by decide)
    (by decide +kernel) (by decide +kernel)

/-- The error bounds of equal values. -/
lemma medianErrorBounds_of_flat {values : List Float} {n : ℕ} {v : Float} (hn : 1 < n)
    (hv : Flat adaptiveBootstrapResamples adaptiveConfidenceLevel v)
    (hvalues : Float64.ascending (values.filter Float.isFinite) = List.replicate n v) :
    medianErrorBounds values =
      some ⟨percentileFromSorted (List.replicate n v) 50.0, (v - v) / 2.0⟩ := by
  have hinterval : (Benchmark.bootstrapMedianInterval (List.replicate n v)).2 = (v, v) :=
    bootstrapMedianInterval_replicate hn hv
  obtain ⟨lower, upper⟩ := Prod.ext_iff.mp hinterval
  rw [medianErrorBounds]
  simp only [hvalues, List.length_replicate]
  rw [if_neg (by omega), lower, upper]

/-- The iterations of the measured phase. -/
def steadyIteration (st : RunState) : List RequestAttempt × RunState :=
  phaseIteration steadyConfig steady [(.tcp, none)] "measured" st

/-- The state before the measured phase. -/
def steadyStart : RunState := (phases steadyConfig steady [.tcp] []).pilot.state

/-- The end of the measured phase. -/
def steadyEnd : LoopEnd where
  attempts := (steadyIteration steadyStart).1 ++
    (steadyIteration (steadyIteration steadyStart).2).1
  completed := 2
  stopReason := some .accuracyTargetReached
  state := (steadyIteration (steadyIteration steadyStart).2).2

/-- The plan of the measured phase. -/
def steadyPlan : BenchmarkExecutionPlan where
  source := "explicit"
  minSamples := 2
  maxSamples := 3
  minDurationMs := 0
  targetRelativeError := some 0.5
  targetAbsoluteError := none

/-- There is no pilot. -/
lemma steady_pilot : (phases steadyConfig steady [.tcp] []).pilot.attempts = [] := by
  have hcriteria : benchmarkPilotCriteria steadyConfig = none := rfl
  simp only [phases, hcriteria, runPhase, Option.map_none, Option.getD_none, phaseLoop]

lemma steady_plan : (phases steadyConfig steady [.tcp] []).plan = some steadyPlan := by
  show executionPlan steadyConfig (phases steadyConfig steady [.tcp] []).pilot.attempts = _
  rw [steady_pilot]
  rfl

/-- Two equal samples are accurate. -/
lemma steady_accurate : accuracySatisfied (criteriaOf steadyPlan) steadyEnd.attempts = true := by
  have hkeys : keysOf adaptiveCaseId steadyEnd.attempts = ["tcp:default:default"] := by
    rfl
  have hvalues : Float64.ascending ((valuesOf "tcp:default:default" steadyEnd.attempts).filter
      Float.isFinite) = List.replicate 2 1.0 := rfl
  rw [accuracySatisfied, hkeys, List.all_cons, List.all_nil,
    medianErrorBounds_of_flat (by decide) flat_one hvalues]
  decide +kernel

variable (cfg : ResolvedConfig) (env : Probes) (modes : List Protocol) (payloadSizes : List ℕ) in
/-- The measured phase, by the criteria of the plan. -/
lemma measured_eq : (phases cfg env modes payloadSizes).measured =
    runPhase cfg env (modeTasks modes payloadSizes) cfg.benchmarkPhase
      (if measuredBenchmark cfg then (phases cfg env modes payloadSizes).plan.map criteriaOf
        else none)
      (((if measuredBenchmark cfg then (phases cfg env modes payloadSizes).plan.map criteriaOf
        else none).map (·.maxSamples)).getD cfg.runs)
      (phases cfg env modes payloadSizes).pilot.state := rfl

/-- The measured loop stops after its second iteration. -/
lemma steady_measured : (phases steadyConfig steady [.tcp] []).measured = steadyEnd := by
  have hfirst : verdict (some (criteriaOf steadyPlan))
      ([] ++ (steadyIteration steadyStart).1) = none := rfl
  have hsecond : verdict (some (criteriaOf steadyPlan)) steadyEnd.attempts =
      some .accuracyTargetReached := by
    have hmax : ¬ (criteriaOf steadyPlan).maxSamples ≤ completedSamples steadyEnd.attempts := by
      decide
    have hmin : (criteriaOf steadyPlan).minSamples ≤ completedSamples steadyEnd.attempts := by
      rfl
    have hduration : Float.ofNat (criteriaOf steadyPlan).minDurationMs ≤
        benchmarkAttemptWallTimeMs steadyEnd.attempts := rfl
    rw [verdict, Option.bind_some, benchmarkAdaptiveStatus]
    simp [hmax, hmin, hduration, steady_accurate]
  have hmeasured : measuredBenchmark steadyConfig = true := rfl
  have hloop : (phases steadyConfig steady [.tcp] []).measured =
      phaseLoop steadyConfig steady [(.tcp, none)] "measured" (some (criteriaOf steadyPlan)) 3 0
        [] steadyStart := by
    have hcriteria : (if measuredBenchmark steadyConfig then
        (phases steadyConfig steady [.tcp] []).plan.map criteriaOf else none) =
          some (criteriaOf steadyPlan) := by rw [if_pos hmeasured, steady_plan, Option.map_some]
    rw [measured_eq, hcriteria]
    rfl
  rw [hloop, phaseLoop_continue hfirst]
  exact phaseLoop_halt hsecond

/-- The record of the run. -/
def steadyRun : Metrics.TestRun := (runForTarget steadyConfig steady quiet [.tcp] []).2

/-- The attempts of the run: of the overhead, the measured and the cooldown phase. -/
def steadyAttempts : List RequestAttempt :=
  (phases steadyConfig steady [.tcp] []).overhead.attempts ++ steadyEnd.attempts ++
    (runPhase steadyConfig steady [(.tcp, none)] "cooldown" none 1 steadyEnd.state).attempts

variable (cfg : ResolvedConfig) (env : Probes) (modes : List Protocol) (payloadSizes : List ℕ) in
/-- The cooldown phase, behind the measured one. -/
lemma cooldown_eq : (phases cfg env modes payloadSizes).cooldown =
    runPhase cfg env (modeTasks modes payloadSizes) "cooldown" none
      (sideRuns cfg cfg.benchmarkCooldownSamples defaultCooldownSamples)
      (phases cfg env modes payloadSizes).measured.state := rfl

lemma steadyRun_attempts : steadyRun.attempts = steadyAttempts := by
  have hwarmups : (phases steadyConfig steady [.tcp] []).warmedUp.allAttempts = [] := rfl
  have hside : sideRuns steadyConfig steadyConfig.benchmarkCooldownSamples
      defaultCooldownSamples = 1 := rfl
  show (phases steadyConfig steady [.tcp] []).last.allAttempts = _
  rw [phases_attempts steady [.tcp] [] rfl, hwarmups, steady_pilot, cooldown_eq, steady_measured,
    hside, List.nil_append, List.append_nil]
  rfl

/-- Every attempt of the run takes a millisecond. -/
lemma steady_metric : ∀ a ∈ steadyRun.attempts, primaryMetricValue a = some 1.0 := by
  have hmetrics : steadyAttempts.map primaryMetricValue = List.replicate 4 (some 1.0) := by
    rfl
  intro a ha
  rw [steadyRun_attempts] at ha
  have hmem := List.mem_map_of_mem (f := primaryMetricValue) ha
  rw [hmetrics] at hmem
  exact List.eq_of_mem_replicate hmem

/-- A run stops after two equal samples, and its interval is published. -/
theorem adaptive_stop_published_steady : ∃ artifact plan,
    BenchmarkArtifact.toBenchmarkArtifact 0 steadyRun = .ok (some artifact) ∧
      steadyRun.benchmarkExecutionPlan = some plan ∧
      plan.targetRelativeError = some 0.5 ∧
      plan.stopReason = some "accuracy_target_reached" ∧
      artifact.summaries.length = 1 ∧
      ∀ summary ∈ artifact.summaries, WithinTargets (some 0.5) none summary := by
  have hlength : steadyRun.attempts.length < StatsShape.mvalueMinSamples := by
    rw [steadyRun_attempts]
    decide
  obtain ⟨artifact, hof⟩ := Option.isSome_iff_exists.mp
    (BenchmarkArtifact.artifactOf_of_few "measured" 0 "default" hlength)
  have hartifact : BenchmarkArtifact.toBenchmarkArtifact 0 steadyRun = .ok (some artifact) :=
    congrArg Except.ok hof
  have hplan : steadyRun.benchmarkExecutionPlan =
      some { steadyPlan with stopReason := some "accuracy_target_reached" } := by
    show ((phases steadyConfig steady [.tcp] []).plan.map fun plan => { plan with
      stopReason := some (stopText (phases steadyConfig steady [.tcp] []).measured.stopReason) }) =
        _
    rw [steady_plan, steady_measured]
    rfl
  have hcfg : ValidTargets steadyConfig.benchmarkTargetRelativeError
      steadyConfig.benchmarkTargetAbsoluteError := by
    refine ⟨fun t ht => ?_, nofun⟩
    cases ht
    rfl
  have hfinite : FiniteMetrics steadyRun.attempts := by
    intro a ha v hv
    cases (steady_metric a ha).symm.trans hv
    rfl
  have hsummaries : artifact.summaries.length = 1 := by
    have hmade := BenchmarkArtifact.artifactOf_eq_some hof
    have hkeys : keysOf BenchmarkArtifact.benchmarkCaseId steadyAttempts =
        ["tcp:default:default"] := rfl
    have hids := BenchmarkArtifact.map_id_casesOf steadyRun.attempts
    rw [steadyRun_attempts, hkeys, ← steadyRun_attempts, ← hmade.cases] at hids
    rw [← hmade.summaries.length_eq, ← List.length_map (·.id), hids, List.length_singleton]
  exact ⟨artifact, _, hartifact, hplan, rfl, rfl, hsummaries,
    adaptive_stop_published steadyConfig steady quiet [.tcp] [] 0 _ artifact rfl hcfg hfinite
      hplan rfl hartifact⟩

end TargetRunner

end Networker
