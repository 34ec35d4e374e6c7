/-
What the views of an artifact have to do with each other.

* `Conserves`: one sample for every attempt; the counts of the cases add up to those of the
  summary and of the launch, and agree with the statuses of the samples;
* `Publishable`: what an artifact that is ready for publication has passed;
* `artifact_conserves`: that holds of every artifact, and a run has one once its scans for modes
  are bounded;
* `connectRun_unnamed`: a run with a phase and no scenario has none.
-/
import Networker.Tester.ArtifactViews
import Networker.Tester.ModeScan

namespace Networker

open Data Metrics Statistics

namespace BenchmarkArtifact

/-! ### Included attempts -/

section Included

variable {record : AttemptRecord} {primaryPhase : String}

/-- An attempt whose value is part of a summary. -/
def valued (a : RequestAttempt) : Bool := a.success && (primaryMetricValue a).isSome

/-- A sample with a status of those that are included. -/
def BenchmarkSample.isIncluded (sample : BenchmarkSample) : Bool :=
  sample.inclusionStatus == "included" || sample.inclusionStatus == "included_after_retry"

lemma length_includedValues (attempts : List RequestAttempt) :
    (includedValues attempts).length = attempts.countP valued := by
  rw [includedValues, Float64.ascending, List.length_insertionSort,
    List.length_filterMap_eq_countP]
  refine List.countP_congr fun a _ => ?_
  rw [valued]
  cases a.success <;> simp

/-- No status of another phase is one of those that are included. -/
lemma excluded_ne (s t : String) (ht : t = "included" ∨ t = "included_after_retry") :
    "excluded_phase_" ++ s ≠ t := by
  intro h
  have hfirst := congrArg (fun u => u.toList.head?) h
  rw [String.toList_append] at hfirst
  rcases ht with rfl | rfl
  · exact absurd hfirst (by simp)
  · exact absurd hfirst (by simp)

/-- The status says whether a summary includes the attempt. -/
lemma isIncluded_sample : (benchmarkSampleForAttempt primaryPhase record).isIncluded =
    (record.phase == primaryPhase && valued record.attempt) := by
  show (inclusionStatus record primaryPhase == "included" ||
    inclusionStatus record primaryPhase == "included_after_retry") = _
  rw [inclusionStatus, valued]
  by_cases hphase : record.phase = primaryPhase
  · rw [if_neg (not_not.mpr hphase), beq_iff_eq.mpr hphase, Bool.true_and]
    cases record.attempt.success with
    | false => rfl
    | true =>
        cases hmetric : primaryMetricValue record.attempt with
        | none => rfl
        | some value =>
            by_cases hretry : 0 < record.attempt.retryCount
            · simp [hretry]
            · simp [hretry]
  · rw [if_pos hphase, beq_eq_false_iff_ne.mpr hphase, Bool.false_and,
      beq_eq_false_iff_ne.mpr (excluded_ne _ _ (Or.inl rfl)),
      beq_eq_false_iff_ne.mpr (excluded_ne _ _ (Or.inr rfl))]
    rfl

end Included

/-! ### Counts -/

/-- A sample is of an attempt. -/
structure SampleOf (a : RequestAttempt) (sample : BenchmarkSample) : Prop where
  attemptId : sample.attemptId = a.attemptId
  caseId : sample.caseId = benchmarkCaseId a
  success : sample.success = a.success
  retryCount : sample.retryCount = a.retryCount
  metricValue : sample.metricValue = primaryMetricValue a

/-- The views of an artifact agree on the attempts. -/
structure Conserves (run : Metrics.TestRun) (artifact : Artifact) : Prop where
  samples : List.Forall₂ SampleOf run.attempts artifact.samples
  cases : artifact.summaries.map (·.case.id) = keysOf benchmarkCaseId run.attempts
  sampleCount : (artifact.summaries.map (·.sampleCount)).sum = artifact.summary.sampleCount
  includedSampleCount :
    (artifact.summaries.map (·.includedSampleCount)).sum = artifact.summary.includedSampleCount
  successCount : (artifact.summaries.map (·.successCount)).sum = artifact.summary.successCount
  failureCount : (artifact.summaries.map (·.failureCount)).sum = artifact.summary.failureCount
  launch : ∃ launch, artifact.launches = [launch] ∧
    launch.primarySampleCount = artifact.summary.sampleCount ∧
      launch.successCount = artifact.summary.successCount ∧
        launch.failureCount = artifact.summary.failureCount
  included : ∀ summary ∈ artifact.summaries,
    (artifact.samples.countP fun sample =>
      sample.caseId == summary.case.id && sample.isIncluded) = summary.includedSampleCount

section Counts

variable {fuel : ℕ} {run : Metrics.TestRun} {primaryPhase scenario : String} {artifact : Artifact}

/-- What is counted of the cases adds up over the primary attempts. -/
lemma sum_count (h : Made fuel run primaryPhase scenario artifact) {f : BenchmarkSummary → ℕ}
    {p : RequestAttempt → Bool}
    (hf : ∀ case attempts summary, SummaryOf case attempts summary →
      f summary = attempts.countP p) :
    (artifact.summaries.map f).sum = f artifact.summary := by
  have hcases : artifact.summaries.map f = (keysOf benchmarkCaseId run.attempts).map fun id =>
      (group benchmarkCaseId id
        (aggregateAttempts (attemptRecords run) primaryPhase)).countP p := by
    rw [← map_id_casesOf, ← h.cases, List.map_map, ← List.forall₂_eq_eq_eq,
      List.forall₂_map_left_iff, List.forall₂_map_right_iff]
    refine (h.summaries.imp fun {case summary} hsummary => ?_).flip
    rw [matchingAttempts_eq] at hsummary
    exact hf _ _ _ (benchmarkSummaryFromAttempts_eq_some hsummary)
  have hkeys : ∀ a ∈ aggregateAttempts (attemptRecords run) primaryPhase,
      benchmarkCaseId a ∈ keysOf benchmarkCaseId run.attempts :=
    fun a ha => mem_keysOf.mpr ⟨a, (aggregateAttempts_sublist run primaryPhase).subset ha, rfl⟩
  rw [hcases, sum_countP_group nodup_keysOf hkeys,
    hf _ _ _ (benchmarkSummaryFromAttempts_eq_some h.summary)]

/-- The samples of a case that are included are the values of its summary. -/
lemma countP_included (h : Made fuel run primaryPhase scenario artifact) (id : String) :
    (artifact.samples.countP fun sample => sample.caseId == id && sample.isIncluded) =
      (group benchmarkCaseId id
        (aggregateAttempts (attemptRecords run) primaryPhase)).countP valued := by
  rw [← matchingAttempts_eq, matchingAttempts, h.samples, List.countP_map, List.countP_map,
    List.countP_filter]
  refine List.countP_congr fun record _ => ?_
  rw [Function.comp_apply, Function.comp_apply, isIncluded_sample]
  show (record.caseId == id && _) = true ↔ _
  rw [beq_eq_decide]
  simp only [Bool.and_eq_true]
  tauto

/-- **The views of an artifact agree.** -/
lemma conserves (h : Made fuel run primaryPhase scenario artifact) : Conserves run artifact where
  samples := by
    rw [h.samples, List.forall₂_map_right_iff]
    conv => arg 2; rw [← map_attempt_attemptRecords run]
    rw [List.forall₂_map_left_iff, List.forall₂_same]
    exact fun record hrecord => ⟨rfl, caseId_of_mem_attemptRecords hrecord, rfl, rfl, rfl⟩
  cases := by
    rw [← map_id_casesOf, ← h.cases, ← List.forall₂_eq_eq_eq, List.forall₂_map_left_iff,
      List.forall₂_map_right_iff]
    exact (h.summaries.imp fun {case summary} hsummary =>
      congrArg BenchmarkCase.id (benchmarkSummaryFromAttempts_eq_some hsummary).case).flip
  sampleCount := sum_count h (p := fun _ => true) fun case attempts summary hs => by
    rw [hs.sampleCount, List.countP_true]
  includedSampleCount := sum_count h fun case attempts summary hs => by
    rw [hs.includedSampleCount, length_includedValues]
  successCount := sum_count h fun case attempts summary hs => hs.successCount
  failureCount := sum_count h fun case attempts summary hs => hs.failureCount
  launch := by
    have hs := benchmarkSummaryFromAttempts_eq_some h.summary
    have hlength : (primaryRecords (attemptRecords run) primaryPhase).length =
        artifact.summary.sampleCount := by
      rw [hs.sampleCount, aggregateAttempts, List.length_map]
    have hsuccess : (primaryRecords (attemptRecords run) primaryPhase).countP
        (·.attempt.success) = artifact.summary.successCount := by
      rw [hs.successCount, aggregateAttempts, List.countP_map]
      rfl
    have hall := List.length_eq_countP_add_countP (fun record : AttemptRecord =>
      record.attempt.success) (l := primaryRecords (attemptRecords run) primaryPhase)
    refine ⟨_, h.launches, hlength, hsuccess, ?_⟩
    show (primaryRecords (attemptRecords run) primaryPhase).length -
      (primaryRecords (attemptRecords run) primaryPhase).countP (·.attempt.success) = _
    rw [hall, Nat.add_sub_cancel_left, hs.failureCount, aggregateAttempts, List.countP_map]
    exact List.countP_congr fun record _ => by simp
  included := by
    intro summary hsummary
    obtain ⟨case, -, hs⟩ := h.summaryOf hsummary
    rw [countP_included h, hs.includedSampleCount, length_includedValues, hs.case]

end Counts

/-! ### The gate -/

/-- What an artifact that is ready for publication has passed. -/
structure Publishable (primaryPhase : String) (artifact : Artifact) : Prop where
  samples : ∀ summary ∈ artifact.summaries, 100 ≤ summary.includedSampleCount
  failures : ∀ sample ∈ artifact.samples, sample.phase = primaryPhase → sample.success = true
  cv : ∀ summary ∈ artifact.summaries, summary.cv.isNaN = false → summary.cv ≤ 0.10
  margin : ∀ summary ∈ artifact.summaries, summary.relativeMarginOfError.isNaN = false →
    summary.relativeMarginOfError ≤ 0.05

section Gate

variable {fuel : ℕ} {run : Metrics.TestRun} {primaryPhase scenario : String} {artifact : Artifact}

lemma blockers_and (a b : Findings) :
    (a.and b).publicationBlockers = a.publicationBlockers ++ b.publicationBlockers := rfl

lemma blockers_all (fs : List Findings) :
    (Findings.all fs).publicationBlockers = fs.flatMap (·.publicationBlockers) := by
  have hfold (first : Findings) : (fs.foldl Findings.and first).publicationBlockers =
      first.publicationBlockers ++ fs.flatMap (·.publicationBlockers) := by
    induction fs generalizing first with
    | nil => rw [List.foldl_nil, List.flatMap_nil, List.append_nil]
    | cons f fs ih => rw [List.foldl_cons, ih, blockers_and, List.append_assoc, List.flatMap_cons]
  rw [Findings.all, hfold]
  rfl

lemma blockIf_eq_nil {c : Bool} {text : String} :
    (blockIf c text).publicationBlockers = [] ↔ c = false := by
  cases c <;> simp [blockIf]

/-- What a case without a blocker has passed. -/
lemma caseFindings_eq_nil {label : String → String} {summary : BenchmarkSummary}
    (h : (caseFindings label summary).publicationBlockers = []) :
    summary.failureCount = 0 ∧ ¬ 0.10 < summary.cv ∧
      ¬ 0.05 < summary.relativeMarginOfError := by
  rw [caseFindings] at h
  simp only [blockers_and, List.append_eq_nil_iff, blockIf_eq_nil, decide_eq_false_iff_not] at h
  exact ⟨by omega, h.2.2.2.1, h.2.2.2.2.2.2.1⟩

/-- A worst case with enough samples is not below any. -/
lemma enough_of_sufficiency {cases : List BenchmarkSummary}
    (h : (sufficiencyFindings (worstIncluded cases)).publicationBlockers = []) :
    ∀ summary ∈ cases, 100 ≤ summary.includedSampleCount := by
  have hworst : 100 ≤ worstIncluded cases := by
    by_contra hfew
    rw [sufficiencyFindings, blockers_and, List.append_eq_nil_iff, blockIf_eq_nil] at h
    have hadequate := h.2
    rw [sufficiencyOf, if_neg hfew] at hadequate
    split_ifs at hadequate <;> exact absurd hadequate (by decide)
  intro summary hsummary
  have hmem : summary.includedSampleCount ∈ cases.map (·.includedSampleCount) :=
    List.mem_map_of_mem hsummary
  cases hmin : (cases.map (·.includedSampleCount)).min? with
  | none =>
      rw [List.min?_eq_none_iff.mp hmin] at hmem
      exact absurd hmem List.not_mem_nil
  | some m =>
      rw [worstIncluded, hmin, Option.getD_some] at hworst
      exact hworst.trans ((List.min?_eq_some_iff.mp hmin).2 _ hmem)

/-- **An artifact that is ready for publication has passed the gate.** -/
lemma publishable (h : Made fuel run primaryPhase scenario artifact)
    (hready : artifact.dataQuality.publicationReady = true) :
    Publishable primaryPhase artifact := by
  rw [h.dataQuality] at hready
  have hnil : (findings run (judged artifact.summaries artifact.summary)).publicationBlockers =
      [] := List.isEmpty_iff.mp hready
  rw [findings] at hnil
  simp only [blockers_and, blockers_all, List.append_eq_nil_iff, List.flatMap_eq_nil_iff,
    List.forall_mem_map] at hnil
  obtain ⟨-, -, -, hcases, hsufficiency⟩ := hnil
  have hjudged : ∀ summary ∈ artifact.summaries,
      summary ∈ judged artifact.summaries artifact.summary := by
    intro summary hsummary
    have hne : artifact.summaries.isEmpty = false :=
      List.isEmpty_eq_false_iff.mpr (List.ne_nil_of_mem hsummary)
    rw [judged, hne]
    exact hsummary
  have hcase (summary) (hsummary : summary ∈ artifact.summaries) :=
    caseFindings_eq_nil (hcases summary (hjudged summary hsummary))
  refine ⟨fun summary hsummary => enough_of_sufficiency hsufficiency summary
    (hjudged summary hsummary), fun sample hsample hphase => ?_, fun summary hsummary hnum => ?_,
    fun summary hsummary hnum => ?_⟩
  -- no case counts a failure, and the cases count all of them
  · have hsum : (artifact.summaries.map (·.failureCount)).sum = 0 := by
      rw [List.sum_eq_zero_iff]
      intro count hcount
      obtain ⟨summary, hsummary, rfl⟩ := List.mem_map.mp hcount
      exact (hcase summary hsummary).1
    rw [(conserves h).failureCount, (benchmarkSummaryFromAttempts_eq_some h.summary).failureCount,
      List.countP_eq_zero] at hsum
    rw [h.samples] at hsample
    obtain ⟨record, hrecord, rfl⟩ := List.mem_map.mp hsample
    have hmem : record.attempt ∈ aggregateAttempts (attemptRecords run) primaryPhase :=
      List.mem_map_of_mem (List.mem_filter.mpr ⟨hrecord, beq_iff_eq.mpr hphase⟩)
    have hsuccess : record.attempt.success = true := by simpa using hsum _ hmem
    exact hsuccess
  · exact Float64.le_of_not_lt (by decide +kernel) hnum (hcase summary hsummary).2.1
  · exact Float64.le_of_not_lt (by decide +kernel) hnum (hcase summary hsummary).2.2

variable (scenario) in
/-- There is an artifact once no scan for modes is over an unbounded range. -/
lemma exists_artifactOf
    (h : ∀ case ∈ casesOf run.attempts, ¬ StatsShape.Unbounded (includedValues
      (matchingAttempts (attemptRecords run) primaryPhase case.id)))
    (hall : ¬ StatsShape.Unbounded (includedValues
      (aggregateAttempts (attemptRecords run) primaryPhase))) :
    (artifactOf StatsShape.widths run primaryPhase scenario).isSome :=
  artifactOf_isSome scenario (fun case hcase => StatsShape.mvalue_isSome (h case hcase))
    (StatsShape.mvalue_isSome hall)

/-- A scan over few values is not over an unbounded range. -/
lemma not_unbounded_of_few {attempts : List RequestAttempt} (hsub : attempts.Sublist run.attempts)
    (h : run.attempts.length < StatsShape.mvalueMinSamples) :
    ¬ StatsShape.Unbounded (includedValues attempts) := by
  intro hunbounded
  have hfinite := List.length_filter_le Float.isFinite (includedValues attempts)
  have hincluded := length_includedValues_le attempts
  have hlength := hsub.length_le
  have hmany := hunbounded.1
  omega

end Gate

/-- **The artifact of a run with a phase and a scenario conserves its attempts and gates its
publication.**  It is made in a bounded number of steps unless the values of a summary are further
apart than any finite number. -/
theorem artifact_conserves (run : Metrics.TestRun) (primaryPhase scenario : String)
    (hphase : run.benchmarkPhase = some primaryPhase)
    (hscenario : run.benchmarkScenario = some scenario) :
    (∀ fuel artifact, toBenchmarkArtifact fuel run = .ok (some artifact) →
      Conserves run artifact ∧
        (artifact.dataQuality.publicationReady = true → Publishable primaryPhase artifact)) ∧
    ((∀ case ∈ casesOf run.attempts, ¬ StatsShape.Unbounded (includedValues
        (matchingAttempts (attemptRecords run) primaryPhase case.id))) →
      ¬ StatsShape.Unbounded (includedValues
        (aggregateAttempts (attemptRecords run) primaryPhase)) →
      ∃ artifact, toBenchmarkArtifact StatsShape.widths run = .ok (some artifact)) := by
  have hartifact (fuel : ℕ) : toBenchmarkArtifact fuel run =
      .ok (artifactOf fuel run primaryPhase scenario) := by
    rw [toBenchmarkArtifact, hphase, hscenario]
  constructor
  · intro fuel artifact h
    rw [hartifact, Except.ok.injEq] at h
    have hmade := artifactOf_eq_some h
    exact ⟨conserves hmade, publishable hmade⟩
  · intro hcases hall
    obtain ⟨artifact, h⟩ := Option.isSome_iff_exists.mp
      (exists_artifactOf scenario hcases hall)
    exact ⟨artifact, by rw [hartifact, h]⟩

/-- A run with a phase and one connection. -/
def connectRun (scenario : Option String) : Metrics.TestRun :=
  { startedAt := 0, finishedAt := none
    benchmarkPhase := some "measured", benchmarkScenario := scenario
    attempts :=
      [{ attemptId := 0, protocol := .tcp, sequenceNum := 0, startedAt := 0, finishedAt := none
         success := true, results := { tcpConnectDurationMs := some 1.0 } }] }

/-- The artifact of one connection. -/
theorem artifact_conserves_connect : ∃ artifact,
    toBenchmarkArtifact StatsShape.widths (connectRun (some "warm")) = .ok (some artifact) ∧
      Conserves (connectRun (some "warm")) artifact := by
  obtain ⟨hall, hsome⟩ := artifact_conserves (connectRun (some "warm")) "measured" "warm" rfl rfl
  have hfew : (connectRun (some "warm")).attempts.length < StatsShape.mvalueMinSamples := by
    decide
  obtain ⟨artifact, h⟩ := hsome
    (fun case _ => not_unbounded_of_few (matchingAttempts_sublist _ _ case.id) hfew)
    (not_unbounded_of_few (aggregateAttempts_sublist _ _) hfew)
  exact ⟨artifact, h, (hall _ _ h).1⟩

/-- Without a scenario there is no artifact, and no sample of an attempt. -/
theorem connectRun_unnamed : (connectRun none).benchmarkPhase = some "measured" ∧
    (connectRun none).attempts.length = 1 ∧ ∀ fuel, toBenchmarkArtifact fuel (connectRun none) =
      .error "benchmark artifact requires benchmark_scenario" :=
  ⟨rfl, rfl, fun _ => rfl⟩

end BenchmarkArtifact

end Networker
