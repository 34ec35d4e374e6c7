/-
How the views of an artifact are made of the attempts of the run.

* `Summarised`: the cases with their summaries, and the summary of everything;
* `artifactOf_eq_some`: what an artifact is made of;
* `attemptRecords_eq`, `matchingAttempts_eq`: the records are the attempts with their phases,
  and a case is summarised over its attempts in the primary phase;
* `benchmarkSummaryFromAttempts_eq_some`: what a summary says of its attempts.
-/
import Networker.Tester.BenchmarkArtifact

namespace Networker

open Data Metrics Statistics

namespace BenchmarkArtifact

section Views

variable {fuel : ℕ} {run : Metrics.TestRun} {primaryPhase scenario : String} {artifact : Artifact}

/-- What is mapped in `Option` is mapped element by element. -/
lemma forall₂_of_mapM {α β : Type} {f : α → Option β} {xs : List α} {ys : List β}
    (h : xs.mapM f = some ys) : List.Forall₂ (fun x y => f x = some y) xs ys := by
  induction xs generalizing ys with
  | nil =>
      rw [List.mapM_nil] at h
      cases h
      exact List.Forall₂.nil
  | cons x xs ih =>
      rw [List.mapM_cons] at h
      obtain ⟨y, hy, h⟩ := Option.bind_eq_some_iff.mp h
      obtain ⟨zs, hzs, h⟩ := Option.bind_eq_some_iff.mp h
      cases h
      exact List.Forall₂.cons hy (ih hzs)

/-- What stands in the second list belongs to something in the first. -/
lemma exists_of_forall₂ {α β : Type} {R : α → β → Prop} {xs : List α} {ys : List β}
    (h : List.Forall₂ R xs ys) {y : β} (hy : y ∈ ys) : ∃ x ∈ xs, R x y := by
  induction h with
  | nil => exact absurd hy List.not_mem_nil
  | @cons x z xs ys hxz _ ih =>
      rcases List.mem_cons.mp hy with rfl | hy
      · exact ⟨x, List.mem_cons_self, hxz⟩
      · obtain ⟨w, hw, hwy⟩ := ih hy
        exact ⟨w, List.mem_cons_of_mem x hw, hwy⟩

/-- The parts of an artifact. -/
structure Made (fuel : ℕ) (run : Metrics.TestRun) (primaryPhase scenario : String)
    (artifact : Artifact) : Prop where
  cases : artifact.cases = casesOf run.attempts
  summaries : List.Forall₂ (fun case summary => benchmarkSummaryFromAttempts fuel case
    (matchingAttempts (attemptRecords run) primaryPhase case.id) = some summary)
      artifact.cases artifact.summaries
  summary : benchmarkSummaryFromAttempts fuel (aggregateCase artifact.cases)
    (aggregateAttempts (attemptRecords run) primaryPhase) = some artifact.summary
  samples : artifact.samples =
    (attemptRecords run).map (benchmarkSampleForAttempt primaryPhase)
  launches : artifact.launches = [benchmarkLaunchFromRecords run (attemptRecords run) scenario
    primaryPhase (run.benchmarkLaunchIndex.getD 0)]
  dataQuality : artifact.dataQuality =
    benchmarkDataQuality run artifact.summaries artifact.summary

/-- What an artifact is made of. -/
lemma artifactOf_eq_some (h : artifactOf fuel run primaryPhase scenario = some artifact) :
    Made fuel run primaryPhase scenario artifact := by
  obtain ⟨summaries, hsummaries, h⟩ := Option.bind_eq_some_iff.mp h
  obtain ⟨summary, hsummary, h⟩ := Option.bind_eq_some_iff.mp h
  cases h
  exact ⟨rfl, forall₂_of_mapM hsummaries, hsummary, rfl, rfl, rfl⟩

/-- What is defined on every element is defined on a list. -/
lemma isSome_mapM {α β : Type} {f : α → Option β} {xs : List α}
    (h : ∀ x ∈ xs, (f x).isSome) : (xs.mapM f).isSome := by
  induction xs with
  | nil => rfl
  | cons x xs ih =>
      obtain ⟨y, hy⟩ := Option.isSome_iff_exists.mp (h x List.mem_cons_self)
      obtain ⟨ys, hys⟩ := Option.isSome_iff_exists.mp
        (ih fun z hz => h z (List.mem_cons_of_mem x hz))
      rw [List.mapM_cons, hy, hys]
      rfl

variable (scenario) in
/-- There is an artifact once the scans for modes have ended. -/
lemma artifactOf_isSome
    (hcases : ∀ case ∈ casesOf run.attempts, (StatsShape.mvalue fuel (includedValues
      (matchingAttempts (attemptRecords run) primaryPhase case.id))).isSome)
    (hall : (StatsShape.mvalue fuel (includedValues
      (aggregateAttempts (attemptRecords run) primaryPhase))).isSome) :
    (artifactOf fuel run primaryPhase scenario).isSome := by
  have hsummary : ∀ (case : BenchmarkCase) (attempts : List RequestAttempt),
      (StatsShape.mvalue fuel (includedValues attempts)).isSome →
        (benchmarkSummaryFromAttempts fuel case attempts).isSome := by
    intro case attempts h
    rw [benchmarkSummaryFromAttempts, Option.isSome_map]
    exact h
  obtain ⟨summaries, hsummaries⟩ := Option.isSome_iff_exists.mp
    (isSome_mapM fun case hcase => hsummary case _ (hcases case hcase))
  obtain ⟨summary, haggregate⟩ := Option.isSome_iff_exists.mp
    (hsummary (aggregateCase (casesOf run.attempts)) _ hall)
  rw [artifactOf]
  simp only [hsummaries, haggregate, Option.bind_eq_bind, Option.bind_some]
  rfl

end Views

/-! ### Records -/

section Records

variable {run : Metrics.TestRun} {primaryPhase id : String}

variable (run) in
/-- The records are the attempts of the run, in order. -/
lemma map_attempt_attemptRecords : (attemptRecords run).map (·.attempt) = run.attempts := by
  apply List.ext_getElem
  · simp [attemptRecords, run.length_resolvedAttemptPhases]
  · intro i _ _
    simp [attemptRecords]

lemma caseId_of_mem_attemptRecords {record : AttemptRecord} (h : record ∈ attemptRecords run) :
    record.caseId = benchmarkCaseId record.attempt := by
  obtain ⟨i, hi, rfl⟩ := List.getElem_of_mem h
  simp [attemptRecords]

variable (run primaryPhase id) in
/-- A case is summarised over its attempts among those of the primary phase. -/
lemma matchingAttempts_eq : matchingAttempts (attemptRecords run) primaryPhase id =
    group benchmarkCaseId id (aggregateAttempts (attemptRecords run) primaryPhase) := by
  rw [matchingAttempts, group, aggregateAttempts, primaryRecords, List.filter_map,
    List.filter_filter]
  refine congrArg _ (List.filter_congr fun record hrecord => ?_)
  rw [caseId_of_mem_attemptRecords hrecord]
  rfl

variable (run primaryPhase) in
/-- Where every attempt carries its phase, the primary attempts are those that carry it. -/
lemma aggregateAttempts_of_tagged (h : ∀ a ∈ run.attempts, a.phase.isSome) :
    aggregateAttempts (attemptRecords run) primaryPhase =
      run.attempts.filter fun a => a.phase.getD "" == primaryPhase := by
  have hrecords : attemptRecords run = run.attempts.map fun a =>
      ⟨a, benchmarkCaseId a, a.phase.getD "", run.benchmarkLaunchIndex.getD 0⟩ := by
    rw [attemptRecords, run.resolvedAttemptPhases_of_tagged h, List.zipWith_map_left,
      List.zipWith_self]
  rw [aggregateAttempts, primaryRecords, hrecords, List.filter_map, List.map_map]
  exact List.map_id _

variable (run primaryPhase) in
/-- The attempts of the primary phase are attempts of the run. -/
lemma aggregateAttempts_sublist :
    (aggregateAttempts (attemptRecords run) primaryPhase).Sublist run.attempts := by
  have h : (primaryRecords (attemptRecords run) primaryPhase).Sublist (attemptRecords run) :=
    List.filter_sublist
  have hmap := h.map (·.attempt)
  rwa [map_attempt_attemptRecords] at hmap

variable (run primaryPhase id) in
lemma matchingAttempts_sublist :
    (matchingAttempts (attemptRecords run) primaryPhase id).Sublist run.attempts := by
  rw [matchingAttempts_eq]
  exact List.filter_sublist.trans (aggregateAttempts_sublist run primaryPhase)

/-- At most the attempts that there are have a value. -/
lemma length_includedValues_le (attempts : List RequestAttempt) :
    (includedValues attempts).length ≤ attempts.length := by
  rw [includedValues, Float64.ascending, List.length_insertionSort]
  exact List.length_filterMap_le _ _

variable (primaryPhase) in
/-- A run of few attempts has an artifact, and nothing is scanned for it. -/
lemma artifactOf_of_few (fuel : ℕ) (scenario : String)
    (h : run.attempts.length < StatsShape.mvalueMinSamples) :
    (artifactOf fuel run primaryPhase scenario).isSome := by
  have hfew : ∀ attempts : List RequestAttempt, attempts.Sublist run.attempts →
      (StatsShape.mvalue fuel (includedValues attempts)).isSome := by
    intro attempts hsub
    have hle := length_includedValues_le attempts
    have hlength := hsub.length_le
    rw [StatsShape.mvalue_of_few (by omega)]
    rfl
  exact artifactOf_isSome scenario
    (fun case _ => hfew _ (matchingAttempts_sublist run primaryPhase case.id))
    (hfew _ (aggregateAttempts_sublist run primaryPhase))

/-- The cases are those of the attempts, each once. -/
lemma map_id_casesOf (attempts : List RequestAttempt) :
    (casesOf attempts).map (·.id) = keysOf benchmarkCaseId attempts := by
  have hfind : ∀ id ∈ keysOf benchmarkCaseId attempts,
      ((attempts.find? fun a => benchmarkCaseId a == id).map benchmarkCaseForAttempt).map
        (·.id) = some id := by
    intro id hid
    obtain ⟨a, ha, rfl⟩ := mem_keysOf.mp hid
    have hsome : (attempts.find? fun b => benchmarkCaseId b == benchmarkCaseId a).isSome := by
      rw [List.find?_isSome]
      exact ⟨a, ha, by simp⟩
    obtain ⟨b, hb⟩ := Option.isSome_iff_exists.mp hsome
    have hkey : benchmarkCaseId b = benchmarkCaseId a := by simpa using List.find?_some hb
    rw [hb, Option.map_some, Option.map_some, ← hkey]
    rfl
  rw [casesOf, List.map_filterMap]
  conv_rhs => rw [← List.filterMap_some (l := keysOf benchmarkCaseId attempts)]
  exact List.filterMap_congr hfind

end Records

/-! ### Summaries -/

section Summaries

variable {fuel : ℕ} {case : BenchmarkCase} {attempts : List RequestAttempt}
variable {summary : BenchmarkSummary}

/-- What a summary says of its attempts. -/
structure SummaryOf (case : BenchmarkCase) (attempts : List RequestAttempt)
    (summary : BenchmarkSummary) : Prop where
  case : summary.case = case
  sampleCount : summary.sampleCount = attempts.length
  includedSampleCount : summary.includedSampleCount = (includedValues attempts).length
  successCount : summary.successCount = attempts.countP (·.success)
  failureCount : summary.failureCount = attempts.countP fun a => !a.success
  cv : summary.cv = cv (includedValues attempts)
  ci95Lower : summary.ci95Lower = (bootstrapMedianInterval (includedValues attempts)).2.1
  ci95Upper : summary.ci95Upper = (bootstrapMedianInterval (includedValues attempts)).2.2
  relativeMarginOfError : summary.relativeMarginOfError =
    relativeMargin (percentileFromSorted (includedValues attempts) 50.0)
      summary.ci95Lower summary.ci95Upper

lemma benchmarkSummaryFromAttempts_eq_some
    (h : benchmarkSummaryFromAttempts fuel case attempts = some summary) :
    SummaryOf case attempts summary := by
  obtain ⟨mvalue, _, rfl⟩ := Option.map_eq_some_iff.mp h
  exact ⟨rfl, rfl, rfl, rfl, rfl, rfl, rfl, rfl, rfl⟩

/-- A published summary is one of a case, over its attempts in the primary phase. -/
lemma Made.summaryOf {run : Metrics.TestRun} {primaryPhase scenario : String} {artifact : Artifact}
    (h : Made fuel run primaryPhase scenario artifact) (hs : summary ∈ artifact.summaries) :
    ∃ case ∈ artifact.cases, SummaryOf case (group benchmarkCaseId case.id
      (aggregateAttempts (attemptRecords run) primaryPhase)) summary := by
  obtain ⟨case, hcase, hsummary⟩ := exists_of_forall₂ h.summaries hs
  rw [matchingAttempts_eq] at hsummary
  exact ⟨case, hcase, benchmarkSummaryFromAttempts_eq_some hsummary⟩

end Summaries

end BenchmarkArtifact

end Networker
