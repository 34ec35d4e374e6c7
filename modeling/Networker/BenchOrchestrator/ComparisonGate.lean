/-
When the comparisons of a benchmark run are gated on all their data.

* `Comparable`: two environments that can be compared;
* `notes_eq_nil_iff`, `Comparable.symm`: the code has no note on them, and the order of the two
  does not matter;
* `Representative`: the first results of two cases stand for all of them;
* `gated_iff`: a comparable comparison is of environments that can be compared, if and only if
  the first results are representative in every comparison.
-/
import Networker.BenchOrchestrator.Comparison
import Networker.Data.FloatDoubling

namespace Networker

open Data

namespace BenchOrchestrator

/-! ### Comparable environments -/

section Comparable

/-- Two values are the same where both are known. -/
def AgreeIfKnown {α : Type} (same : α → α → Bool) (a b : Option α) : Prop :=
  ∀ x ∈ a, ∀ y ∈ b, same x y = true

/-- Two values are known and the same. -/
def KnownAndAgree {α : Type} (same : α → α → Bool) (a b : Option α) : Prop :=
  ∃ x ∈ a, ∃ y ∈ b, same x y = true

/-- Two environments can be compared. -/
structure Comparable (a b : Fingerprint) : Prop where
  left : a.isEmpty = false
  right : b.isEmpty = false
  clientOs : AgreeIfKnown Text.eqIgnoreCase a.clientOs b.clientOs
  clientArch : AgreeIfKnown Text.eqIgnoreCase a.clientArch b.clientArch
  clientCpuCores : AgreeIfKnown (· == ·) a.clientCpuCores b.clientCpuCores
  clientRegion : AgreeIfKnown Text.eqIgnoreCase a.clientRegion b.clientRegion
  serverOs : AgreeIfKnown Text.eqIgnoreCase a.serverOs b.serverOs
  serverArch : AgreeIfKnown Text.eqIgnoreCase a.serverArch b.serverArch
  serverCpuCores : AgreeIfKnown (· == ·) a.serverCpuCores b.serverCpuCores
  serverRegion : AgreeIfKnown Text.eqIgnoreCase a.serverRegion b.serverRegion
  networkType : KnownAndAgree Text.eqIgnoreCase a.networkType b.networkType
  rttP50 : ∃ ratio ∈ materiallyDifferentRatio a.baselineRttP50Ms b.baselineRttP50Ms,
    ¬ maxComparableRttRatio < ratio
  rttP95 : ∀ ratio ∈ materiallyDifferentRatio a.baselineRttP95Ms b.baselineRttP95Ms,
    ¬ maxComparableRttRatio < ratio

variable {α : Type} {same : α → α → Bool} {a b : Option α}

lemma optionalMismatch_eq_nil {text : α → String} {label : String} :
    optionalMismatch same text label a b = [] ↔ AgreeIfKnown same a b := by
  rw [optionalMismatch.eq_def, AgreeIfKnown]
  cases a with
  | none => simp
  | some x =>
      cases b with
      | none => simp
      | some y => simp

lemma networkTypeNotes_eq_nil {a b : Option String} :
    networkTypeNotes a b = [] ↔ KnownAndAgree Text.eqIgnoreCase a b := by
  rw [networkTypeNotes.eq_def, KnownAndAgree]
  cases a with
  | none => simp
  | some x =>
      cases b with
      | none => simp
      | some y => simp

lemma rttNotes_eq_nil {percentile : String} {missing : List String} {a b : Option Float} :
    rttNotes percentile missing a b = [] ↔
      (materiallyDifferentRatio a b = none → missing = []) ∧
        ∀ ratio ∈ materiallyDifferentRatio a b, ¬ maxComparableRttRatio < ratio := by
  rw [rttNotes.eq_def]
  cases materiallyDifferentRatio a b with
  | none => simp
  | some ratio => simp

/-- **There is no note on two environments exactly if they can be compared.** -/
theorem notes_eq_nil_iff {a b : Fingerprint} :
    environmentComparabilityNotes a b = [] ↔ Comparable a b := by
  have hmissing : missingFingerprintNotes a b = [] ↔ a.isEmpty = false ∧ b.isEmpty = false := by
    simp [missingFingerprintNotes]
  have hsorted (notes : List String) :
      (notes.insertionSort (· ≤ ·)).dedup = [] ↔ notes = [] := by
    rw [List.dedup_eq_nil, ← List.length_eq_zero_iff, List.length_insertionSort,
      List.length_eq_zero_iff]
  have hp50 : (∃ ratio ∈ materiallyDifferentRatio a.baselineRttP50Ms b.baselineRttP50Ms,
      ¬ maxComparableRttRatio < ratio) ↔
        (∃ ratio, materiallyDifferentRatio a.baselineRttP50Ms b.baselineRttP50Ms = some ratio) ∧
          ∀ ratio ∈ materiallyDifferentRatio a.baselineRttP50Ms b.baselineRttP50Ms,
            ¬ maxComparableRttRatio < ratio := by
    cases materiallyDifferentRatio a.baselineRttP50Ms b.baselineRttP50Ms with
    | none => simp
    | some ratio => simp
  have hfields : fieldNotes a b = [] ∧ a.isEmpty = false ∧ b.isEmpty = false ↔
      Comparable a b := by
    simp only [fieldNotes, optionalStringMismatch, optionalNatMismatch, List.append_eq_nil_iff,
      optionalMismatch_eq_nil, networkTypeNotes_eq_nil, rttNotes_eq_nil, List.cons_ne_nil,
      imp_false, ← ne_eq, Option.ne_none_iff_exists', implies_true, true_and]
    rw [← hp50]
    simp only [and_assoc]
    constructor
    · rintro ⟨h1, h2, h3, h4, h5, h6, h7, h8, h9, h10, h11, hl, hr⟩
      exact ⟨hl, hr, h1, h2, h3, h4, h5, h6, h7, h8, h9, h10, h11⟩
    · rintro ⟨hl, hr, h1, h2, h3, h4, h5, h6, h7, h8, h9, h10, h11⟩
      exact ⟨h1, h2, h3, h4, h5, h6, h7, h8, h9, h10, h11, hl, hr⟩
  rw [← hfields, ← hmissing, environmentComparabilityNotes]
  cases hnotes : missingFingerprintNotes a b with
  | nil => simp [hsorted]
  | cons note notes => simp

/-! ### The order of two environments -/

lemma AgreeIfKnown.symm (hs : ∀ x y, same x y = same y x) (h : AgreeIfKnown same a b) :
    AgreeIfKnown same b a := fun y hy x hx => (hs y x).trans (h x hx y hy)

lemma KnownAndAgree.symm (hs : ∀ x y, same x y = same y x) (h : KnownAndAgree same a b) :
    KnownAndAgree same b a :=
  let ⟨x, hx, y, hy, hxy⟩ := h
  ⟨y, hy, x, hx, (hs y x).trans hxy⟩

lemma eqIgnoreCase_comm (x y : String) : Text.eqIgnoreCase x y = Text.eqIgnoreCase y x :=
  BEq.comm

/-- Whether two times differ too much does not depend on their order. -/
lemma materiallyDifferentRatio_comm (a b : Option Float) :
    (materiallyDifferentRatio a b).map (fun ratio => decide (maxComparableRttRatio < ratio)) =
      (materiallyDifferentRatio b a).map fun ratio => decide (maxComparableRttRatio < ratio) := by
  have hepsilon : 0.0 < Float64.epsilon := by decide
  cases a with
  | none => cases b <;> rfl
  | some x =>
      cases b with
      | none => rfl
      | some y =>
          rw [materiallyDifferentRatio, materiallyDifferentRatio]
          by_cases hx : x ≤ Float64.epsilon
          · rw [if_pos (Or.inl hx), if_pos (Or.inr hx)]
          · by_cases hy : y ≤ Float64.epsilon
            · rw [if_pos (Or.inr hy), if_pos (Or.inl hy)]
            · rw [if_neg (not_or.mpr ⟨hx, hy⟩), if_neg (not_or.mpr ⟨hy, hx⟩)]
              simp only [Option.map_some, Float64.lt_iff, Float64.order,
                Float64.ratio_comm hepsilon hx hy]

/-- **Two environments can be compared in either order.** -/
theorem Comparable.symm {a b : Fingerprint} (h : Comparable a b) : Comparable b a := by
  have hsame (x y : ℕ) : (x == y) = (y == x) := BEq.comm
  have hp50 (c d : Option Float) :
      (∃ ratio ∈ materiallyDifferentRatio c d, ¬ maxComparableRttRatio < ratio) ↔
        (materiallyDifferentRatio c d).map
          (fun ratio => decide (maxComparableRttRatio < ratio)) = some false := by
    simp
  have hp95 (c d : Option Float) :
      (∀ ratio ∈ materiallyDifferentRatio c d, ¬ maxComparableRttRatio < ratio) ↔
        (materiallyDifferentRatio c d).map
          (fun ratio => decide (maxComparableRttRatio < ratio)) ≠ some true := by
    simp
  exact
    { left := h.right
      right := h.left
      clientOs := h.clientOs.symm eqIgnoreCase_comm
      clientArch := h.clientArch.symm eqIgnoreCase_comm
      clientCpuCores := h.clientCpuCores.symm hsame
      clientRegion := h.clientRegion.symm eqIgnoreCase_comm
      serverOs := h.serverOs.symm eqIgnoreCase_comm
      serverArch := h.serverArch.symm eqIgnoreCase_comm
      serverCpuCores := h.serverCpuCores.symm hsame
      serverRegion := h.serverRegion.symm eqIgnoreCase_comm
      networkType := h.networkType.symm eqIgnoreCase_comm
      rttP50 := (hp50 _ _).mpr (materiallyDifferentRatio_comm _ _ ▸ (hp50 _ _).mp h.rttP50)
      rttP95 := (hp95 _ _).mpr (materiallyDifferentRatio_comm _ _ ▸ (hp95 _ _).mp h.rttP95) }

end Comparable

/-! ### The gate -/

section Gate

variable {run : BenchmarkRun} {candidates baselines : List BenchmarkResult}

/-- The results of two scenarios have environments that can be compared, each with each. -/
def AllComparable (candidates baselines : List BenchmarkResult) : Prop :=
  ∀ scenario ∈ ["warm", "cold"],
    ∀ candidate ∈ scenarioResults candidates scenario,
      ∀ baseline ∈ scenarioResults baselines scenario,
        Comparable candidate.environment baseline.environment

/-- The environments of the first results can be compared. -/
def FirstComparable (candidates baselines : List BenchmarkResult) : Prop :=
  ∃ candidate ∈ candidates.head?, ∃ baseline ∈ baselines.head?,
    Comparable candidate.environment baseline.environment

/-- The first results of two cases stand for all that are summarised. -/
def Representative (candidates baselines : List BenchmarkResult) : Prop :=
  FirstComparable candidates baselines → AllComparable candidates baselines

/-- The pairs of results behind every comparable comparison have no note. -/
def Gated (run : BenchmarkRun) : Prop :=
  ∀ comparison ∈ comparisonsOf run, comparison.comparable = true →
    ∀ baseline ∈ run.baseline,
      ∀ base ∈ baselineFor (summariseResults run.results) baseline comparison.concurrency,
        ∀ scenario ∈ ["warm", "cold"],
          ∀ c ∈ scenarioResults (groupOf run.results comparison.key) scenario,
            ∀ b ∈ scenarioResults (groupOf run.results base.key) scenario,
              environmentComparabilityNotes c.environment b.environment = []

lemma firstNotes_eq_nil :
    firstNotes candidates baselines = [] ↔ FirstComparable candidates baselines := by
  rw [firstNotes.eq_def, FirstComparable]
  cases candidates.head? with
  | none => simp
  | some candidate =>
      cases baselines.head? with
      | none => simp
      | some baseline => simp [notes_eq_nil_iff]

/-- The comparison of two cases looks at their first results. -/
lemma comparable_compareCases {summary base : CaseSummary} :
    (compareCases summary base candidates baselines).comparable = true ↔
      FirstComparable candidates baselines := by
  rw [compareCases, List.isEmpty_iff, firstNotes_eq_nil]

/-- A comparison that is not comparable has no ratio and no verdict. -/
lemma compareCases_of_not_comparable {summary base : CaseSummary}
    (h : ¬ FirstComparable candidates baselines) :
    (compareCases summary base candidates baselines).warm = none ∧
      (compareCases summary base candidates baselines).cold = none := by
  rw [← firstNotes_eq_nil, ← List.isEmpty_iff] at h
  exact ⟨if_neg h, if_neg h⟩

/-- Results of one environment each are represented by the first ones. -/
lemma representative_of_one_environment {a b : Fingerprint}
    (ha : ∀ r ∈ candidates, r.environment = a) (hb : ∀ r ∈ baselines, r.environment = b) :
    Representative candidates baselines := by
  rintro ⟨candidate, hcandidate, baseline, hbaseline, hfirst⟩ scenario - c hc d hd
  rw [ha candidate (List.mem_of_mem_head? hcandidate),
    hb baseline (List.mem_of_mem_head? hbaseline)] at hfirst
  rw [ha c (mem_scenarioResults.mp hc).1, hb d (mem_scenarioResults.mp hd).1]
  exact hfirst

lemma gated_iff (run : BenchmarkRun) :
    Gated run ↔
      ∀ baseline ∈ run.baseline, ∀ key, groupOf run.results key ≠ [] →
        caseKeyMatchesBaseline key baseline = false →
          ∀ base ∈ baselineFor (summariseResults run.results) baseline key.concurrency,
            Representative (groupOf run.results key) (groupOf run.results base.key) := by
  constructor
  · intro h baseline hbaseline key hkey hout base hbase hfirst scenario hscenario c hc b hb
    -- the comparison of the case with its baseline
    have hmem : compareCases (summariseCase key (groupOf run.results key)) base
        (groupOf run.results key) (groupOf run.results base.key) ∈ comparisonsOf run := by
      rw [comparisonsOf, hbaseline]
      exact mem_buildComparisons.mpr
        ⟨_, mem_summariseResults.mpr ⟨key, hkey, rfl⟩, hout, base, hbase, rfl⟩
    rw [← notes_eq_nil_iff]
    exact h _ hmem (comparable_compareCases.mpr hfirst) baseline hbaseline base hbase scenario
      hscenario c hc b hb
  · intro h comparison hcomparison hcomparable baseline hbaseline base hbase
    rw [comparisonsOf, hbaseline] at hcomparison
    obtain ⟨summary, hsummary, hout, base', hbase', rfl⟩ := mem_buildComparisons.mp hcomparison
    obtain rfl : base' = base := Option.some.inj (hbase'.symm.trans hbase)
    have hall : AllComparable (groupOf run.results summary.key)
        (groupOf run.results base'.key) :=
      h baseline hbaseline summary.key (groupOf_ne_nil hsummary) hout base' hbase
        (comparable_compareCases.mp hcomparable)
    intro scenario hscenario c hc b hb
    exact notes_eq_nil_iff.mpr (hall scenario hscenario c hc b hb)

/-- **The comparisons of a run are gated on all their data exactly if the first results are
representative in every case that is compared.** -/
theorem comparisonsOf_gated (run : BenchmarkRun) :
    (Gated run ∧
      ∀ a b, environmentComparabilityNotes a b = [] ↔ environmentComparabilityNotes b a = []) ↔
      ∀ baseline ∈ run.baseline, ∀ key, groupOf run.results key ≠ [] →
        caseKeyMatchesBaseline key baseline = false →
          ∀ base ∈ baselineFor (summariseResults run.results) baseline key.concurrency,
            Representative (groupOf run.results key) (groupOf run.results base.key) := by
  have hsymm (a b : Fingerprint) :
      environmentComparabilityNotes a b = [] ↔ environmentComparabilityNotes b a = [] := by
    rw [notes_eq_nil_iff, notes_eq_nil_iff]
    exact ⟨Comparable.symm, Comparable.symm⟩
  rw [gated_iff]
  exact and_iff_left hsymm

/-! ### A rerun in another region -/

/-- The environment of a launch in a region. -/
def launchIn (serverRegion : String) : Fingerprint :=
  { serverRegion, networkType := "LAN", baselineRttP50Ms := some 1.0 }

/-- A launch of a language in a region. -/
def launch (language serverRegion : String) (repeatIndex : ℕ) : BenchmarkResult :=
  { language, runtime := "", concurrency := 10, repeatIndex, scenario := "warm"
    environment := launchIn serverRegion }

/-- The second launch of a case is in another region than its baseline. -/
def movedRun : BenchmarkRun :=
  { baseline := some { language := "rust", runtime := none }
    results := [launch "rust" "eastus" 0, launch "go" "eastus" 0, launch "go" "westus" 1] }

/-- A comparison stays comparable when a later launch has moved. -/
theorem movedRun_not_gated : ¬ Gated movedRun := by
  intro hgated
  have hgo : groupOf movedRun.results (.of "go" "" 10) =
      [launch "go" "eastus" 0, launch "go" "westus" 1] := rfl
  have hrust : groupOf movedRun.results (.of "rust" "" 10) = [launch "rust" "eastus" 0] := rfl
  -- the baseline of the case is the only one there is
  obtain ⟨base, hbase⟩ : ∃ base, baselineFor (summariseResults movedRun.results)
      { language := "rust", runtime := none } 10 = some base := by
    rw [← Option.isSome_iff_exists, baselineFor, List.find?_isSome]
    refine ⟨_, mem_summariseResults.mpr ⟨.of "rust" "" 10, ?_, rfl⟩, rfl⟩
    simp [hrust]
  have hkey : base.key = .of "rust" "" 10 := by
    obtain ⟨hmem, hconcurrency, hmatches⟩ := baselineFor_spec hbase
    obtain ⟨key, hne, rfl⟩ := mem_summariseResults.mp hmem
    rw [key_summariseCase] at hmatches ⊢
    obtain ⟨r, hr⟩ := List.exists_mem_of_ne_nil _ hne
    obtain ⟨hresult, rfl⟩ := mem_groupOf.mp hr
    simp only [movedRun, List.mem_cons, List.not_mem_nil, or_false] at hresult
    rcases hresult with rfl | rfl | rfl
    · rfl
    · exact absurd hmatches (by decide)
    · exact absurd hmatches (by decide)
  have hall := (gated_iff movedRun).mp hgated _ rfl (.of "go" "" 10) (by simp [hgo]) rfl base hbase
  rw [hgo, hkey, hrust] at hall
  have hfirst : FirstComparable [launch "go" "eastus" 0, launch "go" "westus" 1]
      [launch "rust" "eastus" 0] := by
    rw [← firstNotes_eq_nil]
    decide
  have hmoved : Comparable (launchIn "westus") (launchIn "eastus") :=
    hall hfirst "warm" (by simp)
      (launch "go" "westus" 1) (by simp [scenarioResults, launch, resultScenario])
      (launch "rust" "eastus" 0) (by simp [scenarioResults, launch, resultScenario])
  exact absurd (hmoved.serverRegion "westus" rfl "eastus" rfl) (by decide)

end Gate

end BenchOrchestrator

end Networker
