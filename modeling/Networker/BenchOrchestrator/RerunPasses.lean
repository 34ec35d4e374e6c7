/-
One pass of automatic reruns, case by case.

* `caseTarget`, `mem_collectAutoRerunTargets`: there is a target for a case with results exactly if
  the case itself asks for one, and no two targets are of one case (`collect_nodup`);
* `Untouched`, `RunAgain`: what a pass does to a case, by whether it is a target (`pass_untouched`,
  `pass_runAgain`);
* `Settled`: a case `k` of whose reruns were scheduled, under the indices behind those of the
  matrix; `Settled.nextRepeatIndex`, `Settled.runAgain`: the next index is the next one behind, and
  a rerun under it keeps the case settled;
* `rerunLoop_induct`: what every pass preserves holds at the end of the loop;
* `rerunLoop_ends`: the loop over settled cases ends.
-/
import Networker.BenchOrchestrator.AutoRerun

namespace Networker

open Data

namespace BenchOrchestrator

variable {settings : AutoRerunSettings} {run run' final : BenchmarkRun} {key : CaseKey}
  {n k fuel : ℕ}
  {lang : Deployed} {rerun : ℕ → Option Measurement} {language runtime : String}

/-! ### The targets of a pass -/

/-- The results of a case give no reason to run it again. -/
def MeetsTargets (settings : AutoRerunSettings) (results : List BenchmarkResult) (key : CaseKey) :
    Prop :=
  rerunReasons settings (summariseCase key results) = []

/-- The rerun that the results and the reruns of a case ask for. -/
def caseTarget (settings : AutoRerunSettings) (n : ℕ) (run : BenchmarkRun) (key : CaseKey) :
    Option AutoRerunTarget :=
  rerunTarget settings run.scheduledReruns n (summariseCase key (groupOf run.results key))

lemma caseTarget_eq_some {target : AutoRerunTarget} :
    caseTarget settings n run key = some target ↔
      ¬ MeetsTargets settings (groupOf run.results key) key ∧
        nextRepeatIndex run.scheduledReruns n (summariseCase key (groupOf run.results key)) - n <
          settings.maxAdditionalRepeats ∧
        target =
          { concurrency := key.concurrency
            repeatIndex :=
              nextRepeatIndex run.scheduledReruns n (summariseCase key (groupOf run.results key))
            reasons := rerunReasons settings (summariseCase key (groupOf run.results key)) } := by
  rw [caseTarget, rerunTarget, MeetsTargets, ← List.isEmpty_iff]
  split
  · rename_i hmeets
    exact iff_of_false (by simp) fun h => h.1 hmeets
  · rename_i hreasons
    split
    · rename_i hused
      exact iff_of_false (by simp) fun h => absurd h.2.1 (by omega)
    · rename_i hleft
      rw [Option.some_inj, eq_comm]
      exact ⟨fun h => ⟨hreasons, by omega, h⟩, fun h => h.2.2⟩

lemma groupOf_filter (results : List BenchmarkResult) :
    groupOf (results.filter fun r => r.language = language ∧ r.runtime = runtime) key =
      if key.language = language ∧ key.runtime = runtime then groupOf results key else [] := by
  rw [groupOf, group, List.filter_filter]
  split_ifs with hkey
  · refine List.filter_congr fun r _ => ?_
    by_cases hr : r.key = key
    · obtain ⟨hl, hrt, -⟩ := CaseKey.ext_iff.mp hr
      have hof : r.language = language ∧ r.runtime = runtime := ⟨hl.trans hkey.1, hrt.trans hkey.2⟩
      simp [hr, hof]
    · simp [hr]
  · rw [List.filter_eq_nil_iff]
    intro r _ hr
    obtain ⟨hr, hof⟩ : r.key = key ∧ r.language = language ∧ r.runtime = runtime := by
      simpa using hr
    obtain ⟨hl, hrt, -⟩ := CaseKey.ext_iff.mp hr
    exact hkey ⟨hl.symm.trans hof.1, hrt.symm.trans hof.2⟩

/-- There is a target for a case with results if the case asks for one. -/
lemma mem_collectAutoRerunTargets {target : AutoRerunTarget} :
    target ∈ collectAutoRerunTargets run language runtime n settings ↔
      ∃ c, groupOf run.results (.of language runtime c) ≠ [] ∧
        caseTarget settings n run (.of language runtime c) = some target := by
  rw [collectAutoRerunTargets, List.mem_insertionSort, List.mem_filterMap]
  simp only [mem_summariseResults, groupOf_filter]
  refine ⟨?_, ?_⟩
  · rintro ⟨_, ⟨key, hne, rfl⟩, htarget⟩
    split_ifs at hne htarget with hkey
    · obtain ⟨c, rfl⟩ : ∃ c, key = .of language runtime c :=
        ⟨key.concurrency, CaseKey.ext_iff.mpr ⟨hkey.1, hkey.2, rfl⟩⟩
      exact ⟨c, hne, htarget⟩
    · exact absurd rfl hne
  · rintro ⟨c, hne, htarget⟩
    refine ⟨_, ⟨.of language runtime c, ?_, rfl⟩, ?_⟩
    · rwa [if_pos ⟨rfl, rfl⟩]
    · rwa [if_pos ⟨rfl, rfl⟩]

lemma concurrency_of_caseTarget {target : AutoRerunTarget}
    (h : caseTarget settings n run key = some target) : target.concurrency = key.concurrency := by
  obtain ⟨-, -, rfl⟩ := caseTarget_eq_some.mp h
  rfl

/-- No two targets are of one case. -/
lemma collect_nodup :
    ((collectAutoRerunTargets run language runtime n settings).map (·.concurrency)).Nodup := by
  rw [collectAutoRerunTargets, ((List.perm_insertionSort _ _).map _).nodup_iff, List.Nodup,
    List.pairwise_map, List.pairwise_filterMap]
  refine (summariseResults_pairwise _).imp_of_mem fun {a b} ha hb hne s hs t ht hst => ?_
  have hof : ∀ {summary : CaseSummary} {target : AutoRerunTarget},
      summary ∈ summariseResults (run.results.filter fun r =>
        r.language = language ∧ r.runtime = runtime) →
      rerunTarget settings run.scheduledReruns n summary = some target →
      summary.key = .of language runtime target.concurrency := by
    intro summary target hmem htarget
    obtain ⟨key, hkey, rfl⟩ := mem_summariseResults.mp hmem
    rw [groupOf_filter] at hkey htarget
    split_ifs at hkey htarget with hlang
    · rw [key_summariseCase, concurrency_of_caseTarget htarget]
      exact CaseKey.ext_iff.mpr ⟨hlang.1, hlang.2, rfl⟩
    · exact absurd rfl hkey
  exact hne ((hof ha hs).trans (hst ▸ (hof hb ht).symm))

/-! ### What a pass does to a case -/

/-- The results and the reruns of the case are as they were. -/
def Untouched (run run' : BenchmarkRun) (key : CaseKey) : Prop :=
  groupOf run'.results key = groupOf run.results key ∧
    rerunIndices run'.scheduledReruns key = rerunIndices run.scheduledReruns key

/-- The case was run once more, under an index. -/
def RunAgain (run run' : BenchmarkRun) (key : CaseKey) (index : ℕ) : Prop :=
  rerunIndices run'.scheduledReruns key = rerunIndices run.scheduledReruns key ++ [index] ∧
    ∃ extra, groupOf run'.results key = groupOf run.results key ++ extra ∧
      ∀ r ∈ extra, r.repeatIndex = index ∧ (resultScenario r = "warm" ∨ resultScenario r = "cold")

lemma Untouched.refl (run : BenchmarkRun) (key : CaseKey) : Untouched run run key := ⟨rfl, rfl⟩

lemma Untouched.trans {run'' : BenchmarkRun} (h : Untouched run run' key)
    (h' : Untouched run' run'' key) : Untouched run run'' key :=
  ⟨h'.1.trans h.1, h'.2.trans h.2⟩

lemma Untouched.caseTarget (h : Untouched run run' key) :
    caseTarget settings n run' key = BenchOrchestrator.caseTarget settings n run key := by
  have hnext : nextRepeatIndex run'.scheduledReruns n
      (summariseCase key (groupOf run.results key)) =
      nextRepeatIndex run.scheduledReruns n (summariseCase key (groupOf run.results key)) := by
    rw [nextRepeatIndex, nextRepeatIndex, key_summariseCase, h.2]
  rw [BenchOrchestrator.caseTarget, BenchOrchestrator.caseTarget, h.1, rerunTarget, rerunTarget,
    hnext]

/-- The results of a cycle are of its case, its index and the two scenarios. -/
lemma mem_cycleResults {m : Measurement} {c index : ℕ} {r : BenchmarkResult}
    (hr : r ∈ cycleResults lang m c index) :
    r.key = .of lang.name lang.runtime c ∧ r.repeatIndex = index ∧
      (resultScenario r = "warm" ∨ resultScenario r = "cold") := by
  rw [cycleResults, List.mem_cons, List.mem_singleton] at hr
  rcases hr with rfl | rfl
  · exact ⟨rfl, rfl, Or.inr rfl⟩
  · exact ⟨rfl, rfl, Or.inl rfl⟩

lemma groupOf_append (rs rs' : List BenchmarkResult) :
    groupOf (rs ++ rs') key = groupOf rs key ++ groupOf rs' key := group_append key

/-- The results of a cycle, seen from a case. -/
lemma groupOf_cycleResults {m : Measurement} {c index : ℕ} :
    groupOf (cycleResults lang m c index) key =
      if CaseKey.of lang.name lang.runtime c = key then cycleResults lang m c index else [] := by
  split_ifs with hkey
  · exact List.filter_eq_self.mpr fun r hr => by simpa using (mem_cycleResults hr).1.trans hkey
  · refine List.filter_eq_nil_iff.mpr fun r hr => ?_
    rw [(mem_cycleResults hr).1]
    simpa using hkey

lemma rerunIndices_append (reruns reruns' : List ScheduledRerun) :
    rerunIndices (reruns ++ reruns') key = rerunIndices reruns key ++ rerunIndices reruns' key := by
  rw [rerunIndices, List.filter_append, List.map_append]
  rfl

/-- A cycle of another case. -/
lemma runCaseCycle_untouched {outcome : Option Measurement} {c index : ℕ}
    (hkey : CaseKey.of lang.name lang.runtime c ≠ key) :
    Untouched run (runCaseCycle lang outcome c index run) key := by
  cases outcome with
  | none => exact Untouched.refl run key
  | some m =>
      refine ⟨?_, rfl⟩
      rw [runCaseCycle, groupOf_append, groupOf_cycleResults, if_neg hkey, List.append_nil]

variable (lang run key) in
lemma rerunIndices_scheduleRerun (target : AutoRerunTarget) :
    rerunIndices (scheduleRerun lang target run).scheduledReruns key =
      rerunIndices run.scheduledReruns key ++
        if CaseKey.of lang.name lang.runtime target.concurrency = key then [target.repeatIndex]
        else [] := by
  rw [scheduleRerun, rerunIndices_append]
  congr 1
  rw [rerunIndices, List.filter_singleton]
  split_ifs with hkey <;> simp_all [ScheduledRerun.key]

lemma runTarget_untouched {target : AutoRerunTarget}
    (hkey : CaseKey.of lang.name lang.runtime target.concurrency ≠ key) :
    Untouched run (runTarget lang rerun run target) key := by
  have hscheduled : Untouched run (scheduleRerun lang target run) key := by
    refine ⟨rfl, ?_⟩
    rw [rerunIndices_scheduleRerun, if_neg hkey, List.append_nil]
  exact hscheduled.trans (runCaseCycle_untouched hkey)

lemma runTarget_runAgain {target : AutoRerunTarget}
    (hkey : CaseKey.of lang.name lang.runtime target.concurrency = key) :
    RunAgain run (runTarget lang rerun run target) key target.repeatIndex := by
  have hindices := rerunIndices_scheduleRerun run key lang target
  rw [if_pos hkey] at hindices
  rw [runTarget]
  cases rerun run.scheduledReruns.length with
  | none => exact ⟨hindices, [], (List.append_nil _).symm, fun r hr => absurd hr (by simp)⟩
  | some m =>
      refine ⟨hindices, cycleResults lang m target.concurrency target.repeatIndex, ?_, ?_⟩
      · rw [runCaseCycle, groupOf_append, groupOf_cycleResults, if_pos hkey]
        rfl
      · exact fun r hr => (mem_cycleResults hr).2

/-- A case that is no target of a pass. -/
lemma pass_untouched {targets : List AutoRerunTarget}
    (hkey : ∀ t ∈ targets, CaseKey.of lang.name lang.runtime t.concurrency ≠ key) :
    Untouched run (targets.foldl (runTarget lang rerun) run) key := by
  induction targets generalizing run with
  | nil => exact Untouched.refl run key
  | cons t targets ih =>
      have ht : Untouched run (runTarget lang rerun run t) key :=
        runTarget_untouched (hkey t List.mem_cons_self)
      exact ht.trans (ih fun t' ht' => hkey t' (List.mem_cons_of_mem t ht'))

lemma RunAgain.untouched_left {run'' : BenchmarkRun} {index : ℕ} (h : Untouched run run' key)
    (h' : RunAgain run' run'' key index) : RunAgain run run'' key index := by
  rwa [RunAgain, h.1, h.2] at h'

lemma RunAgain.untouched_right {run'' : BenchmarkRun} {index : ℕ} (h : RunAgain run run' key index)
    (h' : Untouched run' run'' key) : RunAgain run run'' key index := by
  rwa [RunAgain, h'.1, h'.2]

/-- A case that is a target of a pass is run again once. -/
lemma pass_runAgain {targets : List AutoRerunTarget} {target : AutoRerunTarget}
    (hnodup : (targets.map (·.concurrency)).Nodup) (hmem : target ∈ targets)
    (hkey : CaseKey.of lang.name lang.runtime target.concurrency = key) :
    RunAgain run (targets.foldl (runTarget lang rerun) run) key target.repeatIndex := by
  induction targets generalizing run with
  | nil => exact absurd hmem (List.not_mem_nil)
  | cons t targets ih =>
      rw [List.map_cons, List.nodup_cons, List.mem_map] at hnodup
      have hother : ∀ t' ∈ targets, t'.concurrency ≠ t.concurrency := fun t' ht' hsame =>
        hnodup.1 ⟨t', ht', hsame⟩
      rcases List.mem_cons.mp hmem with rfl | hmem
      · refine (runTarget_runAgain hkey).untouched_right (pass_untouched fun t' ht' hsame => ?_)
        exact hother t' ht' (CaseKey.ext_iff.mp (hsame.trans hkey.symm)).2.2
      · refine RunAgain.untouched_left (runTarget_untouched fun hsame => ?_) (ih hnodup.2 hmem)
        exact hother target hmem (CaseKey.ext_iff.mp (hkey.trans hsame.symm)).2.2

/-! ### The next index -/

/-- The case has results or a rerun under the index. -/
def Used (run : BenchmarkRun) (key : CaseKey) (index : ℕ) : Prop :=
  (∃ r ∈ groupOf run.results key,
      (resultScenario r = "warm" ∨ resultScenario r = "cold") ∧ r.repeatIndex = index) ∨
    index ∈ rerunIndices run.scheduledReruns key

lemma mem_repeatIndices_summariseScenario {results : List BenchmarkResult} {scenario : String}
    {index : ℕ} :
    (∃ s ∈ (summariseScenario (scenarioResults results scenario) scenario).toList,
        index ∈ s.repeatIndices) ↔
      ∃ r ∈ results, resultScenario r = scenario ∧ r.repeatIndex = index := by
  have hindices : index ∈ repeatIndicesOf (scenarioResults results scenario) ↔
      ∃ r ∈ results, resultScenario r = scenario ∧ r.repeatIndex = index := by
    rw [mem_repeatIndicesOf]
    simp only [mem_scenarioResults, and_assoc]
  rw [← hindices, summariseScenario]
  split_ifs with hnil
  · rw [List.isEmpty_iff] at hnil
    rw [hnil]
    simp [repeatIndicesOf]
  · simp

/-- **The next index is one more than the largest one that is used.** -/
lemma exists_largest {i : ℕ} (hi : Used run key i) :
    ∃ m, Used run key m ∧ (∀ j, Used run key j → j ≤ m) ∧
      nextRepeatIndex run.scheduledReruns n (summariseCase key (groupOf run.results key)) =
        (m + 1) % 2 ^ 32 := by
  have hmem : ∀ index, index ∈
      ((summariseCase key (groupOf run.results key)).warm.toList ++
        (summariseCase key (groupOf run.results key)).cold.toList).flatMap (·.repeatIndices) ++
        rerunIndices run.scheduledReruns key ↔ Used run key index := by
    intro index
    rw [List.mem_append, List.mem_flatMap, Used]
    refine or_congr ?_ Iff.rfl
    simp only [List.mem_append, or_and_right, exists_or, and_or_left]
    exact or_congr mem_repeatIndices_summariseScenario mem_repeatIndices_summariseScenario
  rw [nextRepeatIndex, key_summariseCase]
  split
  · rename_i m hmax
    obtain ⟨hm, hle⟩ := List.max?_eq_some_iff.mp hmax
    exact ⟨m, (hmem m).mp hm, fun j hj => hle j ((hmem j).mpr hj), rfl⟩
  · rename_i hnone
    rw [List.max?_eq_none_iff] at hnone
    exact absurd ((hmem i).mpr hi) (hnone ▸ List.not_mem_nil)

lemma nextRepeatIndex_eq {m : ℕ} (hm : Used run key m) (hmax : ∀ i, Used run key i → i ≤ m) :
    nextRepeatIndex run.scheduledReruns n (summariseCase key (groupOf run.results key)) =
      (m + 1) % 2 ^ 32 := by
  obtain ⟨m', hm', hmax', hnext⟩ := exists_largest (n := n) hm
  rw [hnext, le_antisymm (hmax m' hm') (hmax' m hm)]

/-! ### Settled cases -/

/-- A case `k` of whose reruns were scheduled, under the indices behind those of the matrix: its
results are of indices so far, and where it has a reason to be run again the last index of the
matrix has a result. -/
structure Settled (settings : AutoRerunSettings) (n : ℕ) (run : BenchmarkRun) (key : CaseKey)
    (k : ℕ) : Prop where
  reruns : rerunIndices run.scheduledReruns key = List.range' n k
  within : ∀ r ∈ groupOf run.results key,
    r.repeatIndex < n + k ∧ (resultScenario r = "warm" ∨ resultScenario r = "cold")
  bounded : k ≤ settings.maxAdditionalRepeats
  ready : groupOf run.results key = [] ∨ MeetsTargets settings (groupOf run.results key) key ∨
    n + settings.maxAdditionalRepeats < 2 ^ 32 ∧
      (0 < k ∨ ∃ r ∈ groupOf run.results key, r.repeatIndex + 1 = n)

/-- The next index of a settled case is the one behind. -/
lemma Settled.nextRepeatIndex (h : Settled settings n run key k)
    (hne : groupOf run.results key ≠ []) (hreasons : ¬ MeetsTargets settings (groupOf run.results key) key) :
    BenchOrchestrator.nextRepeatIndex run.scheduledReruns n
      (summariseCase key (groupOf run.results key)) = n + k := by
  obtain ⟨hbits, hlast⟩ := (h.ready.resolve_left hne).resolve_left hreasons
  have hbounded := h.bounded
  have hmax : ∀ i, Used run key i → i ≤ n + k - 1 := by
    rintro i (⟨r, hr, -, rfl⟩ | hi)
    · have hlt := (h.within r hr).1
      omega
    · rw [h.reruns, List.mem_range'_1] at hi
      omega
  have hused : Used run key (n + k - 1) := by
    rcases Nat.eq_zero_or_pos k with rfl | hpos
    · obtain ⟨r, hr, hindex⟩ := hlast.resolve_left (Nat.lt_irrefl 0)
      exact Or.inl ⟨r, hr, (h.within r hr).2, by omega⟩
    · refine Or.inr ?_
      rw [h.reruns, List.mem_range'_1]
      omega
  have hpos : 0 < n + k := by
    rcases hlast with hpos | ⟨r, -, hindex⟩ <;> omega
  rw [nextRepeatIndex_eq hused hmax, show n + k - 1 + 1 = n + k by omega,
    Nat.mod_eq_of_lt (by omega)]

/-- What a settled case is run again with. -/
lemma Settled.target {target : AutoRerunTarget} (h : Settled settings n run key k)
    (hne : groupOf run.results key ≠ []) (htarget : caseTarget settings n run key = some target) :
    target.repeatIndex = n + k ∧ k < settings.maxAdditionalRepeats ∧
      n + settings.maxAdditionalRepeats < 2 ^ 32 := by
  obtain ⟨hreasons, hleft, rfl⟩ := caseTarget_eq_some.mp htarget
  have hnext := h.nextRepeatIndex hne hreasons
  rw [hnext] at hleft
  exact ⟨hnext, by omega, ((h.ready.resolve_left hne).resolve_left hreasons).1⟩

lemma Settled.untouched (h : Settled settings n run key k) (h' : Untouched run run' key) :
    Settled settings n run' key k where
  reruns := h'.2.trans h.reruns
  within := by rw [h'.1]; exact h.within
  bounded := h.bounded
  ready := by rw [h'.1]; exact h.ready

/-- A rerun under the next index keeps the case settled. -/
lemma Settled.runAgain (h : Settled settings n run key k) (h' : RunAgain run run' key (n + k))
    (hk : k < settings.maxAdditionalRepeats)
    (hbits : n + settings.maxAdditionalRepeats < 2 ^ 32) :
    Settled settings n run' key (k + 1) := by
  obtain ⟨hreruns, extra, hresults, hextra⟩ := h'
  refine ⟨?_, fun r hr => ?_, hk, Or.inr (Or.inr ⟨hbits, Or.inl k.succ_pos⟩)⟩
  · rw [hreruns, h.reruns, List.range'_concat, Nat.one_mul]
  · rw [hresults, List.mem_append] at hr
    rcases hr with hr | hr
    · obtain ⟨hlt, hscenario⟩ := h.within r hr
      exact ⟨by omega, hscenario⟩
    · obtain ⟨hindex, hscenario⟩ := hextra r hr
      exact ⟨by omega, hscenario⟩

/-! ### The loop -/

/-- The case of the language at a level. -/
def Deployed.caseOf (lang : Deployed) (c : ℕ) : CaseKey := .of lang.name lang.runtime c

/-- A case of the language that has results asks for no rerun. -/
def Quiet (settings : AutoRerunSettings) (n : ℕ) (lang : Deployed) (run : BenchmarkRun) : Prop :=
  ∀ c, groupOf run.results (lang.caseOf c) ≠ [] → caseTarget settings n run (lang.caseOf c) = none

lemma collect_eq_nil_iff :
    collectAutoRerunTargets run lang.name lang.runtime n settings = [] ↔
      Quiet settings n lang run := by
  rw [List.eq_nil_iff_forall_not_mem]
  simp only [mem_collectAutoRerunTargets]
  refine ⟨fun h c hne => ?_, fun h target => ?_⟩
  · refine Option.eq_none_iff_forall_ne_some.mpr fun target htarget => ?_
    exact h target ⟨c, hne, htarget⟩
  · rintro ⟨c, hne, htarget⟩
    exact absurd htarget (by rw [show CaseKey.of _ _ c = lang.caseOf c from rfl, h c hne]; simp)

/-- One pass of the loop: the targets, one after the other. -/
def rerunPass (lang : Deployed) (n : ℕ) (settings : AutoRerunSettings)
    (rerun : ℕ → Option Measurement) (run : BenchmarkRun) : BenchmarkRun :=
  (collectAutoRerunTargets run lang.name lang.runtime n settings).foldl (runTarget lang rerun) run

/-- What a pass does to the cases of its language. -/
lemma rerunPass_cases (lang : Deployed) (n : ℕ) (settings : AutoRerunSettings)
    (rerun : ℕ → Option Measurement) (run : BenchmarkRun) (c : ℕ) :
    (groupOf run.results (lang.caseOf c) ≠ [] ∧ ∃ target,
        caseTarget settings n run (lang.caseOf c) = some target ∧
        RunAgain run (rerunPass lang n settings rerun run) (lang.caseOf c) target.repeatIndex) ∨
      (groupOf run.results (lang.caseOf c) ≠ [] → caseTarget settings n run (lang.caseOf c) = none) ∧
        Untouched run (rerunPass lang n settings rerun run) (lang.caseOf c) := by
  by_cases hasked : groupOf run.results (lang.caseOf c) ≠ [] ∧
      ∃ target, caseTarget settings n run (lang.caseOf c) = some target
  · obtain ⟨hne, target, htarget⟩ := hasked
    have hmem : target ∈ collectAutoRerunTargets run lang.name lang.runtime n settings :=
      mem_collectAutoRerunTargets.mpr ⟨c, hne, htarget⟩
    refine Or.inl ⟨hne, target, htarget, pass_runAgain collect_nodup hmem ?_⟩
    rw [concurrency_of_caseTarget htarget]
    rfl
  · push Not at hasked
    refine Or.inr ⟨fun hne => Option.eq_none_iff_forall_ne_some.mpr (hasked hne), ?_⟩
    refine pass_untouched fun target hmem hkey => ?_
    obtain ⟨c', hne, htarget⟩ := mem_collectAutoRerunTargets.mp hmem
    have hc' : target.concurrency = c' := concurrency_of_caseTarget htarget
    have hc : target.concurrency = c := (CaseKey.ext_iff.mp hkey).2.2
    rw [← hc', hc] at hne htarget
    exact hasked hne target htarget

variable (settings n lang run rerun fuel) in
/-- A round of the loop: it ends, or goes on after a pass. -/
lemma rerunLoop_succ :
    Quiet settings n lang run ∧ rerunLoop lang n settings rerun (fuel + 1) run = some run ∨
      ¬ Quiet settings n lang run ∧ rerunLoop lang n settings rerun (fuel + 1) run =
        rerunLoop lang n settings rerun fuel (rerunPass lang n settings rerun run) := by
  rw [← collect_eq_nil_iff, rerunLoop, rerunPass]
  rcases collectAutoRerunTargets run lang.name lang.runtime n settings with _ | ⟨t, ts⟩
  · exact Or.inl ⟨rfl, rfl⟩
  · exact Or.inr ⟨List.cons_ne_nil t ts, rfl⟩

/-- What every pass preserves holds at the end of the loop, where no case asks for a rerun. -/
lemma rerunLoop_induct {P : BenchmarkRun → Prop}
    (hpass : ∀ run, P run → P (rerunPass lang n settings rerun run)) (hrun : P run)
    (h : rerunLoop lang n settings rerun fuel run = some final) :
    P final ∧ Quiet settings n lang final := by
  induction fuel generalizing run with
  | zero => exact absurd h (by simp [rerunLoop])
  | succ fuel ih =>
      rcases rerunLoop_succ settings run n fuel lang rerun with ⟨hquiet, hend⟩ | ⟨-, hgo⟩
      · obtain rfl := Option.some_inj.mp (hend.symm.trans h)
        exact ⟨hrun, hquiet⟩
      · exact ih (hpass run hrun) (hgo ▸ h)

/-- A pass keeps the cases settled. -/
lemma rerunPass_settled (hsettled : ∀ c, ∃ k, Settled settings n run (lang.caseOf c) k) (c : ℕ) :
    ∃ k, Settled settings n (rerunPass lang n settings rerun run) (lang.caseOf c) k := by
  obtain ⟨k, hk⟩ := hsettled c
  rcases rerunPass_cases lang n settings rerun run c with
    ⟨hne, target, htarget, hagain⟩ | ⟨-, huntouched⟩
  · obtain ⟨hindex, hlt, hbits⟩ := hk.target hne htarget
    rw [hindex] at hagain
    exact ⟨k + 1, hk.runAgain hagain hlt hbits⟩
  · exact ⟨k, hk.untouched huntouched⟩

/-- A case that asks for a rerun after a pass has asked for the one before. -/
lemma rerunPass_target {p c : ℕ} {target : AutoRerunTarget}
    (hsettled : ∀ c, ∃ k, Settled settings n run (lang.caseOf c) k)
    (hpass : ∀ c target, groupOf run.results (lang.caseOf c) ≠ [] →
      caseTarget settings n run (lang.caseOf c) = some target → target.repeatIndex = n + p)
    (hne : groupOf (rerunPass lang n settings rerun run).results (lang.caseOf c) ≠ [])
    (htarget : caseTarget settings n (rerunPass lang n settings rerun run) (lang.caseOf c) =
      some target) : target.repeatIndex = n + (p + 1) := by
  rcases rerunPass_cases lang n settings rerun run c with
    ⟨hne', target', htarget', hagain⟩ | ⟨hnone, huntouched⟩
  · obtain ⟨k, hk⟩ := hsettled c
    obtain ⟨hindex, hlt, hbits⟩ := hk.target hne' htarget'
    have hsame := hpass c target' hne' htarget'
    rw [hindex] at hagain
    have hnext := ((hk.runAgain hagain hlt hbits).target hne htarget).1
    omega
  · rw [huntouched.caseTarget] at htarget
    rw [huntouched.1] at hne
    rw [hnone hne] at htarget
    exact absurd htarget (by simp)

variable (rerun) in
/-- **The loop over settled cases ends**: in pass after pass every case that asks for a rerun has
had as many as there were passes. -/
theorem rerunLoop_ends {p : ℕ} (hsettled : ∀ c, ∃ k, Settled settings n run (lang.caseOf c) k)
    (hpass : ∀ c target, groupOf run.results (lang.caseOf c) ≠ [] →
      caseTarget settings n run (lang.caseOf c) = some target → target.repeatIndex = n + p) :
    ∃ final, rerunLoop lang n settings rerun (settings.maxAdditionalRepeats - p + 1) run =
      some final := by
  induction hd : settings.maxAdditionalRepeats - p generalizing p run with
  | zero =>
      rcases rerunLoop_succ settings run n 0 lang rerun with ⟨-, hend⟩ | ⟨hasked, -⟩
      · exact ⟨run, hend⟩
      · refine absurd (fun c hne => ?_) hasked
        refine Option.eq_none_iff_forall_ne_some.mpr fun target htarget => ?_
        obtain ⟨k, hk⟩ := hsettled c
        obtain ⟨hindex, hlt, -⟩ := hk.target hne htarget
        have hsame := hpass c target hne htarget
        omega
  | succ d ih =>
      rcases rerunLoop_succ settings run n (d + 1) lang rerun with ⟨-, hend⟩ | ⟨-, hgo⟩
      · exact ⟨run, hend⟩
      · rw [hgo]
        exact ih (p := p + 1) (rerunPass_settled hsettled)
          (fun c target => rerunPass_target hsettled hpass) (by omega)

/-- The loop keeps the cases settled. -/
lemma rerunLoop_settled (hsettled : ∀ c, ∃ k, Settled settings n run (lang.caseOf c) k)
    (h : rerunLoop lang n settings rerun fuel run = some final) :
    ∀ c, ∃ k, Settled settings n final (lang.caseOf c) k :=
  (rerunLoop_induct (P := fun run => ∀ c, ∃ k, Settled settings n run (lang.caseOf c) k)
    (fun _ => rerunPass_settled) hsettled h).1

end BenchOrchestrator

end Networker
