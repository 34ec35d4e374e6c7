/-
The measured loop of a fixed-count plan.

* `lastTry`, `sampleCase`, `casesAfter`: the cases of the samples of some iterations, read off
  the outcomes of their probes;
* `map_caseId_perm`: the attempts that a loop publishes have these cases;
* `completedSamples_lt_iff`: when a case has too few attempts for the criteria;
* `runPhase_completed_iff`: when a loop makes all its iterations;
* `fixedCount_iff`: a fixed-count plan runs its full count exactly if, behind every iteration but
  the last, some case has fewer samples than there are runs;
* `fullCount_of_kept`: where every sample keeps its case, this is one sample an iteration.
-/
import Networker.Tester.TaskCases

namespace Networker

open Data Metrics Benchmark Dispatch

namespace TargetRunner

/-! ### The count that is announced -/

/-- `max_run_count`. -/
def maxRunCount (cfg : ResolvedConfig) (p : Phases) : ℕ :=
  ((if measuredBenchmark cfg then p.plan.map criteriaOf else none).map
    (·.maxSamples)).getD cfg.runs

/-- A product of 32-bit integers, at most the largest one. -/
def saturatingMul (a b : ℕ) : ℕ := min (a * b) (2 ^ 32 - 1)

/-- `total_estimated_requests`. -/
def totalEstimatedRequests (cfg : ResolvedConfig) (p : Phases)
    (tasks : List (Protocol × Option ℕ)) : ℕ :=
  saturatingMul (saturatingMul (maxRunCount cfg p) (tasks.length % 2 ^ 32)) (samplesOf cfg)

/-- The announced count is the product of its factors as long as this has 32 bits. -/
lemma saturatingMul_eq_iff {runs tasks samples : ℕ} (hs : 1 ≤ samples) :
    saturatingMul (saturatingMul runs (tasks % 2 ^ 32)) samples = runs * tasks * samples ↔
      runs * tasks * samples < 2 ^ 32 := by
  rw [saturatingMul, saturatingMul]
  have hle : runs * tasks ≤ runs * tasks * samples := Nat.le_mul_of_pos_right _ hs
  constructor
  · intro h
    have hmin := min_le_right (min (runs * (tasks % 2 ^ 32)) (2 ^ 32 - 1) * samples) (2 ^ 32 - 1)
    omega
  · intro h
    rcases runs.eq_zero_or_pos with rfl | hruns
    · simp
    · have htasks : tasks ≤ runs * tasks := Nat.le_mul_of_pos_left _ hruns
      rw [Nat.mod_eq_of_lt (by omega), min_eq_left (by omega : runs * tasks ≤ 2 ^ 32 - 1),
        min_eq_left (by omega)]

/-! ### The cases of samples -/

/-- The try that ends a sample: the first that succeeds, or the last one. -/
def lastTry (success : ℕ → Bool) : ℕ → ℕ → ℕ
  | k, 0 => k
  | k, left + 1 => if success k then k else lastTry success (k + 1) left

/-- The case of a sample of a task. -/
def sampleCase (cfg : ResolvedConfig) (env : Probes) (t : Protocol × Option ℕ) (b i : ℕ) :
    String :=
  let success := fun k => (env.outcome (.tryAt b i k)).success
  plainCaseId t.1 (namedSize (env.outcome (.tryAt b i (lastTry success 0 cfg.retries))).results)

/-- The cases of the samples of an iteration, whose bursts begin with `lo`. -/
def iterationCases (cfg : ResolvedConfig) (env : Probes) (tasks : List (Protocol × Option ℕ))
    (lo : ℕ) : List String :=
  tasks.zipIdx.flatMap fun t => (List.range (samplesOf cfg)).map (sampleCase cfg env t.1 (lo + t.2))

/-- The cases of the samples of `k` iterations. -/
def casesAfter (cfg : ResolvedConfig) (env : Probes) (tasks : List (Protocol × Option ℕ))
    (lo : ℕ) : ℕ → List String
  | 0 => []
  | k + 1 => iterationCases cfg env tasks lo ++ casesAfter cfg env tasks (lo + tasks.length) k

section Cases

variable {cfg : ResolvedConfig} {env : Probes} {tasks : List (Protocol × Option ℕ)}
variable {phase : String} {criteria : Option AdaptiveCriteria} {st : RunState}

/-- The last of the tries of a sample. -/
lemma getLast?_retries (probe : ℕ → RequestAttempt) (left k : ℕ) :
    (probe k :: retriesFrom probe (probe k) (k + 1) left).getLast? =
      some (probe (lastTry (fun j => (probe j).success) k left)) := by
  induction left generalizing k with
  | zero => rfl
  | succ left ih =>
      rw [retriesFrom, lastTry]
      split_ifs with h
      · rfl
      · rw [List.getLast?_cons_cons]
        exact ih (k + 1)

/-- The cases of the attempts of a task. -/
lemma map_caseId_publishedOf (T : Task) :
    (publishedOf cfg env phase T).map caseId =
      (List.range (samplesOf cfg)).map
        (sampleCase cfg env (T.protocol, T.payload) T.burst) := by
  have hlast (i : ℕ) : (sampleTries (tryOf env T i) cfg.retries).getLast? =
      some (tryOf env T i (lastTry (fun j => (tryOf env T i j).success) 0 cfg.retries)) :=
    getLast?_retries (tryOf env T i) cfg.retries 0
  rw [publishedOf, publishedLogicalAttempts_flatten (burst_laddered T) List.pairwise_lt_range,
    tagged, List.map_map]
  have hburst : burst cfg env T =
      (List.range (samplesOf cfg)).map fun i => sampleTries (tryOf env T i) cfg.retries := rfl
  have hended : (burst cfg env T).filterMap List.getLast? = (List.range (samplesOf cfg)).map
      fun i => tryOf env T i (lastTry (fun j => (tryOf env T i j).success) 0 cfg.retries) := by
    rw [hburst, List.filterMap_map, ← List.filterMap_eq_map']
    exact List.filterMap_congr fun i _ => hlast i
  rw [hended, List.map_map]
  exact List.map_congr_left fun i _ => caseId_of_no_stack rfl

/-- The attempts of an iteration have the cases of its samples. -/
lemma phaseIteration_cases :
    ((phaseIteration cfg env tasks phase st).1.map caseId).Perm
      (iterationCases cfg env tasks st.bursts) := by
  rw [phaseIteration_fst, List.map_flatMap]
  simp only [map_caseId_publishedOf]
  refine ((finished_perm env (tasksOf cfg st tasks)).flatMap_right _).trans ?_
  rw [tasksOf, iterationCases, List.mapIdx_eq_zipIdx_map, List.flatMap_map]

variable (cfg env tasks phase) in
/-- The attempts of a loop have the cases of its samples. -/
lemma map_caseId_perm (k : ℕ) (st : RunState) :
    ((runPhase cfg env tasks phase none k st).attempts.map caseId).Perm
      (casesAfter cfg env tasks st.bursts k) := by
  induction k generalizing st with
  | zero => exact List.Perm.refl _
  | succ k ih =>
      rw [runPhase_succ, casesAfter, List.map_append]
      have hrest := ih (phaseIteration cfg env tasks phase st).2
      rw [phaseIteration_bursts] at hrest
      exact phaseIteration_cases.append hrest

lemma length_iterationCases (lo : ℕ) :
    (iterationCases cfg env tasks lo).length = tasks.length * samplesOf cfg := by
  simp [iterationCases, List.length_flatMap]

lemma length_casesAfter (lo k : ℕ) :
    (casesAfter cfg env tasks lo k).length = k * tasks.length * samplesOf cfg := by
  induction k generalizing lo with
  | zero => simp [casesAfter]
  | succ k ih =>
      rw [casesAfter, List.length_append, length_iterationCases, ih]
      ring

/-- A loop publishes every sample of every task in each of its iterations. -/
lemma length_attempts (iterations : ℕ) :
    (runPhase cfg env tasks phase criteria iterations st).attempts.length =
      (runPhase cfg env tasks phase criteria iterations st).completed * tasks.length *
        samplesOf cfg := by
  rw [(runPhase_eq iterations st).1, ← List.length_map caseId,
    (map_caseId_perm cfg env tasks phase _ st).length_eq, length_casesAfter]

/-! ### The criteria of a fixed count -/

/-- Some case has too few attempts. -/
lemma completedSamples_lt_iff {attempts : List RequestAttempt} {cases : List String} {n : ℕ}
    (hn : 0 < n) (hlt : n < 2 ^ 32) (hperm : (attempts.map caseId).Perm cases) :
    completedSamples attempts < n ↔ cases = [] ∨ ∃ c ∈ cases, cases.count c < n := by
  have hnil : attempts = [] ↔ cases = [] := by
    rw [← List.length_eq_zero_iff, ← List.length_map caseId, hperm.length_eq,
      List.length_eq_zero_iff]
  have hfewest := smallestGroup_lt_iff adaptiveCaseId attempts hn
  simp only [adaptiveCaseId, hnil, hperm.mem_iff, hperm.count_eq] at hfewest
  rw [← hfewest, completedSamples, min_lt_iff, or_iff_left (by omega)]
  rfl

/-- The criteria of a fixed count ask for the samples alone. -/
lemma verdict_fixed_iff {attempts : List RequestAttempt} {n : ℕ} :
    verdict (some ⟨n, n, 0, none, none⟩) attempts = none ↔ completedSamples attempts < n := by
  rw [verdict, Option.bind_some, benchmarkAdaptiveStatus]
  rcases lt_or_ge (completedSamples attempts) n with h | h
  · simp [h, not_le_of_gt h]
  · simp [h, not_lt_of_ge h]

variable (cfg env tasks phase criteria) in
/-- A loop makes all its iterations if none but the last lets the criteria stop it. -/
lemma phaseLoop_completed_iff (left completed : ℕ) (attempts : List RequestAttempt)
    (st : RunState) :
    (phaseLoop cfg env tasks phase criteria left completed attempts st).completed =
        completed + left ↔
      ∀ k, 0 < k → k < left →
        verdict criteria (attempts ++ (runPhase cfg env tasks phase none k st).attempts) =
          none := by
  induction left generalizing completed attempts st with
  | zero => simp [phaseLoop]
  | succ left ih =>
      have hone : (runPhase cfg env tasks phase none 1 st).attempts =
          (phaseIteration cfg env tasks phase st).1 := by
        rw [runPhase_succ]
        simp [runPhase, phaseLoop]
      cases hr : verdict criteria (attempts ++ (phaseIteration cfg env tasks phase st).1) with
      | some r =>
          rw [phaseLoop_halt hr]
          constructor
          · intro h k hk hlt
            have hleft : left = 0 := by simpa using h
            omega
          · intro h
            by_contra hne
            have hfirst := h 1 Nat.one_pos (by simp at hne; omega)
            rw [hone, hr] at hfirst
            exact absurd hfirst (by simp)
      | none =>
          rw [phaseLoop_continue hr, show completed + (left + 1) = completed + 1 + left by omega, ih]
          constructor
          · intro h k hk hlt
            obtain ⟨j, rfl⟩ := Nat.exists_eq_succ_of_ne_zero hk.ne'
            rcases j.eq_zero_or_pos with rfl | hj
            · rw [hone, hr]
            · rw [Nat.succ_eq_add_one, runPhase_succ, ← List.append_assoc]
              exact h j hj (by omega)
          · intro h k hk hlt
            have hnext := h (k + 1) (Nat.succ_pos k) (by omega)
            rwa [runPhase_succ, ← List.append_assoc] at hnext

/-- Behind every iteration but the last some case has fewer than `n` samples, if there are any. -/
def SomeCaseShort (cfg : ResolvedConfig) (env : Probes) (tasks : List (Protocol × Option ℕ))
    (lo n : ℕ) : Prop :=
  ∀ k, 0 < k → k < n → casesAfter cfg env tasks lo k = [] ∨
    ∃ c ∈ casesAfter cfg env tasks lo k, (casesAfter cfg env tasks lo k).count c < n

/-- The loop of a fixed count of iterations makes all of them. -/
lemma runPhase_completed_iff {n : ℕ} (hn : n < 2 ^ 32) :
    (runPhase cfg env tasks phase (some ⟨n, n, 0, none, none⟩) n st).completed = n ↔
      SomeCaseShort cfg env tasks st.bursts n := by
  have hloop := phaseLoop_completed_iff cfg env tasks phase (some ⟨n, n, 0, none, none⟩) n 0 [] st
  rw [Nat.zero_add] at hloop
  rw [runPhase, hloop, SomeCaseShort]
  refine forall_congr' fun k => forall_congr' fun hk => forall_congr' fun hlt => ?_
  rw [List.nil_append, verdict_fixed_iff,
    completedSamples_lt_iff (by omega) hn (map_caseId_perm cfg env tasks phase k st)]

/-! ### Samples that keep their case -/

/-- The samples of a task are in its case. -/
def KeepCases (cfg : ResolvedConfig) (env : Probes) (tasks : List (Protocol × Option ℕ))
    (lo : ℕ) : Prop :=
  ∀ t ∈ tasks, ∀ b, lo ≤ b → ∀ i < samplesOf cfg, sampleCase cfg env t b i = taskCaseId t

lemma iterationCases_of_kept {lo : ℕ} (hkept : KeepCases cfg env tasks lo) :
    iterationCases cfg env tasks lo =
      tasks.flatMap fun t => List.replicate (samplesOf cfg) (taskCaseId t) := by
  have hfst : tasks.zipIdx.map Prod.fst = tasks := by
    rw [List.zipIdx_map_fst]
  have hcases : ∀ t ∈ tasks.zipIdx,
      (List.range (samplesOf cfg)).map (sampleCase cfg env t.1 (lo + t.2)) =
        List.replicate (samplesOf cfg) (taskCaseId t.1) := by
    intro t ht
    have htask : t.1 ∈ tasks := hfst ▸ List.mem_map_of_mem ht
    refine List.eq_replicate_iff.mpr ⟨by simp, fun c hc => ?_⟩
    obtain ⟨i, hi, rfl⟩ := List.mem_map.mp hc
    exact hkept t.1 htask _ (Nat.le_add_right _ _) i (List.mem_range.mp hi)
  rw [iterationCases, List.flatMap_congr hcases]
  conv_rhs => rw [← hfst, List.flatMap_map]

/-- Every case has one burst of samples for each iteration. -/
lemma casesAfter_evenlyGrouped {lo : ℕ} (hnodup : (tasks.map taskCaseId).Nodup)
    (hkept : KeepCases cfg env tasks lo) (k : ℕ) :
    EvenlyGrouped id (tasks.map taskCaseId) (k * samplesOf cfg)
      (casesAfter cfg env tasks lo k) := by
  induction k generalizing lo with
  | zero => simpa [casesAfter] using evenlyGrouped_nil id (tasks.map taskCaseId)
  | succ k ih =>
      have hnext : KeepCases cfg env tasks (lo + tasks.length) := fun t ht b hb =>
        hkept t ht b (by omega)
      have hrest := ih hnext
      have hfirst : EvenlyGrouped id (tasks.map taskCaseId) (samplesOf cfg)
          (iterationCases cfg env tasks lo) := by
        rw [iterationCases_of_kept hkept]
        refine evenlyGrouped_flatMap hnodup (fun t _ => List.length_replicate) ?_
        exact fun t _ c hc => List.eq_of_mem_replicate hc
      rw [casesAfter, Nat.succ_mul, Nat.add_comm]
      exact hfirst.append hrest

/-- **Where every sample keeps its case, a full count takes one sample of a task and iteration**,
but for a single run and for no tasks. -/
lemma someCaseShort_of_kept {lo n : ℕ} (hnodup : (tasks.map taskCaseId).Nodup)
    (hkept : KeepCases cfg env tasks lo) :
    SomeCaseShort cfg env tasks lo n ↔ tasks = [] ∨ n ≤ 1 ∨ samplesOf cfg = 1 := by
  rcases eq_or_ne tasks [] with rfl | htasks
  · have hnil (k : ℕ) : casesAfter cfg env [] lo k = [] := by
      rw [← List.length_eq_zero_iff, length_casesAfter]
      simp
    simp [SomeCaseShort, hnil]
  · have hcount (k : ℕ) (hn : 0 < n) : (casesAfter cfg env tasks lo k = [] ∨
        ∃ c ∈ casesAfter cfg env tasks lo k, (casesAfter cfg env tasks lo k).count c < n) ↔
          k * samplesOf cfg < n := by
      have hfewest := smallestGroup_lt_iff id (casesAfter cfg env tasks lo k) hn
      rw [List.map_id, (casesAfter_evenlyGrouped hnodup hkept k).fewest
        (by simpa using htasks)] at hfewest
      exact hfewest.symm
    have hs := samplesOf_pos cfg
    rw [SomeCaseShort, or_iff_right htasks]
    constructor
    · intro h
      by_contra hnot
      obtain ⟨hn, hsamples⟩ := not_or.mp hnot
      have hlast := (hcount (n - 1) (by omega)).mp (h (n - 1) (by omega) (by omega))
      have htwo : (n - 1) * 2 ≤ (n - 1) * samplesOf cfg := Nat.mul_le_mul_left _ (by omega)
      omega
    · intro h k hk hlt
      rw [hcount k (by omega)]
      rcases h with h | h
      · omega
      · rw [h]
        omega

end Cases

/-! ### The measured loop -/

section Measured

variable {cfg : ResolvedConfig} {env : Probes} {modes : List Protocol} {payloadSizes : List ℕ}
variable {plan : BenchmarkExecutionPlan}

/-- A fixed count is planned where there is no pilot and where no controls are set. -/
lemma executionPlan_fixedCount {pilotAttempts : List RequestAttempt}
    (h : executionPlan cfg pilotAttempts = some plan) (hsource : plan.source = "fixed-count") :
    pilotAttempts = [] ∧ measuredBenchmark cfg = true ∧
      criteriaOf plan = ⟨cfg.runs, cfg.runs, 0, none, none⟩ := by
  rw [executionPlan] at h
  split at h
  · cases h
    rw [deriveMeasuredPlanFromPilot] at hsource
    dsimp only at hsource
    split at hsource
    · exact absurd hsource (by decide)
    · exact absurd hsource (by decide)
  · next hpilot =>
      have hnil : pilotAttempts = [] := by simpa using hpilot
      split at h
      · cases h
        have hexplicit : ("explicit" : String) = "fixed-count" := hsource
        exact absurd hexplicit (by decide)
      · split at h
        · next hmeasured =>
            cases h
            exact ⟨hnil, hmeasured, rfl⟩
        · cases h

/-- The first burst of the measured loop of a run without a pilot. -/
def firstMeasured (cfg : ResolvedConfig) (tasks : List (Protocol × Option ℕ)) : ℕ :=
  sideRuns cfg cfg.benchmarkOverheadSamples defaultOverheadSamples * tasks.length

lemma pilot_bursts_of_nil (h : (phases cfg env modes payloadSizes).pilot.attempts = []) :
    (phases cfg env modes payloadSizes).pilot.state.bursts =
      firstMeasured cfg (modeTasks modes payloadSizes) := by
  have hzero : (phases cfg env modes payloadSizes).warmedUp.bursts = 0 :=
    (warmups_warmedUp cfg env modes).bursts
  have hoverhead : (phases cfg env modes payloadSizes).overhead.state.bursts =
      firstMeasured cfg (modeTasks modes payloadSizes) := by
    have hbursts := runPhase_none_bursts cfg env (modeTasks modes payloadSizes) "overhead"
      (sideRuns cfg cfg.benchmarkOverheadSamples defaultOverheadSamples)
      (phases cfg env modes payloadSizes).warmedUp
    rwa [hzero, Nat.zero_add] at hbursts
  have hlength : (phases cfg env modes payloadSizes).pilot.attempts.length =
      (phases cfg env modes payloadSizes).pilot.completed * (modeTasks modes payloadSizes).length *
        samplesOf cfg := length_attempts _
  have hbursts : (phases cfg env modes payloadSizes).pilot.state.bursts =
      (phases cfg env modes payloadSizes).overhead.state.bursts +
        (phases cfg env modes payloadSizes).pilot.completed *
          (modeTasks modes payloadSizes).length := runPhase_bursts _ _ _ _ _ _ _
  rw [h, List.length_nil, eq_comm, Nat.mul_eq_zero, or_iff_left (samplesOf_pos cfg).ne'] at hlength
  rw [hbursts, hoverhead, hlength, Nat.add_zero]

/-- The measured loop of a fixed count. -/
lemma measured_fixedCount (hplan : (phases cfg env modes payloadSizes).plan = some plan)
    (hsource : plan.source = "fixed-count") :
    (phases cfg env modes payloadSizes).measured =
        runPhase cfg env (modeTasks modes payloadSizes) cfg.benchmarkPhase
          (some ⟨cfg.runs, cfg.runs, 0, none, none⟩) cfg.runs
          (phases cfg env modes payloadSizes).pilot.state ∧
      (phases cfg env modes payloadSizes).pilot.state.bursts =
        firstMeasured cfg (modeTasks modes payloadSizes) ∧
      maxRunCount cfg (phases cfg env modes payloadSizes) = cfg.runs := by
  obtain ⟨hnil, hmeasured, hcriteria⟩ := executionPlan_fixedCount hplan hsource
  have hsome : (if measuredBenchmark cfg then
      (phases cfg env modes payloadSizes).plan.map criteriaOf else none) =
        some ⟨cfg.runs, cfg.runs, 0, none, none⟩ := by
    rw [if_pos hmeasured, hplan, Option.map_some, hcriteria]
  refine ⟨?_, pilot_bursts_of_nil hnil, ?_⟩
  · rw [measured_eq, hsome]
    rfl
  · rw [maxRunCount, hsome]
    rfl

/-- A fixed-count plan runs its full count: all its iterations, with every sample of every task,
as many as are announced. -/
structure FullCount (cfg : ResolvedConfig) (p : Phases) (tasks : List (Protocol × Option ℕ)) :
    Prop where
  completed : p.measured.completed = cfg.runs
  published : p.measured.attempts.length = cfg.runs * tasks.length * cfg.samples
  announced : totalEstimatedRequests cfg p tasks = cfg.runs * tasks.length * cfg.samples

lemma fullCount_iff (hplan : (phases cfg env modes payloadSizes).plan = some plan)
    (hsource : plan.source = "fixed-count") (hsamples : 1 ≤ cfg.samples)
    (hruns : cfg.runs < 2 ^ 32) :
    FullCount cfg (phases cfg env modes payloadSizes) (modeTasks modes payloadSizes) ↔
      SomeCaseShort cfg env (modeTasks modes payloadSizes)
          (firstMeasured cfg (modeTasks modes payloadSizes)) cfg.runs ∧
        cfg.runs * (modeTasks modes payloadSizes).length * cfg.samples < 2 ^ 32 := by
  obtain ⟨hmeasured, hbursts, hmax⟩ := measured_fixedCount hplan hsource
  have hs : samplesOf cfg = cfg.samples := max_eq_left hsamples
  have hcompleted : (phases cfg env modes payloadSizes).measured.completed = cfg.runs ↔
      SomeCaseShort cfg env (modeTasks modes payloadSizes)
        (firstMeasured cfg (modeTasks modes payloadSizes)) cfg.runs := by
    rw [hmeasured, runPhase_completed_iff hruns, hbursts]
  have hlength : (phases cfg env modes payloadSizes).measured.attempts.length =
      (phases cfg env modes payloadSizes).measured.completed *
        (modeTasks modes payloadSizes).length * cfg.samples := by
    rw [hmeasured, length_attempts, hs]
  have hannounced : totalEstimatedRequests cfg (phases cfg env modes payloadSizes)
      (modeTasks modes payloadSizes) =
        cfg.runs * (modeTasks modes payloadSizes).length * cfg.samples ↔
      cfg.runs * (modeTasks modes payloadSizes).length * cfg.samples < 2 ^ 32 := by
    rw [totalEstimatedRequests, hmax, hs, saturatingMul_eq_iff hsamples]
  constructor
  · rintro ⟨h, -, hequal⟩
    exact ⟨hcompleted.mp h, hannounced.mp hequal⟩
  · rintro ⟨h, hequal⟩
    have hall := hcompleted.mpr h
    exact ⟨hall, by rw [hlength, hall], hannounced.mpr hequal⟩

/-- **A fixed-count plan runs its full count exactly if some case stays short of it until the last
iteration, and the announced count fits 32 bits.** -/
theorem fixedCount_iff (cfg : ResolvedConfig) (env : Probes) (modes : List Protocol)
    (payloadSizes : List ℕ) (plan : BenchmarkExecutionPlan)
    (hplan : (phases cfg env modes payloadSizes).plan = some plan)
    (hsource : plan.source = "fixed-count") (hsamples : 1 ≤ cfg.samples)
    (hruns : cfg.runs < 2 ^ 32) :
    FullCount cfg (phases cfg env modes payloadSizes) (modeTasks modes payloadSizes) ↔
      SomeCaseShort cfg env (modeTasks modes payloadSizes)
          (firstMeasured cfg (modeTasks modes payloadSizes)) cfg.runs ∧
        cfg.runs * (modeTasks modes payloadSizes).length * cfg.samples < 2 ^ 32 :=
  fullCount_iff hplan hsource hsamples hruns

end Measured

/-! ### A run with HTTP stacks -/

/-- Three runs with an HTTP stack, and some samples of each task. -/
def stackedConfig (samples : ℕ) : ResolvedConfig where
  runs := 3
  retries := 0
  samples
  connectionReuse := false
  httpStacks := [⟨"nginx", 8081, 8444⟩]
  benchmarkMode := true

/-- The plan of the three runs. -/
def stackedPlan : BenchmarkExecutionPlan where
  source := "fixed-count"
  minSamples := 3
  maxSamples := 3
  minDurationMs := 0
  targetRelativeError := none
  targetAbsoluteError := none

lemma stacked_plan (samples : ℕ) :
    (phases (stackedConfig samples) steady [.tcp] []).plan = some stackedPlan := by
  have hpilot : (phases (stackedConfig samples) steady [.tcp] []).pilot.attempts = [] := by
    have hcriteria : benchmarkPilotCriteria (stackedConfig samples) = none := by
      simp [benchmarkPilotCriteria, stackedConfig]
    simp only [phases, hcriteria, runPhase, Option.map_none, Option.getD_none, phaseLoop]
  show executionPlan (stackedConfig samples)
    (phases (stackedConfig samples) steady [.tcp] []).pilot.attempts = _
  rw [hpilot]
  rfl

lemma stacked_kept (samples lo : ℕ) :
    KeepCases (stackedConfig samples) steady (modeTasks [.tcp] []) lo := by
  intro t ht b _ i _
  have htcp : t = (.tcp, none) := List.mem_singleton.mp ht
  rw [htcp]
  rfl

lemma stacked_nodup : ((modeTasks [.tcp] []).map taskCaseId).Nodup := List.nodup_singleton _

/-- With one sample a fixed count is run in full. -/
theorem fixedCount_iff_single : ∃ plan,
    (phases (stackedConfig 1) steady [.tcp] []).plan = some plan ∧
      plan.source = "fixed-count" ∧
      FullCount (stackedConfig 1) (phases (stackedConfig 1) steady [.tcp] [])
        (modeTasks [.tcp] []) := by
  refine ⟨stackedPlan, stacked_plan 1, rfl, ?_⟩
  refine (fixedCount_iff (stackedConfig 1) steady [.tcp] [] stackedPlan (stacked_plan 1) rfl
    le_rfl (by norm_num [stackedConfig])).mpr ⟨?_, ?_⟩
  · exact (someCaseShort_of_kept stacked_nodup (stacked_kept 1 _)).mpr (Or.inr (Or.inr rfl))
  · norm_num [stackedConfig, modeTasks, hasPayload]

/-- With two samples the loop ends before its third iteration. -/
theorem fixedCount_short : ∃ plan,
    (phases (stackedConfig 2) steady [.tcp] []).plan = some plan ∧
      plan.source = "fixed-count" ∧
      ¬ FullCount (stackedConfig 2) (phases (stackedConfig 2) steady [.tcp] [])
        (modeTasks [.tcp] []) := by
  refine ⟨stackedPlan, stacked_plan 2, rfl, fun hfull => ?_⟩
  have hshort := ((fullCount_iff (stacked_plan 2) rfl (by norm_num [stackedConfig])
    (by norm_num [stackedConfig])).mp hfull).1
  rw [someCaseShort_of_kept stacked_nodup (stacked_kept 2 _)] at hshort
  simp [stackedConfig, samplesOf, modeTasks, hasPayload] at hshort

end TargetRunner

end Networker
