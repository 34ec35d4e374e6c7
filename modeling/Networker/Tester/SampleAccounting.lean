/-
The samples of a run, task by task: what the criteria of a loop count, and the case under which
a failure is published.

* `TaskRun`: a run over a set of mode tasks, with what happens to each of its attempts;
* `Accounted`: `k` iterations are `k` bursts of samples, whatever fails, and every failure is
  counted for its own task;
* `Kept`, `Fits`: every sample that fails still names the size of its task, and the samples fit
  32 bits;
* `TaskRun.caseId_eq_iff`: when the attempt of a sample has the case of its task;
* `samples_accounted_iff`: the run is accounted for exactly where its failures are kept.
-/
import Networker.Tester.TaskCases

namespace Networker

open Data Metrics Benchmark Dispatch BenchmarkArtifact

namespace TargetRunner

/-! ### Runs -/

/-- A run over a set of mode tasks. The modes and sizes are those of the command line: there is
a mode, none is given twice, and there are sizes where a mode needs one. -/
structure TaskRun where
  cfg : ResolvedConfig
  env : Probes
  around : Surroundings
  modes : List Protocol
  payloadSizes : List ℕ
  behaviour : Site → Behaviour
  modes_ne : modes ≠ []
  modes_nodup : modes.Nodup
  sizes_ne : ∀ m ∈ modes, hasPayload m = true → payloadSizes ≠ []
  sizes_nodup : payloadSizes.Nodup
  /-- The attempts of mode tasks are those of the dispatch. -/
  dispatched : ∀ {b t} (i k : ℕ), b < (phases cfg env modes payloadSizes).cooldown.state.bursts →
    taskAt (modeTasks modes payloadSizes) b = some t →
      (env.outcome (.tryAt b i k)).success =
          (dispatchOnce t.1 t.2 (behaviour (.tryAt b i k))).success ∧
        (env.outcome (.tryAt b i k)).results =
          (dispatchOnce t.1 t.2 (behaviour (.tryAt b i k))).results
  /-- A connection is warmed up without a payload. -/
  warmedUp : ∀ s ∈ warmupSites, (env.outcome s).results = (behaviour s).report.results

namespace TaskRun

section Run

variable (r : TaskRun)

/-- The mode tasks. -/
def tasks : List (Protocol × Option ℕ) := modeTasks r.modes r.payloadSizes

/-- The phases of the run. -/
def phases : Phases := TargetRunner.phases r.cfg r.env r.modes r.payloadSizes

/-- The record of the run. -/
def testRun : Metrics.TestRun :=
  (runForTarget r.cfg r.env r.around r.modes r.payloadSizes).2

/-- The number of bursts for mode tasks. -/
def bursts : ℕ := r.phases.cooldown.state.bursts

/-- The attempts of the first `k` iterations of a phase. -/
def attemptsAfter (phase : String) (st : RunState) (k : ℕ) : List RequestAttempt :=
  (runPhase r.cfg r.env r.tasks phase none k st).attempts

/-- A failure that is counted for a case. -/
def countedFailure (id : String) (x : BenchmarkSample) : Bool :=
  x.caseId == id && x.phase == r.cfg.benchmarkPhase && !x.success

/-- **The accounting of a run.**  After `k` iterations the criteria count `k` bursts of samples.
No case without an HTTP stack is published but those of mode tasks, and a sample that fails is
published under the case of its task, where the summary of the case counts it. -/
structure Accounted (artifact : Artifact) : Prop where
  pilot : ∀ criteria, ∀ k ≤ r.phases.pilot.completed,
    (benchmarkAdaptiveStatus criteria
      (r.attemptsAfter "pilot" r.phases.overhead.state k)).completedSamples = k * samplesOf r.cfg
  measured : ∀ criteria, ∀ k ≤ r.phases.measured.completed,
    (benchmarkAdaptiveStatus criteria (r.attemptsAfter r.cfg.benchmarkPhase
      r.phases.pilot.state k)).completedSamples = k * samplesOf r.cfg
  cases : ∀ case ∈ artifact.cases, case.httpStack = none → ∃ t ∈ r.tasks, case.id = taskCaseId t
  failures : ∀ x ∈ artifact.samples, x.success = false → ∀ {b t} (i k : ℕ), b < r.bursts →
    taskAt r.tasks b = some t → x.attemptId = (r.env.outcome (.tryAt b i k)).attemptId →
      x.caseId = taskCaseId t ∧ (x.phase = r.cfg.benchmarkPhase →
        ∃ summary ∈ artifact.summaries, summary.case.id = taskCaseId t ∧
          summary.failureCount = artifact.samples.countP (r.countedFailure (taskCaseId t)))

/-- The last try of every sample that fails keeps the size of its task. -/
def Kept : Prop :=
  ∀ {b t} (i : ℕ), b < r.bursts → taskAt r.tasks b = some t → i < samplesOf r.cfg →
    AllFail r.cfg r.env b i →
      keepsSize t.1 t.2 (r.behaviour (.tryAt b i r.cfg.retries)) = true

/-- The samples of a task in the pilot, and in the measured loop, fit 32 bits. -/
def Fits : Prop :=
  r.phases.pilot.completed * samplesOf r.cfg < 2 ^ 32 ∧
    r.phases.measured.completed * samplesOf r.cfg < 2 ^ 32

end Run

/-! ### The case of a sample -/

section Cases

variable {r : TaskRun} {b i : ℕ} {t : Protocol × Option ℕ} {a : RequestAttempt}

lemma tasks_ne_nil : r.tasks ≠ [] := by
  obtain ⟨m, hm⟩ := List.exists_mem_of_ne_nil _ r.modes_ne
  refine List.ne_nil_of_mem (a := (m, if hasPayload m then r.payloadSizes.head? else none)) ?_
  rw [tasks, mem_modeTasks]
  refine ⟨hm, ?_, ?_⟩
  · cases h : hasPayload m with
    | false => rfl
    | true => simpa [List.isSome_head?] using r.sizes_ne m hm h
  · intro sz hsz
    dsimp only at hsz
    split_ifs at hsz
    · exact List.mem_of_mem_head? hsz
    · exact absurd hsz (Option.not_mem_none sz)

lemma mem_tasks_of_taskAt (ht : taskAt r.tasks b = some t) : t ∈ r.tasks :=
  List.mem_of_getElem? ht

/-- The attempt of a sample has the case of its task, unless it fails and the size is lost. -/
lemma caseId_eq_iff (hb : b < r.bursts) (ht : taskAt r.tasks b = some t)
    (hp : PublishedFor r.cfg r.env t.1 b i a) :
    caseId a = taskCaseId t ↔ (AllFail r.cfg r.env b i →
      keepsSize t.1 t.2 (r.behaviour (.tryAt b i r.cfg.retries)) = true) := by
  rw [caseId_eq_taskCaseId hp.httpStack hp.protocol]
  obtain ⟨_, hpayload, _⟩ := mem_modeTasks.mp (mem_tasks_of_taskAt ht)
  obtain ⟨k, hk, _, hsuccess, hresults, hdone⟩ := hp.lastTry
  obtain ⟨hs, hr⟩ := r.dispatched i k hb ht
  have hnames := dispatchOnce_names (b := r.behaviour (.tryAt b i k)) t.2 hpayload
  rw [hresults, hr]
  rcases hdone with hgood | ⟨rfl, hfail⟩
  · have hnot : ¬ AllFail r.cfg r.env b i := by
      intro hfail
      rw [hsuccess, hfail k hk] at hgood
      exact absurd hgood (by decide)
    rw [hsuccess, hs] at hgood
    simp [hnames.success hgood, hnot]
  · have hbad := hfail _ le_rfl
    rw [hs] at hbad
    simp [hnames.failure hbad, hfail]

end Cases

/-! ### The bursts of the phases -/

section Bursts

variable (r : TaskRun)

lemma overhead_bursts :
    r.phases.overhead.state.bursts = r.phases.overhead.completed * r.tasks.length := by
  have h := runPhase_bursts r.cfg r.env r.tasks "overhead" none
    (sideRuns r.cfg r.cfg.benchmarkOverheadSamples defaultOverheadSamples) r.phases.warmedUp
  rwa [show r.phases.warmedUp.bursts = 0 from (warmups_warmedUp r.cfg r.env r.modes).bursts,
    Nat.zero_add] at h

lemma pilot_bursts : r.phases.pilot.state.bursts =
    r.phases.overhead.state.bursts + r.phases.pilot.completed * r.tasks.length :=
  runPhase_bursts r.cfg r.env r.tasks _ _ _ _

lemma measured_bursts : r.phases.measured.state.bursts =
    r.phases.pilot.state.bursts + r.phases.measured.completed * r.tasks.length :=
  runPhase_bursts r.cfg r.env r.tasks _ _ _ _

lemma bursts_eq : r.bursts =
    r.phases.measured.state.bursts + r.phases.cooldown.completed * r.tasks.length :=
  runPhase_bursts r.cfg r.env r.tasks _ _ _ _

/-- Every phase begins behind whole iterations. -/
lemma dvd_bursts : r.tasks.length ∣ r.phases.overhead.state.bursts ∧
    r.tasks.length ∣ r.phases.pilot.state.bursts ∧
    r.tasks.length ∣ r.phases.measured.state.bursts := by
  have hoverhead : r.tasks.length ∣ r.phases.overhead.state.bursts := by
    rw [overhead_bursts]
    exact Nat.dvd_mul_left _ _
  have hpilot : r.tasks.length ∣ r.phases.pilot.state.bursts := by
    rw [pilot_bursts]
    exact Nat.dvd_add hoverhead (Nat.dvd_mul_left _ _)
  refine ⟨hoverhead, hpilot, ?_⟩
  rw [measured_bursts]
  exact Nat.dvd_add hpilot (Nat.dvd_mul_left _ _)

/-- The attempts of the phases are published for the samples of the bursts. -/
lemma phases_publish : Publishes r.cfg r.env r.tasks 0 r.bursts
    (r.phases.overhead.attempts ++ r.phases.pilot.attempts ++ r.phases.measured.attempts ++
      r.phases.cooldown.attempts) := by
  have hzero : r.phases.warmedUp.bursts = 0 := (warmups_warmedUp r.cfg r.env r.modes).bursts
  obtain ⟨hoverhead, hpilot, hmeasured⟩ := r.dvd_bursts
  have h₁ := r.pilot_bursts
  have h₂ := r.measured_bursts
  have h₃ := r.bursts_eq
  have hfirst : Publishes r.cfg r.env r.tasks 0 r.phases.overhead.state.bursts
      r.phases.overhead.attempts := by
    rw [← hzero]
    exact runPhase_publishes r.cfg r.env r.tasks _ _ _ (by rw [hzero]; exact Nat.dvd_zero _)
  have hsecond : Publishes r.cfg r.env r.tasks r.phases.overhead.state.bursts
      r.phases.pilot.state.bursts r.phases.pilot.attempts :=
    runPhase_publishes r.cfg r.env r.tasks _ _ _ hoverhead
  have hthird : Publishes r.cfg r.env r.tasks r.phases.pilot.state.bursts
      r.phases.measured.state.bursts r.phases.measured.attempts :=
    runPhase_publishes r.cfg r.env r.tasks _ _ _ hpilot
  have hfourth : Publishes r.cfg r.env r.tasks r.phases.measured.state.bursts r.bursts
      r.phases.cooldown.attempts :=
    runPhase_publishes r.cfg r.env r.tasks _ _ _ hmeasured
  exact ((hfirst.append hsecond (by omega) (by omega)).append hthird (by omega)
    (by omega)).append hfourth (by omega) (by omega)

end Bursts

/-! ### Where an attempt comes from -/

/-- Where an attempt of a run comes from. -/
inductive Origin (r : TaskRun) (a : RequestAttempt) : Prop
  | warmup {s : Site} (hs : s ∈ warmupSites) (hid : a.attemptId = (r.env.outcome s).attemptId)
      {t : Protocol × Option ℕ} (ht : t ∈ r.tasks) (hcase : caseId a = taskCaseId t)
  | task {b i : ℕ} {t : Protocol × Option ℕ} (hb : b < r.bursts) (hi : i < samplesOf r.cfg)
      (ht : taskAt r.tasks b = some t) (hp : PublishedFor r.cfg r.env t.1 b i a)
  | stack (h : AgainstStack r.env r.bursts a)

section Origin

variable {r : TaskRun} {a : RequestAttempt}

lemma namedSize_warmup {s : Site} (hs : s ∈ warmupSites)
    (ha : a.results = (r.env.outcome s).results) : namedSize a.results = none := by
  have hreport := names_report (r.behaviour s).report
  rw [ha, r.warmedUp s hs]
  cases h : (r.behaviour s).report.success with
  | true => exact hreport.success h
  | false => exact (hreport.failure h).mpr rfl

/-- A warm-up has the case of its mode. -/
lemma origin_of_mem_warmups (ha : a ∈ r.phases.warmedUp.allAttempts) : Origin r a := by
  have hwarmup : ∀ {p : Protocol} {s : Site} {seq : ℕ}, hasPayload p = false →
      r.modes.contains p = true → s ∈ warmupSites →
        Origin r { dispatch r.env s p seq with phase := benchmarkPhaseTag r.cfg "warmup" } := by
    intro p s seq hp hmode hs
    have hmem : (p, none) ∈ r.tasks :=
      mem_modeTasks.mpr ⟨by simpa using hmode, by simp [hp], by simp⟩
    refine .warmup hs rfl hmem ?_
    rw [caseId_eq_taskCaseId (t := (p, none)) rfl rfl]
    exact namedSize_warmup hs rfl
  change a ∈ (warmups r.cfg r.env r.modes).allAttempts at ha
  simp only [warmups, warmup] at ha
  split_ifs at ha with h3 h2 h2
  all_goals simp only [Bool.and_eq_true] at h2 h3
  · simp only [List.nil_append, List.mem_append, List.mem_singleton] at ha
    rcases ha with rfl | rfl
    · exact hwarmup rfl h2.2 (by simp [warmupSites])
    · exact hwarmup rfl h3.2 (by simp [warmupSites])
  · rw [List.nil_append, List.mem_singleton] at ha
    subst ha
    exact hwarmup rfl h3.2 (by simp [warmupSites])
  · rw [List.nil_append, List.mem_singleton] at ha
    subst ha
    exact hwarmup rfl h2.2 (by simp [warmupSites])
  · exact absurd ha List.not_mem_nil

variable (r) in
/-- The attempts of a run: the warm-ups, what is published of its bursts, and what is made against
HTTP stacks. -/
lemma attempts_eq : ∃ added, r.testRun.attempts = r.phases.warmedUp.allAttempts ++
      (r.phases.overhead.attempts ++ r.phases.pilot.attempts ++ r.phases.measured.attempts ++
        r.phases.cooldown.attempts) ++ added ∧
    ∀ a ∈ added, AgainstStack r.env r.bursts a := by
  obtain ⟨added, hadded, hagainst⟩ :=
    (phases_addsStacks r.cfg r.env r.modes r.payloadSizes).allAttempts
  refine ⟨added, ?_, hagainst⟩
  change (TargetRunner.phases r.cfg r.env r.modes r.payloadSizes).last.allAttempts = _
  rw [hadded, cooldown_attempts]
  simp only [phases, List.append_assoc]

/-- An attempt of a run is a warm-up, is published for a sample of a task, or is made against an
HTTP stack. -/
lemma origin_of_mem (ha : a ∈ r.testRun.attempts) : Origin r a := by
  obtain ⟨added, hattempts, hagainst⟩ := r.attempts_eq
  rw [hattempts] at ha
  rcases List.mem_append.mp ha with ha | ha
  · rcases List.mem_append.mp ha with ha | ha
    · exact origin_of_mem_warmups ha
    · obtain ⟨b, t, i, hb, hi, ht, hp⟩ := r.phases_publish.sound a ha
      exact .task hb.2 hi ht hp
  · exact .stack (hagainst a ha)

/-- Every sample of every burst is published. -/
lemma exists_published {b i : ℕ} {t : Protocol × Option ℕ} (hb : b < r.bursts)
    (hi : i < samplesOf r.cfg) (ht : taskAt r.tasks b = some t) :
    ∃ a ∈ r.testRun.attempts, PublishedFor r.cfg r.env t.1 b i a := by
  obtain ⟨added, hattempts, -⟩ := r.attempts_eq
  obtain ⟨a, ha, hp⟩ := r.phases_publish.complete (Nat.zero_le b) hb hi ht
  refine ⟨a, ?_, hp⟩
  rw [hattempts]
  exact List.mem_append_left _ (List.mem_append_right _ ha)

end Origin

/-! ### The artifact -/

section Published

variable {r : TaskRun} {fuel : ℕ} {artifact : Artifact}

/-- What the artifact of a run is made of. -/
lemma made (h : toBenchmarkArtifact fuel r.testRun = .ok (some artifact)) :
    Made fuel r.testRun r.cfg.benchmarkPhase r.cfg.benchmarkScenario artifact := by
  have hphase : r.testRun.benchmarkPhase = inBenchmark r.cfg r.cfg.benchmarkPhase := rfl
  have hscenario : r.testRun.benchmarkScenario = inBenchmark r.cfg r.cfg.benchmarkScenario := rfl
  rw [toBenchmarkArtifact, hphase, hscenario, inBenchmark, inBenchmark] at h
  split_ifs at h
  exact artifactOf_eq_some (by simpa using h)

variable (hmade : Made fuel r.testRun r.cfg.benchmarkPhase r.cfg.benchmarkScenario artifact)

include hmade in
/-- A published sample is one of an attempt, and has its case. -/
lemma attempt_of_sample {x : BenchmarkSample} (hx : x ∈ artifact.samples) :
    ∃ a ∈ r.testRun.attempts, x.attemptId = a.attemptId ∧ x.success = a.success ∧
      x.caseId = caseId a := by
  rw [hmade.samples] at hx
  obtain ⟨record, hrecord, rfl⟩ := List.mem_map.mp hx
  refine ⟨record.attempt, ?_, rfl, rfl, caseId_of_mem_attemptRecords hrecord⟩
  rw [← map_attempt_attemptRecords]
  exact List.mem_map_of_mem hrecord

include hmade in
/-- Every attempt is published as a sample. -/
lemma sample_of_attempt {a : RequestAttempt} (ha : a ∈ r.testRun.attempts) :
    ∃ x ∈ artifact.samples, x.attemptId = a.attemptId ∧ x.success = a.success ∧
      x.caseId = caseId a := by
  rw [← map_attempt_attemptRecords] at ha
  obtain ⟨record, hrecord, rfl⟩ := List.mem_map.mp ha
  refine ⟨benchmarkSampleForAttempt r.cfg.benchmarkPhase record, ?_, rfl, rfl,
    caseId_of_mem_attemptRecords hrecord⟩
  rw [hmade.samples]
  exact List.mem_map_of_mem hrecord

include hmade in
/-- The case of an attempt has a summary, which counts the failures of the case. -/
lemma summary_of_attempt {a : RequestAttempt} (ha : a ∈ r.testRun.attempts) :
    ∃ summary ∈ artifact.summaries, summary.case.id = caseId a ∧
      summary.failureCount = artifact.samples.countP (r.countedFailure (caseId a)) := by
  have hid : caseId a ∈ artifact.cases.map (·.id) := by
    rw [hmade.cases, map_id_casesOf, mem_keysOf]
    exact ⟨a, ha, rfl⟩
  obtain ⟨case, hcase, hid⟩ := List.mem_map.mp hid
  obtain ⟨summary, hsummary, hof⟩ := exists_of_forall₂ hmade.summaries.flip hcase
  have hspec := benchmarkSummaryFromAttempts_eq_some hof
  refine ⟨summary, hsummary, by rw [hspec.case, hid], ?_⟩
  rw [hspec.failureCount, hmade.samples, matchingAttempts, List.countP_map, List.countP_map,
    List.countP_filter]
  refine List.countP_congr fun record _ => ?_
  simp [countedFailure, benchmarkSampleForAttempt, hid, and_comm]

include hmade in
/-- A published case without an HTTP stack is that of an attempt without one. -/
lemma attempt_of_case {case : BenchmarkCase} (hcase : case ∈ artifact.cases) :
    ∃ a ∈ r.testRun.attempts, case.id = caseId a ∧ case.httpStack = a.httpStack := by
  rw [hmade.cases, casesOf] at hcase
  obtain ⟨id, _, hfind⟩ := List.mem_filterMap.mp hcase
  obtain ⟨a, ha, rfl⟩ := Option.map_eq_some_iff.mp hfind
  exact ⟨a, List.mem_of_find?_eq_some ha, rfl, rfl⟩

end Published

/-! ### The accounting -/

section Accounting

variable {r : TaskRun} {fuel : ℕ} {artifact : Artifact}

/-- Kept sizes: every attempt of a task has its case. -/
lemma caseId_of_kept (hkept : r.Kept) {b i : ℕ} {t : Protocol × Option ℕ} {a : RequestAttempt}
    (hb : b < r.bursts) (hi : i < samplesOf r.cfg) (ht : taskAt r.tasks b = some t)
    (hp : PublishedFor r.cfg r.env t.1 b i a) : caseId a = taskCaseId t :=
  (caseId_eq_iff hb ht hp).mpr (hkept i hb ht hi)

/-- What the criteria count of `k` iterations. -/
lemma completedSamples_of_kept (hkept : r.Kept) (phase : String) {st : RunState}
    (hst : r.tasks.length ∣ st.bursts) {k : ℕ} (hk : st.bursts + k * r.tasks.length ≤ r.bursts) :
    completedSamples (r.attemptsAfter phase st k) = min (k * samplesOf r.cfg) (2 ^ 32 - 1) := by
  have hnodup := nodup_taskCaseIds r.modes_nodup r.sizes_nodup
  have heven : EvenlyGrouped caseId (r.tasks.map taskCaseId) (k * samplesOf r.cfg)
      (r.attemptsAfter phase st k) :=
    runPhase_none_evenlyGrouped hst hnodup k fun _ hb hi ht hp =>
      caseId_of_kept hkept (by omega) hi ht hp
  have hne : r.tasks.map taskCaseId ≠ [] := by simpa using tasks_ne_nil
  rw [completedSamples]
  exact congrArg (min · _) (heven.fewest hne)

/-- In a loop of a run whose sizes are kept, the count is exact if and only if the samples of
its last iteration fit. -/
lemma counts_iff (hkept : r.Kept) (phase : String) {st : RunState}
    (hst : r.tasks.length ∣ st.bursts) {n : ℕ} (hn : st.bursts + n * r.tasks.length ≤ r.bursts) :
    (∀ criteria, ∀ k ≤ n, (benchmarkAdaptiveStatus criteria
      (r.attemptsAfter phase st k)).completedSamples = k * samplesOf r.cfg) ↔
        n * samplesOf r.cfg < 2 ^ 32 := by
  have hle : ∀ k ≤ n, st.bursts + k * r.tasks.length ≤ r.bursts := by
    intro k hk
    have hmul := Nat.mul_le_mul_right r.tasks.length hk
    omega
  have hcount : ∀ criteria, ∀ k ≤ n, (benchmarkAdaptiveStatus criteria
      (r.attemptsAfter phase st k)).completedSamples =
        min (k * samplesOf r.cfg) (2 ^ 32 - 1) := fun _ k hk =>
    completedSamples_of_kept hkept phase hst (hle k hk)
  constructor
  · intro h
    have hlast := h ⟨0, 0, 0, none, none⟩ n le_rfl
    rw [hcount _ n le_rfl] at hlast
    omega
  · intro h criteria k hk
    have hmul := Nat.mul_le_mul_right (samplesOf r.cfg) hk
    rw [hcount criteria k hk]
    omega

lemma pilot_le : r.phases.overhead.state.bursts + r.phases.pilot.completed * r.tasks.length ≤
    r.bursts := by
  rw [bursts_eq, measured_bursts, pilot_bursts]
  omega

lemma measured_le : r.phases.pilot.state.bursts + r.phases.measured.completed * r.tasks.length ≤
    r.bursts := by
  rw [bursts_eq, measured_bursts]
  omega

/-- **Sample accounting.**  A run over a set of mode tasks is accounted for, whatever succeeds
and fails, if and only if every sample that fails keeps the size of its task, and the samples
that a loop takes of a task fit 32 bits. -/
theorem samples_accounted_iff (r : TaskRun) (fuel : ℕ) (artifact : Artifact)
    (h : toBenchmarkArtifact fuel r.testRun = .ok (some artifact)) :
    r.Accounted artifact ↔ r.Kept ∧ r.Fits := by
  have hmade := made h
  obtain ⟨hoverhead, hpilot, _⟩ := r.dvd_bursts
  constructor
  · intro hall
    have hkept : r.Kept := by
      intro b t i hb ht hi hfail
      obtain ⟨a, ha, hp⟩ := exists_published hb hi ht
      obtain ⟨k, hk, hid, hsuccess, _⟩ := hp.lastTry
      obtain ⟨x, hx, hxid, hxsuccess, hxcase⟩ := sample_of_attempt hmade ha
      have hbad : x.success = false := by rw [hxsuccess, hsuccess, hfail k hk]
      have hcase := (hall.failures x hx hbad i k hb ht (hxid.trans hid)).1
      exact (caseId_eq_iff hb ht hp).mp (hxcase.symm.trans hcase) hfail
    exact ⟨hkept, (counts_iff hkept _ hoverhead pilot_le).mp hall.pilot,
      (counts_iff hkept _ hpilot measured_le).mp hall.measured⟩
  · rintro ⟨hkept, hpilotFits, hmeasuredFits⟩
    refine ⟨(counts_iff hkept _ hoverhead pilot_le).mpr hpilotFits,
      (counts_iff hkept _ hpilot measured_le).mpr hmeasuredFits, ?_, ?_⟩
    · intro case hcase hstack
      obtain ⟨a, ha, hid, hastack⟩ := attempt_of_case hmade hcase
      cases origin_of_mem ha with
      | warmup _ _ ht hwarm => exact ⟨_, ht, hid.trans hwarm⟩
      | task hb hi ht hp =>
          exact ⟨_, mem_tasks_of_taskAt ht, hid.trans (caseId_of_kept hkept hb hi ht hp)⟩
      | stack hagainst => exact absurd (hastack.symm.trans hstack) hagainst.httpStack
    · intro x hx _ b t i k hb ht hxid
      obtain ⟨a, ha, haid, _, hxcase⟩ := attempt_of_sample hmade hx
      -- The id of the sample tells its burst, and with it its task.
      have hcase : caseId a = taskCaseId t := by
        cases origin_of_mem ha with
        | warmup hs hid _ _ =>
            have hsite := r.env.fresh (hid.symm.trans (haid.symm.trans hxid))
            rw [hsite, warmupSites] at hs
            exact absurd hs (by simp)
        | task hb' hi' ht' hp =>
            obtain ⟨k', _, hid, _⟩ := hp.lastTry
            have hsite := r.env.fresh (hid.symm.trans (haid.symm.trans hxid))
            cases hsite
            rw [ht] at ht'
            cases ht'
            exact caseId_of_kept hkept hb' hi' ht hp
        | stack hagainst =>
            obtain ⟨b', i', k', hb', hid⟩ := hagainst.tryAt
            have hsite := r.env.fresh (hid.symm.trans (haid.symm.trans hxid))
            cases hsite
            omega
      rw [hxcase, ← hcase]
      exact ⟨rfl, fun _ => summary_of_attempt hmade ha⟩

end Accounting

/-! ### Two benchmarks of one task -/

/-- A benchmark of two samples. -/
def twoSamples : ResolvedConfig where
  runs := 2
  retries := 0
  samples := 1
  connectionReuse := false
  benchmarkMode := true
  benchmarkMinSamples := some 2
  benchmarkMaxSamples := some 2
  benchmarkOverheadSamples := some 0
  benchmarkCooldownSamples := some 0

/-- The probes of one task with a payload. -/
def probesOf (p : Protocol) (size : ℕ) (behaviour : Site → Behaviour) : Probes where
  outcome s :=
    let a : Result := match s with
      | .tryAt _ _ _ => dispatchOnce p (some size) (behaviour s)
      | _ => ⟨(behaviour s).report.success, (behaviour s).report.results⟩
    { attemptId := siteId s
      startedAt := 0
      finishedAt := some 1000
      success := a.success
      results := a.results }
  fresh := siteId_injective
  completion := id
  complete := Probes.perm_id
  stackAvailable _ := true

/-- The benchmark of one task with a payload. -/
def benchmarkOf (p : Protocol) (size : ℕ) (hp : hasPayload p = true)
    (behaviour : Site → Behaviour) : TaskRun where
  cfg := twoSamples
  env := probesOf p size behaviour
  around := quiet
  modes := [p]
  payloadSizes := [size]
  behaviour
  modes_ne := List.cons_ne_nil _ _
  modes_nodup := List.nodup_singleton _
  sizes_ne _ _ _ := List.cons_ne_nil _ _
  sizes_nodup := List.nodup_singleton _
  dispatched {b t} i k _ ht := by
    have htasks : modeTasks [p] [size] = [(p, some size)] := by simp [modeTasks, hp]
    rw [taskAt, htasks, List.length_singleton, Nat.mod_one] at ht
    cases ht
    exact ⟨rfl, rfl⟩
  warmedUp s hs := by
    rcases List.mem_cons.mp hs with rfl | hs
    · rfl
    · rw [List.mem_singleton.mp hs]
      rfl

/-- A benchmark of few attempts has an artifact. -/
lemma exists_artifact {r : TaskRun} (hmode : r.cfg.benchmarkMode = true)
    (hfew : r.testRun.attempts.length < StatsShape.mvalueMinSamples) :
    ∃ artifact, toBenchmarkArtifact 0 r.testRun = .ok (some artifact) := by
  obtain ⟨artifact, hof⟩ := Option.isSome_iff_exists.mp
    (artifactOf_of_few r.cfg.benchmarkPhase 0 r.cfg.benchmarkScenario hfew)
  have hphase : r.testRun.benchmarkPhase = some r.cfg.benchmarkPhase := if_pos hmode
  have hscenario : r.testRun.benchmarkScenario = some r.cfg.benchmarkScenario := if_pos hmode
  refine ⟨artifact, ?_⟩
  rw [toBenchmarkArtifact, hphase, hscenario]
  exact congrArg Except.ok hof

/-- Nothing is reported but by probes with a payload. -/
def plainReport : Report where
  success := true
  results := {}
  http _ h := absurd h (Option.not_mem_none _)
  udpThroughput := rfl

/-- A UDP server that answers one download and is silent from then on. -/
def silentServer (s : Site) : Behaviour where
  offersH3 := true
  stalls := false
  exchange := { response := none }
  transfer := match s with
    | .tryAt 0 _ _ => .ok ⟨1, 1024, 8.0⟩
    | _ => downloaded (UdpThroughput.runUdpdownloadProbe 1024 ⟨1000⟩ 0 []) 0.0
  report := plainReport

/-- A web server that serves one download and refuses the others. -/
def busyServer (s : Site) : Behaviour where
  offersH3 := true
  stalls := false
  exchange :=
    { response := some
        { statusCode := match s with
            | .tryAt 0 _ _ => 200
            | _ => 503
          headersSizeBytes := 200
          bodySizeBytes := 1024
          ttfbMs := 4.0
          totalDurationMs := 12.0 } }
  transfer := .error ""
  report := plainReport

/-- Two downloads, of which the second is refused, are accounted for. -/
theorem samples_accounted_iff_busy : ∃ artifact,
    toBenchmarkArtifact 0 (benchmarkOf .download 1024 rfl busyServer).testRun =
        .ok (some artifact) ∧
      (benchmarkOf .download 1024 rfl busyServer).Accounted artifact := by
  obtain ⟨artifact, h⟩ :=
    exists_artifact (r := benchmarkOf .download 1024 rfl busyServer) rfl (by decide +kernel)
  refine ⟨artifact, h, (samples_accounted_iff _ 0 artifact h).mpr ⟨?_, ?_, ?_⟩⟩
  · intro b t i hb ht _ _
    have htask : t = (.download, some 1024) := by
      have hmem := mem_tasks_of_taskAt ht
      simpa [tasks, benchmarkOf, modeTasks, hasPayload] using hmem
    rw [htask]
    rfl
  · decide +kernel
  · decide +kernel

/-- Two downloads over UDP, of which the second is not answered: after two iterations the
criteria count one sample. -/
theorem silent_server_uncounted : ∃ artifact,
    toBenchmarkArtifact 0 (benchmarkOf .udpDownload 1024 rfl silentServer).testRun =
        .ok (some artifact) ∧
      ¬ (benchmarkOf .udpDownload 1024 rfl silentServer).Accounted artifact := by
  obtain ⟨artifact, h⟩ :=
    exists_artifact (r := benchmarkOf .udpDownload 1024 rfl silentServer) rfl (by decide +kernel)
  refine ⟨artifact, h, fun hall => ?_⟩
  have hcount := hall.measured ⟨2, 2, 0, none, none⟩ 2 (by decide +kernel)
  exact absurd hcount (by decide)

end TaskRun

end TargetRunner

end Networker
