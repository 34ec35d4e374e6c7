/-
The completion status of a dashboard benchmark against what was run.

* `Truthful`: what the status promises;
* `Counted`, `Uncounted`: what a testbed counts as a failure, and what it leaves out without
  a count;
* `languageWork_honest`, `pairWork_honest`: a language counts as completed if and only if all
  its steps succeeded;
* `runLanguages_quiet`, `runProxies_quiet`: the counters and the events of the loops of a run
  that is not cancelled;
* `executeTestbed_quiet`: how a testbed of such a run ends;
* `truthful_iff_accounted`: when the status is truthful.
-/
import Mathlib.Data.List.TakeWhile
import Networker.BenchOrchestrator.Cycle

namespace Networker

open Data

namespace BenchOrchestrator

/-! ### What was run -/

/-- The languages a testbed has to run, behind each proxy in an application benchmark. -/
def wanted (config : DashboardBenchmarkConfig) (testbed : TestbedConfig) :
    List (Option ℕ × ℕ) :=
  if config.isApplication then
    (List.range testbed.proxies.length).flatMap fun p =>
      (List.range testbed.languages.length).map fun j => (some p, j)
  else (List.range testbed.languages.length).map fun j => (none, j)

/-- A testbed ran everything it had to run, and everything it ran succeeded. -/
structure Covered (config : DashboardBenchmarkConfig) (testbed : TestbedConfig × ℕ)
    (events : List Event) : Prop where
  ran : ∀ w ∈ wanted config testbed.1, ∃ a, .attempt a ∈ events ∧
    a.testbed = testbed.2 ∧ a.proxy = w.1 ∧ a.language = w.2
  succeeded : ∀ a, .attempt a ∈ events → a.testbed = testbed.2 → a.succeeded = true

/-- The completion status of a run is truthful. -/
structure Truthful (config : DashboardBenchmarkConfig) (run : Run) : Prop where
  completed : run.status = "completed" →
    ∀ testbed ∈ config.testbeds.zipIdx, Covered config testbed run.events
  cancelled : (∃ m, .cancelled m ∈ run.events) → run.status = "cancelled"
  queued : .terminalStatus "queued" ∈ run.events → run.status ≠ "completed"

/-! ### Honest work -/

section Work

variable {trial : Trial} {a b : Work}

/-- Work counts as a success if and only if all its steps succeeded. -/
def Work.Honest (w : Work) : Prop := w.ok = w.steps.all (·.2)

lemma honest_nothing : Work.nothing.Honest := rfl

lemma Work.Honest.and (ha : a.Honest) (hb : b.Honest) : (a.and b).Honest := by
  rw [Work.Honest, Work.and, List.all_append, ← ha, ← hb]

variable (trial) in
lemma honest_runStep (step : Step) : (runStep trial step).Honest := by
  simp [Work.Honest, runStep]

variable (trial) in
lemma honest_runAndReport (run report : Step) : (runAndReport trial run report).Honest := by
  rw [runAndReport]
  split
  · exact (honest_runStep trial run).and (honest_runStep trial report)
  · exact honest_runStep trial run

variable (trial) in
lemma honest_runEach (run report : ℕ → Step) (n : ℕ) : (runEach trial run report n).Honest := by
  induction n with
  | zero => exact honest_nothing
  | succ n ih =>
      rw [runEach, List.range_succ, List.foldl_append]
      exact ih.and (honest_runAndReport trial (run n) (report n))

variable (trial) in
lemma honest_apibench (methodology : MethodologyConfig) (language : String) :
    (apibench trial methodology language).Honest := by
  rw [apibench, runApibenchSuite]
  split_ifs
  · exact honest_nothing
  · exact honest_runStep trial _
  · exact (honest_runStep trial _).and (honest_runEach trial _ _ _)
  · exact honest_nothing

variable (trial) in
/-- A language counts as completed if and only if all its steps succeeded. -/
lemma languageWork_honest (methodology : MethodologyConfig) (language : String) :
    (languageWork trial methodology language).Honest := by
  rw [languageWork]
  split_ifs
  · exact honest_runStep trial _
  · exact ((honest_runStep trial _).and honest_nothing).and (honest_apibench trial _ _)
  · exact ((honest_runStep trial _).and (honest_runAndReport trial _ _)).and
      (honest_apibench trial _ _)

variable (trial) in
/-- A language behind a proxy counts as completed if and only if all its steps succeeded. -/
lemma pairWork_honest (methodology : MethodologyConfig) (proxy language : String) :
    (pairWork trial methodology proxy language).Honest := by
  rw [pairWork]
  split_ifs
  · exact honest_runStep trial _
  · exact ((honest_runStep trial _).and (honest_runEach trial _ _ _)).and
      (honest_apibench trial _ _)

end Work

/-! ### What is counted -/

section Counted

variable (config : DashboardBenchmarkConfig) (o : Outcomes) (i : ℕ) (testbed : TestbedConfig)

/-- The work for a language of a testbed. -/
def workOf (language : String × ℕ) : Work :=
  languageWork ((o.testbed i).language language.2) config.methodology language.1

/-- The work for a language behind a proxy. -/
def workBehind (proxy language : String × ℕ) : Work :=
  pairWork ((o.testbed i).pair proxy.2 language.2) config.methodology proxy.1 language.1

/-- The proxies in front of the deadline. -/
def inTime : List (String × ℕ) :=
  testbed.proxies.zipIdx.takeWhile fun proxy => !(o.testbed i).pastDeadline proxy.2

/-- What fails behind a proxy. -/
def proxyFailures (proxy : String × ℕ) : ℕ :=
  if (o.testbed i).proxyDeployed proxy.2 then
    (matrixLanguages testbed).countP fun language => !(workBehind config o i proxy language).ok
  else testbed.languages.length

/-- How many languages, or languages behind proxies, fail on a testbed. -/
def failures : ℕ :=
  if config.isApplication then
    if (o.testbed i).tokenDeployed then
      ((inTime o i testbed).map (proxyFailures config o i testbed)).sum
    else testbed.proxies.length * (matrixLanguages testbed).length
  else testbed.languages.zipIdx.countP fun language => !(workOf config o i language).ok

/-- A testbed has a VM that can be reached. -/
def vmReady : Bool :=
  match (o.testbed i).resolveVm with
  | none => false
  | some provisioned => !provisioned || (o.testbed i).sshReady

/-- Nothing keeps a testbed from running its languages. -/
structure Starts : Prop where
  vm : vmReady o i = true
  tester : config.isApplication = true → (o.testbed i).testerFound = true
  lock : config.isApplication = true → lockEnd (o.testbed i) = .acquired
  panic : config.isApplication = true → (o.testbed i).panicAfter = none

/-- What makes a testbed count as failed. -/
inductive Counted : Prop
  | vm (h : vmReady o i = false)
  | tester (happlication : config.isApplication = true) (h : (o.testbed i).testerFound = false)
  | lock (happlication : config.isApplication = true) (h : lockEnd (o.testbed i) = .failed)
  | panic (happlication : config.isApplication = true)
      (hlock : lockEnd (o.testbed i) = .acquired) (h : (o.testbed i).panicAfter.isSome)
  | failures (hstarts : Starts config o i)
      (h : UInt32.ofNat (failures config o i testbed) ≠ 0)

/-- What a testbed leaves out, or fails at, without a count. -/
inductive Uncounted : Prop
  | queued (happlication : config.isApplication = true) (h : lockEnd (o.testbed i) = .queued)
  | deadline (happlication : config.isApplication = true) (p : ℕ)
      (hp : p < testbed.proxies.length) (h : (o.testbed i).pastDeadline p = true)
  | system (happlication : config.isApplication = true) (language : String)
      (hlanguage : language ∈ testbed.languages) (h : runsOn testbed language = false)
  | wrapped (hpos : failures config o i testbed ≠ 0)
      (h : UInt32.ofNat (failures config o i testbed) = 0)

/-- The dashboard says that the run is cancelled, between two languages of a testbed. -/
def SaysCancelled : Prop :=
  config.isApplication = false ∧ vmReady o i = true ∧
    ∃ j < testbed.languages.length, (o.testbed i).checkCancelled j = some true

end Counted

/-- Whatever is left out of a run is counted, or the run is known to be cancelled. -/
def Accounted (config : DashboardBenchmarkConfig) (o : Outcomes) : Prop :=
  o.raised .atEnd = true ∨
    (∀ t ∈ config.testbeds.zipIdx, ¬ SaysCancelled config o t.2 t.1) ∧
      ((∃ t ∈ config.testbeds.zipIdx, Counted config o t.2 t.1) ∨
        ∀ t ∈ config.testbeds.zipIdx, ¬ Uncounted config o t.2 t.1)

/-! ### The loops of a run that is not cancelled -/

section Loops

variable {config : DashboardBenchmarkConfig} {o : Outcomes} {i : ℕ} {testbed : TestbedConfig}

/-- What was run for a language. -/
def attemptOf (config : DashboardBenchmarkConfig) (o : Outcomes) (i : ℕ)
    (language : String × ℕ) : Attempt :=
  ⟨i, none, language.2, (workOf config o i language).steps⟩

/-- What was run for a language behind a proxy. -/
def attemptBehind (config : DashboardBenchmarkConfig) (o : Outcomes) (i : ℕ)
    (proxy language : String × ℕ) : Attempt :=
  ⟨i, some proxy.2, language.2, (workBehind config o i proxy language).steps⟩

/-- What was run behind a proxy. -/
def attemptsBehind (config : DashboardBenchmarkConfig) (o : Outcomes) (i : ℕ)
    (testbed : TestbedConfig) (proxy : String × ℕ) : List Attempt :=
  if (o.testbed i).proxyDeployed proxy.2 then
    (matrixLanguages testbed).map (attemptBehind config o i proxy)
  else []

/-- One work is counted. -/
lemma failed_count (tally : Tally) (proxy : Option ℕ) (j : ℕ) (work : Work) :
    (tally.count i proxy j work).failed =
      tally.failed + UInt32.ofNat (if !work.ok then 1 else 0) := by
  rw [Tally.count]
  cases work.ok
  · rfl
  · exact (UInt32.add_zero _).symm

variable (config) in
/-- The languages of a testbed, if no check says that the run is cancelled. -/
lemma runLanguages_quiet (hquiet : ∀ m, o.raised m = false) {languages : List (String × ℕ)}
    (hcheck : ∀ x ∈ languages, (o.testbed i).checkCancelled x.2 ≠ some true) (tally : Tally) :
    (runLanguages config o i languages tally).failed = tally.failed +
        UInt32.ofNat (languages.countP fun language => !(workOf config o i language).ok) ∧
      (runLanguages config o i languages tally).events =
        tally.events ++ (languages.map (attemptOf config o i)).map .attempt := by
  induction languages generalizing tally with
  | nil => exact ⟨(UInt32.add_zero _).symm, (List.append_nil _).symm⟩
  | cons x rest ih =>
      obtain ⟨hx, hrest⟩ := List.forall_mem_cons.mp hcheck
      obtain ⟨hfailed, hevents⟩ := ih hrest (tally.count i none x.2 (workOf config o i x))
      have hstep : runLanguages config o i (x :: rest) tally =
          runLanguages config o i rest (tally.count i none x.2 (workOf config o i x)) := by
        rw [runLanguages, if_neg (by rw [hquiet]; exact Bool.false_ne_true), if_neg hx]
        rfl
      constructor
      · rw [hstep, hfailed, failed_count, UInt32.add_assoc, ← UInt32.ofNat_add,
          List.countP_cons, Nat.add_comm]
      · rw [hstep, hevents, Tally.count, List.map_cons, List.map_cons, List.append_assoc]
        rfl

variable (config) in
/-- The languages of a testbed, if a check says that the run is cancelled. -/
lemma runLanguages_cancelled (hquiet : ∀ m, o.raised m = false)
    {languages : List (String × ℕ)}
    (hcheck : ∃ x ∈ languages, (o.testbed i).checkCancelled x.2 = some true) (tally : Tally) :
    ∃ m, Event.cancelled m ∈ (runLanguages config o i languages tally).events := by
  induction languages generalizing tally with
  | nil =>
      obtain ⟨x, hx, _⟩ := hcheck
      exact absurd hx List.not_mem_nil
  | cons x rest ih =>
      rw [runLanguages, if_neg (by rw [hquiet]; exact Bool.false_ne_true)]
      by_cases hx : (o.testbed i).checkCancelled x.2 = some true
      · rw [if_pos hx]
        exact ⟨_, List.mem_append_right _ (List.mem_singleton_self _)⟩
      · rw [if_neg hx]
        obtain ⟨y, hy, hcancelled⟩ := hcheck
        rcases List.mem_cons.mp hy with rfl | hy
        · exact absurd hcancelled hx
        · exact ih ⟨y, hy, hcancelled⟩ _

variable (config i) in
/-- The languages behind a proxy. -/
lemma runPairs_quiet (hquiet : ∀ m, o.raised m = false) (proxy : String × ℕ)
    (languages : List (String × ℕ)) (tally : Tally) :
    (runPairs config o i proxy languages tally).failed = tally.failed + UInt32.ofNat
        (languages.countP fun language => !(workBehind config o i proxy language).ok) ∧
      (runPairs config o i proxy languages tally).events = tally.events ++
        (languages.map (attemptBehind config o i proxy)).map .attempt := by
  induction languages generalizing tally with
  | nil => exact ⟨(UInt32.add_zero _).symm, (List.append_nil _).symm⟩
  | cons x rest ih =>
      obtain ⟨hfailed, hevents⟩ :=
        ih (tally.count i (some proxy.2) x.2 (workBehind config o i proxy x))
      have hstep : runPairs config o i proxy (x :: rest) tally =
          runPairs config o i proxy rest
            (tally.count i (some proxy.2) x.2 (workBehind config o i proxy x)) := by
        rw [runPairs, if_neg (by rw [hquiet]; exact Bool.false_ne_true)]
        rfl
      constructor
      · rw [hstep, hfailed, failed_count, UInt32.add_assoc, ← UInt32.ofNat_add,
          List.countP_cons, Nat.add_comm]
      · rw [hstep, hevents, Tally.count, List.map_cons, List.map_cons, List.append_assoc]
        rfl

variable (config i testbed) in
/-- The proxies of a testbed, up to the deadline. -/
lemma runProxies_quiet (hquiet : ∀ m, o.raised m = false) (proxies : List (String × ℕ))
    (tally : Tally) :
    (runProxies config o i testbed proxies tally).failed = tally.failed + UInt32.ofNat
        (((proxies.takeWhile fun proxy => !(o.testbed i).pastDeadline proxy.2).map
          (proxyFailures config o i testbed)).sum) ∧
      (runProxies config o i testbed proxies tally).events = tally.events ++
        ((proxies.takeWhile fun proxy => !(o.testbed i).pastDeadline proxy.2).flatMap
          (attemptsBehind config o i testbed)).map .attempt := by
  induction proxies generalizing tally with
  | nil => exact ⟨(UInt32.add_zero _).symm, (List.append_nil _).symm⟩
  | cons proxy rest ih =>
      rw [runProxies, if_neg (by rw [hquiet]; exact Bool.false_ne_true)]
      by_cases hdeadline : (o.testbed i).pastDeadline proxy.2 = true
      · rw [if_pos hdeadline, List.takeWhile_cons, if_neg (by simp [hdeadline])]
        exact ⟨(UInt32.add_zero _).symm, (List.append_nil _).symm⟩
      · rw [if_neg hdeadline, List.takeWhile_cons_of_pos (by simpa using hdeadline),
          List.map_cons, List.sum_cons, List.flatMap_cons, List.map_append]
        by_cases hdeployed : (o.testbed i).proxyDeployed proxy.2 = true
        · have hpairs := runPairs_quiet config i hquiet proxy (matrixLanguages testbed) tally
          obtain ⟨hfailed, hevents⟩ :=
            ih (runPairs config o i proxy (matrixLanguages testbed) tally)
          rw [if_neg (by simp [hdeployed]), hfailed, hevents, hpairs.1, hpairs.2, proxyFailures,
            if_pos hdeployed, attemptsBehind, if_pos hdeployed, UInt32.ofNat_add,
            UInt32.add_assoc, List.append_assoc]
          exact ⟨rfl, rfl⟩
        · obtain ⟨hfailed, hevents⟩ := ih
            { tally with failed := tally.failed + UInt32.ofNat testbed.languages.length }
          rw [if_pos (by simpa using hdeployed), hfailed, hevents, proxyFailures,
            if_neg hdeployed, attemptsBehind, if_neg hdeployed, UInt32.ofNat_add,
            UInt32.add_assoc]
          exact ⟨rfl, rfl⟩

end Loops

/-! ### The testbeds of a run that is not cancelled -/

section Testbeds

variable {config : DashboardBenchmarkConfig} {o : Outcomes} {i : ℕ} {testbed : TestbedConfig}

/-- What was run on a testbed. -/
def attempts (config : DashboardBenchmarkConfig) (o : Outcomes) (i : ℕ)
    (testbed : TestbedConfig) : List Attempt :=
  if config.isApplication then
    if (o.testbed i).tokenDeployed then
      (inTime o i testbed).flatMap (attemptsBehind config o i testbed)
    else []
  else testbed.languages.zipIdx.map (attemptOf config o i)

/-- Events that say nothing about what was run, was cancelled or is queued. -/
def Neutral (events : List Event) : Prop :=
  ∀ e ∈ events, (∃ i s, e = .status i s) ∨ (∃ i, e = .teardown i) ∨
    ∃ s, e = .terminalStatus s ∧ s ≠ "queued"

/-- How a testbed of a run that is not cancelled ends. -/
inductive Ends (config : DashboardBenchmarkConfig) (o : Outcomes) (i : ℕ)
    (testbed : TestbedConfig) : TestbedEnd → Prop
  | failed {events : List Event} (h : Counted config o i testbed)
      (hcancelled : ∀ m, .cancelled m ∉ events) : Ends config o i testbed ⟨none, events⟩
  | queued {outcome : TestbedOutcome} (hvm : vmReady o i = true)
      (happlication : config.isApplication = true) (htester : (o.testbed i).testerFound = true)
      (hlock : lockEnd (o.testbed i) = .queued) (hfailed : outcome.languagesFailed = 0) :
      Ends config o i testbed ⟨some outcome, [.terminalStatus "queued"]⟩
  | ran {outcome : TestbedOutcome} {rest : List Event} (hstarts : Starts config o i)
      (hfailed : outcome.languagesFailed = UInt32.ofNat (failures config o i testbed))
      (hrest : Neutral rest) :
      Ends config o i testbed
        ⟨some outcome, (attempts config o i testbed).map .attempt ++ rest⟩

lemma applicationStatus_ne_queued (completed failed : UInt32) :
    applicationStatus completed failed ≠ "queued" := by
  rw [applicationStatus]
  split_ifs <;> decide

variable (i testbed) in
/-- What the matrix of a testbed counts and does. -/
lemma runApplicationMatrix_quiet (hquiet : ∀ m, o.raised m = false)
    (happlication : config.isApplication = true) :
    (runApplicationMatrix config o i testbed).failed =
        UInt32.ofNat (failures config o i testbed) ∧
      ∃ rest, Neutral rest ∧ (runApplicationMatrix config o i testbed).events =
        (attempts config o i testbed).map .attempt ++ rest := by
  rw [runApplicationMatrix, failures, attempts, if_pos happlication, if_pos happlication]
  by_cases htoken : (o.testbed i).tokenDeployed = true
  · obtain ⟨hfailed, hevents⟩ :=
      runProxies_quiet config i testbed hquiet testbed.proxies.zipIdx {}
    rw [if_neg (by simp [htoken]), if_pos htoken, if_pos htoken]
    refine ⟨hfailed.trans (UInt32.zero_add _), _, ?_, congrArg (· ++ _) hevents⟩
    intro e he
    exact Or.inl ⟨_, _, List.mem_singleton.mp he⟩
  · rw [if_pos (by simpa using htoken), if_neg htoken, if_neg htoken]
    exact ⟨rfl, [], nofun, rfl⟩

/-- How an application benchmark ends on a testbed with a VM. -/
lemma executeTestbedApplication_quiet (hquiet : ∀ m, o.raised m = false)
    (happlication : config.isApplication = true) (hvm : vmReady o i = true)
    (provisioned : Bool) :
    Ends config o i testbed
      (executeTestbedApplication config o i testbed provisioned) := by
  rw [executeTestbedApplication]
  by_cases htester : (o.testbed i).testerFound = true
  · rw [if_neg (by simp [htester])]
    cases hlock : lockEnd (o.testbed i) with
    | failed => exact .failed (.lock happlication hlock) (by simp)
    | queued => exact .queued hvm happlication htester hlock rfl
    | acquired =>
        obtain ⟨hfailed, rest, hrest, hevents⟩ :=
          runApplicationMatrix_quiet i testbed hquiet happlication
        cases hpanic : (o.testbed i).panicAfter with
        | some n =>
            refine .failed (.panic happlication hlock (by rw [hpanic]; rfl)) fun m hm => ?_
            rcases List.mem_append.mp hm with hm | hm
            · have hmem := List.mem_of_mem_take hm
              rw [hevents] at hmem
              rcases List.mem_append.mp hmem with hmem | hmem
              · obtain ⟨_, _, h⟩ := List.mem_map.mp hmem
                cases h
              · rcases hrest _ hmem with ⟨_, _, h⟩ | ⟨_, h⟩ | ⟨_, h, _⟩ <;> cases h
            · cases List.mem_singleton.mp hm
        | none =>
            simp only
            rw [hevents, List.append_assoc]
            refine .ran ⟨hvm, fun _ => htester, fun _ => hlock, fun _ => hpanic⟩ hfailed ?_
            intro e he
            rcases List.mem_append.mp he with he | he
            · exact hrest e he
            · exact Or.inr (Or.inr ⟨_, List.mem_singleton.mp he,
                applicationStatus_ne_queued _ _⟩)
  · rw [if_pos (by simpa using htester)]
    exact .failed (.tester happlication (by simpa using htester)) nofun

/-- How a testbed ends if the run is not cancelled. -/
lemma executeTestbed_quiet (hquiet : ∀ m, o.raised m = false)
    (hdashboard : ¬ SaysCancelled config o i testbed) :
    Ends config o i testbed (executeTestbed config o i testbed) := by
  rw [executeTestbed]
  cases hresolve : (o.testbed i).resolveVm with
  | none => exact .failed (.vm (by rw [vmReady, hresolve])) nofun
  | some provisioned =>
      by_cases hssh : (provisioned && !(o.testbed i).sshReady) = true
      · simp only
        rw [if_pos hssh]
        refine .failed (.vm ?_) nofun
        rw [vmReady, hresolve]
        simpa using hssh
      · have hvm : vmReady o i = true := by
          rw [vmReady, hresolve]
          simpa [Bool.or_eq_true, imp_iff_not_or] using hssh
        simp only
        rw [if_neg hssh]
        by_cases happlication : config.isApplication = true
        · rw [if_pos happlication]
          exact executeTestbedApplication_quiet hquiet happlication hvm provisioned
        · have hcheck : ∀ x ∈ testbed.languages.zipIdx,
              (o.testbed i).checkCancelled x.2 ≠ some true := by
            intro x hx hanswer
            exact hdashboard ⟨by simpa using happlication, hvm, x.2,
              (List.mem_zipIdx' hx).1, hanswer⟩
          obtain ⟨hfailed, hevents⟩ := runLanguages_quiet config hquiet hcheck {}
          rw [if_neg happlication, hevents]
          have hattempts : attempts config o i testbed =
              testbed.languages.zipIdx.map (attemptOf config o i) := if_neg happlication
          have hfailures : failures config o i testbed = testbed.languages.zipIdx.countP
              fun language => !(workOf config o i language).ok := if_neg happlication
          rw [← hattempts]
          refine .ran ⟨hvm, fun h => absurd h happlication, fun h => absurd h happlication,
            fun h => absurd h happlication⟩ ?_ ?_
          · rw [hfailures]
            exact hfailed.trans (UInt32.zero_add _)
          · intro e he
            exact Or.inl ⟨_, _, List.mem_singleton.mp he⟩

lemma pos_iff_ne_zero (n : UInt32) : 0 < n ↔ n ≠ 0 := by
  rw [UInt32.lt_iff_toNat_lt, ← UInt32.toNat_inj.ne]
  exact Nat.pos_iff_ne_zero

/-- A testbed is a failure of the run if and only if it counts as failed. -/
lemma Ends.anyFailure_iff {e : TestbedEnd} (h : Ends config o i testbed e) :
    e.anyFailure = true ↔ Counted config o i testbed := by
  cases h with
  | failed h _ => exact ⟨fun _ => h, fun _ => rfl⟩
  | queued hvm happlication htester hlock hfailed =>
      refine ⟨fun h => ?_, fun h => ?_⟩
      · rw [TestbedEnd.anyFailure, decide_eq_true_iff, hfailed] at h
        exact absurd h (by decide)
      · cases h with
        | vm h => exact absurd (hvm.symm.trans h) (by decide)
        | tester _ h => exact absurd (htester.symm.trans h) (by decide)
        | lock _ h => exact absurd (hlock.symm.trans h) (by decide)
        | panic _ h _ => exact absurd (hlock.symm.trans h) (by decide)
        | failures h _ => exact absurd (hlock.symm.trans (h.lock happlication)) (by decide)
  | ran hstarts hfailed _ =>
      rw [TestbedEnd.anyFailure, decide_eq_true_iff, hfailed, pos_iff_ne_zero]
      refine ⟨fun h => .failures hstarts h, fun h => ?_⟩
      cases h with
      | vm h => exact absurd (hstarts.vm.symm.trans h) (by decide)
      | tester ha h => exact absurd ((hstarts.tester ha).symm.trans h) (by decide)
      | lock ha h => exact absurd ((hstarts.lock ha).symm.trans h) (by decide)
      | panic ha _ h =>
          rw [hstarts.panic ha] at h
          cases h
      | failures _ h => exact h

/-- The attempts among the events of a testbed that does not count as failed. -/
lemma Ends.attempts {e : TestbedEnd} (h : Ends config o i testbed e)
    (hcounted : ¬ Counted config o i testbed) {a : Attempt} (ha : .attempt a ∈ e.events) :
    Starts config o i ∧ a ∈ BenchOrchestrator.attempts config o i testbed := by
  cases h with
  | failed h _ => exact absurd h hcounted
  | queued => cases List.mem_singleton.mp ha
  | ran hstarts _ hrest =>
      rcases List.mem_append.mp ha with ha | ha
      · obtain ⟨b, hb, hab⟩ := List.mem_map.mp ha
        cases hab
        exact ⟨hstarts, hb⟩
      · rcases hrest _ ha with ⟨_, _, h⟩ | ⟨_, h⟩ | ⟨_, h, _⟩ <;> cases h

/-- What is run on a testbed has its number. -/
lemma testbed_of_mem_attempts {a : Attempt} (ha : a ∈ attempts config o i testbed) :
    a.testbed = i := by
  rw [attempts] at ha
  split_ifs at ha
  · obtain ⟨proxy, _, ha⟩ := List.mem_flatMap.mp ha
    rw [attemptsBehind] at ha
    split_ifs at ha
    · obtain ⟨_, _, rfl⟩ := List.mem_map.mp ha
      rfl
    · cases ha
  · cases ha
  · obtain ⟨_, _, rfl⟩ := List.mem_map.mp ha
    rfl

/-- Nothing is cancelled on a testbed of a run that is not cancelled. -/
lemma Ends.not_cancelled {e : TestbedEnd} (h : Ends config o i testbed e) (m : Moment) :
    .cancelled m ∉ e.events := by
  cases h with
  | failed _ h => exact h m
  | queued => exact fun h => nomatch List.mem_singleton.mp h
  | ran _ _ hrest =>
      intro h
      rcases List.mem_append.mp h with h | h
      · obtain ⟨_, _, h⟩ := List.mem_map.mp h
        cases h
      · rcases hrest _ h with ⟨_, _, h⟩ | ⟨_, h⟩ | ⟨_, h, _⟩ <;> cases h

/-- A testbed that does not count as failed is queued by the lock of its tester alone. -/
lemma Ends.uncounted_of_queued {e : TestbedEnd} (h : Ends config o i testbed e)
    (hcounted : ¬ Counted config o i testbed) (hqueued : .terminalStatus "queued" ∈ e.events) :
    Uncounted config o i testbed := by
  cases h with
  | failed h _ => exact absurd h hcounted
  | queued _ happlication _ hlock _ => exact .queued happlication hlock
  | ran _ _ hrest =>
      rcases List.mem_append.mp hqueued with h | h
      · obtain ⟨_, _, h⟩ := List.mem_map.mp h
        cases h
      · rcases hrest _ h with ⟨_, _, h⟩ | ⟨_, h⟩ | ⟨_, h, hne⟩
        · cases h
        · cases h
        · cases h
          exact absurd rfl hne

end Testbeds

/-! ### What a testbed covers -/

section Coverage

variable {config : DashboardBenchmarkConfig} {o : Outcomes} {i : ℕ} {testbed : TestbedConfig}

lemma mem_wanted_of_application (h : config.isApplication = true) {w : Option ℕ × ℕ} :
    w ∈ wanted config testbed ↔
      ∃ p < testbed.proxies.length, ∃ j < testbed.languages.length, (some p, j) = w := by
  rw [wanted, if_pos h]
  simp only [List.mem_flatMap, List.mem_map, List.mem_range]

lemma mem_wanted_of_fullstack (h : config.isApplication = false) {w : Option ℕ × ℕ} :
    w ∈ wanted config testbed ↔ ∃ j < testbed.languages.length, (none, j) = w := by
  rw [wanted, if_neg (by simp [h])]
  simp only [List.mem_map, List.mem_range]

lemma mem_attempts_of_application (h : config.isApplication = true) {a : Attempt} :
    a ∈ attempts config o i testbed ↔ (o.testbed i).tokenDeployed = true ∧
      ∃ proxy ∈ inTime o i testbed, (o.testbed i).proxyDeployed proxy.2 = true ∧
        ∃ language ∈ matrixLanguages testbed, attemptBehind config o i proxy language = a := by
  rw [attempts, if_pos h]
  split_ifs with htoken
  · simp only [List.mem_flatMap, attemptsBehind, htoken, true_and]
    refine exists_congr fun proxy => and_congr_right fun _ => ?_
    split_ifs with hdeployed
    · simp [hdeployed]
    · simp [hdeployed]
  · simp [htoken]

lemma mem_attempts_of_fullstack (h : config.isApplication = false) {a : Attempt} :
    a ∈ attempts config o i testbed ↔
      ∃ language ∈ testbed.languages.zipIdx, attemptOf config o i language = a := by
  rw [attempts, if_neg (by simp [h]), List.mem_map]

lemma succeeded_attemptOf (language : String × ℕ) :
    (attemptOf config o i language).succeeded = (workOf config o i language).ok :=
  (languageWork_honest _ _ _).symm

lemma succeeded_attemptBehind (proxy language : String × ℕ) :
    (attemptBehind config o i proxy language).succeeded =
      (workBehind config o i proxy language).ok :=
  (pairWork_honest _ _ _ _).symm

/-- What was run on a testbed covers what it had to run, and succeeded. -/
def Covers (config : DashboardBenchmarkConfig) (o : Outcomes) (i : ℕ)
    (testbed : TestbedConfig) : Prop :=
  (∀ w ∈ wanted config testbed, ∃ a ∈ attempts config o i testbed,
      a.proxy = w.1 ∧ a.language = w.2) ∧
    ∀ a ∈ attempts config o i testbed, a.succeeded = true

/-- Without proxies everything is run. -/
lemma covers_iff_of_fullstack (h : config.isApplication = false) :
    Covers config o i testbed ↔ failures config o i testbed = 0 := by
  have hfailures : failures config o i testbed = 0 ↔
      ∀ language ∈ testbed.languages.zipIdx, (workOf config o i language).ok = true := by
    rw [failures, if_neg (by simp [h]), List.countP_eq_zero]
    simp
  rw [hfailures]
  constructor
  · intro hcovers language hlanguage
    rw [← succeeded_attemptOf]
    exact hcovers.2 _ ((mem_attempts_of_fullstack h).mpr ⟨language, hlanguage, rfl⟩)
  · intro hok
    refine ⟨fun w hw => ?_, fun a ha => ?_⟩
    · obtain ⟨j, hj, rfl⟩ := (mem_wanted_of_fullstack h).mp hw
      have hmem : (testbed.languages[j], j) ∈ testbed.languages.zipIdx :=
        List.mk_mem_zipIdx_iff_getElem?.mpr (List.getElem?_eq_getElem hj)
      exact ⟨_, (mem_attempts_of_fullstack h).mpr ⟨_, hmem, rfl⟩, rfl, rfl⟩
    · obtain ⟨language, hlanguage, rfl⟩ := (mem_attempts_of_fullstack h).mp ha
      rw [succeeded_attemptOf]
      exact hok language hlanguage

/-- What an application benchmark needs in order to run everything. -/
structure Complete (config : DashboardBenchmarkConfig) (o : Outcomes) (i : ℕ)
    (testbed : TestbedConfig) : Prop where
  deadline : ∀ p < testbed.proxies.length, (o.testbed i).pastDeadline p = false
  system : ∀ language ∈ testbed.languages, runsOn testbed language = true
  failures : failures config o i testbed = 0

/-- What covers a testbed leaves nothing out. -/
lemma complete_of_covers (h : config.isApplication = true) (hlanguages : testbed.languages ≠ [])
    (hproxies : testbed.proxies ≠ []) (hcovers : Covers config o i testbed) :
    Complete config o i testbed := by
  have hpair : ∀ p < testbed.proxies.length, ∀ j < testbed.languages.length,
      (o.testbed i).tokenDeployed = true ∧
        (∃ proxy ∈ inTime o i testbed, proxy.2 = p ∧ (o.testbed i).proxyDeployed p = true) ∧
          ∃ language ∈ matrixLanguages testbed, language.2 = j := by
    intro p hp j hj
    obtain ⟨a, ha, hproxy, hlanguage⟩ := hcovers.1 (some p, j)
      ((mem_wanted_of_application h).mpr ⟨p, hp, j, hj, rfl⟩)
    obtain ⟨htoken, proxy, hmem, hdeployed, language, hrun, rfl⟩ :=
      (mem_attempts_of_application h).mp ha
    cases hproxy
    exact ⟨htoken, ⟨proxy, hmem, rfl, hdeployed⟩, language, hrun, hlanguage⟩
  have hfirstLanguage := List.length_pos_iff.mpr hlanguages
  have hfirstProxy := List.length_pos_iff.mpr hproxies
  refine ⟨fun p hp => ?_, fun language hlanguage => ?_, ?_⟩
  · obtain ⟨_, ⟨proxy, hmem, rfl, _⟩, _⟩ := hpair p hp 0 hfirstLanguage
    simpa using List.mem_takeWhile_imp hmem
  · obtain ⟨j, hj, rfl⟩ := List.getElem_of_mem hlanguage
    obtain ⟨_, _, other, hmem, rfl⟩ := hpair 0 hfirstProxy j hj
    obtain ⟨hzip, hruns⟩ := List.mem_filter.mp hmem
    rw [(List.mem_zipIdx' hzip).2] at hruns
    exact hruns
  · have htoken := (hpair 0 hfirstProxy 0 hfirstLanguage).1
    rw [failures, if_pos h, if_pos htoken, List.sum_eq_zero_iff]
    intro n hn
    obtain ⟨proxy, hmem, rfl⟩ := List.mem_map.mp hn
    have hzip := (List.takeWhile_sublist _).mem hmem
    obtain ⟨_, ⟨_, _, _, hdeployed⟩, _⟩ :=
      hpair proxy.2 (List.mem_zipIdx' hzip).1 0 hfirstLanguage
    rw [proxyFailures, if_pos hdeployed, List.countP_eq_zero]
    intro language hlanguage
    rw [← succeeded_attemptBehind, hcovers.2 _ ((mem_attempts_of_application h).mpr
      ⟨htoken, proxy, hmem, hdeployed, language, hlanguage, rfl⟩)]
    exact Bool.false_ne_true

/-- Where nothing is left out, everything is run and succeeds. -/
lemma covers_of_complete (h : config.isApplication = true) (hlanguages : testbed.languages ≠ [])
    (hproxies : testbed.proxies ≠ []) (hcomplete : Complete config o i testbed) :
    Covers config o i testbed := by
  have hmatrix : matrixLanguages testbed = testbed.languages.zipIdx := by
    rw [matrixLanguages, List.filter_eq_self]
    intro language hlanguage
    exact hcomplete.system _ (List.fst_mem_of_mem_zipIdx hlanguage)
  have htime : inTime o i testbed = testbed.proxies.zipIdx := by
    rw [inTime, List.takeWhile_eq_self_iff]
    intro proxy hproxy
    rw [hcomplete.deadline _ (List.mem_zipIdx' hproxy).1]
    rfl
  have hfailures := hcomplete.failures
  rw [failures, if_pos h] at hfailures
  split_ifs at hfailures with htoken
  · have hnone : ∀ proxy ∈ testbed.proxies.zipIdx, proxyFailures config o i testbed proxy = 0 := by
      intro proxy hproxy
      rw [List.sum_eq_zero_iff, htime] at hfailures
      exact hfailures _ (List.mem_map_of_mem hproxy)
    have hdeployed : ∀ proxy ∈ testbed.proxies.zipIdx,
        (o.testbed i).proxyDeployed proxy.2 = true := by
      intro proxy hproxy
      have hzero := hnone proxy hproxy
      rw [proxyFailures] at hzero
      split_ifs at hzero with hdeployed
      · exact hdeployed
      · exact absurd (List.eq_nil_of_length_eq_zero hzero) hlanguages
    refine ⟨fun w hw => ?_, fun a ha => ?_⟩
    · obtain ⟨p, hp, j, hj, rfl⟩ := (mem_wanted_of_application h).mp hw
      have hproxy : (testbed.proxies[p], p) ∈ testbed.proxies.zipIdx :=
        List.mk_mem_zipIdx_iff_getElem?.mpr (List.getElem?_eq_getElem hp)
      have hlanguage : (testbed.languages[j], j) ∈ testbed.languages.zipIdx :=
        List.mk_mem_zipIdx_iff_getElem?.mpr (List.getElem?_eq_getElem hj)
      exact ⟨_, (mem_attempts_of_application h).mpr ⟨htoken, _, htime ▸ hproxy,
        hdeployed _ hproxy, _, hmatrix ▸ hlanguage, rfl⟩, rfl, rfl⟩
    · obtain ⟨_, proxy, hproxy, _, language, hlanguage, rfl⟩ :=
        (mem_attempts_of_application h).mp ha
      rw [htime] at hproxy
      have hzero := hnone proxy hproxy
      rw [proxyFailures, if_pos (hdeployed proxy hproxy), List.countP_eq_zero] at hzero
      rw [succeeded_attemptBehind]
      simpa using hzero language hlanguage
  · rw [hmatrix, List.length_zipIdx, Nat.mul_eq_zero] at hfailures
    rcases hfailures with hzero | hzero
    · exact absurd (List.eq_nil_of_length_eq_zero hzero) hproxies
    · exact absurd (List.eq_nil_of_length_eq_zero hzero) hlanguages

/-- A testbed that starts and does not count as failed covers what it had to run if and only
if nothing went without a count. -/
lemma covers_iff (hlanguages : testbed.languages ≠ [])
    (hproxies : config.isApplication = true → testbed.proxies ≠ [])
    (hstarts : Starts config o i) (hcounted : ¬ Counted config o i testbed) :
    Covers config o i testbed ↔ ¬ Uncounted config o i testbed := by
  have hwrap : UInt32.ofNat (failures config o i testbed) = 0 := by
    by_contra h
    exact hcounted (.failures hstarts h)
  have hfailures : ¬ Uncounted config o i testbed → failures config o i testbed = 0 := by
    intro h
    by_contra hne
    exact h (.wrapped hne hwrap)
  cases happlication : config.isApplication with
  | false =>
      rw [covers_iff_of_fullstack happlication]
      refine ⟨fun hzero h => ?_, hfailures⟩
      cases h with
      | queued h _ => exact absurd (happlication.symm.trans h) (by decide)
      | deadline h => exact absurd (happlication.symm.trans h) (by decide)
      | system h => exact absurd (happlication.symm.trans h) (by decide)
      | wrapped h _ => exact h hzero
  | true =>
      constructor
      · intro hcovers h
        obtain ⟨hdeadline, hsystem, hzero⟩ :=
          complete_of_covers happlication hlanguages (hproxies happlication) hcovers
        cases h with
        | queued _ h => exact absurd ((hstarts.lock happlication).symm.trans h) (by decide)
        | deadline _ p hp h => exact absurd ((hdeadline p hp).symm.trans h) (by decide)
        | system _ language hmem h => exact absurd ((hsystem language hmem).symm.trans h) (by decide)
        | wrapped h _ => exact h hzero
      · intro h
        refine covers_of_complete happlication hlanguages (hproxies happlication)
          ⟨fun p hp => ?_, fun language hmem => ?_, hfailures h⟩
        · by_contra hdeadline
          exact h (.deadline happlication p hp (by simpa using hdeadline))
        · by_contra hsystem
          exact h (.system happlication language hmem (by simpa using hsystem))

end Coverage

/-! ### The run -/

section Run

variable {config : DashboardBenchmarkConfig} {o : Outcomes}

/-- How the testbed of a run ends. -/
def endOf (config : DashboardBenchmarkConfig) (o : Outcomes) (t : TestbedConfig × ℕ) :
    TestbedEnd :=
  executeTestbed config o t.2 t.1

/-- The events of a testbed of a run. -/
def eventsOf (config : DashboardBenchmarkConfig) (o : Outcomes) (t : TestbedConfig × ℕ) :
    List Event :=
  (endOf config o t).events ++ teardown config t.2 (endOf config o t)

/-- The testbeds of a run that is not cancelled. -/
lemma runTestbeds_quiet (hquiet : ∀ m, o.raised m = false)
    (testbeds : List (TestbedConfig × ℕ)) (progress : Progress) :
    runTestbeds config o testbeds progress =
      { anyFailure := progress.anyFailure ||
          testbeds.any fun t => (endOf config o t).anyFailure
        events := progress.events ++ testbeds.flatMap (eventsOf config o) } := by
  induction testbeds generalizing progress with
  | nil => simp [runTestbeds]
  | cons t rest ih =>
      rw [runTestbeds, if_neg (by rw [hquiet]; exact Bool.false_ne_true), ih]
      simp only [List.any_cons, List.flatMap_cons, Bool.or_assoc, List.append_assoc, eventsOf,
        endOf]

/-- Teardowns say nothing about what was run, was cancelled or is queued. -/
lemma neutral_teardown (i : ℕ) (e : TestbedEnd) : Neutral (teardown config i e) := by
  intro event h
  rw [teardown] at h
  split at h
  · split_ifs at h
    · exact Or.inr (Or.inl ⟨i, List.mem_singleton.mp h⟩)
    · cases h
  · cases h

lemma attempt_mem_eventsOf {t : TestbedConfig × ℕ} {a : Attempt} :
    .attempt a ∈ eventsOf config o t ↔ .attempt a ∈ (endOf config o t).events := by
  rw [eventsOf, List.mem_append, or_iff_left]
  intro h
  rcases neutral_teardown _ _ _ h with ⟨_, _, h⟩ | ⟨_, h⟩ | ⟨_, h, _⟩ <;> cases h

lemma cancelled_mem_eventsOf {t : TestbedConfig × ℕ} {m : Moment} :
    .cancelled m ∈ eventsOf config o t ↔ .cancelled m ∈ (endOf config o t).events := by
  rw [eventsOf, List.mem_append, or_iff_left]
  intro h
  rcases neutral_teardown _ _ _ h with ⟨_, _, h⟩ | ⟨_, h⟩ | ⟨_, h, _⟩ <;> cases h

lemma queued_mem_eventsOf {t : TestbedConfig × ℕ} :
    .terminalStatus "queued" ∈ eventsOf config o t ↔
      .terminalStatus "queued" ∈ (endOf config o t).events := by
  rw [eventsOf, List.mem_append, or_iff_left]
  intro h
  rcases neutral_teardown _ _ _ h with ⟨_, _, h⟩ | ⟨_, h⟩ | ⟨_, h, hne⟩
  · cases h
  · cases h
  · cases h
    exact hne rfl

/-- The run of a configuration that is not cancelled. -/
structure QuietRun (config : DashboardBenchmarkConfig) (o : Outcomes) (run : Run) : Prop where
  events : run.events = config.testbeds.zipIdx.flatMap (eventsOf config o)
  status : run.status =
    if config.testbeds.zipIdx.any fun t => (endOf config o t).anyFailure then
      "completed_with_errors"
    else "completed"

lemma executeDashboardBenchmark_quiet (hquiet : ∀ m, o.raised m = false) :
    QuietRun config o (executeDashboardBenchmark config o) := by
  constructor
  · rw [executeDashboardBenchmark, runTestbeds_quiet hquiet]
    rfl
  · rw [executeDashboardBenchmark, runTestbeds_quiet hquiet]
    simp only [hquiet, Bool.false_or, Bool.false_eq_true, if_false]

/-- A check of the dashboard that ends a testbed is an event of the run. -/
lemma cancelled_of_saysCancelled (hquiet : ∀ m, o.raised m = false) {t : TestbedConfig × ℕ}
    (h : SaysCancelled config o t.2 t.1) : ∃ m, .cancelled m ∈ (endOf config o t).events := by
  obtain ⟨happlication, hvm, j, hj, hanswer⟩ := h
  obtain ⟨m, hm⟩ := runLanguages_cancelled config hquiet
    ⟨(t.1.languages[j], j), List.mk_mem_zipIdx_iff_getElem?.mpr (List.getElem?_eq_getElem hj),
      hanswer⟩ {}
  refine ⟨m, ?_⟩
  rw [endOf, executeTestbed]
  rw [vmReady] at hvm
  cases hresolve : (o.testbed t.2).resolveVm with
  | none =>
      rw [hresolve] at hvm
      cases hvm
  | some provisioned =>
      rw [hresolve] at hvm
      have hssh : (provisioned && !(o.testbed t.2).sshReady) = false := by
        simpa [imp_iff_not_or] using hvm
      simp only [hssh, happlication, Bool.false_eq_true, if_false]
      exact List.mem_append_left _ hm

/-- A run covers a testbed if and only if the events of the testbed itself do. -/
lemma covered_iff {run : Run} (hrun : QuietRun config o run)
    (hends : ∀ t ∈ config.testbeds.zipIdx, Ends config o t.2 t.1 (endOf config o t))
    (hcounted : ∀ t ∈ config.testbeds.zipIdx, ¬ Counted config o t.2 t.1)
    {t : TestbedConfig × ℕ} (ht : t ∈ config.testbeds.zipIdx) (hloaded : Loaded config) :
    Covered config t run.events ↔ ¬ Uncounted config o t.2 t.1 := by
  have hown : ∀ a, .attempt a ∈ run.events → a.testbed = t.2 →
      .attempt a ∈ (endOf config o t).events := by
    intro a ha hi
    rw [hrun.events] at ha
    obtain ⟨other, hother, ha⟩ := List.mem_flatMap.mp ha
    rw [attempt_mem_eventsOf] at ha
    have hmem := ((hends other hother).attempts (hcounted other hother) ha).2
    have hsame : other = t := by
      have hindex : other.2 = t.2 := (testbed_of_mem_attempts hmem).symm.trans hi
      have h1 := List.mem_zipIdx_iff_getElem?.mp hother
      rw [hindex, List.mem_zipIdx_iff_getElem?.mp ht] at h1
      exact Prod.ext (Option.some_inj.mp h1).symm hindex
    rwa [hsame] at ha
  have hall : ∀ a, .attempt a ∈ (endOf config o t).events → .attempt a ∈ run.events := by
    intro a ha
    rw [hrun.events]
    exact List.mem_flatMap.mpr ⟨t, ht, attempt_mem_eventsOf.mpr ha⟩
  have hmem := List.fst_mem_of_mem_zipIdx ht
  have hlanguages := hloaded.languages t.1 hmem
  have hproxies := fun h => hloaded.proxies h t.1 hmem
  cases hend : endOf config o t with
  | mk outcome events =>
  have hends := hends t ht
  rw [hend] at hends hown hall
  cases hends with
  | failed h _ => exact absurd h (hcounted t ht)
  | queued hvm happlication htester hlock _ =>
      refine ⟨fun hcovered => ?_, fun h => absurd (.queued happlication hlock) h⟩
      have hw : (some 0, 0) ∈ wanted config t.1 := (mem_wanted_of_application happlication).mpr
        ⟨0, List.length_pos_iff.mpr (hproxies happlication), 0,
          List.length_pos_iff.mpr hlanguages, rfl⟩
      obtain ⟨a, ha, hi, _⟩ := hcovered.ran _ hw
      cases List.mem_singleton.mp (hown a ha hi)
  | @ran outcome rest hstarts _ hrest =>
      rw [← covers_iff hlanguages hproxies hstarts (hcounted t ht)]
      have hiff : ∀ a, .attempt a ∈
          (attempts config o t.2 t.1).map Event.attempt ++ rest ↔
            a ∈ attempts config o t.2 t.1 := by
        intro a
        rw [List.mem_append, or_iff_left]
        · simp
        · intro h
          rcases hrest _ h with ⟨_, _, h⟩ | ⟨_, h⟩ | ⟨_, h, _⟩ <;> cases h
      constructor
      · intro hcovered
        refine ⟨fun w hw => ?_, fun a ha => ?_⟩
        · obtain ⟨a, ha, hi, hproxy, hlanguage⟩ := hcovered.ran w hw
          exact ⟨a, (hiff a).mp (hown a ha hi), hproxy, hlanguage⟩
        · exact hcovered.succeeded a (hall a ((hiff a).mpr ha)) (testbed_of_mem_attempts ha)
      · intro hcovers
        refine ⟨fun w hw => ?_, fun a ha hi => hcovers.2 a ((hiff a).mp (hown a ha hi))⟩
        obtain ⟨a, ha, hproxy, hlanguage⟩ := hcovers.1 w hw
        exact ⟨a, hall a ((hiff a).mpr ha), testbed_of_mem_attempts ha, hproxy, hlanguage⟩

/-- The completion status of a run is truthful if and only if whatever the run leaves out is
counted, or the run is known to be cancelled. -/
theorem truthful_iff_accounted (config : DashboardBenchmarkConfig) (o : Outcomes)
    (hload : validate config = .ok ()) :
    Truthful config (executeDashboardBenchmark config o) ↔ Accounted config o := by
  have hloaded := loaded_of_validate hload
  by_cases hend : o.raised .atEnd = true
  · have hstatus : (executeDashboardBenchmark config o).status = "cancelled" := by
      simp only [executeDashboardBenchmark, hend, if_true]
    refine ⟨fun _ => Or.inl hend, fun _ => ⟨fun h => ?_, fun _ => hstatus, fun _ h => ?_⟩⟩
    · exact absurd (hstatus.symm.trans h) (by decide)
    · exact absurd (hstatus.symm.trans h) (by decide)
  · have hquiet : ∀ m, o.raised m = false := by
      intro m
      by_contra hm
      exact hend (o.stays m (by simpa using hm))
    have hrun : QuietRun config o (executeDashboardBenchmark config o) :=
      executeDashboardBenchmark_quiet hquiet
    have hnever : (executeDashboardBenchmark config o).status ≠ "cancelled" := by
      rw [hrun.status]
      split_ifs <;> decide
    by_cases hanswer : ∀ t ∈ config.testbeds.zipIdx, ¬ SaysCancelled config o t.2 t.1
    · have hends : ∀ t ∈ config.testbeds.zipIdx,
          Ends config o t.2 t.1 (endOf config o t) :=
        fun t ht => executeTestbed_quiet hquiet (hanswer t ht)
      have hcancelled : ¬ ∃ m, .cancelled m ∈ (executeDashboardBenchmark config o).events := by
        rintro ⟨m, hm⟩
        rw [hrun.events] at hm
        obtain ⟨t, ht, hm⟩ := List.mem_flatMap.mp hm
        exact (hends t ht).not_cancelled m (cancelled_mem_eventsOf.mp hm)
      have haccounted : Accounted config o ↔
          (∃ t ∈ config.testbeds.zipIdx, Counted config o t.2 t.1) ∨
            ∀ t ∈ config.testbeds.zipIdx, ¬ Uncounted config o t.2 t.1 := by
        rw [Accounted, or_iff_right hend, and_iff_right hanswer]
      by_cases hcounted : ∃ t ∈ config.testbeds.zipIdx, Counted config o t.2 t.1
      · have hstatus : (executeDashboardBenchmark config o).status =
            "completed_with_errors" := by
          rw [hrun.status, if_pos]
          obtain ⟨t, ht, hcount⟩ := hcounted
          exact List.any_eq_true.mpr ⟨t, ht, (hends t ht).anyFailure_iff.mpr hcount⟩
        refine ⟨fun _ => haccounted.mpr (Or.inl hcounted), fun _ => ⟨fun h => ?_,
          fun h => absurd h hcancelled, fun _ h => ?_⟩⟩
        · exact absurd (hstatus.symm.trans h) (by decide)
        · exact absurd (hstatus.symm.trans h) (by decide)
      · rw [haccounted, or_iff_right hcounted]
        push Not at hcounted
        have hstatus : (executeDashboardBenchmark config o).status = "completed" := by
          rw [hrun.status, if_neg]
          intro h
          obtain ⟨t, ht, hfailure⟩ := List.any_eq_true.mp h
          exact hcounted t ht ((hends t ht).anyFailure_iff.mp hfailure)
        have hcovered := fun t ht => covered_iff hrun hends hcounted (t := t) ht hloaded
        constructor
        · intro h t ht
          exact (hcovered t ht).mp (h.completed hstatus t ht)
        · intro h
          refine ⟨fun _ t ht => (hcovered t ht).mpr (h t ht), fun hc => absurd hc hcancelled,
            fun hqueued => ?_⟩
          rw [hrun.events] at hqueued
          obtain ⟨t, ht, hqueued⟩ := List.mem_flatMap.mp hqueued
          exact absurd ((hends t ht).uncounted_of_queued (hcounted t ht)
            (queued_mem_eventsOf.mp hqueued)) (h t ht)
    · constructor
      · intro h
        push Not at hanswer
        obtain ⟨t, ht, hanswer⟩ := hanswer
        obtain ⟨m, hm⟩ := cancelled_of_saysCancelled hquiet hanswer
        refine absurd (h.cancelled ⟨m, ?_⟩) hnever
        rw [hrun.events]
        exact List.mem_flatMap.mpr ⟨t, ht, cancelled_mem_eventsOf.mpr hm⟩
      · intro h
        rw [Accounted, or_iff_right hend] at h
        exact absurd h.1 hanswer

/-! ### One testbed -/

/-- A benchmark of one language on one testbed, behind one proxy where it needs one. -/
def oneTestbed (benchmarkType : String) : DashboardBenchmarkConfig where
  configId := "5f0c7d4e-3f0a-4a53-9d0e-6a5c1c3b7e21"
  testbeds := [{ testbedId := "loopback-1", existingVmIp := some "192.0.2.7"
                 languages := ["rust"], proxies := ["nginx"] }]
  benchmarkType

/-- Everything succeeds. -/
def smooth : TestbedTrials where
  resolveVm := some false
  sshReady := true
  checkCancelled _ := some false
  language _ := ⟨fun _ => true, 5⟩
  testerFound := true
  tryAcquire _ := some .acquired
  ensureRunning _ := true
  tokenDeployed := true
  pastDeadline _ := false
  proxyDeployed _ := true
  pair _ _ := ⟨fun _ => true, 5⟩
  panicAfter := none

/-- A run whose flag is never raised. -/
def unflagged (trials : TestbedTrials) : Outcomes where
  raised _ := false
  stays _ h := h
  testbed _ := trials

/-- Everything succeeds, and the status says so. -/
theorem truthful_iff_accounted_smooth : validate (oneTestbed "application") = .ok () ∧
    Truthful (oneTestbed "application")
      (executeDashboardBenchmark (oneTestbed "application") (unflagged smooth)) := by
  have hload : validate (oneTestbed "application") = .ok () := rfl
  refine ⟨hload, (truthful_iff_accounted _ _ hload).mpr (Or.inr ⟨?_, Or.inr ?_⟩)⟩
  · rintro t _ ⟨_, _, _, _, h⟩
    cases h
  · intro t ht h
    cases List.mem_singleton.mp ht
    cases h with
    | queued _ h => exact absurd h (by decide)
    | deadline _ _ _ h => cases h
    | system _ language hmem h =>
        cases List.mem_singleton.mp hmem
        exact absurd h (by decide)
    | wrapped h _ => exact h rfl

/-- A run whose testbed is queued by the lock of its tester, one that the dashboard cancels
between its checks of the flag, and one whose deadline passes, all report that they are
completed. -/
theorem unfinished_run_completed :
    ¬ Truthful (oneTestbed "application") (executeDashboardBenchmark (oneTestbed "application")
        (unflagged { smooth with tryAcquire := fun _ => some (.alreadyLockedBy "other") })) ∧
      ¬ Truthful (oneTestbed "fullstack") (executeDashboardBenchmark (oneTestbed "fullstack")
        (unflagged { smooth with checkCancelled := fun _ => some true })) ∧
      ¬ Truthful (oneTestbed "application") (executeDashboardBenchmark (oneTestbed "application")
        (unflagged { smooth with pastDeadline := fun _ => true })) := by
  refine ⟨fun h => h.queued (by decide) rfl, fun h => ?_, fun h => ?_⟩
  · exact absurd (h.cancelled ⟨.dashboard 0 0, by decide⟩) (by decide)
  · have hcovered := h.completed rfl _ (List.mem_singleton_self _)
    obtain ⟨a, ha, _⟩ := hcovered.ran (some 0, 0) (by decide)
    have hevents : (executeDashboardBenchmark (oneTestbed "application") (unflagged
        { smooth with pastDeadline := fun _ => true })).events =
          [.status 0 "completed_with_errors", .terminalStatus "completed"] := rfl
    rw [hevents] at ha
    simp at ha

end Run

end BenchOrchestrator

end Networker
