/-
The budget of automatic reruns over whole runs of the benchmark command.

* `rerunLoop_untouched`, `initialCycles_untouched`: a language leaves the cases of the others
  alone;
* `Block`, `activeBlocks`, `runBlocks`: the languages that are set up, and the loop over them;
* `NoGap`: the initial results of a case leave no gap behind them;
* `Productive`: no case is run again too often, under an index it was run with or without need,
  and none is left without its targets before its budget is used up;
* `runBlocks_spec`: where no case has a gap, the command ends and is productive;
* `noGap_of_productive`: where it ends and is productive although all reruns fail, no
  case has a gap;
* `cmdRun_productive`: both, for every run.
-/
import Networker.BenchOrchestrator.CaseShuffle
import Networker.BenchOrchestrator.RerunPasses

namespace Networker

open Data

namespace BenchOrchestrator

variable {settings : AutoRerunSettings} {run run' final : BenchmarkRun} {key : CaseKey}
  {n k fuel : ℕ} {lang : Deployed} {rerun : ℕ → Option Measurement}

/-! ### What a language leaves alone -/

/-- The case is of another language. -/
def Aside (lang : Deployed) (key : CaseKey) : Prop :=
  ¬ (key.language = lang.name ∧ key.runtime = lang.runtime)

lemma Aside.ne (h : Aside lang key) (c : ℕ) : CaseKey.of lang.name lang.runtime c ≠ key := by
  rintro rfl
  exact h ⟨rfl, rfl⟩

lemma rerunLoop_untouched (haside : Aside lang key)
    (h : rerunLoop lang n settings rerun fuel run = some final) : Untouched run final key :=
  (rerunLoop_induct (P := fun run' => Untouched run run' key)
    (fun _ hrun => hrun.trans (pass_untouched fun t _ => haside.ne t.concurrency))
    (Untouched.refl run key) h).1

lemma initialCycles_untouched {initial : ℕ → Option Measurement} {i : ℕ} {cases : List TestCase}
    (haside : Aside lang key) : Untouched run (initialCycles lang initial i cases run) key := by
  induction cases generalizing i run with
  | nil => exact Untouched.refl run key
  | cons case cases ih =>
      exact (runCaseCycle_untouched (haside.ne case.concurrency)).trans ih

/-! ### The loop, when it ends -/

/-- A rerun that is scheduled stays so. -/
lemma rerunLoop_mono {c index : ℕ}
    (h : rerunLoop lang n settings rerun fuel run = some final)
    (hindex : index ∈ rerunIndices run.scheduledReruns (lang.caseOf c)) :
    index ∈ rerunIndices final.scheduledReruns (lang.caseOf c) := by
  refine (rerunLoop_induct (P := fun run => index ∈
    rerunIndices run.scheduledReruns (lang.caseOf c)) (fun run hrun => ?_) hindex h).1
  rcases rerunPass_cases lang n settings rerun run c with ⟨-, target, -, hagain⟩ | ⟨-, huntouched⟩
  · rw [hagain.1]
    exact List.mem_append_left _ hrun
  · rw [huntouched.2]
    exact hrun

/-- What a case asks for at the start is scheduled. -/
lemma rerunLoop_first {c : ℕ} {target : AutoRerunTarget}
    (h : rerunLoop lang n settings rerun fuel run = some final)
    (hne : groupOf run.results (lang.caseOf c) ≠ [])
    (htarget : caseTarget settings n run (lang.caseOf c) = some target) :
    target.repeatIndex ∈ rerunIndices final.scheduledReruns (lang.caseOf c) := by
  cases fuel with
  | zero => exact absurd h (by simp [rerunLoop])
  | succ fuel =>
      rcases rerunLoop_succ settings run n fuel lang rerun with ⟨hquiet, -⟩ | ⟨-, hgo⟩
      · exact absurd (htarget.symm.trans (hquiet c hne)) (by simp)
      · refine rerunLoop_mono (hgo ▸ h) ?_
        rcases rerunPass_cases lang n settings rerun run c with
          ⟨-, target', htarget', hagain⟩ | ⟨hnone, -⟩
        · obtain rfl : target' = target := Option.some_inj.mp (htarget'.symm.trans htarget)
          rw [hagain.1]
          exact List.mem_append_right _ (List.mem_singleton_self _)
        · exact absurd (htarget.symm.trans (hnone hne)) (by simp)

/-- The results of the language's cases are of the two scenarios, and its reruns have indices of
32 bits. -/
def Sane (lang : Deployed) (run : BenchmarkRun) : Prop :=
  ∀ c, (∀ r ∈ groupOf run.results (lang.caseOf c),
      resultScenario r = "warm" ∨ resultScenario r = "cold") ∧
    ∀ i ∈ rerunIndices run.scheduledReruns (lang.caseOf c), i < 2 ^ 32

lemma Sane.rerunPass (h : Sane lang run) : Sane lang (rerunPass lang n settings rerun run) := by
  intro c
  rcases rerunPass_cases lang n settings rerun run c with
    ⟨hne, target, htarget, hreruns, extra, hresults, hextra⟩ | ⟨-, hresults, hreruns⟩
  · refine ⟨fun r hr => ?_, fun i hi => ?_⟩
    · rw [hresults, List.mem_append] at hr
      rcases hr with hr | hr
      · exact (h c).1 r hr
      · exact (hextra r hr).2
    · rw [hreruns, List.mem_append, List.mem_singleton] at hi
      rcases hi with hi | rfl
      · exact (h c).2 i hi
      · obtain ⟨r, hr⟩ := List.exists_mem_of_ne_nil _ hne
        obtain ⟨m, -, -, hnext⟩ := exists_largest (n := n) (Or.inl ⟨r, hr, (h c).1 r hr, rfl⟩)
        obtain ⟨-, -, rfl⟩ := caseTarget_eq_some.mp htarget
        dsimp only
        rw [hnext]
        exact Nat.mod_lt _ (by norm_num)
  · rw [hresults, hreruns]
    exact h c

/-- Reruns that all fail bring no results. -/
lemma rerunPass_results : (rerunPass lang n settings (fun _ => none) run).results = run.results := by
  have hfold : ∀ (targets : List AutoRerunTarget) (run : BenchmarkRun),
      (targets.foldl (runTarget lang fun _ => none) run).results = run.results := by
    intro targets
    induction targets with
    | nil => exact fun run => rfl
    | cons t targets ih => exact fun run => ih _
  exact hfold _ run

/-! ### The cycles of the matrix -/

/-- The case of a test case. -/
def TestCase.caseKey (case : TestCase) : CaseKey :=
  .of case.language.name case.language.runtime case.concurrency

lemma initialCycles_eq {initial : ℕ → Option Measurement} {i : ℕ} {cases : List TestCase} :
    (initialCycles lang initial i cases run).results =
        run.results ++ (initialCycles lang initial i cases {}).results ∧
      (initialCycles lang initial i cases run).scheduledReruns = run.scheduledReruns := by
  induction cases generalizing i run with
  | nil => exact ⟨(List.append_nil _).symm, rfl⟩
  | cons case cases ih =>
      rw [initialCycles, initialCycles, ih.1, ih.2,
        (@ih (runCaseCycle lang (initial i) case.concurrency case.repeatIndex {}) _).1]
      cases initial i with
      | none => exact ⟨rfl, rfl⟩
      | some m => exact ⟨List.append_assoc _ _ _, rfl⟩

lemma mem_initialCycles {initial : ℕ → Option Measurement} {i : ℕ} {cases : List TestCase}
    {r : BenchmarkResult} (hr : r ∈ (initialCycles lang initial i cases {}).results) :
    ∃ case ∈ cases, r.key = lang.caseOf case.concurrency ∧ r.repeatIndex = case.repeatIndex ∧
      (resultScenario r = "warm" ∨ resultScenario r = "cold") := by
  induction cases generalizing i with
  | nil => exact absurd hr List.not_mem_nil
  | cons case cases ih =>
      rw [initialCycles, initialCycles_eq.1, List.mem_append] at hr
      rcases hr with hr | hr
      · cases hm : initial i with
        | none =>
            rw [hm] at hr
            exact absurd hr List.not_mem_nil
        | some m =>
            rw [hm] at hr
            exact ⟨case, List.mem_cons_self, mem_cycleResults hr⟩
      · obtain ⟨case', hcase', h⟩ := ih hr
        exact ⟨case', List.mem_cons_of_mem case hcase', h⟩

lemma mem_testMatrixWithSeed {cfg : BenchmarkConfig} {seed : Option UInt64} {case : TestCase} :
    case ∈ cfg.testMatrixWithSeed seed ↔
      case.language ∈ cfg.languages ∧ case.concurrency ∈ cfg.concurrencyLevels ∧
        case.repeatIndex < cfg.repeat := by
  have hcases : case ∈ cfg.cases ↔ case.language ∈ cfg.languages ∧
      case.concurrency ∈ cfg.concurrencyLevels ∧ case.repeatIndex < cfg.repeat := by
    simp only [BenchmarkConfig.cases, List.mem_flatMap, List.mem_map, List.mem_range]
    constructor
    · rintro ⟨l, hl, c, hc, r, hr, rfl⟩
      exact ⟨hl, hc, hr⟩
    · rintro ⟨hl, hc, hr⟩
      exact ⟨_, hl, _, hc, _, hr, rfl⟩
  rw [← hcases]
  cases seed with
  | none => exact Iff.rfl
  | some seed => exact (testMatrixWithSeed_perm cfg seed).mem_iff

/-! ### The languages that are set up -/

/-- A language that is ready, with its place and the size of its binary. -/
structure Block where
  place : ℕ
  lang : LanguageEntry
  binarySizeBytes : ℕ

def Block.deployed (b : Block) : Deployed := ⟨b.lang.name, b.lang.runtime, b.binarySizeBytes⟩

/-- The languages that the loop gets to and that are ready. -/
def activeBlocks (outcomes : MatrixOutcomes) : ℕ → List LanguageEntry → List Block
  | _, [] => []
  | i, lang :: rest =>
      match outcomes.setup i with
      | .stopped => []
      | .failed => activeBlocks outcomes (i + 1) rest
      | .ready size => ⟨i, lang, size⟩ :: activeBlocks outcomes (i + 1) rest

/-- A run after the cycles of the matrix for a language. -/
def Block.start (b : Block) (cases : List TestCase) (outcomes : MatrixOutcomes)
    (run : BenchmarkRun) : BenchmarkRun :=
  initialCycles b.deployed (outcomes.initial b.place) 0 (languageCases cases b.lang) run

/-- The results that the cycles of the matrix bring for a language. -/
def Block.initialResults (b : Block) (cases : List TestCase) (outcomes : MatrixOutcomes) :
    List BenchmarkResult :=
  (b.start cases outcomes {}).results

section Blocks

variable {cases : List TestCase} {outcomes : MatrixOutcomes} {b : Block}
  {blocks : List Block}

/-- The loop over languages that are ready. -/
def runBlocks (fuel n : ℕ) (settings : AutoRerunSettings) (cases : List TestCase)
    (outcomes : MatrixOutcomes) (rerun : ℕ → Option Measurement) :
    List Block → BenchmarkRun → Option BenchmarkRun
  | [], run => some run
  | b :: rest, run =>
      (rerunLoop b.deployed n settings rerun fuel (b.start cases outcomes run)).bind
        (runBlocks fuel n settings cases outcomes rerun rest)

lemma languageLoop_eq {cfg : BenchmarkConfig} {i : ℕ} {langs : List LanguageEntry} :
    languageLoop fuel cfg (some settings) cases outcomes rerun i langs run =
      runBlocks fuel cfg.repeat settings cases outcomes rerun (activeBlocks outcomes i langs)
        run := by
  induction langs generalizing i run with
  | nil => rfl
  | cons lang langs ih =>
      rw [languageLoop, activeBlocks]
      cases outcomes.setup i with
      | stopped => rfl
      | failed => exact ih
      | ready size =>
          show Option.bind _ _ = Option.bind _ _
          congr 1
          funext run
          exact ih

/-- The blocks are of different languages. -/
def Apart (a b : Block) : Prop := ¬ (a.lang.name = b.lang.name ∧ a.lang.runtime = b.lang.runtime)

lemma uniqueLanguagesFrom_keys (seen : List String) (cases : List TestCase) :
    ((uniqueLanguagesFrom seen cases).map fun l => l.name ++ "|" ++ l.runtime).Nodup ∧
      ∀ l ∈ uniqueLanguagesFrom seen cases, l.name ++ "|" ++ l.runtime ∉ seen := by
  induction cases generalizing seen with
  | nil => exact ⟨List.nodup_nil, fun l hl => absurd hl List.not_mem_nil⟩
  | cons case cases ih =>
      rw [uniqueLanguagesFrom]
      split
      · exact ih seen
      · rename_i hnew
        obtain ⟨hnodup, hseen⟩ :=
          ih ((case.language.name ++ "|" ++ case.language.runtime) :: seen)
        refine ⟨?_, fun l hl => ?_⟩
        · rw [List.map_cons, List.nodup_cons]
          refine ⟨fun hmem => ?_, hnodup⟩
          obtain ⟨l, hl, hkey⟩ := List.mem_map.mp hmem
          exact hseen l hl (hkey ▸ List.mem_cons_self)
        · rcases List.mem_cons.mp hl with rfl | hl
          · exact hnew
          · exact fun hmem => hseen l hl (List.mem_cons_of_mem _ hmem)

lemma activeBlocks_sublist (outcomes : MatrixOutcomes) (i : ℕ) (langs : List LanguageEntry) :
    ((activeBlocks outcomes i langs).map (·.lang)).Sublist langs := by
  induction langs generalizing i with
  | nil => exact List.Sublist.refl []
  | cons lang langs ih =>
      rw [activeBlocks]
      cases outcomes.setup i with
      | stopped => exact List.nil_sublist _
      | failed => exact (ih (i + 1)).cons lang
      | ready size => exact (ih (i + 1)).cons_cons lang

/-- Every language is run once. -/
lemma activeBlocks_apart : (activeBlocks outcomes 0 (uniqueLanguages cases)).Pairwise Apart := by
  have hnodup := (uniqueLanguagesFrom_keys [] cases).1
  have hsublist := (activeBlocks_sublist outcomes 0 (uniqueLanguages cases)).map
    fun l : LanguageEntry => l.name ++ "|" ++ l.runtime
  have hkeys := List.Nodup.sublist hsublist hnodup
  rw [List.map_map, List.Nodup, List.pairwise_map] at hkeys
  refine hkeys.imp fun {a b} hne hsame => hne ?_
  dsimp only [Function.comp_apply]
  rw [hsame.1, hsame.2]

/-! ### NoGap cases -/

/-- The initial results of a case leave no gap behind them: there are none, or they meet the
targets, or one of them is of the last index of the matrix and there are indices left for the
budget. -/
def NoGap (settings : AutoRerunSettings) (n : ℕ) (results : List BenchmarkResult)
    (key : CaseKey) : Prop :=
  groupOf results key = [] ∨ MeetsTargets settings (groupOf results key) key ∨
    n + settings.maxAdditionalRepeats < 2 ^ 32 ∧
      ∃ r ∈ groupOf results key, r.repeatIndex + 1 = n

/-- No case is run again too often or under an index it was run with, and every case with results
meets its targets or has used up its budget. -/
structure Productive (settings : AutoRerunSettings) (cases : List TestCase)
    (run : BenchmarkRun) : Prop where
  bounded : ∀ key, (rerunIndices run.scheduledReruns key).length ≤ settings.maxAdditionalRepeats
  fresh : ∀ key, (rerunIndices run.scheduledReruns key).Nodup ∧
    ∀ case ∈ cases, case.caseKey = key → case.repeatIndex ∉ rerunIndices run.scheduledReruns key
  exhausted : ∀ key, groupOf run.results key ≠ [] →
    MeetsTargets settings (groupOf run.results key) key ∨
      settings.maxAdditionalRepeats ≤ (rerunIndices run.scheduledReruns key).length

/-- The reruns of a case are few, under different indices behind those of the matrix, and they end
with its targets met or its budget used up. -/
structure ProductiveAt (settings : AutoRerunSettings) (n : ℕ) (run : BenchmarkRun)
    (key : CaseKey) : Prop where
  bounded : (rerunIndices run.scheduledReruns key).length ≤ settings.maxAdditionalRepeats
  nodup : (rerunIndices run.scheduledReruns key).Nodup
  behind : ∀ i ∈ rerunIndices run.scheduledReruns key, n ≤ i
  exhausted : groupOf run.results key ≠ [] → MeetsTargets settings (groupOf run.results key) key ∨
    settings.maxAdditionalRepeats ≤ (rerunIndices run.scheduledReruns key).length

/-- A run is productive if all its cases are. -/
lemma Productive.of_cases (hcases : ∀ case ∈ cases, case.repeatIndex < n)
    (h : ∀ key, ProductiveAt settings n run key) : Productive settings cases run where
  bounded key := (h key).bounded
  fresh key := by
    refine ⟨(h key).nodup, fun case hcase _ hmem => ?_⟩
    have hle := (h key).behind _ hmem
    have hlt := hcases case hcase
    omega
  exhausted key := (h key).exhausted

/-- Nothing of the case is on record. -/
def Blank (run : BenchmarkRun) (key : CaseKey) : Prop :=
  groupOf run.results key = [] ∧ rerunIndices run.scheduledReruns key = []

lemma Blank.productiveAt (h : Blank run key) : ProductiveAt settings n run key where
  bounded := by simp [h.2]
  nodup := by simp [h.2]
  behind := by simp [h.2]
  exhausted hne := absurd h.1 hne

lemma Blank.untouched (h : Blank run key) (h' : Untouched run run' key) : Blank run' key :=
  ⟨h'.1.trans h.1, h'.2.trans h.2⟩

variable (cases outcomes) in
lemma Blank.start {c : ℕ} (h : Blank run (b.deployed.caseOf c)) :
    groupOf (b.start cases outcomes run).results (b.deployed.caseOf c) =
        groupOf (b.initialResults cases outcomes) (b.deployed.caseOf c) ∧
      rerunIndices (b.start cases outcomes run).scheduledReruns (b.deployed.caseOf c) = [] := by
  rw [Block.start, Block.initialResults, Block.start, initialCycles_eq.1, initialCycles_eq.2,
    groupOf_append, h.1, List.nil_append]
  exact ⟨rfl, h.2⟩

/-- The results that the matrix brings for a case. -/
lemma mem_initialResults {c : ℕ} {r : BenchmarkResult}
    (hr : r ∈ groupOf (b.initialResults cases outcomes) (b.deployed.caseOf c)) :
    ∃ case ∈ cases, case.caseKey = b.deployed.caseOf c ∧ r.repeatIndex = case.repeatIndex ∧
      (resultScenario r = "warm" ∨ resultScenario r = "cold") := by
  obtain ⟨hr, hkey⟩ := mem_groupOf.mp hr
  obtain ⟨case, hcase, hof, hindex, hscenario⟩ := mem_initialCycles hr
  rw [languageCases, List.mem_filter, decide_eq_true_iff] at hcase
  obtain rfl : case.concurrency = c := (CaseKey.ext_iff.mp (hof.symm.trans hkey)).2.2
  exact ⟨case, hcase.1, CaseKey.ext_iff.mpr ⟨hcase.2.1, hcase.2.2, rfl⟩, hindex, hscenario⟩

lemma NoGap.settled {c : ℕ} (hcases : ∀ case ∈ cases, case.repeatIndex < n)
    (h : NoGap settings n (b.initialResults cases outcomes) (b.deployed.caseOf c))
    (hblank : Blank run (b.deployed.caseOf c)) :
    Settled settings n (b.start cases outcomes run) (b.deployed.caseOf c) 0 := by
  obtain ⟨hresults, hreruns⟩ := hblank.start cases outcomes
  refine ⟨hreruns, fun r hr => ?_, Nat.zero_le _, ?_⟩
  · rw [hresults] at hr
    obtain ⟨case, hcase, -, hindex, hscenario⟩ := mem_initialResults hr
    rw [hindex]
    exact ⟨hcases case hcase, hscenario⟩
  · rw [hresults]
    rcases h with hnil | hmeets | ⟨hbits, hlast⟩
    · exact Or.inl hnil
    · exact Or.inr (Or.inl hmeets)
    · exact Or.inr (Or.inr ⟨hbits, Or.inr hlast⟩)

lemma Apart.aside {a : Block} (h : Apart a b) (c : ℕ) : Aside a.deployed (b.deployed.caseOf c) :=
  fun hsame => h ⟨hsame.1.symm, hsame.2.symm⟩

/-- A language leaves the cases of the others alone. -/
lemma block_untouched (haside : Aside b.deployed key)
    (h : rerunLoop b.deployed n settings rerun fuel (b.start cases outcomes run) = some final) :
    Untouched run final key :=
  (initialCycles_untouched haside).trans (rerunLoop_untouched haside h)

lemma runBlocks_untouched (haside : ∀ b ∈ blocks, Aside b.deployed key)
    (h : runBlocks fuel n settings cases outcomes rerun blocks run = some final) :
    Untouched run final key := by
  induction blocks generalizing run with
  | nil =>
      obtain rfl := Option.some_inj.mp h
      exact Untouched.refl run key
  | cons b blocks ih =>
      obtain ⟨next, hnext, hrest⟩ := Option.bind_eq_some_iff.mp h
      exact (block_untouched (haside b List.mem_cons_self) hnext).trans
        (ih (fun b' hb' => haside b' (List.mem_cons_of_mem b hb')) hrest)

variable (run rerun) in
/-- **Where no case has a gap, the languages are run**, and in the end every case is settled
and asks for no rerun. -/
lemma runBlocks_spec (hcases : ∀ case ∈ cases, case.repeatIndex < n)
    (hapart : blocks.Pairwise Apart)
    (hgap : ∀ b ∈ blocks, ∀ c,
      NoGap settings n (b.initialResults cases outcomes) (b.deployed.caseOf c))
    (hblank : ∀ b ∈ blocks, ∀ c, Blank run (b.deployed.caseOf c)) :
    ∃ final, runBlocks (settings.maxAdditionalRepeats + 1) n settings cases outcomes rerun blocks
        run = some final ∧
      ∀ b ∈ blocks, Quiet settings n b.deployed final ∧
        ∀ c, ∃ k, Settled settings n final (b.deployed.caseOf c) k := by
  induction blocks generalizing run with
  | nil => exact ⟨run, rfl, fun b hb => absurd hb List.not_mem_nil⟩
  | cons b blocks ih =>
      obtain ⟨hfirst, hapart⟩ := List.pairwise_cons.mp hapart
      have hstart : ∀ c, Settled settings n (b.start cases outcomes run) (b.deployed.caseOf c) 0 :=
        fun c => (hgap b List.mem_cons_self c).settled hcases (hblank b List.mem_cons_self c)
      obtain ⟨next, hnext⟩ := rerunLoop_ends rerun (p := 0)
        (fun c => ⟨0, hstart c⟩) fun c target hne htarget => ((hstart c).target hne htarget).1
      obtain ⟨final, hfinal, hrest⟩ := ih next hapart
        (fun b' hb' => hgap b' (List.mem_cons_of_mem b hb')) fun b' hb' c =>
          (hblank b' (List.mem_cons_of_mem b hb') c).untouched
            (block_untouched ((hfirst b' hb').aside c) hnext)
      refine ⟨final, ?_, fun b' hb' => ?_⟩
      · exact Option.bind_eq_some_iff.mpr ⟨next, hnext, hfinal⟩
      · rcases List.mem_cons.mp hb' with rfl | hb'
        · have huntouched : ∀ c, Untouched next final (b'.deployed.caseOf c) := fun c =>
            runBlocks_untouched (fun a ha => Apart.aside
              (fun hsame => hfirst a ha ⟨hsame.1.symm, hsame.2.symm⟩) c) hfinal
          obtain ⟨-, hquiet⟩ := rerunLoop_induct (P := fun _ => True) (fun _ _ => trivial) trivial
            hnext
          refine ⟨fun c hne => ?_, fun c => ?_⟩
          · rw [(huntouched c).1] at hne
            rw [(huntouched c).caseTarget]
            exact hquiet c hne
          · obtain ⟨k, hk⟩ := rerunLoop_settled (fun c => ⟨0, hstart c⟩) hnext c
            exact ⟨k, hk.untouched (huntouched c)⟩
        · exact hrest b' hb'

/-- A case that is settled and asks for no rerun has been run again productively. -/
lemma Settled.productiveAt (h : Settled settings n run key k)
    (hquiet : groupOf run.results key ≠ [] → caseTarget settings n run key = none) :
    ProductiveAt settings n run key where
  bounded := by
    rw [h.reruns, List.length_range']
    exact h.bounded
  nodup := by
    rw [h.reruns]
    exact List.nodup_range'
  behind i hi := by
    rw [h.reruns] at hi
    exact (List.mem_range'_1.mp hi).1
  exhausted hne := by
    rw [h.reruns, List.length_range']
    by_contra hasked
    push Not at hasked
    have htarget := caseTarget_eq_some.mpr ⟨hasked.1, by
      rw [h.nextRepeatIndex hne hasked.1]
      omega, rfl⟩
    exact absurd (htarget.symm.trans (hquiet hne)) (by simp)

variable (run rerun) in
/-- **Where no case has a gap, the languages are run productively.** -/
lemma runBlocks_productive (hcases : ∀ case ∈ cases, case.repeatIndex < n)
    (hapart : blocks.Pairwise Apart)
    (hgap : ∀ b ∈ blocks, ∀ c,
      NoGap settings n (b.initialResults cases outcomes) (b.deployed.caseOf c))
    (hblank : ∀ key, Blank run key) :
    ∃ final, runBlocks (settings.maxAdditionalRepeats + 1) n settings cases outcomes rerun blocks
        run = some final ∧ Productive settings cases final := by
  obtain ⟨final, hfinal, hend⟩ :=
    runBlocks_spec run rerun hcases hapart hgap fun b _ c => hblank _
  refine ⟨final, hfinal, Productive.of_cases hcases fun key => ?_⟩
  by_cases hof : ∃ b ∈ blocks, ¬ Aside b.deployed key
  · obtain ⟨b, hb, hkey⟩ := hof
    obtain ⟨c, rfl⟩ : ∃ c, key = b.deployed.caseOf c := by
      obtain ⟨hl, hr⟩ := not_not.mp hkey
      exact ⟨key.concurrency, CaseKey.ext_iff.mpr ⟨hl, hr, rfl⟩⟩
    obtain ⟨hquiet, hsettled⟩ := hend b hb
    obtain ⟨k, hk⟩ := hsettled c
    exact hk.productiveAt (hquiet c)
  · push Not at hof
    exact ((hblank key).untouched (runBlocks_untouched hof hfinal)).productiveAt

/-! ### Gaps -/

lemma runBlocks_append {blocks' : List Block} :
    runBlocks fuel n settings cases outcomes rerun (blocks ++ blocks') run =
      (runBlocks fuel n settings cases outcomes rerun blocks run).bind
        (runBlocks fuel n settings cases outcomes rerun blocks') := by
  induction blocks generalizing run with
  | nil => rfl
  | cons b blocks ih =>
      rw [List.cons_append, runBlocks, runBlocks, Option.bind_assoc]
      congr 1
      funext run
      exact ih

/-- A case whose last cycle of the matrix has no result, and that has a reason to be run again, is
run again under an index of the matrix. -/
lemma rerun_of_gap {c : ℕ} (hcases : ∀ case ∈ cases, case.repeatIndex < n)
    (hblank : Blank run (b.deployed.caseOf c))
    (hne : groupOf (b.initialResults cases outcomes) (b.deployed.caseOf c) ≠ [])
    (hreasons : ¬ MeetsTargets settings
      (groupOf (b.initialResults cases outcomes) (b.deployed.caseOf c)) (b.deployed.caseOf c))
    (hlast : ∀ r ∈ groupOf (b.initialResults cases outcomes) (b.deployed.caseOf c),
      r.repeatIndex + 1 ≠ n)
    (hloop : rerunLoop b.deployed n settings rerun fuel (b.start cases outcomes run) =
      some final) :
    ∃ index < n, index ∈ rerunIndices final.scheduledReruns (b.deployed.caseOf c) := by
  obtain ⟨hresults, hreruns⟩ := hblank.start cases outcomes
  rw [← hresults] at hne hreasons hlast
  obtain ⟨r, hr⟩ := List.exists_mem_of_ne_nil _ hne
  obtain ⟨case, -, -, -, hscenario⟩ := mem_initialResults (hresults ▸ hr)
  obtain ⟨m, hm, -, hnext⟩ := exists_largest (n := n) (Or.inl ⟨r, hr, hscenario, rfl⟩)
  have hbelow : m + 1 < n := by
    rcases hm with ⟨r', hr', -, rfl⟩ | hm
    · obtain ⟨case', hcase', -, hindex', -⟩ := mem_initialResults (hresults ▸ hr')
      have hlt := hcases case' hcase'
      have hgap := hlast r' hr'
      omega
    · rw [hreruns] at hm
      exact absurd hm List.not_mem_nil
  have hmod := Nat.mod_le (m + 1) (2 ^ 32)
  have hbudget := settings.additional_pos
  have htarget := caseTarget_eq_some.mpr ⟨hreasons, by rw [hnext]; omega, rfl⟩
  have hindex := rerunLoop_first hloop hne htarget
  dsimp only at hindex
  rw [hnext] at hindex
  exact ⟨_, by omega, hindex⟩

/-- Reruns that all fail leave a case with a reason as it is, so the loop ends only if the indices
behind those of the matrix last for the budget. -/
lemma bits_of_ends {c : ℕ} (hcases : ∀ case ∈ cases, case.repeatIndex < n)
    (hblank : ∀ c, Blank run (b.deployed.caseOf c))
    (hne : groupOf (b.initialResults cases outcomes) (b.deployed.caseOf c) ≠ [])
    (hreasons : ¬ MeetsTargets settings
      (groupOf (b.initialResults cases outcomes) (b.deployed.caseOf c)) (b.deployed.caseOf c))
    (hloop : rerunLoop b.deployed n settings (fun _ => none) fuel (b.start cases outcomes run) =
      some final) :
    n + settings.maxAdditionalRepeats < 2 ^ 32 := by
  have hsane : Sane b.deployed (b.start cases outcomes run) := fun c => by
    obtain ⟨hresults, hreruns⟩ := (hblank c).start cases outcomes
    rw [hresults, hreruns]
    refine ⟨fun r hr => ?_, fun i hi => absurd hi List.not_mem_nil⟩
    obtain ⟨case, -, -, -, hscenario⟩ := mem_initialResults hr
    exact hscenario
  obtain ⟨hfinal, hquiet⟩ := rerunLoop_induct
    (P := fun run' => Sane b.deployed run' ∧ run'.results = (b.start cases outcomes run).results)
    (fun _ h => ⟨h.1.rerunPass, rerunPass_results.trans h.2⟩) ⟨hsane, rfl⟩ hloop
  have hresults : groupOf final.results (b.deployed.caseOf c) =
      groupOf (b.initialResults cases outcomes) (b.deployed.caseOf c) := by
    rw [hfinal.2]
    exact ((hblank c).start cases outcomes).1
  rw [← hresults] at hne hreasons
  obtain ⟨r, hr⟩ := List.exists_mem_of_ne_nil _ hne
  obtain ⟨m, hm, -, hnext⟩ :=
    exists_largest (n := n) (Or.inl ⟨r, hr, (hfinal.1 c).1 r hr, rfl⟩)
  have hused : settings.maxAdditionalRepeats ≤ (m + 1) % 2 ^ 32 - n := by
    by_contra hleft
    have htarget := caseTarget_eq_some.mpr ⟨hreasons, by rw [hnext]; omega, rfl⟩
    exact absurd (htarget.symm.trans (hquiet c hne)) (by simp)
  have hbudget := settings.additional_pos
  rcases hm with ⟨r', hr', -, rfl⟩ | hm
  · rw [hresults] at hr'
    obtain ⟨case, hcase, -, hindex, -⟩ := mem_initialResults hr'
    have hlt := hcases case hcase
    omega
  · have hlt := (hfinal.1 c).2 m hm
    omega

/-- **A command that ends and is productive although all reruns fail** has no case with a
gap. -/
lemma noGap_of_productive (hcases : ∀ case ∈ cases, case.repeatIndex < n)
    (hfull : ∀ case ∈ cases, ∀ i < n, ∃ case' ∈ cases,
      case'.caseKey = case.caseKey ∧ case'.repeatIndex = i)
    (hapart : blocks.Pairwise Apart) (hblank : ∀ b ∈ blocks, ∀ c, Blank run (b.deployed.caseOf c))
    (h : runBlocks fuel n settings cases outcomes (fun _ => none) blocks run = some final)
    (hproductive : Productive settings cases final) (hb : b ∈ blocks) (c : ℕ) :
    NoGap settings n (b.initialResults cases outcomes) (b.deployed.caseOf c) := by
  obtain ⟨front, back, rfl⟩ := List.append_of_mem hb
  rw [runBlocks_append] at h
  obtain ⟨run₁, hrun₁, h⟩ := Option.bind_eq_some_iff.mp h
  obtain ⟨run₂, hrun₂, hrest⟩ := Option.bind_eq_some_iff.mp h
  obtain ⟨-, hback, hfront⟩ := List.pairwise_append.mp hapart
  have hblank₁ : ∀ c, Blank run₁ (b.deployed.caseOf c) := fun c =>
    (hblank b hb c).untouched
      (runBlocks_untouched (fun a ha => (hfront a ha b List.mem_cons_self).aside c) hrun₁)
  have huntouched : Untouched run₂ final (b.deployed.caseOf c) :=
    runBlocks_untouched (fun a ha => Apart.aside (fun hsame =>
      (List.pairwise_cons.mp hback).1 a ha ⟨hsame.1.symm, hsame.2.symm⟩) c) hrest
  by_cases hne : groupOf (b.initialResults cases outcomes) (b.deployed.caseOf c) = []
  · exact Or.inl hne
  by_cases hreasons : MeetsTargets settings
      (groupOf (b.initialResults cases outcomes) (b.deployed.caseOf c)) (b.deployed.caseOf c)
  · exact Or.inr (Or.inl hreasons)
  refine Or.inr (Or.inr ⟨bits_of_ends hcases hblank₁ hne hreasons hrun₂, ?_⟩)
  by_contra hlast
  push Not at hlast
  obtain ⟨index, hindex, hmem⟩ :=
    rerun_of_gap hcases (hblank₁ c) hne hreasons hlast hrun₂
  rw [← huntouched.2] at hmem
  obtain ⟨r, hr⟩ := List.exists_mem_of_ne_nil _ hne
  obtain ⟨case, hcase, hkey, -, -⟩ := mem_initialResults hr
  obtain ⟨case', hcase', hkey', rfl⟩ := hfull case hcase index hindex
  exact (hproductive.fresh _).2 case' hcase' (hkey'.trans hkey) hmem

end Blocks

/-! ### The command -/

lemma testMatrixWithSeed_full {cfg : BenchmarkConfig} {seed : Option UInt64} :
    ∀ case ∈ cfg.testMatrixWithSeed seed, ∀ i < cfg.repeat,
      ∃ case' ∈ cfg.testMatrixWithSeed seed,
        case'.caseKey = case.caseKey ∧ case'.repeatIndex = i := by
  intro case hcase i hi
  obtain ⟨hlang, hlevel, -⟩ := mem_testMatrixWithSeed.mp hcase
  exact ⟨{ case with repeatIndex := i }, mem_testMatrixWithSeed.mpr ⟨hlang, hlevel, hi⟩, rfl, rfl⟩

/-- A command whose reruns all fail, and that ends and is productive, has no case with a gap. -/
lemma noGap_of_cmdRun {cfg : BenchmarkConfig} {seed : Option UInt64} {outcomes : MatrixOutcomes}
    (h : cmdRun fuel cfg (some settings) seed outcomes (fun _ => none) = some final)
    (hproductive : Productive settings (cfg.testMatrixWithSeed seed) final) {b : Block}
    (hb : b ∈ activeBlocks outcomes 0 (uniqueLanguages (cfg.testMatrixWithSeed seed))) (c : ℕ) :
    NoGap settings cfg.repeat (b.initialResults (cfg.testMatrixWithSeed seed) outcomes)
      (b.deployed.caseOf c) := by
  rw [cmdRun, languageLoop_eq] at h
  exact noGap_of_productive (fun case hcase => (mem_testMatrixWithSeed.mp hcase).2.2)
    testMatrixWithSeed_full activeBlocks_apart (fun _ _ _ => ⟨rfl, rfl⟩) h hproductive hb c

/-- **When automatic reruns are bounded and productive**: however the reruns go, the command ends
and its reruns are productive, exactly if the initial results of no case of a language that is
ready have a gap. -/
theorem cmdRun_productive (cfg : BenchmarkConfig) (settings : AutoRerunSettings)
    (seed : Option UInt64) (outcomes : MatrixOutcomes) :
    (∀ rerun : ℕ → Option Measurement, ∃ fuel final,
        cmdRun fuel cfg (some settings) seed outcomes rerun = some final ∧
          Productive settings (cfg.testMatrixWithSeed seed) final) ↔
      ∀ b ∈ activeBlocks outcomes 0 (uniqueLanguages (cfg.testMatrixWithSeed seed)), ∀ c,
        NoGap settings cfg.repeat (b.initialResults (cfg.testMatrixWithSeed seed) outcomes)
          (b.deployed.caseOf c) := by
  refine ⟨fun h b hb c => ?_, fun h rerun => ?_⟩
  · obtain ⟨fuel, final, hfinal, hproductive⟩ := h fun _ => none
    exact noGap_of_cmdRun hfinal hproductive hb c
  · obtain ⟨final, hfinal, hproductive⟩ := runBlocks_productive
      { baseline := cfg.baselineLanguage.map fun language =>
        { language, runtime := cfg.baselineRuntime : Baseline } }
      rerun (fun case hcase => (mem_testMatrixWithSeed.mp hcase).2.2) activeBlocks_apart h
      fun _ => ⟨rfl, rfl⟩
    refine ⟨settings.maxAdditionalRepeats + 1, final, ?_, hproductive⟩
    rw [cmdRun, languageLoop_eq]
    exact hfinal

/-! ### A cycle that fails last -/

/-- A scenario with fewer repeats than the target is a reason. -/
lemma not_meetsTargets_of_few {results : List BenchmarkResult} {scenario : ScenarioSummary}
    (hscenario : (summariseCase key results).cold = some scenario)
    (hfew : scenario.repeatCount < settings.targetRepeatCount) :
    ¬ MeetsTargets settings results key := by
  intro hmeets
  rw [MeetsTargets, rerunReasons, hscenario] at hmeets
  have hnil := List.eq_nil_iff_forall_not_mem.mp hmeets
  refine hnil (scenario.scenario ++ " repeat count " ++ Text.ofNat scenario.repeatCount ++
    " below target " ++ Text.ofNat settings.targetRepeatCount) ?_
  rw [List.mem_dedup, List.mem_insertionSort, List.mem_flatMap]
  refine ⟨scenario, by simp, ?_⟩
  rw [scenarioReasons, if_pos hfew]
  simp

def goGin : LanguageEntry where
  name := "go"
  runtime := "gin"
  path := "implementations/go-gin"
  buildCmd := "go build -o api ."
  runCmd := "./api"
  port := 3002
  dockerImage := none

/-- Two cycles of one case. -/
def twoCycles : BenchmarkConfig where
  concurrencyLevels := [10]
  «repeat» := 2
  languages := [goGin]

/-- The first cycle succeeds, the second fails. -/
def secondFails : MatrixOutcomes where
  setup _ := .ready 0
  initial _ i := if i = 0 then some {} else none

def defaultPolicy : AutoRerunSettings := ⟨3, 2, 0.05, by norm_num, by norm_num⟩

example : resolveAutoRerunSettings true none none none = .ok (some defaultPolicy) := rfl

def goBlock : Block := ⟨0, goGin, 0⟩

lemma goBlock_mem : goBlock ∈ activeBlocks secondFails 0
    (uniqueLanguages (twoCycles.testMatrixWithSeed none)) := by
  simp [twoCycles, BenchmarkConfig.testMatrixWithSeed, BenchmarkConfig.cases, uniqueLanguages,
    uniqueLanguagesFrom, activeBlocks, secondFails, List.range_succ, goBlock]

/-- The one cycle with results. -/
lemma goBlock_results :
    groupOf (goBlock.initialResults (twoCycles.testMatrixWithSeed none) secondFails)
      (goBlock.deployed.caseOf 10) = cycleResults goBlock.deployed {} 10 0 := by
  have hcases : languageCases (twoCycles.testMatrixWithSeed none) goBlock.lang =
      [⟨goGin, 10, 0⟩, ⟨goGin, 10, 1⟩] := by
    simp [languageCases, twoCycles, BenchmarkConfig.testMatrixWithSeed, BenchmarkConfig.cases,
      List.range_succ, goBlock]
  have hresults : goBlock.initialResults (twoCycles.testMatrixWithSeed none) secondFails =
      cycleResults goBlock.deployed {} 10 0 := by
    rw [Block.initialResults, Block.start, hcases]
    rfl
  rw [hresults, groupOf_cycleResults]
  exact if_pos rfl

/-- After the second of two cycles failed, reruns that fail are not productive. -/
theorem cmdRun_secondFails :
    ¬ ∀ rerun : ℕ → Option Measurement, ∃ fuel final,
      cmdRun fuel twoCycles (some defaultPolicy) none secondFails rerun = some final ∧
        Productive defaultPolicy (twoCycles.testMatrixWithSeed none) final := by
  intro h
  obtain ⟨fuel, final, hfinal, hproductive⟩ := h fun _ => none
  have hgap := noGap_of_cmdRun hfinal hproductive goBlock_mem 10
  rw [NoGap, goBlock_results] at hgap
  rcases hgap with hnil | hmeets | ⟨-, r, hr, hlast⟩
  · exact absurd hnil (by simp [cycleResults])
  · refine @not_meetsTargets_of_few defaultPolicy _ _ _ rfl ?_ hmeets
    decide
  · have hindex := (mem_cycleResults hr).2.1
    rw [hindex] at hlast
    exact absurd hlast (by decide)

end BenchOrchestrator

end Networker
