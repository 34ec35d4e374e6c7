/-
The phases of attempts by their position and by their tag.

* `erasePhases`: a run as an older tool would have recorded it;
* `mapIdx_append_eq_iff`: a list in segments whose elements are labelled by position;
* `phaseAt_iff`: the stored counts give every position its phase exactly if none of them is
  cut off at 32 bits;
* `tags_of_special`, `tags_of_plain`: the tags of the attempts of a run;
* `attribution_iff`: without its tags a run has the same phases, if no phase but the measured one
  has 2³² attempts.
-/
import Networker.Tester.FixedCount

namespace Networker

open Data Metrics Benchmark

namespace TargetRunner

/-! ### Positions -/

section Positions

variable {α β : Type} {f : ℕ → β} {g : α → β} {xs ys : List α}

/-- Labels by position, segment by segment. -/
lemma mapIdx_append_eq_iff :
    ((xs ++ ys).mapIdx fun i _ => f i) = (xs ++ ys).map g ↔
      (xs.mapIdx fun i _ => f i) = xs.map g ∧
        (ys.mapIdx fun i _ => f (xs.length + i)) = ys.map g := by
  have hshift : ((xs ++ ys).mapIdx fun i _ => f i) =
      (xs.mapIdx fun i _ => f i) ++ ys.mapIdx fun i _ => f (xs.length + i) := by
    rw [List.mapIdx_append]
    simp only [Nat.add_comm]
  rw [hshift, List.map_append]
  constructor
  · intro h
    exact List.append_inj h (by rw [List.length_mapIdx, List.length_map])
  · rintro ⟨hx, hy⟩
    rw [hx, hy]

/-- A segment with one label. -/
lemma mapIdx_eq_iff_of_label {b : β} (h : ∀ x ∈ xs, g x = b) :
    (xs.mapIdx fun i _ => f i) = xs.map g ↔ ∀ i < xs.length, f i = b := by
  rw [List.ext_getElem_iff]
  simp only [List.length_mapIdx, List.length_map, true_and, List.getElem_mapIdx, List.getElem_map]
  constructor
  · intro hall i hi
    rw [hall i hi hi, h _ (List.getElem_mem hi)]
  · intro hall i hi _
    rw [hall i hi, h _ (List.getElem_mem hi)]

/-- The phase at a position of a run that is not dedicated to one phase. -/
def phaseAt (primary : String) (warmup overhead pilot cooldown total idx : ℕ) : String :=
  if idx < warmup then "warmup"
  else if idx < warmup + overhead then "overhead"
  else if idx < warmup + overhead + pilot then "pilot"
  else if 0 < cooldown ∧ total - cooldown ≤ idx then "cooldown"
  else primary

lemma positionalPhase_eq {run : Metrics.TestRun}
    (h : Metrics.TestRun.isSpecial run.primaryPhase = false) (idx : ℕ) :
    run.positionalPhase idx = phaseAt run.primaryPhase run.benchmarkWarmupAttemptCount
      run.benchmarkOverheadAttemptCount run.benchmarkPilotAttemptCount
      run.benchmarkCooldownAttemptCount run.attempts.length idx := by
  rw [Metrics.TestRun.positionalPhase, if_neg (by simp [h])]
  rfl

/-- A count that is stored in 32 bits. -/
abbrev stored (n : ℕ) : ℕ := min n (2 ^ 32 - 1)

section Segments

variable {primary : String} {w o p m c : ℕ}

/-- The segments of a run have their labels. -/
def Labelled (F : ℕ → String) (primary : String) (w o p m c : ℕ) : Prop :=
  ((((∀ i < w, F i = "warmup") ∧ ∀ i < o, F (w + i) = "overhead") ∧
      ∀ i < p, F (w + o + i) = "pilot") ∧ ∀ i < m, F (w + o + p + i) = primary) ∧
        (∀ i < c, F (w + o + p + m + i) = "cooldown")

/-- The right counts give every segment its label. -/
lemma labelled_phaseAt :
    Labelled (phaseAt primary w o p c (w + o + p + m + c)) primary w o p m c := by
  refine ⟨⟨⟨⟨?_, ?_⟩, ?_⟩, ?_⟩, ?_⟩
  · intro i hi
    rw [phaseAt, if_pos hi]
  · intro i hi
    rw [phaseAt, if_neg (by omega), if_pos (by omega)]
  · intro i hi
    rw [phaseAt, if_neg (by omega), if_neg (by omega), if_pos (by omega)]
  · intro i hi
    rw [phaseAt, if_neg (by omega), if_neg (by omega), if_neg (by omega), if_neg (by omega)]
  · intro i hi
    rw [phaseAt, if_neg (by omega), if_neg (by omega), if_neg (by omega), if_pos (by omega)]

lemma ne_of_not_special {phase : String} (h : Metrics.TestRun.isSpecial primary = false)
    (hphase : Metrics.TestRun.isSpecial phase = true) : primary ≠ phase := by
  rintro rfl
  exact Bool.false_ne_true (h.symm.trans hphase)

/-- Counts that are cut off mislabel an attempt. -/
lemma lt_of_labelled (h : Metrics.TestRun.isSpecial primary = false)
    (hF : Labelled (phaseAt primary w (stored o) (stored p) (stored c) (w + o + p + m + c))
      primary w o p m c) :
    o < 2 ^ 32 ∧ p < 2 ^ 32 ∧ c < 2 ^ 32 := by
  obtain ⟨⟨⟨⟨-, hO⟩, hP⟩, -⟩, hC⟩ := hF
  simp only [stored] at hO hP hC
  have ho : o < 2 ^ 32 := by
    by_contra hlarge
    -- the first attempt behind the stored count
    have hfirst := hO (2 ^ 32 - 1) (by omega)
    rw [phaseAt, if_neg (by omega), if_neg (by omega)] at hfirst
    split_ifs at hfirst
    · exact absurd hfirst (by decide)
    · exact absurd hfirst (by decide)
    · exact ne_of_not_special h (by decide) hfirst
  have hp : p < 2 ^ 32 := by
    by_contra hlarge
    have hfirst := hP (2 ^ 32 - 1) (by omega)
    rw [phaseAt, if_neg (by omega), if_neg (by omega), if_neg (by omega)] at hfirst
    split_ifs at hfirst
    · exact absurd hfirst (by decide)
    · exact ne_of_not_special h (by decide) hfirst
  have hc : c < 2 ^ 32 := by
    by_contra hlarge
    -- the last attempt before the stored count
    have hlast := hC (c - 2 ^ 32) (by omega)
    rw [phaseAt, if_neg (by omega), if_neg (by omega), if_neg (by omega), if_neg (by omega)]
      at hlast
    exact ne_of_not_special h (by decide) hlast
  exact ⟨ho, hp, hc⟩

/-- **The stored counts give every segment its label exactly if they are not cut off.** -/
lemma phaseAt_iff (h : Metrics.TestRun.isSpecial primary = false) {F : ℕ → String}
    (hF : F = phaseAt primary w (stored o) (stored p) (stored c) (w + o + p + m + c)) :
    Labelled F primary w o p m c ↔ o < 2 ^ 32 ∧ p < 2 ^ 32 ∧ c < 2 ^ 32 := by
  subst hF
  constructor
  · exact lt_of_labelled h
  · rintro ⟨ho, hp, hc⟩
    rw [stored, stored, stored, min_eq_left (by omega), min_eq_left (by omega),
      min_eq_left (by omega)]
    exact labelled_phaseAt

end Segments

end Positions

/-! ### Tags -/

/-- A run without the phases of its attempts. -/
def erasePhases (run : Metrics.TestRun) : Metrics.TestRun :=
  { run with attempts := run.attempts.map fun a => { a with phase := none } }

lemma resolvedAttemptPhases_erasePhases (run : Metrics.TestRun) :
    (erasePhases run).resolvedAttemptPhases =
      run.attempts.mapIdx fun idx _ => run.positionalPhase idx := by
  have hpositional : (erasePhases run).positionalPhase = run.positionalPhase := by
    funext idx
    simp only [Metrics.TestRun.positionalPhase, erasePhases, List.length_map]
    rfl
  rw [Metrics.TestRun.resolvedAttemptPhases, hpositional]
  apply List.ext_getElem
  · simp [erasePhases]
  · intro i _ _
    simp [erasePhases]

section Tags

variable {cfg : ResolvedConfig} {env : Probes} {modes : List Protocol} {payloadSizes : List ℕ}

variable (cfg env modes payloadSizes) in
/-- The tags of the attempts of the phases. -/
lemma phases_tags :
    (∀ a ∈ (phases cfg env modes payloadSizes).warmedUp.allAttempts,
        a.phase = benchmarkPhaseTag cfg "warmup") ∧
      (∀ a ∈ (phases cfg env modes payloadSizes).overhead.attempts,
        a.phase = benchmarkPhaseTag cfg "overhead") ∧
      (∀ a ∈ (phases cfg env modes payloadSizes).pilot.attempts,
        a.phase = benchmarkPhaseTag cfg "pilot") ∧
      (∀ a ∈ (phases cfg env modes payloadSizes).measured.attempts,
        a.phase = benchmarkPhaseTag cfg cfg.benchmarkPhase) ∧
      ∀ a ∈ (phases cfg env modes payloadSizes).cooldown.attempts,
        a.phase = benchmarkPhaseTag cfg "cooldown" :=
  ⟨fun _ ha => phase_of_mem_warmups ha, (runPhase_adds _ _ _ _ _ _ _).1,
    (runPhase_adds _ _ _ _ _ _ _).1, (runPhase_adds _ _ _ _ _ _ _).1,
    (runPhase_adds _ _ _ _ _ _ _).1⟩

variable (env modes payloadSizes) in
/-- A benchmark in a phase of its own has no other phases. -/
lemma special_phases (h : Metrics.TestRun.isSpecial cfg.benchmarkPhase = true) :
    (phases cfg env modes payloadSizes).overhead.attempts = [] ∧
      (phases cfg env modes payloadSizes).pilot.attempts = [] ∧
      (phases cfg env modes payloadSizes).cooldown.attempts = [] := by
  have hmeasured : measuredBenchmark cfg = false := by
    rw [measuredBenchmark, Bool.and_eq_false_iff, beq_eq_false_iff_ne]
    refine Or.inr fun heq => ?_
    rw [heq] at h
    exact absurd h (by decide)
  have hside (configured : Option ℕ) (n : ℕ) : sideRuns cfg configured n = 0 := by
    simp [sideRuns, hmeasured]
  have hpilot : benchmarkPilotCriteria cfg = none := by simp [benchmarkPilotCriteria, hmeasured]
  simp [phases, hside, hpilot, runPhase, phaseLoop]

end Tags

/-! ### The attribution -/

section Attribution

variable (cfg : ResolvedConfig) (env : Probes) (around : Surroundings) (modes : List Protocol)
variable (payloadSizes : List ℕ)

/-- The record of a run. -/
abbrev recordOf : Metrics.TestRun := (runForTarget cfg env around modes payloadSizes).2

variable {cfg}

lemma primaryPhase_recordOf (hmode : cfg.benchmarkMode = true) :
    (recordOf cfg env around modes payloadSizes).primaryPhase = cfg.benchmarkPhase := by
  show (inBenchmark cfg cfg.benchmarkPhase).getD "measured" = _
  rw [inBenchmark, if_pos hmode, Option.getD_some]

/-- No warm-up is lost in the stored count. -/
lemma warmups_mod :
    (warmups cfg env modes).allAttempts.length % 2 ^ 32 =
      (warmups cfg env modes).allAttempts.length := by
  apply Nat.mod_eq_of_lt
  simp only [warmups, warmup]
  split_ifs <;> simp

/-- The counts that a benchmark stores. -/
lemma counts_recordOf (hmode : cfg.benchmarkMode = true) :
    (recordOf cfg env around modes payloadSizes).benchmarkWarmupAttemptCount =
        (phases cfg env modes payloadSizes).warmedUp.allAttempts.length ∧
      (recordOf cfg env around modes payloadSizes).benchmarkOverheadAttemptCount =
        stored (phases cfg env modes payloadSizes).overhead.attempts.length ∧
      (recordOf cfg env around modes payloadSizes).benchmarkPilotAttemptCount =
        stored (phases cfg env modes payloadSizes).pilot.attempts.length ∧
      (recordOf cfg env around modes payloadSizes).benchmarkCooldownAttemptCount =
        stored (phases cfg env modes payloadSizes).cooldown.attempts.length := by
  have hcount (n : ℕ) : (inBenchmark cfg n).getD 0 = n := by
    rw [inBenchmark, if_pos hmode, Option.getD_some]
  exact ⟨(hcount _).trans (warmups_mod env modes), hcount _, hcount _, hcount _⟩

/-- Every attempt of a run without HTTP stacks has the tag of some phase. -/
lemma tag_of_mem_recordOf (hstacks : cfg.httpStacks = []) :
    ∀ a ∈ (recordOf cfg env around modes payloadSizes).attempts,
      ∃ phase, a.phase = benchmarkPhaseTag cfg phase := by
  obtain ⟨hwarmup, hoverhead, hpilot, hmeasured, hcooldown⟩ :=
    phases_tags cfg env modes payloadSizes
  intro a ha
  rw [show (recordOf cfg env around modes payloadSizes).attempts = _ from
    phases_attempts env modes payloadSizes hstacks] at ha
  simp only [List.mem_append] at ha
  rcases ha with (((ha | ha) | ha) | ha) | ha
  · exact ⟨_, hwarmup a ha⟩
  · exact ⟨_, hoverhead a ha⟩
  · exact ⟨_, hpilot a ha⟩
  · exact ⟨_, hmeasured a ha⟩
  · exact ⟨_, hcooldown a ha⟩

/-- A benchmark in a phase of its own has one phase by tag and by position. -/
lemma attribution_of_special (hmode : cfg.benchmarkMode = true) (hstacks : cfg.httpStacks = [])
    (hspecial : Metrics.TestRun.isSpecial cfg.benchmarkPhase = true) :
    (erasePhases (recordOf cfg env around modes payloadSizes)).resolvedAttemptPhases =
      (recordOf cfg env around modes payloadSizes).resolvedAttemptPhases := by
  have htags : ∀ a ∈ (recordOf cfg env around modes payloadSizes).attempts,
      a.phase = some cfg.benchmarkPhase := by
    intro a ha
    obtain ⟨phase, htag⟩ := tag_of_mem_recordOf env around modes payloadSizes hstacks a ha
    rw [htag, benchmarkPhaseTag, hmode, hspecial]
    rfl
  have hprimary := primaryPhase_recordOf env around modes payloadSizes hmode
  rw [resolvedAttemptPhases_erasePhases, Metrics.TestRun.resolvedAttemptPhases_of_tagged _
    fun a ha => by rw [htags a ha]; rfl]
  rw [mapIdx_eq_iff_of_label (b := cfg.benchmarkPhase) fun a ha => by rw [htags a ha]; rfl]
  intro i _
  rw [Metrics.TestRun.positionalPhase, hprimary, if_pos hspecial]

/-- The segments of a benchmark that is not dedicated to one phase. -/
lemma attribution_of_plain (hmode : cfg.benchmarkMode = true) (hstacks : cfg.httpStacks = [])
    (hplain : Metrics.TestRun.isSpecial cfg.benchmarkPhase = false) :
    (erasePhases (recordOf cfg env around modes payloadSizes)).resolvedAttemptPhases =
        (recordOf cfg env around modes payloadSizes).resolvedAttemptPhases ↔
      (phases cfg env modes payloadSizes).overhead.attempts.length < 2 ^ 32 ∧
        (phases cfg env modes payloadSizes).pilot.attempts.length < 2 ^ 32 ∧
        (phases cfg env modes payloadSizes).cooldown.attempts.length < 2 ^ 32 := by
  have htag (phase : String) : benchmarkPhaseTag cfg phase = some phase := by
    rw [benchmarkPhaseTag, hmode, hplain]
    rfl
  obtain ⟨hwarmup, hoverhead, hpilot, hmeasured, hcooldown⟩ :=
    phases_tags cfg env modes payloadSizes
  have hattempts : (recordOf cfg env around modes payloadSizes).attempts = _ :=
    phases_attempts env modes payloadSizes hstacks
  have htags : ∀ a ∈ (recordOf cfg env around modes payloadSizes).attempts, a.phase.isSome := by
    intro a ha
    obtain ⟨phase, hphase⟩ := tag_of_mem_recordOf env around modes payloadSizes hstacks a ha
    rw [hphase, htag, Option.isSome_some]
  have hprimary := primaryPhase_recordOf env around modes payloadSizes hmode
  obtain ⟨hw, ho, hp, hc⟩ := counts_recordOf env around modes payloadSizes hmode
  have hposition : (recordOf cfg env around modes payloadSizes).positionalPhase = _ :=
    funext (positionalPhase_eq (by rw [hprimary, hplain]))
  have hlabel {phase : String} {as : List RequestAttempt}
      (h : ∀ a ∈ as, a.phase = benchmarkPhaseTag cfg phase) : ∀ a ∈ as, a.phase.getD "" = phase :=
    fun a ha => by rw [h a ha, htag, Option.getD_some]
  rw [resolvedAttemptPhases_erasePhases, Metrics.TestRun.resolvedAttemptPhases_of_tagged _ htags,
    hposition, hprimary, hw, ho, hp, hc, hattempts]
  rw [mapIdx_append_eq_iff, mapIdx_append_eq_iff, mapIdx_append_eq_iff, mapIdx_append_eq_iff,
    mapIdx_eq_iff_of_label (hlabel hwarmup), mapIdx_eq_iff_of_label (hlabel hoverhead),
    mapIdx_eq_iff_of_label (hlabel hpilot), mapIdx_eq_iff_of_label (hlabel hmeasured),
    mapIdx_eq_iff_of_label (hlabel hcooldown)]
  simp only [List.length_append]
  exact phaseAt_iff hplain rfl

/-- **Without its tags a benchmark without HTTP stacks has the same phases, exactly if no phase
but the measured one has 2³² attempts.** -/
theorem attribution_iff (cfg : ResolvedConfig) (env : Probes) (around : Surroundings)
    (modes : List Protocol) (payloadSizes : List ℕ) (hmode : cfg.benchmarkMode = true)
    (hstacks : cfg.httpStacks = []) :
    (erasePhases (recordOf cfg env around modes payloadSizes)).resolvedAttemptPhases =
        (recordOf cfg env around modes payloadSizes).resolvedAttemptPhases ↔
      (phases cfg env modes payloadSizes).overhead.attempts.length < 2 ^ 32 ∧
        (phases cfg env modes payloadSizes).pilot.attempts.length < 2 ^ 32 ∧
        (phases cfg env modes payloadSizes).cooldown.attempts.length < 2 ^ 32 := by
  cases hspecial : Metrics.TestRun.isSpecial cfg.benchmarkPhase with
  | true =>
      obtain ⟨hoverhead, hpilot, hcooldown⟩ :=
        special_phases env modes payloadSizes hspecial
      rw [hoverhead, hpilot, hcooldown]
      simp [attribution_of_special env around modes payloadSizes hmode hstacks hspecial]
  | false => exact attribution_of_plain env around modes payloadSizes hmode hstacks hspecial

end Attribution

/-! ### Two runs -/

section Runs

variable (cfg : ResolvedConfig) (env : Probes) (modes : List Protocol) (payloadSizes : List ℕ)

/-- The attempts of the overhead phase. -/
lemma length_overhead : (phases cfg env modes payloadSizes).overhead.attempts.length =
    sideRuns cfg cfg.benchmarkOverheadSamples defaultOverheadSamples *
      (modeTasks modes payloadSizes).length * samplesOf cfg := by
  have hloop := phaseLoop_none cfg env (modeTasks modes payloadSizes) "overhead"
    (sideRuns cfg cfg.benchmarkOverheadSamples defaultOverheadSamples) 0 []
    (phases cfg env modes payloadSizes).warmedUp
  have hcompleted : (phases cfg env modes payloadSizes).overhead.completed =
      sideRuns cfg cfg.benchmarkOverheadSamples defaultOverheadSamples :=
    (congrArg LoopEnd.completed hloop).trans (Nat.zero_add _)
  rw [← hcompleted]
  exact length_attempts _

/-- The attempts of the cooldown phase. -/
lemma length_cooldown : (phases cfg env modes payloadSizes).cooldown.attempts.length =
    sideRuns cfg cfg.benchmarkCooldownSamples defaultCooldownSamples *
      (modeTasks modes payloadSizes).length * samplesOf cfg := by
  have hloop := phaseLoop_none cfg env (modeTasks modes payloadSizes) "cooldown"
    (sideRuns cfg cfg.benchmarkCooldownSamples defaultCooldownSamples) 0 []
    (phases cfg env modes payloadSizes).measured.state
  have hcompleted : (phases cfg env modes payloadSizes).cooldown.completed =
      sideRuns cfg cfg.benchmarkCooldownSamples defaultCooldownSamples :=
    (congrArg LoopEnd.completed hloop).trans (Nat.zero_add _)
  rw [← hcompleted]
  exact length_attempts _

end Runs

/-- A run of a few attempts has the same phases without its tags. -/
theorem attribution_iff_steady :
    (erasePhases (recordOf steadyConfig steady quiet [.tcp] [])).resolvedAttemptPhases =
      (recordOf steadyConfig steady quiet [.tcp] []).resolvedAttemptPhases := by
  refine (attribution_iff steadyConfig steady quiet [.tcp] [] rfl rfl).mpr ⟨?_, ?_, ?_⟩
  · rw [length_overhead]
    norm_num [sideRuns, measuredBenchmark, steadyConfig, defaultOverheadSamples, modeTasks,
      hasPayload, samplesOf]
  · rw [steady_pilot]
    norm_num
  · rw [length_cooldown]
    norm_num [sideRuns, measuredBenchmark, steadyConfig, defaultCooldownSamples, modeTasks,
      hasPayload, samplesOf]

/-- A benchmark whose overhead phase has the largest count of iterations there is. -/
def crowdedConfig : ResolvedConfig :=
  { steadyConfig with benchmarkOverheadSamples := some (2 ^ 32 - 1) }

/-- With two modes the overhead attempts do not fit their count, and some are misattributed. -/
theorem attribution_crowded :
    (erasePhases (recordOf crowdedConfig steady quiet [.tcp, .udp] [])).resolvedAttemptPhases ≠
      (recordOf crowdedConfig steady quiet [.tcp, .udp] []).resolvedAttemptPhases := by
  intro h
  have hplain : Metrics.TestRun.isSpecial crowdedConfig.benchmarkPhase = false := by decide
  have hfits := ((attribution_of_plain steady quiet [.tcp, .udp] [] rfl rfl hplain).mp h).1
  rw [length_overhead] at hfits
  norm_num [sideRuns, measuredBenchmark, crowdedConfig, steadyConfig, defaultOverheadSamples,
    modeTasks, hasPayload, samplesOf] at hfits

end TargetRunner

end Networker
