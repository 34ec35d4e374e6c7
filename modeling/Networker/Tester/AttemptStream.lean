/-
The attempts on the event stream against the attempts of the artifact.

* `Laddered`: the tries of a burst, sample by sample, each a try and its retries;
* `publishedLogicalAttempts_flatten`: one attempt of every sample is published;
* `Burst`, `Extends`: what the bursts of a part of a run add to the stream and to the
  artifact; every part of a run extends the state before it;
* `StreamExact`: the stream has the records of the artifact, each once;
* `streamed_iff_untouched`: when it has.
-/
import Mathlib.Data.List.SplitBy
import Networker.Tester.TargetRunner

namespace Networker

open Data Metrics Benchmark

namespace TargetRunner

/-! ### The tries of a sample -/

section Tries

variable {probe : ℕ → RequestAttempt} {retries i : ℕ} {a : RequestAttempt}

lemma retriesFrom_eq_nil {last : RequestAttempt} {k : ℕ} :
    retriesFrom probe last k retries = [] ↔ retries = 0 ∨ last.success = true := by
  cases retries with
  | zero => simp [retriesFrom]
  | succ left =>
      rw [retriesFrom]
      split_ifs with h
      · simp [h]
      · simp [h]

variable (probe retries) in
/-- The retries are the probes from `k` on. -/
lemma retriesFrom_eq_map (last : RequestAttempt) (k : ℕ) :
    ∃ n, retriesFrom probe last k retries = (List.range' k n).map probe := by
  induction retries generalizing last k with
  | zero => exact ⟨0, rfl⟩
  | succ left ih =>
      rw [retriesFrom]
      split_ifs with h
      · exact ⟨0, rfl⟩
      · obtain ⟨n, hn⟩ := ih (probe k) (k + 1)
        exact ⟨n + 1, by rw [hn, List.range'_succ, List.map_cons]⟩

variable (probe retries) in
/-- The tries of a sample are its probes from the first on. -/
lemma sampleTries_eq_map : ∃ n, sampleTries probe retries = (List.range (n + 1)).map probe := by
  obtain ⟨n, hn⟩ := retriesFrom_eq_map probe retries (probe 0) 1
  refine ⟨n, ?_⟩
  rw [sampleTries, hn, List.range_eq_range', List.range'_succ, List.map_cons]

/-- A sample has one try if it has no retry or does not need one. -/
lemma length_sampleTries_eq_one :
    (sampleTries probe retries).length = 1 ↔ retries = 0 ∨ (probe 0).success = true := by
  rw [sampleTries, List.length_cons, Nat.add_eq_right, List.length_eq_zero_iff,
    retriesFrom_eq_nil]

end Tries

/-! ### What is published of a burst -/

section Publish

variable {acc tries : List RequestAttempt} {i : ℕ}

/-- The published attempts so far end in another sample. -/
def EndsBefore (i : ℕ) (acc : List RequestAttempt) : Prop :=
  ∀ prev ∈ acc.getLast?, prev.sampleIndex ≠ i

lemma publishStep_new {a : RequestAttempt} (h : EndsBefore a.sampleIndex acc) :
    publishStep acc a = acc ++ [a] := by
  rw [publishStep]
  cases hlast : acc.getLast? with
  | none => rw [List.getLast?_eq_none_iff.mp hlast, List.nil_append]
  | some prev => exact if_neg (h prev hlast)

lemma publishStep_retry {a b : RequestAttempt} (h : a.sampleIndex = b.sampleIndex) :
    publishStep (acc ++ [a]) b = acc ++ [b] := by
  rw [publishStep, List.getLast?_concat]
  simp only [h, if_true, List.dropLast_concat]

/-- The retries of a sample leave its last try. -/
lemma foldl_publishStep_retries {a : RequestAttempt}
    (h : ∀ b ∈ tries, b.sampleIndex = a.sampleIndex) :
    tries.foldl publishStep (acc ++ [a]) = acc ++ [(a :: tries).getLast (by simp)] := by
  induction tries generalizing a with
  | nil => rfl
  | cons b tries ih =>
      have hb : b.sampleIndex = a.sampleIndex := h b List.mem_cons_self
      rw [List.foldl_cons, publishStep_retry hb.symm,
        ih fun c hc => (h c (List.mem_cons_of_mem b hc)).trans hb.symm]
      simp

/-- A sample adds its last try. -/
lemma foldl_publishStep_sample (hne : tries ≠ []) (hi : ∀ a ∈ tries, a.sampleIndex = i)
    (hacc : EndsBefore i acc) :
    tries.foldl publishStep acc = acc ++ [tries.getLast hne] := by
  cases tries with
  | nil => exact absurd rfl hne
  | cons a tries =>
      have ha : a.sampleIndex = i := hi a List.mem_cons_self
      rw [List.foldl_cons, publishStep_new (by rwa [ha]), foldl_publishStep_retries]
      intro b hb
      rw [ha, hi b (List.mem_cons_of_mem a hb)]

end Publish

/-! ### The tries of a burst -/

/-- A probe that answers for a sample of a burst. -/
structure Answers (env : Probes) (number i : ℕ) (probe : ℕ → RequestAttempt) : Prop where
  attemptId : ∀ k, (probe k).attemptId = (env.outcome (.tryAt number i k)).attemptId
  success : ∀ k, (probe k).success = (env.outcome (.tryAt number i k)).success
  retryCount : ∀ k, (probe k).retryCount = k
  sampleIndex : ∀ k, (probe k).sampleIndex = i
  phase : ∀ k, (probe k).phase = none

/-- The tries of a sample of a burst. -/
def SampleOf (cfg : ResolvedConfig) (env : Probes) (number i : ℕ)
    (tries : List RequestAttempt) : Prop :=
  ∃ probe, Answers env number i probe ∧ tries = sampleTries probe cfg.retries

/-- The tries of samples of a burst. -/
def Laddered (cfg : ResolvedConfig) (env : Probes) (number : ℕ) :
    List ℕ → List (List RequestAttempt) → Prop :=
  List.Forall₂ (SampleOf cfg env number)

section Laddered

variable {cfg : ResolvedConfig} {env : Probes} {number i : ℕ} {is : List ℕ}
variable {tries acc : List RequestAttempt} {tss : List (List RequestAttempt)}

lemma burst_laddered (t : Task) :
    Laddered cfg env t.burst (List.range (samplesOf cfg)) (burst cfg env t) := by
  rw [Laddered, burst, List.forall₂_map_right_iff, List.forall₂_same]
  intro i _
  exact ⟨_, ⟨fun _ => rfl, fun _ => rfl, fun _ => rfl, fun _ => rfl, fun _ => rfl⟩, rfl⟩

lemma stackBurst_laddered (stack : HttpStack) (protocol : Protocol) (is : List ℕ) (seq : ℕ) :
    Laddered cfg env number is (stackBurst cfg env stack number protocol is seq) := by
  induction is generalizing seq with
  | nil => exact List.Forall₂.nil
  | cons i is ih =>
      rw [stackBurst]
      exact List.Forall₂.cons
        ⟨_, ⟨fun _ => rfl, fun _ => rfl, fun _ => rfl, fun _ => rfl, fun _ => rfl⟩, rfl⟩
        (ih _)

lemma SampleOf.ne_nil (h : SampleOf cfg env number i tries) : tries ≠ [] := by
  obtain ⟨probe, _, rfl⟩ := h
  exact List.cons_ne_nil _ _

lemma SampleOf.mem (h : SampleOf cfg env number i tries) {a : RequestAttempt} (ha : a ∈ tries) :
    a.sampleIndex = i ∧ a.phase = none ∧
      ∃ k, a.attemptId = (env.outcome (.tryAt number i k)).attemptId := by
  obtain ⟨probe, hprobe, rfl⟩ := h
  obtain ⟨n, hn⟩ := sampleTries_eq_map probe cfg.retries
  rw [hn] at ha
  obtain ⟨k, _, rfl⟩ := List.mem_map.mp ha
  exact ⟨hprobe.sampleIndex k, hprobe.phase k, k, hprobe.attemptId k⟩

/-- A sample has one try if it has no retry or does not need one. -/
lemma SampleOf.length_eq_one (h : SampleOf cfg env number i tries) :
    tries.length = 1 ↔
      cfg.retries = 0 ∨ (env.outcome (.tryAt number i 0)).success = true := by
  obtain ⟨probe, hprobe, rfl⟩ := h
  rw [length_sampleTries_eq_one, hprobe.success]

/-- The tries of a sample have ids of their own. -/
lemma SampleOf.distinct (h : SampleOf cfg env number i tries) :
    tries.Pairwise fun a b => a.attemptId ≠ b.attemptId := by
  obtain ⟨probe, hprobe, rfl⟩ := h
  obtain ⟨n, hn⟩ := sampleTries_eq_map probe cfg.retries
  rw [hn, List.pairwise_map]
  refine List.nodup_range.imp fun {k l} hkl => ?_
  rw [hprobe.attemptId, hprobe.attemptId]
  intro h
  have hsite := env.fresh h
  rw [Site.tryAt.injEq] at hsite
  exact hkl hsite.2.2

/-- One attempt of every sample is published, its last try. -/
lemma foldl_publishStep_flatten (h : Laddered cfg env number is tss)
    (his : is.Pairwise (· < ·)) (hacc : ∀ i ∈ is, EndsBefore i acc) :
    tss.flatten.foldl publishStep acc = acc ++ tss.filterMap List.getLast? := by
  induction h generalizing acc with
  | nil => simp
  | @cons i tries is tss htries _ ih =>
      obtain ⟨hlt, his⟩ := List.pairwise_cons.mp his
      have hindex : ∀ a ∈ tries, a.sampleIndex = i := fun a ha => (htries.mem ha).1
      rw [List.flatten_cons, List.foldl_append,
        foldl_publishStep_sample htries.ne_nil hindex (hacc i List.mem_cons_self), ih his,
        List.filterMap_cons_some (List.getLast?_eq_some_getLast htries.ne_nil),
        List.append_assoc, List.singleton_append]
      intro j hj prev hprev
      rw [List.getLast?_concat, Option.mem_some_iff] at hprev
      rw [← hprev, hindex _ (List.getLast_mem _)]
      exact (hlt j hj).ne

lemma publishedLogicalAttempts_flatten (h : Laddered cfg env number is tss)
    (his : is.Pairwise (· < ·)) :
    publishedLogicalAttempts tss.flatten = tss.filterMap List.getLast? := by
  have hacc : ∀ i ∈ is, EndsBefore i [] := fun i _ prev hprev => by
    rw [List.getLast?_nil] at hprev
    exact absurd hprev (Option.not_mem_none prev)
  rw [publishedLogicalAttempts, foldl_publishStep_flatten h his hacc, List.nil_append]

/-- There are at least as many tries as published attempts, and more if a sample was
retried. -/
lemma length_filterMap_getLast (h : Laddered cfg env number is tss) :
    (tss.filterMap List.getLast?).length ≤ tss.flatten.length ∧
      (tss.flatten.length ≤ (tss.filterMap List.getLast?).length →
        ∀ i ∈ is, cfg.retries = 0 ∨ (env.outcome (.tryAt number i 0)).success = true) := by
  induction h with
  | nil => exact ⟨le_rfl, fun _ i hi => absurd hi List.not_mem_nil⟩
  | @cons i tries is tss htries _ ih =>
      obtain ⟨hle, heq⟩ := ih
      have hpos : 0 < tries.length := List.length_pos_iff.mpr htries.ne_nil
      rw [List.filterMap_cons_some (List.getLast?_eq_some_getLast htries.ne_nil),
        List.flatten_cons, List.length_append, List.length_cons]
      refine ⟨by omega, fun hge j hj => ?_⟩
      rcases List.mem_cons.mp hj with rfl | hj
      · exact htries.length_eq_one.mp (by omega)
      · exact heq (by omega) j hj

/-- Without a retry all tries are published. -/
lemma filterMap_getLast_eq_flatten (h : Laddered cfg env number is tss)
    (hone : ∀ i ∈ is, cfg.retries = 0 ∨ (env.outcome (.tryAt number i 0)).success = true) :
    tss.filterMap List.getLast? = tss.flatten := by
  induction h with
  | nil => rfl
  | @cons i tries is tss htries _ ih =>
      obtain ⟨a, rfl⟩ := List.length_eq_one_iff.mp
        (htries.length_eq_one.mpr (hone i List.mem_cons_self))
      have hlast : [a].getLast? = some a := rfl
      rw [List.filterMap_cons_some hlast, List.flatten_cons, List.singleton_append,
        ih fun j hj => hone j (List.mem_cons_of_mem i hj)]

/-- A try of a burst belongs to one of its samples. -/
lemma Laddered.mem (h : Laddered cfg env number is tss) {a : RequestAttempt}
    (ha : a ∈ tss.flatten) :
    a.phase = none ∧ ∃ i ∈ is, ∃ k,
      a.attemptId = (env.outcome (.tryAt number i k)).attemptId := by
  induction h with
  | nil => exact absurd ha List.not_mem_nil
  | @cons i tries is tss htries _ ih =>
      rw [List.flatten_cons] at ha
      rcases List.mem_append.mp ha with ha | ha
      · obtain ⟨_, hphase, hid⟩ := htries.mem ha
        exact ⟨hphase, i, List.mem_cons_self, hid⟩
      · obtain ⟨hphase, j, hj, hid⟩ := ih ha
        exact ⟨hphase, j, List.mem_cons_of_mem i hj, hid⟩

/-- The tries of a burst have ids of their own. -/
lemma Laddered.distinct (h : Laddered cfg env number is tss) (his : is.Pairwise (· < ·)) :
    tss.flatten.Pairwise fun a b => a.attemptId ≠ b.attemptId := by
  induction h with
  | nil => exact List.Pairwise.nil
  | @cons i tries is tss htries hrest ih =>
      obtain ⟨hlt, his⟩ := List.pairwise_cons.mp his
      rw [List.flatten_cons, List.pairwise_append]
      refine ⟨htries.distinct, ih his, fun a ha b hb => ?_⟩
      obtain ⟨_, _, k, hk⟩ := htries.mem ha
      obtain ⟨_, j, hj, l, hl⟩ := Laddered.mem hrest hb
      intro hab
      have hsite := env.fresh (hk.symm.trans (hab.trans hl))
      rw [Site.tryAt.injEq] at hsite
      exact (hlt j hj).ne hsite.2.1

end Laddered

/-! ### The bursts of a run -/

/-- A burst of a run: its number, its phase and its tries. -/
structure Burst where
  number : ℕ
  phase : String
  tries : List (List RequestAttempt)

/-- The tries of a burst, on the stream. -/
def Burst.raw (b : Burst) : List RequestAttempt := b.tries.flatten

/-- The attempts of a burst, in the artifact. -/
def Burst.published (cfg : ResolvedConfig) (b : Burst) : List RequestAttempt :=
  tagged (benchmarkPhaseTag cfg b.phase) (publishedLogicalAttempts b.raw)

/-- What the bursts of a part of a run add to the state before it. -/
structure Extends (cfg : ResolvedConfig) (env : Probes) (st st' : RunState)
    (bs : List Burst) : Prop where
  laddered : ∀ b ∈ bs, Laddered cfg env b.number (List.range (samplesOf cfg)) b.tries
  numbers : (bs.map Burst.number).Perm (List.range' st.bursts bs.length)
  bursts : st'.bursts = st.bursts + bs.length
  logged : st'.logged = st.logged ++ bs.flatMap Burst.raw
  allAttempts : st'.allAttempts = st.allAttempts ++ bs.flatMap (Burst.published cfg)

section Extends

variable {cfg : ResolvedConfig} {env : Probes} {st st' st'' : RunState} {bs bs' : List Burst}

lemma Extends.refl : Extends cfg env st st [] where
  laddered _ hb := absurd hb List.not_mem_nil
  numbers := List.Perm.nil
  bursts := rfl
  logged := (List.append_nil _).symm
  allAttempts := (List.append_nil _).symm

lemma Extends.trans (h : Extends cfg env st st' bs) (h' : Extends cfg env st' st'' bs') :
    Extends cfg env st st'' (bs ++ bs') where
  laddered b hb := (List.mem_append.mp hb).elim (h.laddered b) (h'.laddered b)
  numbers := by
    rw [List.map_append, List.length_append, ← List.range'_append_1, ← h.bursts]
    exact h.numbers.append h'.numbers
  bursts := by rw [h'.bursts, h.bursts, List.length_append, Nat.add_assoc]
  logged := by rw [h'.logged, h.logged, List.flatMap_append, List.append_assoc]
  allAttempts := by
    rw [h'.allAttempts, h.allAttempts, List.flatMap_append, List.append_assoc]

variable (env) in
lemma finished_perm (tasks : List Task) : (finished env tasks).Perm tasks := by
  have h : ∀ groups : List (List Task), (groups.flatMap env.completion).Perm groups.flatten := by
    intro groups
    induction groups with
    | nil => exact List.Perm.nil
    | cons g groups ih =>
        rw [List.flatMap_cons, List.flatten_cons]
        exact (env.complete g).append ih
  have hall := h (tasks.splitBy fun a b => decide (a.protocol = b.protocol))
  rwa [List.flatten_splitBy] at hall

lemma tasksOf_burst (modes : List (Protocol × Option ℕ)) :
    (tasksOf cfg st modes).map Task.burst = List.range' st.bursts modes.length := by
  apply List.ext_getElem
  · simp [tasksOf]
  · intro i _ _
    simp [tasksOf]

variable (cfg env) in
/-- An iteration adds a burst for every task. -/
lemma phaseIteration_extends (modes : List (Protocol × Option ℕ)) (phase : String)
    (st : RunState) :
    ∃ bs, Extends cfg env st (phaseIteration cfg env modes phase st).2 bs := by
  have hperm := finished_perm env (tasksOf cfg st modes)
  have hlen : (finished env (tasksOf cfg st modes)).length = modes.length := by
    rw [hperm.length_eq, tasksOf, List.length_mapIdx]
  refine ⟨(finished env (tasksOf cfg st modes)).map fun t => ⟨t.burst, phase, burst cfg env t⟩,
    ?_, ?_, ?_, ?_, ?_⟩
  · intro b hb
    obtain ⟨t, _, rfl⟩ := List.mem_map.mp hb
    exact burst_laddered t
  · rw [List.length_map, hlen, List.map_map, ← tasksOf_burst]
    exact hperm.map _
  · rw [List.length_map, hlen]
    rfl
  · rw [List.flatMap_map]
    show st.logged ++ List.flatten _ = st.logged ++ List.flatMap _ _
    rw [List.flatMap_def]
    rfl
  · rw [List.flatMap_map]
    show st.allAttempts ++ tagged _ (List.flatMap _ (List.map _ _)) = _
    rw [tagged, List.flatMap_map, List.map_flatMap]
    rfl

variable (cfg env) in
/-- A loop adds the bursts of its iterations. -/
lemma phaseLoop_extends (modes : List (Protocol × Option ℕ)) (phase : String)
    (criteria : Option AdaptiveCriteria) (left completed : ℕ) (attempts : List RequestAttempt)
    (st : RunState) :
    ∃ bs, Extends cfg env st
      (phaseLoop cfg env modes phase criteria left completed attempts st).state bs := by
  induction left generalizing completed attempts st with
  | zero => exact ⟨[], Extends.refl⟩
  | succ left ih =>
      obtain ⟨bs, hbs⟩ := phaseIteration_extends cfg env modes phase st
      simp only [phaseLoop]
      split
      · exact ⟨bs, hbs⟩
      · obtain ⟨bs', hbs'⟩ := ih (completed + 1)
          (attempts ++ (phaseIteration cfg env modes phase st).1)
          (phaseIteration cfg env modes phase st).2
        exact ⟨bs ++ bs', hbs.trans hbs'⟩

lemma stackProbe_extends (stack : HttpStack) (st : RunState) (protocol : Protocol) :
    ∃ bs, Extends cfg env st (stackProbe cfg env stack st protocol) bs := by
  refine ⟨[⟨st.bursts, cfg.benchmarkPhase,
    stackBurst cfg env stack st.bursts protocol (List.range (samplesOf cfg)) st.seq⟩],
    ?_, ?_, rfl, ?_, ?_⟩
  · intro b hb
    rw [List.mem_singleton] at hb
    rw [hb]
    exact stackBurst_laddered _ _ _ _
  · exact List.Perm.refl _
  · rw [List.flatMap_singleton]
    rfl
  · rw [List.flatMap_singleton]
    rfl

/-- What every step of a fold adds, the fold adds. -/
lemma foldl_extends {α : Type} {f : RunState → α → RunState}
    (hf : ∀ st a, ∃ bs, Extends cfg env st (f st a) bs) (as : List α) (st : RunState) :
    ∃ bs, Extends cfg env st (as.foldl f st) bs := by
  induction as generalizing st with
  | nil => exact ⟨[], Extends.refl⟩
  | cons a as ih =>
      obtain ⟨bs, hbs⟩ := hf st a
      obtain ⟨bs', hbs'⟩ := ih (f st a)
      exact ⟨bs ++ bs', hbs.trans hbs'⟩

variable (cfg env) in
lemma stackRuns_extends (modes : List Protocol) (st : RunState) (stack : HttpStack × ℕ) :
    ∃ bs, Extends cfg env st (stackRuns cfg env modes st stack) bs := by
  rw [stackRuns]
  split_ifs
  · exact foldl_extends (stackProbe_extends stack.1) _ st
  · exact ⟨[], Extends.refl⟩

variable (cfg env) in
/-- A run is its warm-ups and bursts behind them. -/
lemma phases_extends (modes : List Protocol) (payloadSizes : List ℕ) :
    ∃ bs, Extends cfg env (warmups cfg env modes)
      (phases cfg env modes payloadSizes).last bs := by
  obtain ⟨bs₁, h₁⟩ := phaseLoop_extends cfg env _ _ _ _ 0 [] (warmups cfg env modes)
  obtain ⟨bs₂, h₂⟩ := phaseLoop_extends cfg env _ _ _ _ 0 [] _
  obtain ⟨bs₃, h₃⟩ := phaseLoop_extends cfg env _ _ _ _ 0 [] _
  obtain ⟨bs₄, h₄⟩ := phaseLoop_extends cfg env _ _ _ _ 0 [] _
  obtain ⟨bs₅, h₅⟩ := foldl_extends (stackRuns_extends cfg env modes) _ _
  exact ⟨_, (((h₁.trans h₂).trans h₃).trans h₄).trans h₅⟩

end Extends

/-! ### The warm-ups -/

section Warmups

variable (cfg : ResolvedConfig) (env : Probes) (modes : List Protocol)

/-- The sites that are no tries of a burst. -/
def warmupSites : List Site := [.warmup2, .warmup3]

/-- What the warm-ups leave: the same attempts on the stream and in the artifact. -/
structure WarmedUp (env : Probes) (st : RunState) : Prop where
  same : st.allAttempts = st.logged
  bursts : st.bursts = 0
  distinct : st.logged.Pairwise fun a b => a.attemptId ≠ b.attemptId
  sites : ∀ a ∈ st.logged, ∃ s ∈ warmupSites, a.attemptId = (env.outcome s).attemptId

lemma warmups_warmedUp : WarmedUp env (warmups cfg env modes) := by
  have hne : (env.outcome .warmup2).attemptId ≠ (env.outcome .warmup3).attemptId := by
    intro h
    exact Site.noConfusion (env.fresh h)
  simp only [warmups, warmup]
  split_ifs
  · exact ⟨rfl, rfl, by simpa [dispatch] using hne, by simp [warmupSites, dispatch]⟩
  · exact ⟨rfl, rfl, by simp, by simp [warmupSites, dispatch]⟩
  · exact ⟨rfl, rfl, by simp, by simp [warmupSites, dispatch]⟩
  · exact ⟨rfl, rfl, by simp, by simp⟩

end Warmups

/-! ### The stream and the artifact -/

/-- What the agent reads of an attempt to tell it apart. -/
def streamKey (a : RequestAttempt) : ℕ × Option String × ℕ :=
  (a.attemptId, a.phase, a.retryCount)

/-- The stream has the records of the artifact, each once. -/
structure StreamExact (events attempts : List RequestAttempt) : Prop where
  once : (events.map (·.attemptId)).Nodup
  same : (events.map streamKey).Perm (attempts.map streamKey)

/-- A sample is not retried: there are no retries, or its first try succeeds. -/
def Untouched (cfg : ResolvedConfig) (env : Probes) (number : ℕ) : Prop :=
  ∀ i < samplesOf cfg, cfg.retries = 0 ∨ (env.outcome (.tryAt number i 0)).success = true

section Stream

variable {cfg : ResolvedConfig} {env : Probes} {st st' : RunState} {bs : List Burst} {b : Burst}

variable (cfg) in
lemma samplesOf_pos : 0 < samplesOf cfg := by
  rw [samplesOf]
  omega

lemma Extends.published_eq (h : Extends cfg env st st' bs) (hb : b ∈ bs) :
    b.published cfg =
      tagged (benchmarkPhaseTag cfg b.phase) (b.tries.filterMap List.getLast?) := by
  rw [Burst.published, Burst.raw,
    publishedLogicalAttempts_flatten (h.laddered b hb) List.pairwise_lt_range]

/-- A burst has at least one try. -/
lemma Extends.raw_ne_nil (h : Extends cfg env st st' bs) (hb : b ∈ bs) : b.raw ≠ [] := by
  have hladder := h.laddered b hb
  obtain ⟨n, hn⟩ := Nat.exists_eq_add_of_lt (samplesOf_pos cfg)
  rw [hn, Nat.zero_add, List.range_succ_eq_map, Laddered, List.forall₂_cons_left_iff] at hladder
  obtain ⟨tries, rest, htries, _, heq⟩ := hladder
  rw [Burst.raw, heq, List.flatten_cons]
  exact List.append_ne_nil_of_left_ne_nil htries.ne_nil _

lemma Extends.mem_raw (h : Extends cfg env st st' bs) (hb : b ∈ bs) {a : RequestAttempt}
    (ha : a ∈ b.raw) :
    a.phase = none ∧ ∃ i k, a.attemptId = (env.outcome (.tryAt b.number i k)).attemptId := by
  obtain ⟨hphase, i, _, hid⟩ := Laddered.mem (h.laddered b hb) ha
  exact ⟨hphase, i, hid⟩

/-- Every attempt on the stream has an id of its own. -/
lemma Extends.distinct (h : Extends cfg env st st' bs) (hst : WarmedUp env st) :
    st'.logged.Pairwise fun a b => a.attemptId ≠ b.attemptId := by
  rw [h.logged, List.pairwise_append, List.pairwise_flatMap]
  refine ⟨hst.distinct, ⟨fun b hb => ?_, ?_⟩, fun a ha c hc => ?_⟩
  · exact Laddered.distinct (h.laddered b hb) List.pairwise_lt_range
  · have hnodup : (bs.map Burst.number).Nodup :=
      h.numbers.nodup_iff.mpr List.nodup_range'
    rw [List.Nodup, List.pairwise_map] at hnodup
    refine hnodup.imp_of_mem fun {b c} hb hc hbc x hx y hy hxy => ?_
    obtain ⟨_, i, k, hk⟩ := h.mem_raw hb hx
    obtain ⟨_, j, l, hl⟩ := h.mem_raw hc hy
    have hsite := env.fresh (hk.symm.trans (hxy.trans hl))
    rw [Site.tryAt.injEq] at hsite
    exact hbc hsite.1
  · obtain ⟨s, hs, hid⟩ := hst.sites a ha
    obtain ⟨b, hb, hc⟩ := List.mem_flatMap.mp hc
    obtain ⟨_, i, k, hk⟩ := h.mem_raw hb hc
    intro hac
    rw [env.fresh (hid.symm.trans (hac.trans hk)), warmupSites] at hs
    simp at hs

/-- At least as much is on the stream as in the artifact, and more if a sample of a burst
was retried. -/
lemma length_flatMap_published (hbs : ∀ b ∈ bs,
      b.published cfg = tagged (benchmarkPhaseTag cfg b.phase)
        (b.tries.filterMap List.getLast?) ∧
      Laddered cfg env b.number (List.range (samplesOf cfg)) b.tries) :
    (bs.flatMap (Burst.published cfg)).length ≤ (bs.flatMap Burst.raw).length ∧
      ((bs.flatMap Burst.raw).length ≤ (bs.flatMap (Burst.published cfg)).length →
        ∀ b ∈ bs, Untouched cfg env b.number) := by
  induction bs with
  | nil => exact ⟨le_rfl, fun _ b hb => absurd hb List.not_mem_nil⟩
  | cons b bs ih =>
      obtain ⟨hle, heq⟩ := ih fun c hc => hbs c (List.mem_cons_of_mem b hc)
      obtain ⟨hpub, hladder⟩ := hbs b List.mem_cons_self
      obtain ⟨hle', heq'⟩ := length_filterMap_getLast hladder
      rw [List.flatMap_cons, List.flatMap_cons, List.length_append, List.length_append, hpub,
        tagged, List.length_map]
      have hraw : b.raw.length = b.tries.flatten.length := rfl
      refine ⟨by omega, fun hge c hc => ?_⟩
      rcases List.mem_cons.mp hc with rfl | hc
      · intro i hi
        exact heq' (by omega) i (List.mem_range.mpr hi)
      · exact heq (by omega) c hc

lemma tagged_none {attempts : List RequestAttempt} (h : ∀ a ∈ attempts, a.phase = none) :
    tagged none attempts = attempts := by
  rw [tagged]
  conv_rhs => rw [← List.map_id attempts]
  refine List.map_congr_left fun a ha => ?_
  rw [← h a ha]
  rfl

/-- Without a retry, and without a benchmark, what is published is what was streamed. -/
lemma Extends.published_eq_raw (h : Extends cfg env st st' bs) (hb : b ∈ bs)
    (hmode : cfg.benchmarkMode = false) (hone : Untouched cfg env b.number) :
    b.published cfg = b.raw := by
  have hflat := filterMap_getLast_eq_flatten (h.laddered b hb)
    fun i hi => hone i (List.mem_range.mp hi)
  have htag : benchmarkPhaseTag cfg b.phase = none := by
    rw [benchmarkPhaseTag, hmode]
    rfl
  rw [h.published_eq hb, hflat, htag]
  exact tagged_none fun a ha => (h.mem_raw hb ha).1

/-- What a benchmark publishes of a burst has a phase. -/
lemma phase_of_mem_published (hmode : cfg.benchmarkMode = true) {a : RequestAttempt}
    (ha : a ∈ b.published cfg) : a.phase ≠ none := by
  rw [Burst.published, tagged] at ha
  obtain ⟨c, _, rfl⟩ := List.mem_map.mp ha
  rw [benchmarkPhaseTag, hmode]
  simp only [Bool.not_true, Bool.false_eq_true, if_false]
  split_ifs
  · exact Option.some_ne_none _
  · exact Option.some_ne_none _

/-- A benchmark streams no burst exactly: the phase is missing there. -/
lemma Extends.eq_nil_of_perm (h : Extends cfg env st st' bs) (hst : WarmedUp env st)
    (hmode : cfg.benchmarkMode = true)
    (hperm : (st'.logged.map streamKey).Perm (st'.allAttempts.map streamKey)) : bs = [] := by
  have hcount := hperm.countP_eq fun key => key.2.1.isNone
  rw [h.logged, h.allAttempts, hst.same, List.map_append, List.map_append, List.countP_append,
    List.countP_append, Nat.add_left_cancel_iff, List.countP_map, List.countP_map] at hcount
  have hpublished : (bs.flatMap (Burst.published cfg)).countP
      ((fun key => key.2.1.isNone) ∘ streamKey) = 0 := by
    rw [List.countP_eq_zero]
    intro a ha
    obtain ⟨b, _, ha⟩ := List.mem_flatMap.mp ha
    simpa [streamKey, Option.isNone_iff_eq_none] using phase_of_mem_published hmode ha
  rw [hpublished, List.countP_eq_zero] at hcount
  by_contra hne
  obtain ⟨b, hb⟩ := List.exists_mem_of_ne_nil bs hne
  obtain ⟨a, ha⟩ := List.exists_mem_of_ne_nil _ (h.raw_ne_nil hb)
  have hsome := hcount a (List.mem_flatMap.mpr ⟨b, hb, ha⟩)
  rw [Function.comp_apply, streamKey, (h.mem_raw hb ha).1] at hsome
  exact hsome rfl

end Stream

/-! ### A retried sample, and a benchmark -/

/-- Probes whose first try fails and whose retries succeed. -/
def secondTry : Probes where
  outcome s :=
    { attemptId := siteId s
      startedAt := 0
      finishedAt := some 1000
      success := match s with
        | .tryAt _ _ 0 => false
        | _ => true }
  fresh := siteId_injective
  completion := id
  complete := Probes.perm_id
  stackAvailable _ := true

/-- A run of one iteration without connection reuse. -/
def oneRun (retries : ℕ) (benchmarkMode : Bool) (phase : String) : ResolvedConfig where
  runs := 1
  retries
  samples := 1
  connectionReuse := false
  benchmarkMode
  benchmarkPhase := phase

/-- Nothing is measured around the run. -/
def unobserved : Surroundings where
  startedAt := 0
  finishedAt := 1000
  benchmarkStabilityCheck := none
  benchmarkEnvironmentCheck := none
  baseline := none
  clockOffsetMs := none

/-! ### When the stream is exact -/

/-- The stream has the records of the artifact, each once, if and only if no sample of the
run was retried and the run is no benchmark, or probes nothing but its warm-ups. -/
theorem streamed_iff_untouched (cfg : ResolvedConfig) (env : Probes) (around : Surroundings)
    (modes : List Protocol) (payloadSizes : List ℕ) :
    StreamExact (runForTarget cfg env around modes payloadSizes).1
        (runForTarget cfg env around modes payloadSizes).2.attempts ↔
      (cfg.benchmarkMode = true → (phases cfg env modes payloadSizes).last.bursts = 0) ∧
        ∀ number < (phases cfg env modes payloadSizes).last.bursts,
          Untouched cfg env number := by
  obtain ⟨bs, h⟩ := phases_extends cfg env modes payloadSizes
  have hst := warmups_warmedUp cfg env modes
  have hcount : (phases cfg env modes payloadSizes).last.bursts = bs.length := by
    rw [h.bursts, hst.bursts, Nat.zero_add]
  have hmem : ∀ number, number < bs.length ↔ ∃ b ∈ bs, b.number = number := by
    intro number
    rw [← List.mem_map, h.numbers.mem_iff, hst.bursts, List.mem_range'_1]
    omega
  show StreamExact (phases cfg env modes payloadSizes).last.logged
    (phases cfg env modes payloadSizes).last.allAttempts ↔ _
  rw [hcount]
  constructor
  · rintro ⟨_, hsame⟩
    refine ⟨fun hmode => ?_, fun number hnumber => ?_⟩
    · rw [h.eq_nil_of_perm hst hmode hsame, List.length_nil]
    · obtain ⟨b, hb, rfl⟩ := (hmem number).mp hnumber
      have hlen := hsame.length_eq
      rw [List.length_map, List.length_map, h.logged, h.allAttempts, hst.same,
        List.length_append, List.length_append] at hlen
      exact (length_flatMap_published
        fun c hc => ⟨h.published_eq hc, h.laddered c hc⟩).2 (by omega) b hb
  · rintro ⟨hmode, hone⟩
    refine ⟨?_, ?_⟩
    · rw [List.Nodup, List.pairwise_map]
      exact h.distinct hst
    · have hsame : bs.flatMap (Burst.published cfg) = bs.flatMap Burst.raw := by
        refine List.flatMap_congr fun b hb => h.published_eq_raw hb ?_
          (hone _ ((hmem _).mpr ⟨b, hb, rfl⟩))
        by_contra hmode'
        have hnil := hmode (by simpa using hmode')
        rw [List.length_eq_zero_iff] at hnil
        exact absurd hb (by simp [hnil])
      rw [h.logged, h.allAttempts, hst.same, hsame]

/-- The failed try of a retried sample is on the stream and not in the artifact, and in a
benchmark the attempts on the stream have no phase. -/
theorem superseded_try_streamed :
    ¬ StreamExact (runForTarget (oneRun 1 false "measured") secondTry unobserved [.tcp] []).1
        (runForTarget (oneRun 1 false "measured") secondTry unobserved [.tcp] []).2.attempts ∧
      ¬ StreamExact (runForTarget (oneRun 0 true "warmup") secondTry unobserved [.tcp] []).1
        (runForTarget (oneRun 0 true "warmup") secondTry unobserved [.tcp] []).2.attempts :=
  ⟨fun h => absurd h.same (by decide +kernel), fun h => absurd h.same (by decide +kernel)⟩

end TargetRunner

end Networker
