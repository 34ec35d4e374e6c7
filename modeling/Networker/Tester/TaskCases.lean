/-
The attempts of mode tasks and their cases.

* `taskCaseId`: the case of a task; `caseId_eq_taskCaseId`: when an attempt has it;
* `PublishedFor`: the attempt that is published for a sample of a burst;
* `Publishes`: a list of attempts, one for every sample of a range of bursts;
* `phaseLoop_publishes`: what a loop publishes;
* `phaseLoop_evenlyGrouped`: as long as every attempt has the case of its task, a loop adds the
  same number of attempts to every case.
-/
import Networker.Data.EvenGroups
import Networker.Data.SeparatedText
import Networker.Tester.AdaptiveStop
import Networker.Tester.AttemptStream
import Networker.Tester.DispatchOnce

namespace Networker

open Data Metrics Benchmark Dispatch

namespace TargetRunner

/-! ### The cases of tasks -/

/-- All protocols. -/
def protocols : List Protocol :=
  [.tcp, .http1, .http2, .http3, .udp, .download, .download1, .download2, .download3, .upload,
    .upload1, .upload2, .upload3, .webDownload, .webUpload, .udpDownload, .udpUpload,
    .mthroughput, .rpm, .responsiveness, .stamp, .ping, .path, .dualStack, .webSocket, .pmtud,
    .dns, .tls, .tlsResume, .native, .curl, .pageLoad, .pageLoad2, .pageLoad3, .browser,
    .browser1, .browser2, .browser3, .sdkProbe]

lemma mem_protocols (p : Protocol) : p ∈ protocols := by cases p <;> decide

lemma name_injective : Function.Injective Protocol.name := by
  have hnodup : (protocols.map Protocol.name).Nodup := by decide +kernel
  intro p q h
  exact List.inj_on_of_nodup_map hnodup (mem_protocols p) (mem_protocols q) h

lemma colon_notMem_name (p : Protocol) : ':' ∉ p.name.toList := by cases p <;> decide

/-- A size in the id of a case. -/
def sizeText (size : Option ℕ) : String := (size.map Text.ofNat).getD "default"

lemma colon_notMem_sizeText (size : Option ℕ) : ':' ∉ (sizeText size).toList := by
  cases size with
  | none => decide
  | some n => exact Text.notMem_ofNat (by decide)

lemma sizeText_injective : Function.Injective sizeText := by
  have hdefault : ∀ n, Text.ofNat n ≠ "default" := by
    intro n h
    have hd : 'd' ∉ (Text.ofNat n).toList := Text.notMem_ofNat (by decide)
    rw [h] at hd
    exact hd (by decide)
  intro size size' h
  cases size with
  | none =>
      cases size' with
      | none => rfl
      | some n => exact absurd h.symm (hdefault n)
  | some m =>
      cases size' with
      | none => exact absurd h (hdefault m)
      | some n => exact congrArg some (Text.ofNat_injective h)

/-- The id of a case without an HTTP stack. -/
def plainCaseId (p : Protocol) (size : Option ℕ) : String :=
  p.name ++ ":" ++ sizeText size ++ ":" ++ "default"

lemma plainCaseId_inj {p q : Protocol} {size size' : Option ℕ} :
    plainCaseId p size = plainCaseId q size' ↔ p = q ∧ size = size' := by
  have hcolon : (":" : String) = String.singleton ':' := rfl
  have hassoc : ∀ r s, plainCaseId r s =
      r.name ++ String.singleton ':' ++ (sizeText s ++ String.singleton ':' ++ "default") := by
    intro r s
    simp only [plainCaseId, hcolon, String.append_assoc]
  rw [hassoc, hassoc, Text.append_inj_of_sep (colon_notMem_name p) (colon_notMem_name q),
    Text.append_inj_of_sep (colon_notMem_sizeText size) (colon_notMem_sizeText size'),
    name_injective.eq_iff, sizeText_injective.eq_iff, and_iff_left rfl]

/-- The case of a mode task. -/
def taskCaseId (t : Protocol × Option ℕ) : String := plainCaseId t.1 (requestedSize t.2)

lemma caseId_of_no_stack {a : RequestAttempt} (h : a.httpStack = none) :
    caseId a = plainCaseId a.protocol (namedSize a.results) := by
  rw [caseId, h]
  rfl

/-- An attempt has the case of a task if it names the size of the task. -/
lemma caseId_eq_taskCaseId {a : RequestAttempt} {t : Protocol × Option ℕ}
    (hstack : a.httpStack = none) (hprotocol : a.protocol = t.1) :
    caseId a = taskCaseId t ↔ namedSize a.results = requestedSize t.2 := by
  rw [caseId_of_no_stack hstack, hprotocol, taskCaseId, plainCaseId_inj, and_iff_right rfl]

section Tasks

variable {modes : List Protocol} {payloadSizes : List ℕ} {t : Protocol × Option ℕ}

/-- A task asks for a size if its protocol has a payload. -/
lemma mem_modeTasks : t ∈ modeTasks modes payloadSizes ↔
    t.1 ∈ modes ∧ t.2.isSome = hasPayload t.1 ∧ ∀ sz ∈ t.2, sz ∈ payloadSizes := by
  obtain ⟨p, payload⟩ := t
  rw [modeTasks, List.mem_flatMap]
  constructor
  · rintro ⟨q, hq, h⟩
    split_ifs at h with hp
    · obtain ⟨sz, hsz, heq⟩ := List.mem_map.mp h
      cases heq
      exact ⟨hq, by simp [hp], by simpa using hsz⟩
    · cases List.mem_singleton.mp h
      exact ⟨hq, by simpa using hp, by simp⟩
  · rintro ⟨hp, hpayload, hsizes⟩
    refine ⟨p, hp, ?_⟩
    cases payload with
    | none => simp [← hpayload]
    | some sz => simpa [← hpayload] using hsizes sz rfl

/-- Different tasks have different cases. -/
lemma taskCaseId_inj {u : Protocol × Option ℕ} (ht : t ∈ modeTasks modes payloadSizes)
    (hu : u ∈ modeTasks modes payloadSizes) (h : taskCaseId t = taskCaseId u) : t = u := by
  obtain ⟨_, htsize, _⟩ := mem_modeTasks.mp ht
  obtain ⟨_, husize, _⟩ := mem_modeTasks.mp hu
  obtain ⟨hprotocol, hsize⟩ := plainCaseId_inj.mp h
  refine Prod.ext hprotocol ?_
  rw [hprotocol, ← husize] at htsize
  cases ht2 : t.2 with
  | none =>
      rw [ht2] at htsize
      exact (Option.isSome_eq_false_iff.mp htsize.symm |> Option.isNone_iff_eq_none.mp).symm
  | some sz =>
      obtain ⟨sz', hu2⟩ := Option.isSome_iff_exists.mp (htsize.symm.trans (by simp [ht2]))
      rw [ht2, hu2] at hsize
      rw [hu2, requestedSize_inj.mp hsize]

lemma nodup_modeTasks (hmodes : modes.Nodup) (hsizes : payloadSizes.Nodup) :
    (modeTasks modes payloadSizes).Nodup := by
  rw [modeTasks, List.nodup_flatMap]
  constructor
  · intro p _
    split_ifs
    · exact hsizes.map fun a b h => by simpa using h
    · exact List.nodup_singleton _
  · refine hmodes.imp fun {p q} hpq => ?_
    have hfst : ∀ {r : Protocol} {u : Protocol × Option ℕ},
        u ∈ (if hasPayload r then payloadSizes.map fun sz => (r, some sz) else [(r, none)]) →
          u.1 = r := by
      intro r u hu
      split_ifs at hu
      · obtain ⟨sz, _, rfl⟩ := List.mem_map.mp hu
        rfl
      · rw [List.mem_singleton.mp hu]
    intro u hu hu'
    exact hpq ((hfst hu).symm.trans (hfst hu'))

lemma nodup_taskCaseIds (hmodes : modes.Nodup) (hsizes : payloadSizes.Nodup) :
    ((modeTasks modes payloadSizes).map taskCaseId).Nodup :=
  (nodup_modeTasks hmodes hsizes).map_on fun _ ht _ hu h => taskCaseId_inj ht hu h

end Tasks

/-! ### What is published of a sample -/

/-- All tries of a sample fail. -/
def AllFail (cfg : ResolvedConfig) (env : Probes) (number i : ℕ) : Prop :=
  ∀ k ≤ cfg.retries, (env.outcome (.tryAt number i k)).success = false

/-- The attempt that is published for a sample of a burst: its first try that succeeds, or the
last one. -/
structure PublishedFor (cfg : ResolvedConfig) (env : Probes) (p : Protocol) (number i : ℕ)
    (a : RequestAttempt) : Prop where
  protocol : a.protocol = p
  httpStack : a.httpStack = none
  lastTry : ∃ k ≤ cfg.retries, a.attemptId = (env.outcome (.tryAt number i k)).attemptId ∧
    a.success = (env.outcome (.tryAt number i k)).success ∧
    a.results = (env.outcome (.tryAt number i k)).results ∧
    (a.success = true ∨ k = cfg.retries ∧ AllFail cfg env number i)

/-- The last of the tries succeeds, or all of them have failed. -/
lemma getLast?_tries (probe : ℕ → RequestAttempt) (left k : ℕ) :
    ∃ m ≤ left, (probe k :: retriesFrom probe (probe k) (k + 1) left).getLast? =
        some (probe (k + m)) ∧
      ((probe (k + m)).success = true ∨
        m = left ∧ ∀ j ≤ left, (probe (k + j)).success = false) := by
  induction left generalizing k with
  | zero =>
      refine ⟨0, le_rfl, rfl, (Bool.eq_false_or_eq_true (probe k).success).imp_right ?_⟩
      intro h
      refine ⟨rfl, fun j hj => ?_⟩
      rw [Nat.le_zero.mp hj]
      exact h
  | succ left ih =>
      rw [retriesFrom]
      split_ifs with h
      · exact ⟨0, Nat.zero_le _, rfl, Or.inl h⟩
      · obtain ⟨m, hm, hlast, hdone⟩ := ih (k + 1)
        have hshift : ∀ j, k + 1 + j = k + (j + 1) := fun j => by omega
        rw [hshift m] at hlast hdone
        refine ⟨m + 1, by omega, ?_, hdone.imp_right ?_⟩
        · rw [List.getLast?_cons_cons]
          exact hlast
        · rintro ⟨rfl, hfail⟩
          refine ⟨rfl, fun j hj => ?_⟩
          cases j with
          | zero => exact Bool.eq_false_of_not_eq_true h
          | succ j =>
              rw [← hshift]
              exact hfail j (by omega)

section Publish

variable {cfg : ResolvedConfig} {env : Probes} {tasks : List (Protocol × Option ℕ)}
variable {phase : String} {criteria : Option AdaptiveCriteria} {st : RunState}

/-- A try of a sample of a task. -/
def tryOf (env : Probes) (t : Task) (i k : ℕ) : RequestAttempt :=
  { dispatch env (.tryAt t.burst i k) t.protocol (t.baseSeq + i) with
    retryCount := k
    sampleIndex := i }

/-- What is published of the burst of a task in a phase. -/
def publishedOf (cfg : ResolvedConfig) (env : Probes) (phase : String) (t : Task) :
    List RequestAttempt :=
  tagged (benchmarkPhaseTag cfg phase) (publishedLogicalAttempts (burst cfg env t).flatten)

/-- The last elements of lists that all have one. -/
lemma forall₂_getLast? {α β : Type} {R : α → β → Prop} {f : α → List β}
    (h : ∀ x, ∃ y, (f x).getLast? = some y ∧ R x y) (xs : List α) :
    List.Forall₂ R xs ((xs.map f).filterMap List.getLast?) := by
  induction xs with
  | nil => exact List.Forall₂.nil
  | cons x xs ih =>
      obtain ⟨y, hy, hR⟩ := h x
      rw [List.map_cons, List.filterMap_cons_some hy]
      exact List.Forall₂.cons hR ih

/-- A burst publishes an attempt for each of its samples. -/
lemma publishedOf_forall₂ (t : Task) :
    List.Forall₂ (PublishedFor cfg env t.protocol t.burst) (List.range (samplesOf cfg))
      (publishedOf cfg env phase t) := by
  rw [publishedOf, publishedLogicalAttempts_flatten (burst_laddered t) List.pairwise_lt_range,
    tagged, List.forall₂_map_right_iff]
  refine forall₂_getLast? (f := fun i => sampleTries (tryOf env t i) cfg.retries) ?_ _
  intro i
  obtain ⟨m, hm, hlast, hdone⟩ := getLast?_tries (tryOf env t i) cfg.retries 0
  simp only [Nat.zero_add] at hlast hdone
  exact ⟨_, hlast, rfl, rfl, m, hm, rfl, rfl, rfl, hdone⟩

lemma length_publishedOf (t : Task) :
    (publishedOf cfg env phase t).length = samplesOf cfg := by
  rw [← (publishedOf_forall₂ t).length_eq, List.length_range]

lemma mem_publishedOf {t : Task} {a : RequestAttempt} (ha : a ∈ publishedOf cfg env phase t) :
    ∃ i < samplesOf cfg, PublishedFor cfg env t.protocol t.burst i a := by
  obtain ⟨i, hi, h⟩ := BenchmarkArtifact.exists_of_forall₂ (publishedOf_forall₂ t) ha
  exact ⟨i, List.mem_range.mp hi, h⟩

variable (env phase) in
lemma exists_mem_publishedOf (t : Task) {i : ℕ} (hi : i < samplesOf cfg) :
    ∃ a ∈ publishedOf cfg env phase t, PublishedFor cfg env t.protocol t.burst i a := by
  obtain ⟨a, ha, h⟩ := BenchmarkArtifact.exists_of_forall₂ (publishedOf_forall₂ t).flip
    (List.mem_range.mpr hi)
  exact ⟨a, ha, h⟩

/-- An iteration publishes a burst for every task. -/
lemma phaseIteration_fst : (phaseIteration cfg env tasks phase st).1 =
    (finished env (tasksOf cfg st tasks)).flatMap (publishedOf cfg env phase) := by
  show tagged _ (List.flatMap _ (List.map _ _)) = _
  rw [tagged, List.flatMap_map, List.map_flatMap]
  rfl

lemma phaseIteration_bursts :
    (phaseIteration cfg env tasks phase st).2.bursts = st.bursts + tasks.length := rfl

/-- The tasks of an iteration behind whole iterations. -/
lemma mem_tasksOf {T : Task} (hst : tasks.length ∣ st.bursts)
    (hT : T ∈ tasksOf cfg st tasks) : st.bursts ≤ T.burst ∧ T.burst < st.bursts + tasks.length ∧
      tasks[T.burst % tasks.length]? = some (T.protocol, T.payload) := by
  rw [tasksOf, List.mem_mapIdx] at hT
  obtain ⟨j, hj, rfl⟩ := hT
  obtain ⟨q, hq⟩ := hst
  refine ⟨Nat.le_add_right _ _, Nat.add_lt_add_left hj _, ?_⟩
  simp only [hq]
  rw [Nat.mul_add_mod, Nat.mod_eq_of_lt hj, List.getElem?_eq_getElem hj]

variable (cfg) in
lemma exists_mem_tasksOf {b : ℕ} (hlo : st.bursts ≤ b) (hhi : b < st.bursts + tasks.length) :
    ∃ T ∈ tasksOf cfg st tasks, T.burst = b := by
  have hmem : b ∈ (tasksOf cfg st tasks).map Task.burst := by
    rw [tasksOf_burst, List.mem_range'_1]
    exact ⟨hlo, hhi⟩
  exact List.mem_map.mp hmem

/-! ### What is published of a range of bursts -/

/-- The task of a burst: the tasks take turns. -/
def taskAt (tasks : List (Protocol × Option ℕ)) (b : ℕ) : Option (Protocol × Option ℕ) :=
  tasks[b % tasks.length]?

/-- Attempts that are published of the bursts from `lo` on, below `hi`, for every sample. -/
structure Publishes (cfg : ResolvedConfig) (env : Probes) (tasks : List (Protocol × Option ℕ))
    (lo hi : ℕ) (attempts : List RequestAttempt) : Prop where
  sound : ∀ a ∈ attempts, ∃ b t i, (lo ≤ b ∧ b < hi) ∧ i < samplesOf cfg ∧
    taskAt tasks b = some t ∧ PublishedFor cfg env t.1 b i a
  complete : ∀ {b t i}, lo ≤ b → b < hi → i < samplesOf cfg → taskAt tasks b = some t →
    ∃ a ∈ attempts, PublishedFor cfg env t.1 b i a

section Ranges

variable {lo mid hi : ℕ} {attempts attempts' : List RequestAttempt}

lemma publishes_nil : Publishes cfg env tasks lo lo [] where
  sound _ ha := absurd ha List.not_mem_nil
  complete hlo hhi := by omega

lemma Publishes.append (h : Publishes cfg env tasks lo mid attempts)
    (h' : Publishes cfg env tasks mid hi attempts') (hlo : lo ≤ mid) (hhi : mid ≤ hi) :
    Publishes cfg env tasks lo hi (attempts ++ attempts') where
  sound a ha := by
    rcases List.mem_append.mp ha with ha | ha
    · obtain ⟨b, t, i, hb, h⟩ := h.sound a ha
      exact ⟨b, t, i, by omega, h⟩
    · obtain ⟨b, t, i, hb, h⟩ := h'.sound a ha
      exact ⟨b, t, i, by omega, h⟩
  complete {b t i} hb hb' hi ht := by
    rcases lt_or_ge b mid with hlt | hge
    · obtain ⟨a, ha, hp⟩ := h.complete hb hlt hi ht
      exact ⟨a, List.mem_append_left _ ha, hp⟩
    · obtain ⟨a, ha, hp⟩ := h'.complete hge hb' hi ht
      exact ⟨a, List.mem_append_right _ ha, hp⟩

end Ranges

variable (phase) in
/-- An iteration publishes one burst for every task. -/
lemma phaseIteration_publishes (hst : tasks.length ∣ st.bursts) :
    Publishes cfg env tasks st.bursts (st.bursts + tasks.length)
      (phaseIteration cfg env tasks phase st).1 where
  sound a ha := by
    rw [phaseIteration_fst] at ha
    obtain ⟨T, hT, ha⟩ := List.mem_flatMap.mp ha
    obtain ⟨hlo, hhi, ht⟩ := mem_tasksOf hst ((finished_perm env _).mem_iff.mp hT)
    obtain ⟨i, hi, hp⟩ := mem_publishedOf ha
    exact ⟨T.burst, _, i, ⟨hlo, hhi⟩, hi, ht, hp⟩
  complete {b t i} hlo hhi hi ht := by
    obtain ⟨T, hT, rfl⟩ := exists_mem_tasksOf cfg hlo hhi
    obtain ⟨_, _, hT'⟩ := mem_tasksOf hst hT
    obtain ⟨a, ha, hp⟩ := exists_mem_publishedOf env phase T hi
    rw [taskAt, hT'] at ht
    cases ht
    refine ⟨a, ?_, hp⟩
    rw [phaseIteration_fst]
    exact List.mem_flatMap.mpr ⟨T, (finished_perm env _).mem_iff.mpr hT, ha⟩

/-! ### Loops -/

variable (cfg env tasks phase) in
/-- A loop without criteria makes all its iterations. -/
lemma phaseLoop_none (n completed : ℕ) (attempts : List RequestAttempt) (st : RunState) :
    phaseLoop cfg env tasks phase none n completed attempts st =
      { attempts := attempts ++ (runPhase cfg env tasks phase none n st).attempts
        completed := completed + n
        stopReason := none
        state := (runPhase cfg env tasks phase none n st).state } := by
  have hnone : ∀ as, verdict none as = none := fun _ => rfl
  induction n generalizing completed attempts st with
  | zero => simp [runPhase, phaseLoop]
  | succ n ih =>
      rw [runPhase, phaseLoop_continue (hnone _), phaseLoop_continue (hnone _), ih, ih]
      simp [Nat.add_assoc, Nat.add_comm 1 n]

/-- The first iteration of a loop without criteria, and the others. -/
lemma runPhase_succ (n : ℕ) (st : RunState) :
    runPhase cfg env tasks phase none (n + 1) st =
      { attempts := (phaseIteration cfg env tasks phase st).1 ++
          (runPhase cfg env tasks phase none n
            (phaseIteration cfg env tasks phase st).2).attempts
        completed := n + 1
        stopReason := none
        state := (runPhase cfg env tasks phase none n
          (phaseIteration cfg env tasks phase st).2).state } := by
  have hnone : ∀ as, verdict none as = none := fun _ => rfl
  rw [runPhase, phaseLoop_continue (hnone _), phaseLoop_none]
  simp [Nat.add_comm 1 n]

variable (cfg env tasks phase criteria) in
/-- What the criteria are asked about, iteration by iteration: the attempts of the iterations
so far. -/
lemma phaseLoop_eq (left completed : ℕ) (attempts : List RequestAttempt) (st : RunState) :
    ∃ n, (phaseLoop cfg env tasks phase criteria left completed attempts st).completed =
        completed + n ∧
      (phaseLoop cfg env tasks phase criteria left completed attempts st).attempts =
        attempts ++ (runPhase cfg env tasks phase none n st).attempts ∧
      (phaseLoop cfg env tasks phase criteria left completed attempts st).state =
        (runPhase cfg env tasks phase none n st).state := by
  induction left generalizing completed attempts st with
  | zero => exact ⟨0, by simp [runPhase, phaseLoop]⟩
  | succ left ih =>
      cases hr : verdict criteria (attempts ++ (phaseIteration cfg env tasks phase st).1) with
      | some r =>
          refine ⟨1, ?_⟩
          rw [phaseLoop_halt hr, runPhase_succ]
          simp [runPhase, phaseLoop]
      | none =>
          obtain ⟨n, hcompleted, hattempts, hstate⟩ := ih (completed + 1)
            (attempts ++ (phaseIteration cfg env tasks phase st).1)
            (phaseIteration cfg env tasks phase st).2
          refine ⟨n + 1, ?_⟩
          rw [phaseLoop_continue hr, hcompleted, hattempts, hstate, runPhase_succ]
          exact ⟨by omega, by rw [List.append_assoc], rfl⟩

/-- The loop of a phase is that many iterations. -/
lemma runPhase_eq (iterations : ℕ) (st : RunState) :
    (runPhase cfg env tasks phase criteria iterations st).attempts =
        (runPhase cfg env tasks phase none
          (runPhase cfg env tasks phase criteria iterations st).completed st).attempts ∧
      (runPhase cfg env tasks phase criteria iterations st).state =
        (runPhase cfg env tasks phase none
          (runPhase cfg env tasks phase criteria iterations st).completed st).state := by
  obtain ⟨n, hcompleted, hattempts, hstate⟩ := phaseLoop_eq cfg env tasks phase criteria
    iterations 0 [] st
  rw [Nat.zero_add] at hcompleted
  rw [runPhase, hattempts, hstate, hcompleted]
  exact ⟨rfl, rfl⟩

variable (cfg env tasks phase) in
lemma runPhase_none_bursts (n : ℕ) (st : RunState) :
    (runPhase cfg env tasks phase none n st).state.bursts = st.bursts + n * tasks.length := by
  induction n generalizing st with
  | zero => simp [runPhase, phaseLoop]
  | succ n ih =>
      rw [runPhase_succ, ih, phaseIteration_bursts]
      ring

lemma runPhase_none_publishes (hst : tasks.length ∣ st.bursts) (n : ℕ) :
    Publishes cfg env tasks st.bursts (st.bursts + n * tasks.length)
      (runPhase cfg env tasks phase none n st).attempts := by
  induction n generalizing st with
  | zero => simpa [runPhase, phaseLoop] using publishes_nil
  | succ n ih =>
      rw [runPhase_succ]
      have hnext : tasks.length ∣ (phaseIteration cfg env tasks phase st).2.bursts := by
        rw [phaseIteration_bursts]
        exact Nat.dvd_add hst (Nat.dvd_refl _)
      have hrest := ih hnext
      rw [phaseIteration_bursts] at hrest
      have hall := (phaseIteration_publishes phase hst).append hrest (by omega)
        (by omega)
      rwa [show st.bursts + (n + 1) * tasks.length =
        st.bursts + tasks.length + n * tasks.length by ring]

variable (phase) in
/-- As long as every attempt has the case of its task, an iteration adds one burst to every
case. -/
lemma phaseIteration_evenlyGrouped (hst : tasks.length ∣ st.bursts)
    (hnodup : (tasks.map taskCaseId).Nodup)
    (hcase : ∀ {b t i a}, st.bursts ≤ b → b < st.bursts + tasks.length → i < samplesOf cfg →
      taskAt tasks b = some t → PublishedFor cfg env t.1 b i a → caseId a = taskCaseId t) :
    EvenlyGrouped caseId (tasks.map taskCaseId) (samplesOf cfg)
      (phaseIteration cfg env tasks phase st).1 := by
  have hperm := finished_perm env (tasksOf cfg st tasks)
  have hnames : (tasksOf cfg st tasks).map (fun T => taskCaseId (T.protocol, T.payload)) =
      tasks.map taskCaseId := by
    apply List.ext_getElem
    · simp [tasksOf]
    · intro i _ _
      simp [tasksOf]
  have hkeys : ((finished env (tasksOf cfg st tasks)).map
      fun T => taskCaseId (T.protocol, T.payload)).Perm (tasks.map taskCaseId) := by
    rw [← hnames]
    exact hperm.map _
  rw [phaseIteration_fst]
  refine EvenlyGrouped.perm (evenlyGrouped_flatMap (hkeys.nodup_iff.mpr hnodup) ?_ ?_) hkeys
  · exact fun T _ => length_publishedOf T
  · intro T hT a ha
    obtain ⟨hlo, hhi, ht⟩ := mem_tasksOf hst (hperm.mem_iff.mp hT)
    obtain ⟨i, hi, hp⟩ := mem_publishedOf ha
    exact hcase hlo hhi hi ht hp

/-- The same of `n` iterations. -/
lemma runPhase_none_evenlyGrouped (hst : tasks.length ∣ st.bursts)
    (hnodup : (tasks.map taskCaseId).Nodup) (n : ℕ)
    (hcase : ∀ {b t i a}, st.bursts ≤ b → b < st.bursts + n * tasks.length →
      i < samplesOf cfg → taskAt tasks b = some t → PublishedFor cfg env t.1 b i a →
        caseId a = taskCaseId t) :
    EvenlyGrouped caseId (tasks.map taskCaseId) (n * samplesOf cfg)
      (runPhase cfg env tasks phase none n st).attempts := by
  induction n generalizing st with
  | zero => simpa [runPhase, phaseLoop] using evenlyGrouped_nil caseId _
  | succ n ih =>
      have hexpand : (n + 1) * tasks.length = tasks.length + n * tasks.length := by ring
      have hfirst := phaseIteration_evenlyGrouped phase hst hnodup
        fun hlo hhi => hcase hlo (by omega)
      have hnext : tasks.length ∣ (phaseIteration cfg env tasks phase st).2.bursts := by
        rw [phaseIteration_bursts]
        exact Nat.dvd_add hst (Nat.dvd_refl _)
      have hrest := ih hnext fun hlo hhi => by
        rw [phaseIteration_bursts] at hlo hhi
        exact hcase (by omega) (by omega)
      rw [runPhase_succ, Nat.succ_mul, Nat.add_comm]
      exact hfirst.append hrest

section Phase

variable (cfg env tasks phase criteria) (iterations : ℕ) (st : RunState)

/-- A phase takes a burst for every task and iteration. -/
lemma runPhase_bursts :
    (runPhase cfg env tasks phase criteria iterations st).state.bursts = st.bursts +
      (runPhase cfg env tasks phase criteria iterations st).completed * tasks.length := by
  rw [(runPhase_eq iterations st).2, runPhase_none_bursts]

variable {st} in
/-- A phase publishes its bursts. -/
lemma runPhase_publishes (hst : tasks.length ∣ st.bursts) :
    Publishes cfg env tasks st.bursts
      (runPhase cfg env tasks phase criteria iterations st).state.bursts
      (runPhase cfg env tasks phase criteria iterations st).attempts := by
  rw [runPhase_bursts, (runPhase_eq iterations st).1]
  exact runPhase_none_publishes hst _

end Phase

end Publish

/-! ### HTTP stacks -/

section Stacks

variable {cfg : ResolvedConfig} {env : Probes}

/-- An attempt against an HTTP stack, in a burst from `lo` on. -/
structure AgainstStack (env : Probes) (lo : ℕ) (a : RequestAttempt) : Prop where
  httpStack : a.httpStack ≠ none
  tryAt : ∃ b i k, lo ≤ b ∧ a.attemptId = (env.outcome (.tryAt b i k)).attemptId

/-- What is added to a state are attempts against HTTP stacks. -/
structure AddsStacks (env : Probes) (st st' : RunState) : Prop where
  bursts : st.bursts ≤ st'.bursts
  allAttempts : ∃ added, st'.allAttempts = st.allAttempts ++ added ∧
    ∀ a ∈ added, AgainstStack env st.bursts a

lemma addsStacks_refl (st : RunState) : AddsStacks env st st where
  bursts := le_rfl
  allAttempts := ⟨[], by simp⟩

lemma AddsStacks.trans {st st' st'' : RunState} (h : AddsStacks env st st')
    (h' : AddsStacks env st' st'') : AddsStacks env st st'' where
  bursts := h.bursts.trans h'.bursts
  allAttempts := by
    obtain ⟨added, hadded, hstacks⟩ := h.allAttempts
    obtain ⟨added', hadded', hstacks'⟩ := h'.allAttempts
    refine ⟨added ++ added', by rw [hadded', hadded, List.append_assoc], fun a ha => ?_⟩
    rcases List.mem_append.mp ha with ha | ha
    · exact hstacks a ha
    · obtain ⟨hstack, b, i, k, hb, hid⟩ := hstacks' a ha
      exact ⟨hstack, b, i, k, h.bursts.trans hb, hid⟩

/-- Every try against a stack has its name. -/
lemma httpStack_of_mem_stackBurst (stack : HttpStack) (number : ℕ) (p : Protocol) {is : List ℕ}
    {seq : ℕ} {a : RequestAttempt}
    (ha : a ∈ (stackBurst cfg env stack number p is seq).flatten) :
    a.httpStack = some stack.name := by
  induction is generalizing seq with
  | nil => exact absurd ha (by simp [stackBurst])
  | cons i is ih =>
      rw [stackBurst, List.flatten_cons] at ha
      rcases List.mem_append.mp ha with ha | ha
      · obtain ⟨n, hn⟩ := sampleTries_eq_map (fun k =>
          { dispatch env (.tryAt number i k) p (seq + k) with
            retryCount := k
            sampleIndex := i
            httpStack := some stack.name }) cfg.retries
        rw [hn] at ha
        obtain ⟨k, _, rfl⟩ := List.mem_map.mp ha
        rfl
      · exact ih ha

lemma stackProbe_addsStacks (stack : HttpStack) (st : RunState) (p : Protocol) :
    AddsStacks env st (stackProbe cfg env stack st p) where
  bursts := Nat.le_succ _
  allAttempts := by
    have hladder : Laddered cfg env st.bursts _ _ :=
      stackBurst_laddered stack p (List.range (samplesOf cfg)) st.seq
    refine ⟨_, rfl, fun a ha => ?_⟩
    obtain ⟨c, hc, rfl⟩ := List.mem_map.mp ha
    rw [publishedLogicalAttempts_flatten hladder List.pairwise_lt_range] at hc
    obtain ⟨tries, htries, hlast⟩ := List.mem_filterMap.mp hc
    have hflat : c ∈ (stackBurst cfg env stack st.bursts p (List.range (samplesOf cfg))
        st.seq).flatten := List.mem_flatten.mpr ⟨tries, htries, List.mem_of_getLast? hlast⟩
    obtain ⟨_, i, _, k, hid⟩ := Laddered.mem hladder hflat
    have hstack : c.httpStack = some stack.name := httpStack_of_mem_stackBurst stack _ p hflat
    exact ⟨by simp [hstack], st.bursts, i, k, le_rfl, hid⟩

/-- What every step of a fold adds, the fold adds. -/
lemma foldl_addsStacks {α : Type} {f : RunState → α → RunState}
    (hf : ∀ st a, AddsStacks env st (f st a)) (as : List α) (st : RunState) :
    AddsStacks env st (as.foldl f st) := by
  induction as generalizing st with
  | nil => exact addsStacks_refl st
  | cons a as ih => exact (hf st a).trans (ih (f st a))

variable (cfg env) in
lemma phases_addsStacks (modes : List Protocol) (payloadSizes : List ℕ) :
    AddsStacks env (phases cfg env modes payloadSizes).cooldown.state
      (phases cfg env modes payloadSizes).last := by
  refine foldl_addsStacks (fun st stack => ?_) _ _
  rw [stackRuns]
  split_ifs
  · exact foldl_addsStacks (stackProbe_addsStacks stack.1) _ st
  · exact addsStacks_refl st

end Stacks

end TargetRunner

end Networker
