/-
The attempts that the run executor sends on, against those in the output of the tester.

* `events`, `documents`, `carried`: the attempts that the output carries, on its event lines
  and in its documents;
* `heard`, `artifact?`: what of the output is read;
* `countAll`: attempts counted one after the other; `runTester_cases` says which they are;
* `EmitsExactly`: the attempts of the output are sent, each once, and counted;
* `emits_exactly_iff`: when they are;
* `run_counts`: the counts of a run are those of the attempts sent.
-/
import Networker.Agent.RunExecutor
import Networker.Data.Distinct

namespace Networker

open Data

namespace RunExecutor

/-! ### What the output carries -/

/-- The identity of an attempt. -/
def attemptId (attempt : Json) : Option String := getString attempt "attempt_id"

section Carried

variable (parse : Parser)

/-- The attempts that are streamed. -/
def events (lines : List String) : List Json := lines.filterMap (attemptEvent? parse)

/-- The lines that stream no attempt. -/
def otherLines (lines : List String) : List String :=
  lines.filter fun line => (attemptEvent? parse line).isNone

/-- Lines as one text. -/
def textOf (lines : List String) : String := lines.foldl appendLine ""

/-- The documents of the output: all of it that is not streamed, if this is one document, and
otherwise the lines that are. -/
def documents (lines : List String) : List Json :=
  match parse (textOf (otherLines parse lines)) with
  | .ok root => [root]
  | .error _ => (otherLines parse lines).filterMap fun line => (parse line).toOption

/-- The attempts in the output. -/
def carried (lines : List String) : List Json :=
  events parse lines ++ (documents parse lines).flatMap attemptsOf

/-- The number of code units that are kept out of a buffer with `bytes` in it already. -/
def bytesOf (lines : List String) : ℕ :=
  ((otherLines parse lines).map fun line => utf16Length line + 1).sum

/-- The lines that are read before the buffer is full. -/
def heard (bytes : ℕ) : List String → List String
  | [] => []
  | line :: rest =>
      if (attemptEvent? parse line).isSome then line :: heard bytes rest
      else if maxStdoutBytes < bytes + (utf16Length line + 1) then []
      else line :: heard (bytes + (utf16Length line + 1)) rest

/-- The attempts that are sent while the tester runs. -/
def streamed (p : TesterProcess) : List Json := events parse (heard parse 0 p.lines)

/-- The artifact of a tester that ends by itself, and whose output fits and is one document. -/
def artifact? (p : TesterProcess) : Option Json :=
  if bytesOf parse p.lines ≤ maxStdoutBytes ∧ p.readEnds = .done ∧ p.waitEnds = .done then
    (parse (textOf (otherLines parse p.lines))).toOption
  else none

/-- The attempts that were sent. -/
def attemptEvents (frames : List Frame) : List Json :=
  frames.filterMap fun
    | .attemptEvent attempt => some attempt
    | _ => none

/-- The attempts that an invocation sends. -/
def emittedBy (p : TesterProcess) (t : Tally) : List Json :=
  (attemptEvents (runTester parse p t).2.frames).drop (attemptEvents t.frames).length

/-- The attempts in the output are sent, each once, and the counts grow by their number. -/
structure EmitsExactly (p : TesterProcess) (t : Tally) : Prop where
  once : Distinct attemptId (emittedBy parse p t)
  exact : ∀ i, i ∈ (emittedBy parse p t).map attemptId ↔ i ∈ (carried parse p.lines).map attemptId
  counted : ∃ outcome, (runTester parse p t).1 = .ok outcome ∧
    outcome.successCount.toNat + outcome.failureCount.toNat =
      t.successCount.toNat + t.failureCount.toNat + (emittedBy parse p t).length

/-- Both counters have room for the attempts. -/
def Tally.HasRoom (t : Tally) (attempts : List Json) : Prop :=
  t.successCount.toNat + attempts.countP succeeded < 2 ^ 32 ∧
    t.failureCount.toNat + attempts.countP (!succeeded ·) < 2 ^ 32

instance (t : Tally) (attempts : List Json) : Decidable (t.HasRoom attempts) :=
  inferInstanceAs (Decidable (_ ∧ _))

/-- Every attempt in the output was streamed, and once. -/
structure StreamedInFull (p : TesterProcess) (t : Tally) : Prop where
  once : Distinct attemptId (streamed parse p)
  covers : ∀ attempt ∈ carried parse p.lines, attemptId attempt ∈ (streamed parse p).map attemptId
  room : t.HasRoom (streamed parse p)

/-- Nothing was streamed, as the counter of the streamed attempts has it, and every attempt
was in the artifact, as an object, and once. -/
structure ListedInFull (p : TesterProcess) (t : Tally) (root : Json) : Prop where
  objects : ∀ attempt ∈ attemptsOf root, attempt.isObj = true
  once : Distinct attemptId (events parse p.lines ++ attemptsOf root)
  room : t.HasRoom (events parse p.lines ++ attemptsOf root)

/-- The one source that is read has every attempt in the output. -/
def OneSourceInFull (p : TesterProcess) (t : Tally) : Prop :=
  match artifact? parse p with
  | some root =>
      if (events parse p.lines).length % 2 ^ 32 = 0 then ListedInFull parse p t root
      else StreamedInFull parse p t
  | none => StreamedInFull parse p t

end Carried

/-! ### Attempts one after the other -/

/-- Attempts counted, recorded and sent one after the other. -/
def Tally.countAll (t : Tally) (workload : Option String) (attempts : List Json) : Tally :=
  attempts.foldl (fun t attempt => t.count workload attempt) t

section Count

variable {t : Tally} {workload : Option String} {attempts : List Json} {frames : List Frame}

lemma attemptEvents_append (frames' : List Frame) :
    attemptEvents (frames ++ frames') = attemptEvents frames ++ attemptEvents frames' :=
  List.filterMap_append

lemma attemptEvents_count (attempt : Json) :
    attemptEvents (t.count workload attempt).frames = attemptEvents t.frames ++ [attempt] := by
  simp only [Tally.count]
  split_ifs <;> simp [attemptEvents]

/-- The attempts are sent in their order. -/
lemma attemptEvents_countAll :
    attemptEvents (t.countAll workload attempts).frames = attemptEvents t.frames ++ attempts := by
  induction attempts generalizing t with
  | nil => exact (List.append_nil _).symm
  | cons attempt rest ih =>
      rw [Tally.countAll, List.foldl_cons, ← Tally.countAll, ih, attemptEvents_count,
        List.append_assoc, List.singleton_append]

lemma successCount_countAll :
    (t.countAll workload attempts).successCount =
      t.successCount + UInt32.ofNat (attempts.countP succeeded) := by
  induction attempts generalizing t with
  | nil => simp [Tally.countAll]
  | cons attempt rest ih =>
      rw [Tally.countAll, List.foldl_cons, ← Tally.countAll, ih]
      cases hok : succeeded attempt
      · simp [Tally.count, hok]
      · simp only [Tally.count, hok, if_true, List.countP_cons_of_pos, UInt32.ofNat_add]
        rw [UInt32.add_assoc, UInt32.add_comm 1]
        rfl

lemma failureCount_countAll :
    (t.countAll workload attempts).failureCount =
      t.failureCount + UInt32.ofNat (attempts.countP (!succeeded ·)) := by
  induction attempts generalizing t with
  | nil => simp [Tally.countAll]
  | cons attempt rest ih =>
      rw [Tally.countAll, List.foldl_cons, ← Tally.countAll, ih]
      cases hok : succeeded attempt
      · simp only [Tally.count, hok, Bool.false_eq_true, if_false, Bool.not_false,
          List.countP_cons_of_pos, UInt32.ofNat_add]
        rw [UInt32.add_assoc, UInt32.add_comm 1]
        rfl
      · simp [Tally.count, hok]

/-- A counter shows a sum exactly when it has not wrapped around. -/
lemma toNat_add_le (c : UInt32) (n : ℕ) :
    (c + UInt32.ofNat n).toNat ≤ c.toNat + n ∧
      ((c + UInt32.ofNat n).toNat = c.toNat + n ↔ c.toNat + n < 2 ^ 32) := by
  have heq : (c + UInt32.ofNat n).toNat = (c.toNat + n) % 2 ^ 32 := by
    rw [UInt32.toNat_add, UInt32.toNat_ofNat', Nat.add_mod_mod]
  rw [heq]
  omega

/-- The counts grow by the number of the attempts exactly when both have room for them. -/
lemma counts_countAll_iff :
    (t.countAll workload attempts).successCount.toNat +
        (t.countAll workload attempts).failureCount.toNat =
      t.successCount.toNat + t.failureCount.toNat + attempts.length ↔ t.HasRoom attempts := by
  have hlength := List.length_eq_countP_add_countP succeeded (l := attempts)
  obtain ⟨hok, hokIff⟩ := toNat_add_le t.successCount (attempts.countP succeeded)
  obtain ⟨hfailed, hfailedIff⟩ :=
    toNat_add_le t.failureCount (attempts.countP (!succeeded ·))
  have hnot : attempts.countP (fun a => decide ¬ succeeded a = true) =
      attempts.countP (!succeeded ·) := by
    congr 1
    funext a
    cases succeeded a <;> rfl
  rw [successCount_countAll, failureCount_countAll, Tally.HasRoom, ← hokIff, ← hfailedIff, hlength,
    hnot]
  omega

end Count

/-! ### One invocation -/

section Invocation

variable {parse : Parser} {p : TesterProcess} {t : Tally} {lines : List String}

/-- A loop that was left reads no line. -/
lemma foldl_readLine_of_overflow {workload : Option String} {r : Reading}
    (h : r.overflow = true) : lines.foldl (readLine parse workload) r = r := by
  induction lines with
  | nil => rfl
  | cons line rest ih => rw [List.foldl_cons, readLine, if_pos h, ih]

/-- What the read loop has counted, and what it has in the buffer if this has not run full. -/
lemma foldl_readLine {workload : Option String} {r : Reading} (hopen : r.overflow = false)
    (hbytes : r.stdoutBytes ≤ maxStdoutBytes) :
    (lines.foldl (readLine parse workload) r).tally =
        r.tally.countAll workload (events parse (heard parse r.stdoutBytes lines)) ∧
      ((lines.foldl (readLine parse workload) r).overflow = true ↔
        maxStdoutBytes < r.stdoutBytes + bytesOf parse lines) ∧
      (r.stdoutBytes + bytesOf parse lines ≤ maxStdoutBytes →
        heard parse r.stdoutBytes lines = lines ∧
        (lines.foldl (readLine parse workload) r).stdoutBuilder =
          (otherLines parse lines).foldl appendLine r.stdoutBuilder ∧
        (lines.foldl (readLine parse workload) r).streamedAttempts =
          r.streamedAttempts + UInt32.ofNat (events parse lines).length) := by
  induction lines generalizing r with
  | nil =>
      refine ⟨rfl, ?_, fun _ => ⟨rfl, rfl, by simp [events]⟩⟩
      simpa [hopen, bytesOf, otherLines] using hbytes
  | cons line rest ih =>
      rw [List.foldl_cons, readLine, if_neg (by rw [hopen]; exact Bool.false_ne_true)]
      cases hevent : attemptEvent? parse line with
      | some attempt =>
          have hother : otherLines parse (line :: rest) = otherLines parse rest := by
            simp [otherLines, hevent]
          have hevents : ∀ ls, events parse (line :: ls) = attempt :: events parse ls :=
            fun ls => by simp [events, hevent]
          have hheard : heard parse r.stdoutBytes (line :: rest) =
              line :: heard parse r.stdoutBytes rest := by
            rw [heard, if_pos (by rw [hevent]; rfl)]
          obtain ⟨htally, hover, hrest⟩ := @ih { r with
            tally := r.tally.count workload attempt
            streamedAttempts := r.streamedAttempts + 1 } hopen hbytes
          simp only [bytesOf, hother, hheard, hevents] at *
          refine ⟨htally, hover, fun hle => ?_⟩
          obtain ⟨hall, hbuffer, hstreamed⟩ := hrest hle
          refine ⟨by rw [hall], hbuffer, ?_⟩
          rw [hstreamed, List.length_cons, UInt32.ofNat_add, UInt32.add_assoc,
            UInt32.add_comm 1]
          rfl
      | none =>
          obtain ⟨n, hn⟩ : ∃ n, n = utf16Length line + 1 := ⟨_, rfl⟩
          have hother : otherLines parse (line :: rest) = line :: otherLines parse rest := by
            simp [otherLines, hevent]
          have hevents : ∀ ls, events parse (line :: ls) = events parse ls :=
            fun ls => by simp [events, hevent]
          have hbytesOf : bytesOf parse (line :: rest) = n + bytesOf parse rest := by
            rw [bytesOf, hother, List.map_cons, List.sum_cons, bytesOf, hn]
          rw [heard, hevent, Option.isSome_none, if_neg Bool.false_ne_true, hbytesOf, hother,
            ← hn, ← Nat.add_assoc]
          dsimp only
          split_ifs with hfull
          · rw [foldl_readLine_of_overflow rfl]
            refine ⟨rfl, ?_, fun hle => ?_⟩
            · exact ⟨fun _ => hfull.trans_le (Nat.le_add_right _ _), fun _ => rfl⟩
            · exact absurd (hfull.trans_le (Nat.le_add_right _ _)) hle.not_gt
          · have hrest := @ih ⟨r.tally, r.streamedAttempts, appendLine r.stdoutBuilder line,
              r.stdoutBytes + n, r.overflow⟩ hopen (not_lt.mp hfull)
            dsimp only at hrest
            rw [hevents, hevents]
            refine ⟨hrest.1, hrest.2.1, fun hle => ?_⟩
            obtain ⟨hall, hbuffer, hstreamed⟩ := hrest.2.2 hle
            exact ⟨by rw [hall], hbuffer, hstreamed⟩

/-- Attempts that are objects are all counted. -/
lemma emitAll_of_objects {workload : Option String} {attempts : List Json}
    (h : ∀ attempt ∈ attempts, attempt.isObj = true) :
    emitAll workload t attempts = (.ok (), t.countAll workload attempts) := by
  induction attempts generalizing t with
  | nil => rfl
  | cons attempt rest ih =>
      have hobj := h attempt List.mem_cons_self
      cases attempt with
      | obj fields =>
          rw [emitAll, Json.tryGetProperty]
          exact ih fun a ha => h a (List.mem_cons_of_mem _ ha)
      | _ => exact absurd hobj Bool.false_ne_true

/-- An attempt that is not an object raises. -/
lemma emitAll_raises {workload : Option String} {attempts : List Json} {attempt : Json}
    (hmem : attempt ∈ attempts) (h : attempt.isObj = false) :
    ∃ fault, (emitAll workload t attempts).1 = .error fault := by
  induction attempts generalizing t with
  | nil => exact absurd hmem List.not_mem_nil
  | cons first rest ih =>
      cases first with
      | obj fields =>
          rw [emitAll, Json.tryGetProperty]
          refine ih ((List.mem_cons.mp hmem).resolve_left ?_)
          rintro rfl
          exact absurd h.symm Bool.false_ne_true
      | _ => exact ⟨_, rfl⟩

lemma ofNat_eq_zero_iff (n : ℕ) : UInt32.ofNat n = 0 ↔ n % 2 ^ 32 = 0 := by
  rw [← UInt32.toNat_inj, UInt32.toNat_ofNat']
  rfl

/-- What the read loop has done when it ends. -/
lemma read_spec (p : TesterProcess) (t : Tally) :
    (p.read parse t).tally = t.countAll p.workload (streamed parse p) ∧
      ((p.read parse t).overflow = true ↔ maxStdoutBytes < bytesOf parse p.lines) ∧
      (bytesOf parse p.lines ≤ maxStdoutBytes → streamed parse p = events parse p.lines ∧
        (p.read parse t).stdoutBuilder = textOf (otherLines parse p.lines) ∧
        (p.read parse t).streamedAttempts = UInt32.ofNat (events parse p.lines).length) := by
  obtain ⟨htally, hover, hrest⟩ := @foldl_readLine parse p.lines p.workload (.start t) rfl
    (Nat.zero_le _)
  simp only [Reading.start, Nat.zero_add, UInt32.zero_add] at htally hover hrest
  refine ⟨htally, hover, fun hle => ?_⟩
  obtain ⟨hall, hbuffer, hstreamed⟩ := hrest hle
  exact ⟨by rw [streamed, hall], hbuffer, hstreamed⟩

/-- Without an artifact, or behind a stream, the streamed attempts are all that is sent. -/
lemma runTester_streamed
    (h : ∀ root, artifact? parse p = some root → (events parse p.lines).length % 2 ^ 32 ≠ 0) :
    ∃ outcome, (runTester parse p t).1 = .ok outcome ∧
      outcome.successCount = (t.countAll p.workload (streamed parse p)).successCount ∧
      outcome.failureCount = (t.countAll p.workload (streamed parse p)).failureCount ∧
      attemptEvents (runTester parse p t).2.frames =
        attemptEvents t.frames ++ streamed parse p := by
  obtain ⟨htally, hover, hrest⟩ := @read_spec parse p t
  have hsilent : ∀ (t' : Tally) (message : String),
      attemptEvents (t'.send (.error message)).frames = attemptEvents t'.frames :=
    fun t' message => by simp [Tally.send, attemptEvents]
  have hframes : attemptEvents (p.read parse t).tally.frames =
      attemptEvents t.frames ++ streamed parse p := by
    rw [htally, attemptEvents_countAll]
  have hfail : ∀ message, ∃ outcome, (failWith (p.read parse t).tally message).1 = .ok outcome ∧
      outcome.successCount = (t.countAll p.workload (streamed parse p)).successCount ∧
      outcome.failureCount = (t.countAll p.workload (streamed parse p)).failureCount ∧
      attemptEvents (failWith (p.read parse t).tally message).2.frames =
        attemptEvents t.frames ++ streamed parse p := fun message =>
    ⟨_, rfl, by rw [← htally]; rfl, by rw [← htally]; rfl, (hsilent _ _).trans hframes⟩
  have hquiet : ∀ status envelope, ∃ outcome,
      (Except.ok ((p.read parse t).tally.outcome status envelope) :
        Except Fault InvocationOutcome) = .ok outcome ∧
      outcome.successCount = (t.countAll p.workload (streamed parse p)).successCount ∧
      outcome.failureCount = (t.countAll p.workload (streamed parse p)).failureCount ∧
      attemptEvents (p.read parse t).tally.frames = attemptEvents t.frames ++ streamed parse p :=
    fun status envelope => ⟨_, rfl, by rw [← htally]; rfl, by rw [← htally]; rfl, hframes⟩
  rw [runTester]
  split_ifs with hfull
  · exact hfail _
  · have hle : bytesOf parse p.lines ≤ maxStdoutBytes := by
      rw [hover, not_lt] at hfull
      exact hfull
    obtain ⟨hevents, hbuffer, hcounter⟩ := hrest hle
    cases hread : p.readEnds with
    | cancelled => exact hquiet _ _
    | deadlineExpired => exact hfail _
    | done =>
        cases hwait : p.waitEnds with
        | cancelled => exact hquiet _ _
        | deadlineExpired => exact hfail _
        | done =>
            dsimp only
            rw [finish, hbuffer, hcounter]
            cases hparse : parse (textOf (otherLines parse p.lines)) with
            | error parseErr => exact hfail _
            | ok root =>
                have hroot : artifact? parse p = some root := by
                  rw [artifact?, if_pos ⟨hle, hread, hwait⟩, hparse]
                  rfl
                dsimp only
                rw [if_neg (mt (ofNat_eq_zero_iff _).mp (h root hroot))]
                exact hquiet _ _

/-- With an artifact and no stream, the attempts of the artifact are sent. -/
lemma runTester_listed {root : Json} (h : artifact? parse p = some root)
    (hnone : (events parse p.lines).length % 2 ^ 32 = 0) :
    runTester parse p t =
      match emitAll p.workload (t.countAll p.workload (events parse p.lines)) (attemptsOf root) with
      | (.error fault, t) => (.error fault, t)
      | (.ok (), t) =>
          (.ok (t.outcome .completed ((runElements root).head?.bind extractRunEnvelope)), t) := by
  obtain ⟨htally, hover, hrest⟩ := @read_spec parse p t
  rw [artifact?] at h
  split_ifs at h with hends
  obtain ⟨hle, hread, hwait⟩ := hends
  obtain ⟨hevents, hbuffer, hcounter⟩ := hrest hle
  have hfull : ¬ (p.read parse t).overflow = true := by
    rw [hover, not_lt]
    exact hle
  have hparse : parse (textOf (otherLines parse p.lines)) = .ok root := by
    cases hparse : parse (textOf (otherLines parse p.lines)) with
    | error parseErr =>
        rw [hparse] at h
        exact absurd h nofun
    | ok root' =>
        rw [hparse] at h
        rw [Option.some.inj h]
  rw [runTester]
  rw [if_neg hfull, hread, hwait]
  dsimp only
  rw [finish, hbuffer, hparse]
  have hzero : (p.read parse t).streamedAttempts = 0 := by
    rw [hcounter]
    exact (ofNat_eq_zero_iff _).mpr hnone
  have hcounted : (p.read parse t).tally = t.countAll p.workload (events parse p.lines) := by
    rw [htally, hevents]
  dsimp only
  rw [if_pos hzero]
  generalize (p.read parse t).tally = tally at hcounted
  subst hcounted
  rfl

/-- The attempts of an artifact that is read are in the output. -/
lemma carried_of_artifact {root : Json} (h : artifact? parse p = some root) :
    carried parse p.lines = events parse p.lines ++ attemptsOf root := by
  rw [artifact?] at h
  split_ifs at h
  rw [carried, documents]
  cases hparse : parse (textOf (otherLines parse p.lines)) with
  | error parseErr =>
      rw [hparse] at h
      exact absurd h nofun
  | ok root' =>
      rw [hparse] at h
      rw [Option.some.inj h]
      simp

lemma heard_sublist (bytes : ℕ) : (heard parse bytes lines).Sublist lines := by
  induction lines generalizing bytes with
  | nil => exact List.Sublist.slnil
  | cons line rest ih =>
      rw [heard]
      split_ifs
      · exact (ih _).cons_cons _
      · exact List.nil_sublist _
      · exact (ih _).cons_cons _

lemma streamed_subset_carried : streamed parse p ⊆ carried parse p.lines :=
  fun _ ha => List.mem_append_left _ (((heard_sublist 0).filterMap _).subset ha)

/-- What is sent where the frames and the counts are known. -/
lemma emitsExactly_iff {source : List Json} {outcome : InvocationOutcome}
    (houtcome : (runTester parse p t).1 = .ok outcome)
    (hok : outcome.successCount = (t.countAll p.workload source).successCount)
    (hfailed : outcome.failureCount = (t.countAll p.workload source).failureCount)
    (hframes : attemptEvents (runTester parse p t).2.frames = attemptEvents t.frames ++ source) :
    EmitsExactly parse p t ↔ Distinct attemptId source ∧
      (∀ i, i ∈ source.map attemptId ↔ i ∈ (carried parse p.lines).map attemptId) ∧
      t.HasRoom source := by
  have hemitted : emittedBy parse p t = source := by
    rw [emittedBy, hframes, List.drop_left]
  rw [← @counts_countAll_iff t p.workload, ← hok, ← hfailed]
  constructor
  · rintro ⟨honce, hexact, outcome', houtcome', hcounted⟩
    obtain rfl := Except.ok.inj (houtcome.symm.trans houtcome')
    rw [hemitted] at honce hexact hcounted
    exact ⟨honce, hexact, hcounted⟩
  · rintro ⟨honce, hexact, hcounted⟩
    rw [← hemitted] at honce hexact hcounted
    exact ⟨honce, hexact, outcome, houtcome, hcounted⟩

/-- Where only the stream is read. -/
lemma emitsExactly_iff_streamed
    (h : ∀ root, artifact? parse p = some root → (events parse p.lines).length % 2 ^ 32 ≠ 0) :
    EmitsExactly parse p t ↔ StreamedInFull parse p t := by
  obtain ⟨outcome, houtcome, hok, hfailed, hframes⟩ := runTester_streamed (t := t) h
  rw [emitsExactly_iff houtcome hok hfailed hframes]
  constructor
  · rintro ⟨honce, hexact, hroom⟩
    exact ⟨honce, fun a ha => (hexact _).mpr (List.mem_map_of_mem ha), hroom⟩
  · rintro ⟨honce, hcovers, hroom⟩
    refine ⟨honce, fun i => ⟨fun hi => List.map_subset _ streamed_subset_carried hi, ?_⟩, hroom⟩
    intro hi
    obtain ⟨a, ha, rfl⟩ := List.mem_map.mp hi
    exact hcovers a ha

/-- Where the artifact is read. -/
lemma emitsExactly_iff_listed {root : Json} (h : artifact? parse p = some root)
    (hnone : (events parse p.lines).length % 2 ^ 32 = 0) :
    EmitsExactly parse p t ↔ ListedInFull parse p t root := by
  have hrun := runTester_listed (t := t) h hnone
  by_cases hobjects : ∀ attempt ∈ attemptsOf root, attempt.isObj = true
  · rw [emitAll_of_objects hobjects] at hrun
    have htwice : (t.countAll p.workload (events parse p.lines)).countAll p.workload
        (attemptsOf root) = t.countAll p.workload (carried parse p.lines) := by
      rw [carried_of_artifact h, Tally.countAll, Tally.countAll, Tally.countAll, List.foldl_append]
    rw [htwice] at hrun
    rw [emitsExactly_iff (by rw [hrun]) rfl rfl (by rw [hrun, attemptEvents_countAll])]
    constructor
    · rintro ⟨honce, -, hroom⟩
      rw [carried_of_artifact h] at honce hroom
      exact ⟨hobjects, honce, hroom⟩
    · rintro ⟨-, honce, hroom⟩
      rw [← carried_of_artifact h] at honce hroom
      exact ⟨honce, fun _ => Iff.rfl, hroom⟩
  · refine iff_of_false (fun hexact => ?_) fun hlisted => hobjects hlisted.objects
    push Not at hobjects
    obtain ⟨attempt, hmem, hattempt⟩ := hobjects
    obtain ⟨fault, hfault⟩ : ∃ fault, (emitAll p.workload
        (t.countAll p.workload (events parse p.lines)) (attemptsOf root)).1 = .error fault :=
      emitAll_raises hmem (Bool.not_eq_true _ |>.mp hattempt)
    obtain ⟨outcome, houtcome, -⟩ := hexact.counted
    rw [hrun] at houtcome
    split at houtcome
    · exact absurd houtcome nofun
    · next heq => exact absurd (hfault.symm.trans (congrArg Prod.fst heq)) nofun

/-- **Each attempt once.**  Whatever the tester prints, the attempts in its output are sent,
each once, and counted exactly when the source that is read has all of them, each once: the
artifact where it is a document and nothing was streamed, and the stream otherwise. -/
theorem emits_exactly_iff (parse : Parser) (p : TesterProcess) (t : Tally) :
    EmitsExactly parse p t ↔ OneSourceInFull parse p t := by
  rw [OneSourceInFull]
  cases hroot : artifact? parse p with
  | none => exact emitsExactly_iff_streamed fun root h => absurd (hroot.symm.trans h) nofun
  | some root =>
      dsimp only
      split_ifs with hnone
      · exact emitsExactly_iff_listed hroot hnone
      · exact emitsExactly_iff_streamed fun _ _ => hnone

end Invocation

namespace PartialStream

def attempt (id : String) : Json := .obj [("attempt_id", .str id), ("success", .bool true)]

def eventLine : String :=
  "\x7b\"event\":\"attempt\",\"attempt\":\x7b\"attempt_id\":\"a\",\"success\":true\x7d\x7d"

def artifactLine : String :=
  "\x7b\"attempts\":[\x7b\"attempt_id\":\"a\",\"success\":true\x7d," ++
    "\x7b\"attempt_id\":\"b\",\"success\":true\x7d]\x7d"

def parse : Parser := fun text =>
  if text = eventLine then .ok (.obj [("event", .str "attempt"), ("attempt", attempt "a")])
  else if text = artifactLine then .ok (.obj [("attempts", .arr [attempt "a", attempt "b"])])
  else .error "The input does not contain any JSON tokens."

def start : Tally := ⟨0, 0, none, [.runStarted]⟩

example : (emittedBy parse ⟨none, [artifactLine], .done, .done, 0, "", ""⟩ start).map attemptId =
    [some "a", some "b"] := by
  decide +kernel

/-- The event of the second attempt is missing from the stream, and the artifact is not read
for it. -/
theorem artifact_attempt_lost :
    ¬ EmitsExactly parse ⟨none, [eventLine, artifactLine], .done, .done, 0, "", ""⟩ start := by
  intro h
  have hcarried : some "b" ∈ (carried parse [eventLine, artifactLine]).map attemptId := by
    decide +kernel
  have hlost : some "b" ∉ (emittedBy parse
      ⟨none, [eventLine, artifactLine], .done, .done, 0, "", ""⟩ start).map attemptId := by
    decide +kernel
  exact hlost ((h.exact _).mpr hcarried)

end PartialStream

/-! ### A run -/

section Run

variable {parse : Parser} {t : Tally} {attempt : Json} {workload : Option String}

/-- The number of attempts in the cases of an artifact. -/
def recordedCount (cases : BenchmarkArtifactBuilder) : ℕ :=
  (cases.map fun c => c.successCount + c.failureCount).sum

lemma counts_add (c : CaseAccumulator) (success : Bool) :
    (c.add success).successCount + (c.add success).failureCount =
      c.successCount + c.failureCount + 1 := by
  cases success <;> simp only [CaseAccumulator.add] <;> grind

/-- A new case is empty. -/
lemma recordedCount_addTo {caseId : String} {fresh : CaseAccumulator} {success : Bool}
    (hfresh : fresh.successCount + fresh.failureCount = 0) (cases : BenchmarkArtifactBuilder) :
    recordedCount (addTo caseId fresh success cases) = recordedCount cases + 1 := by
  induction cases with
  | nil => simp [addTo, recordedCount, counts_add, hfresh]
  | cons c cs ih =>
      rw [addTo]
      split_ifs
      · simp only [recordedCount, List.map_cons, List.sum_cons, counts_add]
        omega
      · simp only [recordedCount, List.map_cons, List.sum_cons] at ih ⊢
        omega

/-- An attempt is recorded in one case. -/
lemma recordedCount_record (h : attempt.isObj = true) (cases : BenchmarkArtifactBuilder) :
    recordedCount (record workload attempt cases) = recordedCount cases + 1 := by
  rw [record, if_pos h]
  exact recordedCount_addTo rfl cases

/-- The counts and the cases are those of the attempts that were sent, and the run has not
finished. -/
structure Counted (t : Tally) : Prop where
  success : t.successCount = UInt32.ofNat ((attemptEvents t.frames).countP succeeded)
  failure : t.failureCount = UInt32.ofNat ((attemptEvents t.frames).countP (!succeeded ·))
  recorded : ∀ cases ∈ t.artifactBuilder, recordedCount cases = (attemptEvents t.frames).length
  unfinished : ∀ status envelope ok failed, Frame.runFinished status envelope ok failed ∉ t.frames

lemma Counted.send (h : Counted t) {frame : Frame}
    (hattempt : attemptEvents [frame] = [])
    (hfinished : ∀ status envelope ok failed, frame ≠ .runFinished status envelope ok failed) :
    Counted (t.send frame) := by
  have hsame : attemptEvents (t.send frame).frames = attemptEvents t.frames := by
    rw [Tally.send, attemptEvents_append, hattempt, List.append_nil]
  refine ⟨by rw [hsame]; exact h.success, by rw [hsame]; exact h.failure,
    by rw [hsame]; exact h.recorded, fun status envelope ok failed hmem => ?_⟩
  rcases List.mem_append.mp hmem with hold | hnew
  · exact h.unfinished _ _ _ _ hold
  · exact hfinished _ _ _ _ (List.mem_singleton.mp hnew).symm

lemma Counted.count (h : Counted t) (hobj : attempt.isObj = true) :
    Counted (t.count workload attempt) := by
  have hone := @attemptEvents_count t workload attempt
  have hsuccess := @successCount_countAll t workload [attempt]
  have hfailure := @failureCount_countAll t workload [attempt]
  refine ⟨?_, ?_, fun cases hcases => ?_, fun status envelope ok failed hmem => ?_⟩
  · rw [hone, List.countP_append, UInt32.ofNat_add, ← h.success]
    exact hsuccess
  · rw [hone, List.countP_append, UInt32.ofNat_add, ← h.failure]
    exact hfailure
  · obtain ⟨before, hbefore, rfl⟩ := Option.map_eq_some_iff.mp hcases
    rw [hone, List.length_append, recordedCount_record hobj, h.recorded before hbefore]
    rfl
  · simp only [Tally.count] at hmem
    split_ifs at hmem <;> simp [h.unfinished] at hmem

lemma isObj_of_attemptEvent {line : String} (h : attemptEvent? parse line = some attempt) :
    attempt.isObj = true := by
  rw [attemptEvent?] at h
  split_ifs at h
  rw [tryParseAttemptEvent] at h
  split at h
  · exact absurd h nofun
  · split_ifs at h
    exact (Option.filter_eq_some_iff.mp h).2

lemma Counted.readLine {r : Reading} (h : Counted r.tally) (line : String) :
    Counted (readLine parse workload r line).tally := by
  rw [RunExecutor.readLine]
  split_ifs
  · exact h
  · cases hevent : attemptEvent? parse line with
    | some attempt => exact h.count (isObj_of_attemptEvent hevent)
    | none =>
        dsimp only
        split_ifs <;> exact h

lemma Counted.read (h : Counted t) (p : TesterProcess) : Counted (p.read parse t).tally := by
  have hfold : ∀ (lines : List String) (r : Reading), Counted r.tally →
      Counted (lines.foldl (RunExecutor.readLine parse p.workload) r).tally := by
    intro lines
    induction lines with
    | nil => exact fun _ hr => hr
    | cons line rest ih => exact fun r hr => ih _ (hr.readLine line)
  exact hfold p.lines (.start t) h

lemma Counted.emitAll (h : Counted t) (attempts : List Json) :
    Counted (emitAll workload t attempts).2 := by
  induction attempts generalizing t with
  | nil => exact h
  | cons attempt rest ih =>
      cases attempt with
      | obj fields => exact ih (h.count rfl)
      | _ => exact h

/-- What an invocation leaves behind, and the counts that it reports. -/
def Counted.Result (result : Except Fault InvocationOutcome × Tally) : Prop :=
  Counted result.2 ∧ ∀ outcome, result.1 = .ok outcome →
    outcome.successCount = result.2.successCount ∧ outcome.failureCount = result.2.failureCount

lemma Counted.failWith (h : Counted t) (message : String) :
    Counted.Result (failWith t message) := by
  refine ⟨h.send rfl nofun, fun outcome houtcome => ?_⟩
  rw [← Except.ok.inj houtcome]
  exact ⟨rfl, rfl⟩

lemma Counted.outcome (h : Counted t) (status : InvocationStatus) (envelope : Option Json) :
    Counted.Result (.ok (t.outcome status envelope), t) := by
  refine ⟨h, fun outcome houtcome => ?_⟩
  rw [← Except.ok.inj houtcome]
  exact ⟨rfl, rfl⟩

lemma Counted.runTester (h : Counted t) (p : TesterProcess) :
    Counted.Result (runTester parse p t) := by
  have hread : Counted (p.read parse t).tally := h.read p
  rw [RunExecutor.runTester]
  split_ifs
  · exact hread.failWith _
  · cases p.readEnds with
    | cancelled => exact hread.outcome _ _
    | deadlineExpired => exact hread.failWith _
    | done =>
        cases p.waitEnds with
        | cancelled => exact hread.outcome _ _
        | deadlineExpired => exact hread.failWith _
        | done =>
            dsimp only
            rw [finish]
            cases parse (p.read parse t).stdoutBuilder with
            | error parseErr => exact hread.failWith _
            | ok root =>
                dsimp only
                split_ifs
                · have hemit := @Counted.emitAll _ p.workload hread (attemptsOf root)
                  split
                  · next heq =>
                      rw [heq] at hemit
                      exact ⟨hemit, fun _ houtcome => absurd houtcome nofun⟩
                  · next heq =>
                      rw [heq] at hemit
                      exact hemit.outcome _ _
                · exact hread.outcome _ _

lemma Counted.runTesterOnce (h : Counted t) (spawn : Except String TesterProcess) :
    Counted.Result (runTesterOnce parse spawn t) := by
  cases spawn with
  | error ex => exact h.failWith _
  | ok p => exact h.runTester p

/-- The counts that a run reports at its end are those of the attempts it has sent. -/
def ReportsSent (frames : List Frame) : Prop :=
  ∀ status envelope ok failed, Frame.runFinished status envelope (some ok) (some failed) ∈ frames →
    ok = UInt32.ofNat ((attemptEvents frames).countP succeeded) ∧
      failed = UInt32.ofNat ((attemptEvents frames).countP (!succeeded ·))

lemma Counted.finish (h : Counted t) (status : String) (envelope : Option Json) :
    ReportsSent (t.send
      (.runFinished status envelope (some t.successCount) (some t.failureCount))).frames := by
  intro status' envelope' ok failed hmem
  rcases List.mem_append.mp hmem with hold | hnew
  · exact absurd hold (h.unfinished _ _ _ _)
  · obtain ⟨-, -, hok, hfailed⟩ := Frame.runFinished.inj (List.mem_singleton.mp hnew)
    rw [Option.some.inj hok, Option.some.inj hfailed, Tally.send, attemptEvents_append]
    simpa [attemptEvents] using ⟨h.success, h.failure⟩

lemma Counted.reportsSent_of_unfinished (h : Counted t) : ReportsSent t.frames :=
  fun _ _ _ _ hmem => absurd hmem (h.unfinished _ _ _ _)

lemma Counted.runInvocations (h : Counted t) (envelope : Option Json)
    (invocations : List (Except String TesterProcess)) :
    ReportsSent (runInvocations parse envelope t invocations).2.frames := by
  induction invocations generalizing envelope t with
  | nil => exact (@Counted.send t h (.runProgress _ _) rfl nofun).finish _ _
  | cons spawn rest ih =>
      obtain ⟨hafter, hcounts⟩ := @Counted.runTesterOnce parse t h spawn
      rw [RunExecutor.runInvocations]
      cases hresult : RunExecutor.runTesterOnce parse spawn t with
      | mk result t' =>
          rw [hresult] at hafter hcounts
          cases result with
          | error fault => exact hafter.reportsSent_of_unfinished
          | ok outcome =>
              obtain ⟨hok, hfailed⟩ := hcounts outcome rfl
              dsimp only
              cases outcome.status with
              | completed => exact ih hafter _
              | failed =>
                  rw [hok, hfailed]
                  exact hafter.finish _ _
              | cancelled =>
                  intro status envelope ok failed hmem
                  rcases List.mem_append.mp hmem with hold | hnew
                  · exact absurd hold (hafter.unfinished _ _ _ _)
                  · exact absurd (List.mem_singleton.mp hnew) (by simp)

/-- **The final counts are those of the attempts that were sent.** -/
theorem run_counts (parse : Parser) (isBenchmark : Bool)
    (invocations : List (Except String TesterProcess)) :
    ReportsSent (executeAsync parse isBenchmark invocations).2.frames := by
  refine Counted.runInvocations ⟨rfl, rfl, fun cases hcases => ?_, ?_⟩ none invocations
  · dsimp only at hcases
    split_ifs at hcases
    · rw [← Option.some.inj hcases]
      rfl
    · exact absurd hcases nofun
  · simp

end Run

end RunExecutor

end Networker
