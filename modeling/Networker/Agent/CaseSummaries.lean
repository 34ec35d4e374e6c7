/-
The summaries of the artifact that the agent builds (`BenchmarkArtifactBuilder`), in exact
arithmetic.

* `MeasuredCase`: a case with its metric, the samples it includes and its active window;
* `primaryMetric`, `record`: what an attempt adds to its case;
* `CaseSummary`, `writeSummary`, `buildSummaries`: the summaries in the order of the case ids;
* `forget_record`: without the metric these are the cases of the run executor;
* `eq_caseOf_of_mem`: a case is what its own attempts make of it;
* `summaries_consistent`: the counts, the order of the statistics and the confidence interval.

What parses a time stamp is a parameter; it comes as a number of ticks.
-/
import Networker.Agent.RunExecutor
import Networker.Data.Grouped
import Networker.Data.OrderStatistics
import Mathlib.Data.String.Basic

namespace Networker

open Data

namespace BenchmarkArtifactBuilder

/-- `MinSamplesForCi`. -/
def minSamplesForCi : ℕ := 10

/-- `GetDateTime` on a text: the ticks of the time stamp. -/
abbrev Clock : Type := String → Option ℤ

/-- A call of `Record`: the workload and the attempt. -/
abbrev Call : Type := Option String × Json

/-! ### The metric of an attempt -/

/-- The value of a number. -/
def number? : Json → Option ℚ
  | .int n => some n
  | .dec m e => some (m / 10 ^ e)
  | _ => none

/-- `GetNumber`. -/
def getNumber (el : Json) (section_ name : String) : Option ℚ :=
  ((el.get? section_).bind (·.get? name)).bind number?

/-- `GetDateTime`. -/
def getDateTime (clock : Clock) (el : Json) (name : String) : Option ℤ :=
  ((el.get? name).bind Json.str?).bind clock

/-- `double.IsFinite` of the double next to a number. -/
def isFinite (v : ℚ) : Bool := |v| < 2 ^ 1024 - 2 ^ 970

/-- What is measured of a protocol. -/
structure PrimaryMetric where
  name : String
  unit : String
  higherIsBetter : Bool
  value : Option ℚ

/-- The round trip of an attempt that got an answer. -/
def rttAvg (attempt : Json) (protocol : String) : Option ℚ :=
  match getNumber attempt protocol "success_count" with
  | some n => if 0 < n then getNumber attempt protocol "rtt_avg_ms" else none
  | none => none

/-- `PrimaryMetric`. -/
def primaryMetric (attempt : Json) (protocol : String) : PrimaryMetric :=
  if protocol ∈ ["http1", "http2", "http3", "native", "curl"] then
    ⟨"Total ms", "ms", false, getNumber attempt "http" "total_duration_ms"⟩
  else if protocol ∈ ["download", "download1", "download2", "download3", "upload", "upload1",
      "upload2", "upload3", "webdownload", "webupload"] then
    ⟨"Throughput MB/s", "MB/s", true, getNumber attempt "http" "throughput_mbps"⟩
  else if protocol ∈ ["udpdownload", "udpupload"] then
    ⟨"Throughput MB/s", "MB/s", true, getNumber attempt "udp_throughput" "throughput_mbps"⟩
  else if protocol = "tcp" then
    ⟨"Connect ms", "ms", false, getNumber attempt "tcp" "connect_duration_ms"⟩
  else if protocol = "dns" then
    ⟨"Resolve ms", "ms", false, getNumber attempt "dns" "duration_ms"⟩
  else if protocol ∈ ["tls", "tlsresume"] then
    ⟨"Handshake ms", "ms", false, getNumber attempt "tls" "handshake_duration_ms"⟩
  else if protocol = "udp" then ⟨"RTT avg ms", "ms", false, rttAvg attempt "udp"⟩
  else if protocol = "ping" then ⟨"RTT avg ms", "ms", false, rttAvg attempt "ping"⟩
  else if protocol ∈ ["pageload", "pageload2", "pageload3"] then
    ⟨"Total ms", "ms", false, getNumber attempt "page_load" "total_ms"⟩
  else ⟨"Total ms", "ms", false, none⟩

/-- The protocol of an attempt. -/
def protocolOf (attempt : Json) : String := (RunExecutor.getString attempt "protocol").getD "unknown"

/-! ### The cases -/

/-- `CaseAccumulator`. -/
structure MeasuredCase extends RunExecutor.CaseAccumulator where
  metricName : String
  metricUnit : String
  higherIsBetter : Bool
  values : List ℚ
  firstStartedAt : Option ℤ
  lastFinishedAt : Option ℤ

/-- The sample that an attempt includes. -/
def sample? (attempt : Json) : Option ℚ :=
  if RunExecutor.succeeded attempt then
    (primaryMetric attempt (protocolOf attempt)).value.filter isFinite
  else none

/-- The earlier of two time stamps. -/
def earlier (first : Option ℤ) (startedAt : Option ℤ) : Option ℤ :=
  match startedAt, first with
  | some t, none => some t
  | some t, some f => if t < f then some t else some f
  | none, first => first

/-- The later of two time stamps. -/
def later (last : Option ℤ) (finishedAt : Option ℤ) : Option ℤ :=
  match finishedAt, last with
  | some t, none => some t
  | some t, some l => if l < t then some t else some l
  | none, last => last

/-- The id of the case that a call belongs to. -/
def keyOf (call : Call) : String := RunExecutor.caseIdOf call.1 call.2

/-- The case as its first attempt finds it. -/
def fresh (call : Call) : MeasuredCase :=
  let metric := primaryMetric call.2 (protocolOf call.2)
  { caseId := keyOf call
    protocol := protocolOf call.2
    httpStack := RunExecutor.getString call.2 "http_stack"
    payloadBytes := RunExecutor.attemptPayloadBytes call.2
    successCount := 0
    failureCount := 0
    metricName := metric.name
    metricUnit := metric.unit
    higherIsBetter := metric.higherIsBetter
    values := []
    firstStartedAt := none
    lastFinishedAt := none }

/-- One more attempt of the case. -/
def MeasuredCase.add (clock : Clock) (c : MeasuredCase) (attempt : Json) : MeasuredCase :=
  { toCaseAccumulator := c.toCaseAccumulator.add (RunExecutor.succeeded attempt)
    metricName := c.metricName
    metricUnit := c.metricUnit
    higherIsBetter := c.higherIsBetter
    values := c.values ++ (sample? attempt).toList
    firstStartedAt := earlier c.firstStartedAt (getDateTime clock attempt "started_at")
    lastFinishedAt := later c.lastFinishedAt (getDateTime clock attempt "finished_at") }

/-- The attempt is added to its case, which may be a new one. -/
def addTo (clock : Clock) (call : Call) : List MeasuredCase → List MeasuredCase
  | [] => [(fresh call).add clock call.2]
  | c :: cs =>
      if c.caseId = keyOf call then c.add clock call.2 :: cs
      else c :: addTo clock call cs

/-- `Record`. -/
def record (clock : Clock) (cases : List MeasuredCase) (call : Call) : List MeasuredCase :=
  if call.2.isObj then addTo clock call cases else cases

/-- Calls one after the other, on a new builder. -/
def recordAll (clock : Clock) (calls : List Call) : List MeasuredCase :=
  calls.foldl (record clock) []

/-! ### The summaries -/

/-- `Round`. -/
def round4 (v : ℚ) : ℚ := roundTo 4 v

/-- The lower rank of the confidence interval of the median. -/
def lowerRank (n : ℕ) : ℕ := ((50 * (n : ℤ) - ceilSqrt (9604 * n)) / 100).toNat ⊓ (n - 1)

/-- The upper rank of the confidence interval of the median. -/
def upperRank (n : ℕ) : ℕ := (-((-(50 * (n : ℤ) + ceilSqrt (9604 * n))) / 100)).toNat ⊓ (n - 1)

/-- The variance that `Stddev` takes the root of. -/
def variance (values : List ℚ) (mean : ℚ) : ℚ :=
  if values.length < 2 then 0
  else (values.map fun v => (v - mean) * (v - mean)).sum / (values.length - 1)

/-- A summary, as it is written. -/
structure CaseSummary where
  caseId : String
  protocol : String
  payloadBytes : Option ℤ
  httpStack : Option String
  metricName : String
  metricUnit : String
  higherIsBetter : Bool
  sampleCount : ℕ
  includedSampleCount : ℕ
  excludedSampleCount : ℤ
  successCount : ℕ
  failureCount : ℕ
  totalRequests : ℕ
  errorCount : ℕ
  rps : ℚ
  min : ℚ
  mean : ℚ
  p5 : ℚ
  p25 : ℚ
  p50 : ℚ
  p75 : ℚ
  p95 : ℚ
  p99 : ℚ
  p999 : ℚ
  max : ℚ
  stddev : ℚ
  ci95Lower : ℚ
  ci95Upper : ℚ

/-- The attempts of a case that succeeded in a second of its active window. -/
def rateOf (c : MeasuredCase) : ℚ :=
  match c.firstStartedAt, c.lastFinishedAt with
  | some first, some last =>
      if first < last then c.successCount / ((last - first : ℤ) / 10 ^ 7) else 0
  | _, _ => 0

/-- `WriteSummary`. -/
def writeSummary (c : MeasuredCase) : CaseSummary :=
  let values := c.values.insertionSort (· ≤ ·)
  let n := values.length
  let total := c.successCount + c.failureCount
  let mean := if 0 < n then Data.mean values else 0
  { caseId := c.caseId
    protocol := c.protocol
    payloadBytes := c.payloadBytes
    httpStack := c.httpStack
    metricName := c.metricName
    metricUnit := c.metricUnit
    higherIsBetter := c.higherIsBetter
    sampleCount := total
    includedSampleCount := n
    excludedSampleCount := (total : ℤ) - n
    successCount := c.successCount
    failureCount := c.failureCount
    totalRequests := total
    errorCount := c.failureCount
    rps := round4 (rateOf c)
    min := round4 (if 0 < n then atRank values 0 else 0)
    mean := round4 mean
    p5 := round4 (percentile values 0.05)
    p25 := round4 (percentile values 0.25)
    p50 := round4 (percentile values 0.50)
    p75 := round4 (percentile values 0.75)
    p95 := round4 (percentile values 0.95)
    p99 := round4 (percentile values 0.99)
    p999 := round4 (percentile values 0.999)
    max := round4 (if 0 < n then atRank values (n - 1) else 0)
    stddev := if 1 < n then roundEvenSqrt (variance values mean * 10 ^ 8) / 10 ^ 4 else 0
    ci95Lower := round4 (if minSamplesForCi ≤ n then atRank values (lowerRank n) else 0)
    ci95Upper := round4 (if minSamplesForCi ≤ n then atRank values (upperRank n) else 0) }

/-- The UTF-16 code units of a text. -/
def codeUnits (s : String) : List ℕ :=
  s.toList.flatMap fun c =>
    if c.toNat < 0x10000 then [c.toNat]
    else [0xD800 + (c.toNat - 0x10000) / 0x400, 0xDC00 + (c.toNat - 0x10000) % 0x400]

/-- `BuildSummariesJson`: the summaries in the ordinal order of the case ids. -/
def buildSummaries (cases : List MeasuredCase) : List CaseSummary :=
  (cases.mergeSort fun a b => decide (codeUnits a.caseId ≤ codeUnits b.caseId)).map writeSummary

/-! ### The cases of the run executor -/

variable {clock : Clock} {call : Call} {calls : List Call} {cases : List MeasuredCase}
  {c : MeasuredCase}

lemma forget_addTo : (addTo clock call cases).map MeasuredCase.toCaseAccumulator =
    RunExecutor.addTo (RunExecutor.caseIdOf call.1 call.2) (fresh call).toCaseAccumulator
      (RunExecutor.succeeded call.2) (cases.map MeasuredCase.toCaseAccumulator) := by
  induction cases with
  | nil => rfl
  | cons c cases ih =>
      rw [addTo, List.map_cons, RunExecutor.addTo, ← keyOf]
      split_ifs
      · rfl
      · rw [List.map_cons, ih]
        rfl

/-- Without the metric and the times these are the cases that the run executor keeps. -/
theorem forget_record : (record clock cases call).map MeasuredCase.toCaseAccumulator =
    RunExecutor.record call.1 call.2 (cases.map MeasuredCase.toCaseAccumulator) := by
  rw [record, RunExecutor.record]
  split_ifs
  · exact forget_addTo
  · rfl

/-! ### A case and its attempts -/

/-- The calls that record an attempt. -/
def recorded (calls : List Call) : List Call := calls.filter fun call => call.2.isObj

/-- The attempts of a case, one after the other. -/
def addAll (clock : Clock) (c : MeasuredCase) (calls : List Call) : MeasuredCase :=
  calls.foldl (fun c call => c.add clock call.2) c

/-- The case that calls make, if there are any. -/
def caseOf (clock : Clock) : List Call → Option MeasuredCase
  | [] => none
  | call :: calls => some (addAll clock (fresh call) (call :: calls))

@[simp] lemma caseId_add (attempt : Json) : (c.add clock attempt).caseId = c.caseId := by
  rw [MeasuredCase.add, RunExecutor.CaseAccumulator.add]
  split_ifs <;> rfl

lemma caseId_fresh (call : Call) : (fresh call).caseId = keyOf call := rfl

lemma caseIds_addTo : (addTo clock call cases).map (·.caseId) =
    if keyOf call ∈ cases.map (·.caseId) then cases.map (·.caseId)
    else cases.map (·.caseId) ++ [keyOf call] := by
  induction cases with
  | nil => simp [addTo, caseId_fresh]
  | cons c cases ih =>
      rw [addTo]
      by_cases hc : c.caseId = keyOf call
      · rw [if_pos hc, List.map_cons, caseId_add, List.map_cons, hc,
          if_pos (List.mem_cons_self)]
      · have hiff : keyOf call ∈ c.caseId :: cases.map (·.caseId) ↔
            keyOf call ∈ cases.map (·.caseId) := by
          simp [Ne.symm hc]
        rw [if_neg hc, List.map_cons, ih, List.map_cons]
        simp only [hiff]
        split_ifs <;> rfl

/-- A case after a call is another one as it was, the case of the call with one more attempt,
or a new one. -/
lemma mem_addTo (hnodup : (cases.map (·.caseId)).Nodup) (h : c ∈ addTo clock call cases) :
    (c ∈ cases ∧ c.caseId ≠ keyOf call) ∨
    (∃ c₀ ∈ cases, c₀.caseId = keyOf call ∧ c = c₀.add clock call.2) ∨
    (keyOf call ∉ cases.map (·.caseId) ∧ c = (fresh call).add clock call.2) := by
  induction cases with
  | nil => exact .inr (.inr ⟨List.not_mem_nil, List.mem_singleton.mp h⟩)
  | cons d cases ih =>
      rw [List.map_cons, List.nodup_cons] at hnodup
      rw [addTo] at h
      split_ifs at h with hd
      · rcases List.mem_cons.mp h with rfl | h
        · exact .inr (.inl ⟨d, List.mem_cons_self, hd, rfl⟩)
        · refine .inl ⟨List.mem_cons_of_mem d h, fun hc => hnodup.1 ?_⟩
          exact List.mem_map.mpr ⟨c, h, hc.trans hd.symm⟩
      · rcases List.mem_cons.mp h with rfl | h
        · exact .inl ⟨List.mem_cons_self, hd⟩
        · rcases ih hnodup.2 h with ⟨hmem, hc⟩ | ⟨c₀, hmem, hc, heq⟩ | ⟨hnot, heq⟩
          · exact .inl ⟨List.mem_cons_of_mem d hmem, hc⟩
          · exact .inr (.inl ⟨c₀, List.mem_cons_of_mem d hmem, hc, heq⟩)
          · refine .inr (.inr ⟨fun hmem => ?_, heq⟩)
            rcases List.mem_cons.mp hmem with hk | hmem
            · exact hd hk.symm
            · exact hnot hmem

lemma caseOf_append (hne : calls ≠ []) (h : caseOf clock calls = some c) (call : Call) :
    caseOf clock (calls ++ [call]) = some (c.add clock call.2) := by
  cases calls with
  | nil => exact absurd rfl hne
  | cons first calls =>
      rw [caseOf] at h
      rw [List.cons_append, caseOf, ← Option.some.inj h, ← List.cons_append, addAll, addAll,
        List.foldl_append]
      rfl

/-- What the builder holds after some calls. -/
structure Holds (clock : Clock) (calls : List Call) (cases : List MeasuredCase) : Prop where
  nodup : (cases.map (·.caseId)).Nodup
  keys : ∀ id, id ∈ cases.map (·.caseId) ↔ ∃ call ∈ recorded calls, keyOf call = id
  own : ∀ c ∈ cases, caseOf clock (group keyOf c.caseId (recorded calls)) = some c

lemma mem_caseIds_addTo {id : String} : id ∈ (addTo clock call cases).map (·.caseId) ↔
    id ∈ cases.map (·.caseId) ∨ id = keyOf call := by
  rw [caseIds_addTo]
  split_ifs with hmem
  · constructor
    · exact .inl
    · rintro (hid | rfl)
      · exact hid
      · exact hmem
  · rw [List.mem_append, List.mem_singleton]

lemma nodup_caseIds_addTo (h : (cases.map (·.caseId)).Nodup) :
    ((addTo clock call cases).map (·.caseId)).Nodup := by
  rw [caseIds_addTo]
  split_ifs with hmem
  · exact h
  · rw [← List.concat_eq_append]
    exact List.Nodup.concat hmem h

/-- One more call that is recorded. -/
lemma Holds.addTo (h : Holds clock calls cases) (hobj : call.2.isObj = true) :
    Holds clock (calls ++ [call]) (addTo clock call cases) := by
  have hrec : recorded (calls ++ [call]) = recorded calls ++ [call] := by
    simp [recorded, hobj]
  refine ⟨nodup_caseIds_addTo h.nodup, fun id => ?_, fun c hc => ?_⟩
  · rw [mem_caseIds_addTo, h.keys, hrec]
    constructor
    · rintro (⟨call', hmem, hid⟩ | rfl)
      · exact ⟨call', List.mem_append_left _ hmem, hid⟩
      · exact ⟨call, by simp, rfl⟩
    · rintro ⟨call', hmem, rfl⟩
      rcases List.mem_append.mp hmem with hmem | hmem
      · exact .inl ⟨call', hmem, rfl⟩
      · exact .inr (congrArg keyOf (List.mem_singleton.mp hmem))
  · rw [hrec, group_append, group_singleton]
    rcases mem_addTo h.nodup hc with ⟨hmem, hne⟩ | ⟨c₀, hmem, hid, rfl⟩ | ⟨hnot, rfl⟩
    · rw [if_neg (Ne.symm hne), List.append_nil]
      exact h.own c hmem
    · rw [caseId_add, if_pos hid.symm]
      have hown := h.own c₀ hmem
      refine caseOf_append (fun hnil => ?_) hown call
      rw [hnil] at hown
      exact absurd hown (by simp [caseOf])
    · rw [caseId_add, caseId_fresh, if_pos rfl]
      have hnil : group keyOf (keyOf call) (recorded calls) = [] := by
        refine List.filter_eq_nil_iff.mpr fun call' hmem hk => ?_
        exact hnot ((h.keys _).mpr ⟨call', hmem, by simpa using hk⟩)
      rw [hnil]
      rfl

/-- One more call. -/
lemma Holds.record (h : Holds clock calls cases) (call : Call) :
    Holds clock (calls ++ [call]) (record clock cases call) := by
  rw [BenchmarkArtifactBuilder.record]
  split_ifs with hobj
  · exact h.addTo hobj
  · have hrec : recorded (calls ++ [call]) = recorded calls := by
      simp [recorded, hobj]
    exact ⟨h.nodup, fun id => by rw [hrec]; exact h.keys id,
      fun c hc => by rw [hrec]; exact h.own c hc⟩

/-- Every case is what its own attempts make of it. -/
theorem holds_recordAll (clock : Clock) (calls : List Call) :
    Holds clock calls (recordAll clock calls) := by
  induction calls using List.reverseRecOn with
  | nil => exact ⟨List.nodup_nil, by simp [recorded, recordAll], by simp [recordAll]⟩
  | append_singleton calls call ih =>
      rw [recordAll, List.foldl_append]
      exact ih.record call

/-- Whether a call records a success. -/
def succeeds (call : Call) : Bool := RunExecutor.succeeded call.2

variable (clock) in
lemma counts_add (c : MeasuredCase) (call : Call) :
    (c.add clock call.2).successCount = c.successCount + (if succeeds call then 1 else 0) ∧
    (c.add clock call.2).failureCount = c.failureCount + (if succeeds call then 0 else 1) := by
  rw [succeeds, MeasuredCase.add, RunExecutor.CaseAccumulator.add]
  split_ifs <;> exact ⟨rfl, rfl⟩

variable (clock) in
/-- The counts and the samples of a case after more attempts. -/
lemma counts_addAll (c : MeasuredCase) (calls : List Call) :
    (addAll clock c calls).successCount = c.successCount + calls.countP succeeds ∧
    (addAll clock c calls).failureCount = c.failureCount + calls.countP (!succeeds ·) ∧
    (addAll clock c calls).values = c.values ++ calls.filterMap fun call => sample? call.2 := by
  induction calls generalizing c with
  | nil => simp [addAll]
  | cons call calls ih =>
      obtain ⟨hsuccess, hfailure, hvalues⟩ := ih (c.add clock call.2)
      obtain ⟨hone, hone'⟩ := counts_add clock c call
      rw [addAll, List.foldl_cons, ← addAll, hsuccess, hfailure, hvalues, hone, hone',
        List.countP_cons, List.countP_cons]
      refine ⟨?_, ?_, ?_⟩
      · split_ifs <;> omega
      · cases succeeds call
        · simp
          omega
        · simp
      · rw [MeasuredCase.add, List.append_assoc]
        congr 1
        cases hsample : sample? call.2 <;> simp [hsample]

/-- Only successes include a sample. -/
lemma length_samples_le (calls : List Call) :
    (calls.filterMap fun call => sample? call.2).length ≤ calls.countP succeeds := by
  induction calls with
  | nil => exact le_rfl
  | cons call calls ih =>
      rw [List.countP_cons, List.filterMap_cons]
      cases hsample : sample? call.2 with
      | none => exact ih.trans (Nat.le_add_right _ _)
      | some v =>
          have hsuccess : succeeds call = true := by
            by_contra hfail
            rw [sample?, ← succeeds, if_neg hfail] at hsample
            exact absurd hsample (by simp)
          rw [List.length_cons, if_pos hsuccess]
          exact Nat.succ_le_succ ih

/-- The counts of a case are those of its own attempts. -/
lemma counts_of_mem (h : c ∈ recordAll clock calls) :
    c.successCount = (group keyOf c.caseId (recorded calls)).countP succeeds ∧
    c.failureCount = (group keyOf c.caseId (recorded calls)).countP (!succeeds ·) ∧
    c.values.length ≤ c.successCount := by
  have hown := (holds_recordAll clock calls).own c h
  cases hgroup : group keyOf c.caseId (recorded calls) with
  | nil => simp [hgroup, caseOf] at hown
  | cons first rest =>
      rw [hgroup, caseOf] at hown
      obtain ⟨hsuccess, hfailure, hvalues⟩ :=
        counts_addAll clock (fresh first) (first :: rest)
      rw [Option.some.inj hown] at hsuccess hfailure hvalues
      have hzero : (fresh first).successCount = 0 ∧ (fresh first).failureCount = 0 ∧
          (fresh first).values = [] := ⟨rfl, rfl, rfl⟩
      rw [hzero.1, zero_add] at hsuccess
      rw [hzero.2.1, zero_add] at hfailure
      rw [hzero.2.2, List.nil_append] at hvalues
      refine ⟨hsuccess, hfailure, ?_⟩
      rw [hvalues, hsuccess]
      exact length_samples_le _

/-! ### The ranks of the confidence interval -/

/-- The half width of the interval in the formula of the source. -/
noncomputable def half (n : ℕ) : ℝ := 1.96 * √(n : ℝ) / 2.0

lemma hundred_half (n : ℕ) : 100 * half n = √((9604 * n : ℕ) : ℝ) := by
  have hroot : √((9604 * n : ℕ) : ℝ) = 98 * √(n : ℝ) := by
    rw [Nat.cast_mul, Real.sqrt_mul (by positivity)]
    congr 1
    rw [show ((9604 : ℕ) : ℝ) = 98 ^ 2 by norm_num]
    exact Real.sqrt_sq (by norm_num)
  have htwo : (2.0 : ℝ) = 2 := by norm_num
  rw [half, hroot, htwo]
  ring

/-- The lower rank is `Math.Floor(n / 2.0 - half)`, clamped to the ranks. -/
lemma lowerRank_eq {n : ℕ} (hn : 0 < n) :
    (lowerRank n : ℤ) = max 0 (min ⌊(n : ℝ) / 2 - half n⌋ (n - 1)) := by
  have hfloor : ⌊(n : ℝ) / 2 - half n⌋ = (50 * (n : ℤ) - ceilSqrt (9604 * n)) / 100 := by
    have hform : (n : ℝ) / 2 - half n =
        (((50 * n : ℤ) : ℝ) + -√((9604 * n : ℕ) : ℝ)) / ((100 : ℕ) : ℝ) := by
      rw [← hundred_half]
      push_cast
      ring
    rw [hform, Int.floor_div_natCast, Int.floor_intCast_add, Int.floor_neg, ceilSqrt_eq]
    rfl
  rw [hfloor, lowerRank]
  omega

/-- The upper rank is `Math.Ceiling(n / 2.0 + half)`, clamped to the ranks. -/
lemma upperRank_eq {n : ℕ} (hn : 0 < n) :
    (upperRank n : ℤ) = max 0 (min ⌈(n : ℝ) / 2 + half n⌉ (n - 1)) := by
  have hceil : ⌈(n : ℝ) / 2 + half n⌉ = -((-(50 * (n : ℤ) + ceilSqrt (9604 * n))) / 100) := by
    have hform : -((n : ℝ) / 2 + half n) =
        (((-(50 * n) : ℤ) : ℝ) + -√((9604 * n : ℕ) : ℝ)) / ((100 : ℕ) : ℝ) := by
      rw [← hundred_half]
      push_cast
      ring
    have hneg := Int.floor_neg (a := (n : ℝ) / 2 + half n)
    rw [hform, Int.floor_div_natCast, Int.floor_intCast_add, Int.floor_neg, ← ceilSqrt_eq] at hneg
    rw [neg_add]
    omega
  rw [hceil, upperRank]
  omega

/-- The ranks lie on both sides of the median. -/
lemma ranks_around_median {n : ℕ} (hn : 0 < n) : 2 * lowerRank n ≤ n - 1 ∧
    n - 1 ≤ 2 * upperRank n ∧ upperRank n < n := by
  have hroot : 98 ≤ ceilSqrt (9604 * n) := by
    by_contra hlt
    have hsq := ceilSqrt_le_iff.mp (show ceilSqrt (9604 * n) ≤ 97 by omega)
    omega
  rw [lowerRank, upperRank]
  omega

/-! ### The summaries -/

lemma round4_mono {v w : ℚ} (h : v ≤ w) : round4 v ≤ round4 w := roundTo_mono 4 h

/-- The reported deviation is the rounded root of the variance. -/
lemma stddev_eq (c : MeasuredCase) (hn : 1 < c.values.length) :
    ((writeSummary c).stddev : ℝ) = roundTo 4 √(((variance (c.values.insertionSort (· ≤ ·))
      (mean (c.values.insertionSort (· ≤ ·))) : ℚ)) : ℝ) := by
  have hlen : (c.values.insertionSort (· ≤ ·)).length = c.values.length :=
    List.length_insertionSort _ _
  have hstddev : (writeSummary c).stddev = roundEvenSqrt
      (variance (c.values.insertionSort (· ≤ ·)) (mean (c.values.insertionSort (· ≤ ·))) * 10 ^ 8) /
        10 ^ 4 := by
    simp only [writeSummary]
    rw [if_pos (by omega), if_pos (by omega)]
  rw [hstddev]
  generalize c.values.insertionSort (· ≤ ·) = values at hlen ⊢
  have hvar : 0 ≤ variance values (mean values) := by
    rw [variance, if_neg (by omega)]
    have hpred : (0 : ℚ) ≤ (values.length : ℚ) - 1 := by
      have hcast : (1 : ℚ) ≤ values.length := by exact_mod_cast (show 1 ≤ values.length by omega)
      linarith
    refine div_nonneg (List.sum_nonneg fun x hx => ?_) hpred
    obtain ⟨v, -, rfl⟩ := List.mem_map.mp hx
    exact mul_self_nonneg _
  generalize variance values (mean values) = y at hvar ⊢
  have hroot : √((y * 10 ^ 8 : ℚ) : ℝ) = √(y : ℝ) * 10 ^ 4 := by
    push_cast
    rw [Real.sqrt_mul (by exact_mod_cast hvar), show (10 : ℝ) ^ 8 = (10 ^ 4) ^ 2 by norm_num,
      Real.sqrt_sq (by norm_num)]
  push_cast
  rw [roundEvenSqrt_eq (by positivity), hroot, roundTo]

/-- What a summary says of the calls. -/
structure Consistent (calls : List Call) (s : CaseSummary) : Prop where
  successes : s.successCount = (group keyOf s.caseId (recorded calls)).countP succeeds
  failures : s.failureCount = (group keyOf s.caseId (recorded calls)).countP (!succeeds ·)
  attempts : s.successCount + s.failureCount = (group keyOf s.caseId (recorded calls)).length
  included : s.includedSampleCount ≤ s.successCount
  ladder : s.min ≤ s.p5 ∧ s.p5 ≤ s.p25 ∧ s.p25 ≤ s.p50 ∧ s.p50 ≤ s.p75 ∧ s.p75 ≤ s.p95 ∧
    s.p95 ≤ s.p99 ∧ s.p99 ≤ s.p999 ∧ s.p999 ≤ s.max
  average : s.min ≤ s.mean ∧ s.mean ≤ s.max
  interval : minSamplesForCi ≤ s.includedSampleCount →
    s.ci95Lower ≤ s.p50 ∧ s.p50 ≤ s.ci95Upper

section Values

variable {values : List ℚ} {q : ℚ}

/-- A percentile is between the smallest and the largest sample, all zero when there is none. -/
lemma percentile_bounds (hsorted : values.SortedLE) (hq : 0 ≤ q) (hq' : q ≤ 1) :
    (if 0 < values.length then atRank values 0 else 0) ≤ percentile values q ∧
    percentile values q ≤
      if 0 < values.length then atRank values (values.length - 1) else 0 := by
  rcases Nat.eq_zero_or_pos values.length with hzero | hpos
  · simp [hzero, percentile]
  · have hlen : (1 : ℚ) ≤ values.length := by exact_mod_cast hpos
    rw [if_pos hpos, if_pos hpos]
    constructor
    · refine atRank_le_percentile hsorted hpos hq hq' ?_
      rw [Nat.cast_zero]
      exact mul_nonneg (by linarith) hq
    · refine percentile_le_atRank hsorted hq ?_ (by omega)
      rw [Nat.cast_sub hpos, Nat.cast_one]
      exact mul_le_of_le_one_right (by linarith) hq'

/-- The median is between the samples at the two ranks of the interval. -/
lemma median_bounds (hsorted : values.SortedLE) (hn : 0 < values.length) :
    atRank values (lowerRank values.length) ≤ percentile values 0.50 ∧
    percentile values 0.50 ≤ atRank values (upperRank values.length) := by
  obtain ⟨hlower, hupper, hlt⟩ := ranks_around_median hn
  have hcast : ((values.length - 1 : ℕ) : ℚ) = (values.length : ℚ) - 1 := by
    rw [Nat.cast_sub hn, Nat.cast_one]
  have hlower' : 2 * (lowerRank values.length : ℚ) ≤ (values.length : ℚ) - 1 := by
    rw [← hcast]
    exact_mod_cast hlower
  have hupper' : (values.length : ℚ) - 1 ≤ 2 * (upperRank values.length : ℚ) := by
    rw [← hcast]
    exact_mod_cast hupper
  exact ⟨atRank_le_percentile hsorted hn (by norm_num) (by norm_num) (by linarith),
    percentile_le_atRank hsorted (by norm_num) (by linarith) hlt⟩

end Values

/-- The summary of a case is consistent. -/
lemma consistent_writeSummary (h : c ∈ recordAll clock calls) :
    Consistent calls (writeSummary c) := by
  obtain ⟨hsuccess, hfailure, hvalues⟩ := counts_of_mem h
  have hsorted : (c.values.insertionSort (· ≤ ·)).SortedLE := List.sortedLE_insertionSort
  have hlen : (c.values.insertionSort (· ≤ ·)).length = c.values.length :=
    List.length_insertionSort _ _
  have hstep : ∀ {q q' : ℚ}, 0 ≤ q → q ≤ q' → q' ≤ 1 →
      round4 (percentile (c.values.insertionSort (· ≤ ·)) q) ≤
        round4 (percentile (c.values.insertionSort (· ≤ ·)) q') :=
    fun hq hqq hq' => round4_mono (percentile_mono hsorted hq hqq hq')
  refine ⟨hsuccess, hfailure, ?_, ?_, ⟨?_, ?_, ?_, ?_, ?_, ?_, ?_, ?_⟩, ?_, fun hn => ?_⟩
  · have hsplit := List.length_eq_countP_add_countP succeeds
      (l := group keyOf c.caseId (recorded calls))
    have hnot : (group keyOf c.caseId (recorded calls)).countP
        (fun call => decide ¬ succeeds call = true) =
        (group keyOf c.caseId (recorded calls)).countP (!succeeds ·) := by
      congr 1
      funext call
      cases succeeds call <;> rfl
    rw [hnot, ← hsuccess, ← hfailure] at hsplit
    exact hsplit.symm
  · exact hlen.le.trans hvalues
  · exact round4_mono (percentile_bounds hsorted (by norm_num) (by norm_num)).1
  · exact hstep (by norm_num) (by norm_num) (by norm_num)
  · exact hstep (by norm_num) (by norm_num) (by norm_num)
  · exact hstep (by norm_num) (by norm_num) (by norm_num)
  · exact hstep (by norm_num) (by norm_num) (by norm_num)
  · exact hstep (by norm_num) (by norm_num) (by norm_num)
  · exact hstep (by norm_num) (by norm_num) (by norm_num)
  · exact round4_mono (percentile_bounds hsorted (by norm_num) (by norm_num)).2
  · simp only [writeSummary]
    split_ifs with hn
    · exact ⟨round4_mono (mean_bounds hsorted hn).1, round4_mono (mean_bounds hsorted hn).2⟩
    · exact ⟨le_rfl, le_rfl⟩
  · have hn' : minSamplesForCi ≤ (c.values.insertionSort (· ≤ ·)).length := hn
    have hpos : 0 < (c.values.insertionSort (· ≤ ·)).length :=
      lt_of_lt_of_le (by decide) hn'
    obtain ⟨hlower, hupper⟩ := median_bounds hsorted hpos
    simp only [writeSummary, if_pos hn']
    exact ⟨round4_mono hlower, round4_mono hupper⟩

/-- The case ids of the summaries are those of the cases. -/
lemma perm_buildSummaries (cases : List MeasuredCase) :
    (buildSummaries cases).Perm (cases.map writeSummary) :=
  (List.mergeSort_perm _ _).map _

/-- Every summary is consistent, and together they count every recorded attempt once. -/
theorem summaries_consistent (clock : Clock) (calls : List Call) :
    (∀ s ∈ buildSummaries (recordAll clock calls), Consistent calls s) ∧
    ((buildSummaries (recordAll clock calls)).map (·.caseId)).Nodup ∧
    (∀ call ∈ recorded calls,
      keyOf call ∈ (buildSummaries (recordAll clock calls)).map (·.caseId)) ∧
    ((buildSummaries (recordAll clock calls)).map fun s => s.successCount + s.failureCount).sum =
      (recorded calls).length := by
  have h := holds_recordAll clock calls
  have hperm := perm_buildSummaries (recordAll clock calls)
  have hids : ((buildSummaries (recordAll clock calls)).map (·.caseId)).Perm
      ((recordAll clock calls).map (·.caseId)) := by
    have hmap := hperm.map (·.caseId)
    rwa [List.map_map] at hmap
  have hconsistent : ∀ s ∈ buildSummaries (recordAll clock calls), Consistent calls s := by
    intro s hs
    obtain ⟨c, hc, rfl⟩ := List.mem_map.mp (hperm.mem_iff.mp hs)
    exact consistent_writeSummary hc
  refine ⟨hconsistent, hids.nodup_iff.mpr h.nodup, fun call hcall => ?_, ?_⟩
  · exact hids.mem_iff.mpr ((h.keys _).mpr ⟨call, hcall, rfl⟩)
  · have hcounts : (buildSummaries (recordAll clock calls)).map
        (fun s => s.successCount + s.failureCount) =
        ((buildSummaries (recordAll clock calls)).map (·.caseId)).map
          fun id => (group keyOf id (recorded calls)).countP fun _ => true := by
      rw [List.map_map]
      refine List.map_congr_left fun s hs => ?_
      rw [(hconsistent s hs).attempts, Function.comp_apply, List.countP_true]
    rw [hcounts, sum_countP_group (hids.nodup_iff.mpr h.nodup), List.countP_true]
    exact fun call hcall => hids.mem_iff.mpr ((h.keys _).mpr ⟨call, hcall, rfl⟩)

end BenchmarkArtifactBuilder

end Networker
