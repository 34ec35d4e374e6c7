/-
The `service_log` sink of the control plane: the bounded queue, its pump and its counters.

* `ServiceLogEntry`, `Pump`, `ServiceLog`: an entry, where `PumpAsync` is, and the queue with
  what has become of its entries;
* `ServiceLogStep`, `serviceLog`: the machine of `TryEnqueue`, `PumpAsync`, `FlushAsync` and
  `DisposeAsync`;
* `service_log_accounted`: where the entries are that `TryEnqueue` took, and what the counters
  say about them;
* `service_log_in_order`: the table keeps the order of the queue.
-/
import Networker.Concurrency.Machine
import Networker.Concurrency.Lane
import Networker.ControlPlane.Entities

namespace Networker

open Concurrency

/-- `ServiceLogEntry`. -/
structure ServiceLogEntry where
  timestamp : Time
  service : String
  level : ℤ
  message : String
  configId : Option Guid
  projectId : Option String
  traceId : Option Guid
  fields : Option String
  deriving DecidableEq

/-- Where `PumpAsync` is. -/
inductive Pump
  | notStarted
  /-- At the head of the loop, or in the delay behind a flush. -/
  | waiting
  | filling
  | flushing
  | draining
  /-- In the flush behind the loop. -/
  | drainFlush
  | ended
  deriving DecidableEq

/-- What became of a batch: how it was counted, and whether its rows are stored. -/
structure Copied where
  ok : Bool
  stored : Bool
  deriving DecidableEq

/-- `ServiceLogWriter`, `ServiceLogMetrics` and the table. -/
structure ServiceLog where
  lane : Lane ServiceLogEntry Copied
  pump : Pump
  completed : Bool
  stopping : Bool
  /-- `_written`, `_dropped`, `_flushErrors` and `_queueDepth`. -/
  entriesWritten : ℕ
  entriesDropped : ℕ
  flushErrors : ℕ
  queueDepth : ℤ
  /-- The calls between `TryWrite` and the counter, by its result. -/
  enqueuing : ℕ
  dropping : ℕ
  /-- The entries that `TryWrite` took, those of them that the full queue ignored, and how many
  it refused. -/
  taken : ℕ
  ignored : ℕ
  refused : ℕ
  accepted : List ServiceLogEntry

inductive ServiceLogStep
  /-- `TryWrite` in `TryEnqueue`. -/
  | tryWrite (e : ServiceLogEntry)
  | onEnqueued
  | onDropped
  | start
  /-- `WaitToReadAsync` returns true. -/
  | wake
  | tryRead
  /-- The loop over `TryRead` ends. -/
  | filled
  /-- `FlushAsync` ends; rows may be stored although the reply is lost. -/
  | flushed (ok : Bool) (stored : Bool)
  /-- The loop ends: the queue is completed and empty, or the pump is stopped. -/
  | leave
  | tryComplete
  | cancel
  deriving DecidableEq

namespace ServiceLog

def start : ServiceLog :=
  ⟨.empty, .notStarted, false, false, 0, 0, 0, 0, 0, 0, 0, 0, 0, []⟩

/-- `TryWrite` of a bounded channel whose full mode is `DropWrite`. -/
def tryWrite (queueCapacity : ℕ) (e : ServiceLogEntry) (st : ServiceLog) : ServiceLog :=
  if st.completed then { st with refused := st.refused + 1, dropping := st.dropping + 1 }
  else if queueCapacity ≤ st.lane.queue.length then
    { st with
      taken := st.taken + 1
      ignored := st.ignored + 1
      enqueuing := st.enqueuing + 1 }
  else
    { st with
      lane := st.lane.push e
      accepted := st.accepted ++ [e]
      taken := st.taken + 1
      enqueuing := st.enqueuing + 1 }

/-- The end of the loop over `TryRead`, in the loop of the pump or behind it. -/
def filled (st : ServiceLog) : ServiceLog :=
  match st.pump with
  | .filling => { st with pump := if st.lane.batch = [] then .waiting else .flushing }
  | .draining => { st with pump := if st.lane.batch = [] then .ended else .drainFlush }
  | _ => st

/-- `OnFlushed` or `OnFlushFailed`, and `batch.Clear`. -/
def flushed (ok stored : Bool) (st : ServiceLog) : ServiceLog :=
  { st with
    lane := st.lane.finish ⟨ok, stored⟩
    entriesWritten := st.entriesWritten + if ok then st.lane.batch.length else 0
    entriesDropped := st.entriesDropped + if ok then 0 else st.lane.batch.length
    flushErrors := st.flushErrors + if ok then 0 else 1
    queueDepth := st.queueDepth - st.lane.batch.length
    pump := if st.pump = .drainFlush then .ended else .waiting }

def exec (queueCapacity : ℕ) : ServiceLogStep → ServiceLog → ServiceLog
  | .tryWrite e, st => st.tryWrite queueCapacity e
  | .onEnqueued, st =>
      { st with queueDepth := st.queueDepth + 1, enqueuing := st.enqueuing - 1 }
  | .onDropped, st =>
      { st with entriesDropped := st.entriesDropped + 1, dropping := st.dropping - 1 }
  | .start, st => { st with pump := .waiting }
  | .wake, st => { st with pump := .filling }
  | .tryRead, st => { st with lane := st.lane.take }
  | .filled, st => st.filled
  | .flushed ok stored, st => st.flushed ok stored
  | .leave, st => { st with pump := .draining }
  | .tryComplete, st => { st with completed := true }
  | .cancel, st => { st with stopping := true }

def can (batchSize : ℕ) : ServiceLogStep → ServiceLog → Bool
  | .onEnqueued, st => decide (0 < st.enqueuing)
  | .onDropped, st => decide (0 < st.dropping)
  | .start, st => decide (st.pump = .notStarted)
  | .wake, st => decide (st.pump = .waiting ∧ st.lane.queue ≠ [])
  | .tryRead, st => decide ((st.pump = .filling ∨ st.pump = .draining) ∧
      st.lane.batch.length < batchSize ∧ st.lane.queue ≠ [])
  | .filled, st => decide ((st.pump = .filling ∨ st.pump = .draining) ∧
      (batchSize ≤ st.lane.batch.length ∨ st.lane.queue = []))
  | .flushed ok stored, st =>
      decide (st.pump = .flushing ∨ st.pump = .drainFlush) && (!ok || stored)
  | .leave, st =>
      decide (st.pump = .waiting ∧ (st.stopping = true ∨ st.completed = true ∧ st.lane.queue = []))
  | _, _ => true

end ServiceLog

/-- The sink, with any number of threads that log. -/
def serviceLog (queueCapacity batchSize : ℕ) : Machine ServiceLogStep ServiceLog :=
  .of (ServiceLog.exec queueCapacity) (ServiceLog.can batchSize)

namespace ServiceLog

variable {queueCapacity batchSize : ℕ} {st : ServiceLog}

/-- The rows of the table. -/
def table (st : ServiceLog) : List ServiceLogEntry := st.lane.rows fun b => b.stored.toNat

/-- The entries of the batches that failed. -/
def failed (st : ServiceLog) : ℕ := st.lane.total fun b => !b.ok

/-- Where the pump is, the batch is empty, or the batch is the one that is being filled or
flushed; the queue is completed before anything is refused. -/
structure Accounted (batchSize : ℕ) (st : ServiceLog) : Prop where
  accepted : st.accepted = st.lane.content
  taken : st.taken = st.accepted.length + st.ignored
  depth : st.queueDepth + st.enqueuing =
    (st.lane.batch.length + st.lane.queue.length + st.ignored : ℕ)
  written : st.entriesWritten = st.lane.total Copied.ok
  dropped : st.entriesDropped + st.dropping = st.failed + st.refused
  refused : st.completed = false → st.refused = 0
  batch_le : st.lane.batch.length ≤ batchSize
  idle : st.pump = .notStarted ∨ st.pump = .waiting ∨ st.pump = .ended → st.lane.batch = []
  done : ∀ d ∈ st.lane.done, d.2.length ≤ batchSize ∧ (d.1.ok = true → d.1.stored = true)

lemma Accounted.tryWrite (h : Accounted batchSize st) (e : ServiceLogEntry) :
    Accounted batchSize (st.tryWrite queueCapacity e) := by
  have hdropped := h.dropped
  have hdepth := h.depth
  have htaken := h.taken
  rw [ServiceLog.tryWrite]
  split_ifs with hcompleted hfull
  · refine { h with dropped := ?_, refused := fun hc => ?_ }
    · change st.entriesDropped + (st.dropping + 1) = st.failed + (st.refused + 1)
      omega
    · exact absurd (hc.symm.trans hcompleted) Bool.false_ne_true
  · refine { h with taken := ?_, depth := ?_ }
    · dsimp only
      omega
    · dsimp only
      push_cast at hdepth ⊢
      omega
  · refine { h with accepted := ?_, taken := ?_, depth := ?_, dropped := hdropped, done := h.done }
    · rw [Lane.content_push, h.accepted]
    · dsimp only
      rw [List.length_append, List.length_singleton]
      omega
    · simp only [Lane.push, List.length_append, List.length_singleton]
      push_cast at hdepth ⊢
      omega

lemma Accounted.tryRead (h : Accounted batchSize st) (hlt : st.lane.batch.length < batchSize)
    (hq : st.lane.queue ≠ []) (hpump : st.pump = .filling ∨ st.pump = .draining) :
    Accounted batchSize { st with lane := st.lane.take } := by
  have hdepth := h.depth
  have hqueue := Lane.length_queue_take hq
  have hbatch := Lane.length_batch_take hq
  refine { h with accepted := ?_, depth := ?_, batch_le := ?_, idle := ?_ }
  · exact h.accepted.trans Lane.content_take.symm
  · dsimp only
    push_cast at hdepth ⊢
    omega
  · dsimp only
    omega
  · intro hidle
    dsimp only at hidle
    rcases hpump with hp | hp <;> rw [hp] at hidle <;> simp at hidle

lemma Accounted.filled (h : Accounted batchSize st) : Accounted batchSize st.filled := by
  rw [ServiceLog.filled]
  split
  · refine { h with idle := ?_ }
    dsimp only
    split_ifs with hb <;> simp [hb]
  · refine { h with idle := ?_ }
    dsimp only
    split_ifs with hb <;> simp [hb]
  · exact h

lemma Accounted.flushed (h : Accounted batchSize st) {ok stored : Bool}
    (hok : ok = true → stored = true) : Accounted batchSize (st.flushed ok stored) := by
  have hdepth := h.depth
  have hdropped := h.dropped
  refine { h with
    accepted := ?_
    depth := ?_
    written := ?_
    dropped := ?_
    batch_le := Nat.zero_le _
    idle := fun _ => rfl
    done := ?_ }
  · exact h.accepted.trans Lane.content_finish.symm
  · simp only [ServiceLog.flushed, Lane.finish, List.length_nil]
    push_cast at hdepth ⊢
    omega
  · simp only [ServiceLog.flushed, Lane.total_finish]
    rw [h.written]
  · have htotal : (st.flushed ok stored).failed =
        st.failed + if (!ok) = true then st.lane.batch.length else 0 := Lane.total_finish
    rw [htotal]
    simp only [ServiceLog.flushed]
    cases ok <;> simp <;> omega
  · intro d hd
    rcases List.mem_append.mp hd with hd | hd
    · exact h.done d hd
    · rw [List.mem_singleton.mp hd]
      exact ⟨h.batch_le, hok⟩

lemma Accounted.exec (h : Accounted batchSize st) {l : ServiceLogStep}
    (hcan : can batchSize l st = true) : Accounted batchSize (exec queueCapacity l st) := by
  have hdepth := h.depth
  have hdropped := h.dropped
  cases l with
  | tryWrite e => exact h.tryWrite e
  | onEnqueued =>
      have hpos : 0 < st.enqueuing := of_decide_eq_true hcan
      refine { h with depth := ?_ }
      simp only [ServiceLog.exec]
      push_cast at hdepth ⊢
      omega
  | onDropped =>
      have hpos : 0 < st.dropping := of_decide_eq_true hcan
      refine { h with dropped := ?_ }
      change st.entriesDropped + 1 + (st.dropping - 1) = st.failed + st.refused
      omega
  | start =>
      have hp : st.pump = .notStarted := of_decide_eq_true hcan
      exact { h with idle := fun _ => h.idle (.inl hp) }
  | wake => exact { h with idle := fun hc => by simp [ServiceLog.exec] at hc }
  | tryRead =>
      obtain ⟨hp, hlt, hq⟩ := of_decide_eq_true hcan
      exact h.tryRead hlt hq hp
  | filled => exact h.filled
  | flushed ok stored =>
      simp only [ServiceLog.can, Bool.and_eq_true] at hcan
      exact h.flushed fun hok => by simpa [hok] using hcan.2
  | leave => exact { h with idle := fun hc => by simp [ServiceLog.exec] at hc }
  | tryComplete => exact { h with refused := fun hc => by simp [ServiceLog.exec] at hc }
  | cancel => exact { h with }

lemma Accounted.start : Accounted batchSize start where
  accepted := rfl
  taken := rfl
  depth := rfl
  written := rfl
  dropped := rfl
  refused := fun _ => rfl
  batch_le := Nat.zero_le _
  idle := fun _ => rfl
  done := by simp [ServiceLog.start, Lane.empty]

lemma Accounted.run (steps : List ServiceLogStep) :
    Accounted batchSize ((serviceLog queueCapacity batchSize).run .start steps) :=
  Machine.run_inv_all (I := Accounted batchSize) (fun _ _ hcan h => h.exec hcan) .start steps

/-! ### The results -/

/-- **Where the entries are, and what the counters say.**  Every entry that `TryEnqueue` took was
written, failed with its batch, waits, or was ignored by the full queue; the drop counter counts
the failed ones and what came after the completion, and never one that the full queue ignored:
these stay in the reported depth for good. -/
theorem service_log_accounted (queueCapacity batchSize : ℕ) (steps : List ServiceLogStep) :
    let st := (serviceLog queueCapacity batchSize).run .start steps
    st.taken = st.entriesWritten + st.failed + st.lane.batch.length + st.lane.queue.length +
        st.ignored ∧
      st.queueDepth + st.enqueuing =
        (st.lane.batch.length + st.lane.queue.length + st.ignored : ℕ) ∧
      st.entriesDropped + st.dropping = st.failed + st.refused ∧
      (st.completed = false → st.refused = 0) := by
  intro st
  have h : Accounted batchSize st := .run steps
  refine ⟨?_, h.depth, h.dropped, h.refused⟩
  have hlength := Lane.length_content Copied.ok st.lane
  rw [h.taken, h.accepted, hlength, h.written]
  rfl

/-- **The table keeps the order of the queue.**  Its rows are a selection, in order, of the
entries that the queue accepted, no entry twice; every entry counted as written is among them,
and no batch exceeds the batch size. -/
theorem service_log_in_order (queueCapacity batchSize : ℕ) (steps : List ServiceLogStep) :
    let st := (serviceLog queueCapacity batchSize).run .start steps
    st.table.Sublist st.accepted ∧ st.entriesWritten ≤ st.table.length ∧
      ∀ d ∈ st.lane.done, d.2.length ≤ batchSize := by
  intro st
  have h : Accounted batchSize st := .run steps
  refine ⟨?_, ?_, fun d hd => (h.done d hd).1⟩
  · rw [h.accepted]
    exact Lane.rows_sublist fun d _ => Bool.toNat_le _
  · rw [h.written]
    refine Lane.total_le_length_rows fun d hd hok => ?_
    rw [(h.done d hd).2 hok]
    exact Nat.le_refl 1

end ServiceLog

end Networker
