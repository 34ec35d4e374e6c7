/-
The log pipeline of the Rust services (`networker-log`): the tracing layer, the channel and the
batch writer.

* `LogEntry`, `insertBatch`: an entry and the multi-row `INSERT` with its numbered parameters;
  `insertBatch_eq`: it stores the entries of the batch, each in its columns;
* `LogPipeline`, `LogStep`, `logPipeline`: the machine of the layer's `on_event`, the writer
  loop with its retry, and the shutdown;
* `log_accounted`, `log_in_order`, `log_exactly_once`: no event goes missing uncounted, rows are
  stored batch by batch in the order of the events, and once each where no reply is lost.
-/
import Networker.Concurrency.Machine
import Networker.Concurrency.Lane
import Networker.ControlPlane.Entities

namespace Networker

open Concurrency

/-! ### Entries -/

/-- `Level`. -/
inductive Level
  | error
  | warn
  | info
  | debug
  | trace
  deriving DecidableEq

/-- `Level::as_db`. -/
def Level.asDb : Level → ℤ
  | .error => 1
  | .warn => 2
  | .info => 3
  | .debug => 4
  | .trace => 5

/-- `LogEntry`; the fields are their JSON text. -/
structure LogEntry where
  ts : Time
  service : String
  level : Level
  message : String
  configId : Option Guid
  projectId : Option String
  traceId : Option Guid
  fields : Option String
  deriving DecidableEq

/-- A bound parameter. -/
inductive LogParam
  | timestamp (t : Time)
  | text (s : String)
  | smallint (n : ℤ)
  | uuid (u : Option Guid)
  | nullableText (s : Option String)
  | jsonb (v : Option String)
  deriving DecidableEq

/-- The parameters of an entry, in the order of the columns. -/
def LogEntry.params (e : LogEntry) : List LogParam :=
  [.timestamp e.ts, .text e.service, .smallint e.level.asDb, .text e.message, .uuid e.configId,
    .nullableText e.projectId, .uuid e.traceId, .jsonb e.fields]

/-- A stored row. -/
abbrev StoredRow : Type := List (Option LogParam)

namespace LogPipeline

/-- `COLS`. -/
def cols : ℕ := 8

/-- The placeholders of `VALUES ($1,…,$8), ($9,…), …`. -/
def placeholders (n : ℕ) : List (List ℕ) :=
  (List.range n).map fun i => (List.range cols).map fun col => i * cols + 1 + col

/-- `insert_batch`: the rows that the statement stores. -/
def insertBatch (batch : List LogEntry) : List StoredRow :=
  (placeholders batch.length).map fun row =>
    row.map fun n => (batch.flatMap LogEntry.params)[n - 1]?

/-- The row of an entry. -/
def rowOf (e : LogEntry) : StoredRow := e.params.map some

lemma length_params (e : LogEntry) : e.params.length = cols := rfl

/-- The parameters of the `i`-th entry are the `i`-th block. -/
lemma getElem?_params (batch : List LogEntry) :
    ∀ (i : ℕ) (e : LogEntry), batch[i]? = some e → ∀ col < cols,
      (batch.flatMap LogEntry.params)[i * cols + col]? = e.params[col]? := by
  induction batch with
  | nil => exact fun i e h => absurd h.symm (Option.some_ne_none e)
  | cons d batch ih =>
      intro i e hi col hcol
      rw [List.flatMap_cons]
      rcases i with _ | i
      · obtain rfl : d = e := by simpa using hi
        rw [Nat.zero_mul, Nat.zero_add, List.getElem?_append_left (by rwa [length_params])]
      · have hshift : (i + 1) * cols + col = (i * cols + col) + cols := by
          rw [Nat.succ_mul]
          omega
        rw [hshift, List.getElem?_append_right (by rw [length_params]; omega), length_params,
          Nat.add_sub_cancel]
        exact ih i e (by simpa using hi) col hcol

/-- The statement stores the entries of the batch, each in its columns. -/
theorem insertBatch_eq (batch : List LogEntry) : insertBatch batch = batch.map rowOf := by
  refine List.ext_getElem (by simp [insertBatch, placeholders]) fun i hi hi' => ?_
  have hlt : i < batch.length := by simpa using hi'
  refine List.ext_getElem (by simp [insertBatch, placeholders, rowOf, length_params]) ?_
  intro col hcol hcol'
  have hc : col < cols := by simpa [rowOf, length_params] using hcol'
  have hparam := getElem?_params batch i batch[i] (List.getElem?_eq_getElem hlt) col hc
  have hnum : i * cols + 1 + col - 1 = i * cols + col := by omega
  simp only [insertBatch, placeholders, List.getElem_map, List.getElem_range, hnum, rowOf]
  rw [hparam]
  exact List.getElem?_eq_getElem (by rwa [length_params])

/-- Every placeholder numbers a parameter. -/
lemma placeholder_le {n : ℕ} {row : List ℕ} (hrow : row ∈ placeholders n) {k : ℕ} (hk : k ∈ row) :
    1 ≤ k ∧ k ≤ n * cols := by
  obtain ⟨i, hi, rfl⟩ := List.mem_map.mp hrow
  obtain ⟨col, hcol, rfl⟩ := List.mem_map.mp hk
  rw [List.mem_range] at hi hcol
  have hle : (i + 1) * cols ≤ n * cols := Nat.mul_le_mul_right cols hi
  rw [Nat.succ_mul] at hle
  omega

end LogPipeline

/-! ### The pipeline -/

/-- What became of a batch: how it was counted, and how often it was stored. -/
structure Flushed where
  written : Bool
  copies : ℕ
  deriving DecidableEq

/-- Where `writer_loop` is. -/
inductive LogWriter
  | receiving
  /-- In front of the end of `try_flush_once`: the second try, what the first one has stored,
  and whether the loop returns behind it. -/
  | flushing (retry : Bool) (copies : ℕ) (last : Bool)
  | returned
  deriving DecidableEq

/-- The shared sender, the channel with the buffer of the writer, the table and
`LogPipelineMetrics`. -/
structure LogPipeline where
  /-- The slot of the layer holds a sender. -/
  sender : Bool
  /-- The `BatchHandle` holds a sender. -/
  handle : Bool
  writer : LogWriter
  lane : Lane LogEntry Flushed
  table : List StoredRow
  entriesWritten : ℕ
  entriesDropped : ℕ
  flushCount : ℕ
  flushErrors : ℕ
  queueDepth : ℕ
  /-- The events so far, those that the channel accepted, and how many were discarded without
  being counted. -/
  events : ℕ
  accepted : List LogEntry
  discarded : ℕ

inductive LogStep
  /-- `on_event`, under the lock of the slot. -/
  | event (e : LogEntry)
  | receive
  /-- `recv` returns `None`. -/
  | closed
  | tick
  /-- `try_flush_once` ends; a statement may be stored although its reply is lost. -/
  | attempt (ok : Bool) (stored : Bool)
  /-- The first step of `LogGuard::shutdown`. -/
  | clearSender
  | dropHandle
  deriving DecidableEq

namespace LogPipeline

/-- `CHANNEL_CAPACITY`. -/
def channelCapacity : ℕ := 10000

/-- `BATCH_SIZE`. -/
def batchSize : ℕ := 100

def start : LogPipeline :=
  ⟨true, true, .receiving, .empty, [], 0, 0, 0, 0, 0, 0, [], 0⟩

/-- The end of `on_event`. -/
def onEvent (e : LogEntry) (st : LogPipeline) : LogPipeline :=
  if st.sender && decide (st.writer ≠ .returned) then
    if channelCapacity ≤ st.lane.queue.length then
      { st with events := st.events + 1, entriesDropped := st.entriesDropped + 1 }
    else
      { st with
        events := st.events + 1
        accepted := st.accepted ++ [e]
        lane := st.lane.push e }
  else { st with events := st.events + 1, discarded := st.discarded + 1 }

/-- `flush`, up to its first try. -/
def flush (last : Bool) (st : LogPipeline) : LogPipeline :=
  if st.lane.batch = [] then { st with writer := if last then .returned else .receiving }
  else { st with writer := .flushing false 0 last, flushCount := st.flushCount + 1 }

/-- An entry is received. -/
def receive (st : LogPipeline) : LogPipeline :=
  let st := { st with lane := st.lane.take, queueDepth := st.lane.take.batch.length }
  if batchSize ≤ st.lane.batch.length then st.flush false else st

/-- The end of `flush`: the batch is let go. -/
def clear (written : Bool) (copies : ℕ) (last : Bool) (st : LogPipeline) : LogPipeline :=
  { st with
    lane := st.lane.finish ⟨written, copies⟩
    queueDepth := 0
    writer := if last then .returned else .receiving }

/-- A try of the statement ends. -/
def attempt (ok stored retry : Bool) (copies : ℕ) (last : Bool) (st : LogPipeline) :
    LogPipeline :=
  let copies := copies + stored.toNat
  let st := { st with table := st.table ++ if stored then insertBatch st.lane.batch else [] }
  if ok then
    { st with entriesWritten := st.entriesWritten + st.lane.batch.length }.clear true copies last
  else if retry then
    { st with
      entriesDropped := st.entriesDropped + st.lane.batch.length
      flushErrors := st.flushErrors + 1 }.clear false copies last
  else { st with writer := .flushing true copies last }

def exec : LogStep → LogPipeline → LogPipeline
  | .event e, st => st.onEvent e
  | .receive, st => st.receive
  | .closed, st => st.flush true
  | .tick, st => st.flush false
  | .attempt ok stored, st =>
      match st.writer with
      | .flushing retry copies last => st.attempt ok stored retry copies last
      | _ => st
  | .clearSender, st => { st with sender := false }
  | .dropHandle, st => { st with handle := false }

def can : LogStep → LogPipeline → Bool
  | .receive, st => decide (st.writer = .receiving ∧ st.lane.queue ≠ [])
  | .closed, st =>
      decide (st.writer = .receiving ∧ st.lane.queue = []) && !st.sender && !st.handle
  | .tick, st => decide (st.writer = .receiving)
  | .attempt ok stored, _ => !ok || stored
  | _, _ => true

end LogPipeline

/-- The pipeline with any number of threads that emit events. -/
def logPipeline : Machine LogStep LogPipeline := .of LogPipeline.exec LogPipeline.can

namespace LogPipeline

variable {st : LogPipeline} {retry last ok stored : Bool} {copies : ℕ}

/-! ### The accounts -/

/-- What the statements of the current `flush` have stored. -/
def inFlight : LogWriter → ℕ
  | .flushing _ copies _ => copies
  | _ => 0

/-- Nothing is queued, and nothing more can come. -/
def Drained (st : LogPipeline) : Prop :=
  st.lane.queue = [] ∧ st.sender = false ∧ st.handle = false

/-- What holds where the writer is. -/
def AtWriter (st : LogPipeline) : LogWriter → Prop
  | .receiving => st.lane.batch.length < batchSize
  | .flushing retry copies last =>
      st.lane.batch ≠ [] ∧ copies ≤ (if retry then 1 else 0) ∧ (last = true → Drained st)
  | .returned => st.lane.batch = [] ∧ Drained st

/-- What is known of a batch that has been let go. -/
def BatchDone (d : Flushed × List LogEntry) : Prop :=
  d.2 ≠ [] ∧ d.2.length ≤ batchSize ∧ d.1.copies ≤ 2 ∧ (d.1.written = true → 1 ≤ d.1.copies)

/-- The counters and the table against what went through the lane. -/
structure Accounted (st : LogPipeline) : Prop where
  accepted : st.accepted = st.lane.content
  events : st.events + st.lane.total (fun b => !b.written) =
    st.accepted.length + st.entriesDropped + st.discarded
  written : st.entriesWritten = st.lane.total Flushed.written
  table : st.table = (st.lane.rows Flushed.copies ++
    (List.replicate (inFlight st.writer) st.lane.batch).flatten).map rowOf
  batch_le : st.lane.batch.length ≤ batchSize
  writer : AtWriter st st.writer
  discarded : st.sender = true → st.discarded = 0
  done : ∀ d ∈ st.lane.done, BatchDone d

/-- What holds at the writer depends on the batch and on whether more can come. -/
lemma AtWriter.mono {st' : LogPipeline} {w : LogWriter} (h : AtWriter st w)
    (hbatch : st'.lane.batch = st.lane.batch) (hdrained : Drained st → Drained st') :
    AtWriter st' w := by
  cases w with
  | receiving =>
      change st'.lane.batch.length < batchSize
      rw [hbatch]
      exact h
  | flushing retry copies last =>
      exact ⟨fun hnil => h.1 (hbatch ▸ hnil), h.2.1, fun hl => hdrained (h.2.2 hl)⟩
  | returned => exact ⟨hbatch.trans h.1, hdrained h.2⟩

lemma Accounted.onEvent (h : Accounted st) (e : LogEntry) : Accounted (st.onEvent e) := by
  have hevents := h.events
  rw [LogPipeline.onEvent]
  split_ifs with hopen hfull
  · refine { h with events := ?_ }
    dsimp only
    omega
  · rw [Bool.and_eq_true, decide_eq_true_eq] at hopen
    -- a writer that has nothing more to wait for has no sender left
    have hopen' : ¬ Drained st := fun hd => Bool.false_ne_true (hd.2.1.symm.trans hopen.1)
    refine { h with accepted := ?_, events := ?_, table := ?_, writer := ?_ }
    · rw [Lane.content_push, h.accepted]
    · simp only [Lane.total_push, List.length_append, List.length_singleton]
      omega
    · rw [Lane.rows_push]
      exact h.table
    · exact h.writer.mono rfl fun hd => absurd hd hopen'
  · refine { h with events := ?_, discarded := ?_ }
    · dsimp only
      omega
    · intro hsender
      have hreturned : st.writer = .returned := by
        by_contra hw
        exact hopen (by rw [hsender, decide_eq_true hw]; rfl)
      have hwriter := h.writer
      rw [hreturned] at hwriter
      exact absurd (hwriter.2.2.1.symm.trans hsender) Bool.false_ne_true

/-- The writer begins to flush, or has nothing to flush. -/
lemma Accounted.flush (h : Accounted st) (hw : inFlight st.writer = 0)
    (hlast : last = true → Drained st) : Accounted (st.flush last) := by
  have htable := h.table
  rw [hw] at htable
  rw [LogPipeline.flush]
  split_ifs with hbatch hl
  · exact { h with table := htable, writer := ⟨hbatch, hlast hl⟩ }
  · refine { h with table := htable, writer := ?_ }
    change st.lane.batch.length < batchSize
    rw [hbatch]
    exact Nat.zero_lt_succ _
  · exact { h with table := htable, writer := ⟨hbatch, Nat.zero_le _, hlast⟩ }

lemma Accounted.receive (h : Accounted st) (hw : st.writer = .receiving)
    (hq : st.lane.queue ≠ []) : Accounted st.receive := by
  have hwriter := h.writer
  rw [hw] at hwriter
  have hlt : st.lane.batch.length < batchSize := hwriter
  have htable := h.table
  rw [hw] at htable
  have hlen := Lane.length_batch_take hq
  -- the state between the push to the buffer and the test of its length, without the claim on
  -- the writer
  have htaken : ∀ w, inFlight w = 0 → AtWriter { st with
        lane := st.lane.take, queueDepth := st.lane.take.batch.length, writer := w } w →
      Accounted { st with
        lane := st.lane.take, queueDepth := st.lane.take.batch.length, writer := w } := by
    intro w hin hat
    refine { h with
      accepted := ?_
      events := ?_
      written := ?_
      table := ?_
      batch_le := ?_
      writer := hat }
    · rw [Lane.content_take]
      exact h.accepted
    · rw [Lane.total_take]
      exact h.events
    · rw [Lane.total_take]
      exact h.written
    · dsimp only
      rw [hin, Lane.rows_take]
      exact htable
    · dsimp only
      omega
  rw [LogPipeline.receive]
  split_ifs with hfull
  · have hne : st.lane.take.batch ≠ [] := fun hnil => by
      rw [hnil] at hlen
      exact absurd hlen (by simp)
    rw [LogPipeline.flush, if_neg hne]
    have hflush := htaken (.flushing false 0 false) rfl
      ⟨hne, Nat.zero_le _, fun hc => absurd hc Bool.false_ne_true⟩
    exact { hflush with }
  · have hrec := htaken .receiving rfl (by
      change st.lane.take.batch.length < batchSize
      exact not_le.mp hfull)
    rw [← hw] at hrec
    exact hrec

/-- What one more try leaves in the table. -/
lemma Accounted.table_attempt (h : Accounted st) (hw : st.writer = .flushing retry copies last)
    (stored : Bool) :
    st.table ++ (if stored then insertBatch st.lane.batch else []) =
      (st.lane.rows Flushed.copies ++
        (List.replicate (copies + stored.toNat) st.lane.batch).flatten).map rowOf := by
  have htable := h.table
  rw [hw] at htable
  cases stored with
  | false =>
      rw [if_neg Bool.false_ne_true, List.append_nil]
      exact htable
  | true =>
      rw [htable, if_pos rfl, insertBatch_eq, Bool.toNat_true, List.replicate_succ',
        List.flatten_append, inFlight]
      simp

/-- The batch is let go: written or dropped as a whole. -/
lemma Accounted.clear (h : Accounted st) (hw : st.writer = .flushing retry copies last)
    {written : Bool} {c w d f : ℕ} {table : List StoredRow}
    (htable : table = (st.lane.rows Flushed.copies ++
      (List.replicate c st.lane.batch).flatten).map rowOf)
    (hc : c ≤ 2) (hone : written = true → 1 ≤ c)
    (hwritten : w = st.entriesWritten + if written then st.lane.batch.length else 0)
    (hdropped : d = st.entriesDropped + if written then 0 else st.lane.batch.length) :
    Accounted (clear written c last { st with
      table := table, entriesWritten := w, entriesDropped := d, flushErrors := f }) := by
  have hwriter := h.writer
  rw [hw] at hwriter
  refine { h with
    accepted := ?_
    events := ?_
    written := ?_
    table := ?_
    batch_le := Nat.zero_le _
    writer := ?_
    done := ?_ }
  · exact h.accepted.trans Lane.content_finish.symm
  · have hevents := h.events
    simp only [LogPipeline.clear, Lane.total_finish]
    cases written <;> simp only [Bool.not_true, Bool.not_false, if_true] at hdropped ⊢ <;>
      simp at hdropped ⊢ <;> omega
  · simp only [LogPipeline.clear, Lane.total_finish]
    rw [hwritten, h.written]
  · have hnone : inFlight (if last then .returned else .receiving) = 0 := by cases last <;> rfl
    simp only [LogPipeline.clear, hnone, Lane.rows_finish]
    simpa using htable
  · cases last with
    | false => exact Nat.zero_lt_succ _
    | true => exact ⟨rfl, hwriter.2.2 rfl⟩
  · intro b hb
    rcases List.mem_append.mp hb with hb | hb
    · exact h.done b hb
    · rw [List.mem_singleton.mp hb]
      exact ⟨hwriter.1, h.batch_le, hc, hone⟩

lemma Accounted.attempt (h : Accounted st) (hw : st.writer = .flushing retry copies last)
    (hok : ok = true → stored = true) :
    Accounted (st.attempt ok stored retry copies last) := by
  have hwriter := h.writer
  rw [hw] at hwriter
  have htable := h.table_attempt hw stored
  have hstored : stored.toNat ≤ 1 := Bool.toNat_le stored
  have hcopies : copies + stored.toNat ≤ (if retry then 2 else 1) := by
    have hle := hwriter.2.1
    cases retry <;> simp only [if_true, if_false, Bool.false_eq_true] at hle ⊢ <;> omega
  have htwo : copies + stored.toNat ≤ 2 := by
    cases retry <;> simp only [if_true, if_false, Bool.false_eq_true] at hcopies <;> omega
  rw [LogPipeline.attempt]
  cases ok with
  | true =>
      have hone : 1 ≤ copies + stored.toNat := by
        rw [hok rfl]
        exact Nat.succ_pos copies
      exact h.clear hw htable htwo (fun _ => hone) rfl rfl
  | false =>
      cases retry with
      | true => exact h.clear hw htable htwo (fun hc => absurd hc Bool.false_ne_true) rfl rfl
      | false => exact { h with table := htable, writer := ⟨hwriter.1, hcopies, hwriter.2.2⟩ }

lemma Accounted.exec (h : Accounted st) {l : LogStep} (hcan : can l st = true) :
    Accounted (exec l st) := by
  cases l with
  | event e => exact h.onEvent e
  | receive =>
      obtain ⟨hw, hq⟩ := of_decide_eq_true hcan
      exact h.receive hw hq
  | closed =>
      simp only [can, Bool.and_eq_true, Bool.not_eq_true', decide_eq_true_eq] at hcan
      obtain ⟨⟨⟨hw, hq⟩, hs⟩, hh⟩ := hcan
      exact h.flush (by rw [hw]; rfl) fun _ => ⟨hq, hs, hh⟩
  | tick =>
      have hw : st.writer = .receiving := of_decide_eq_true hcan
      exact h.flush (by rw [hw]; rfl) fun hc => absurd hc Bool.false_ne_true
  | attempt ok stored =>
      have hok : ok = true → stored = true := by
        rintro rfl
        exact hcan
      cases hw : st.writer with
      | flushing retry copies last =>
          simp only [LogPipeline.exec, hw]
          exact h.attempt hw hok
      | receiving => simpa only [LogPipeline.exec, hw] using h
      | returned => simpa only [LogPipeline.exec, hw] using h
  | clearSender =>
      exact { h with
        writer := h.writer.mono rfl fun hd => ⟨hd.1, rfl, hd.2.2⟩
        discarded := fun hc => absurd hc Bool.false_ne_true }
  | dropHandle =>
      exact { h with writer := h.writer.mono rfl fun hd => ⟨hd.1, hd.2.1, rfl⟩ }

lemma Accounted.start : Accounted start where
  accepted := rfl
  events := rfl
  written := rfl
  table := rfl
  batch_le := Nat.zero_le _
  writer := Nat.zero_lt_succ _
  discarded := fun _ => rfl
  done := by simp [LogPipeline.start, Lane.empty]

/-- The accounts hold in every state of a run. -/
lemma Accounted.run (steps : List LogStep) : Accounted (logPipeline.run .start steps) :=
  Machine.run_inv_all (I := Accounted) (fun _ _ hcan h => h.exec hcan) .start steps

/-! ### The results -/

/-- **Every event is accounted for.**  In every state of every run: an event was written, was
counted as dropped, waits in the buffer or in the channel, or came after the shutdown had taken
the sender; and when the writer has returned, nothing waits. -/
theorem log_accounted (steps : List LogStep) :
    let st := logPipeline.run start steps
    st.events = st.entriesWritten + st.entriesDropped + st.lane.batch.length +
        st.lane.queue.length + st.discarded ∧
      (st.sender = true → st.discarded = 0) ∧
      (st.writer = .returned → st.lane.batch = [] ∧ st.lane.queue = []) := by
  intro st
  have h : Accounted st := .run steps
  refine ⟨?_, h.discarded, fun hw => ?_⟩
  · have hevents := h.events
    have hlength := Lane.length_content Flushed.written st.lane
    rw [h.accepted, hlength] at hevents
    rw [h.written]
    omega
  · have hwriter := h.writer
    rw [hw] at hwriter
    exact ⟨hwriter.1, hwriter.2.1⟩

/-- **Rows come in batches, in the order of the events.**  The accepted events, in order, are
those of the batches that are done, then the buffer, then the channel; the table holds each
batch that was counted as written once or twice, one that was counted as dropped at most twice,
and of the buffer what the tries of the current flush have stored. -/
theorem log_in_order (steps : List LogStep) :
    let st := logPipeline.run start steps
    st.accepted = st.lane.done.flatMap Prod.snd ++ st.lane.batch ++ st.lane.queue ∧
      st.table = (st.lane.rows Flushed.copies ++
        (List.replicate (inFlight st.writer) st.lane.batch).flatten).map rowOf ∧
      ∀ d ∈ st.lane.done, BatchDone d := by
  intro st
  have h : Accounted st := .run steps
  exact ⟨h.accepted, h.table, h.done⟩

/-- No reply was lost so far. -/
def Exact (st : LogPipeline) : Prop :=
  inFlight st.writer = 0 ∧ ∀ d ∈ st.lane.done, d.1.copies = d.1.written.toNat

/-- A step whose reply is not lost. -/
def Answered (l : LogStep) : Prop := ∀ ok stored, l = .attempt ok stored → stored = ok

lemma exact_flush (h : Exact st) : Exact (st.flush last) := by
  rw [LogPipeline.flush]
  split_ifs
  · exact ⟨rfl, h.2⟩
  · exact ⟨rfl, h.2⟩
  · exact ⟨rfl, h.2⟩

lemma exact_exec {l : LogStep} (h : Exact st) (hl : Answered l) : Exact (exec l st) := by
  cases l with
  | event e =>
      simp only [LogPipeline.exec, LogPipeline.onEvent]
      split_ifs <;> exact h
  | receive =>
      simp only [LogPipeline.exec, LogPipeline.receive]
      have htaken : Exact { st with
          lane := st.lane.take, queueDepth := st.lane.take.batch.length } := h
      split_ifs
      · exact exact_flush htaken
      · exact htaken
  | closed => exact exact_flush h
  | tick => exact exact_flush h
  | attempt ok stored =>
      obtain rfl := hl ok stored rfl
      cases hw : st.writer with
      | flushing retry copies last =>
          have hcopies : copies = 0 := by
            have hin := h.1
            rwa [hw] at hin
          subst hcopies
          have hclear : ∀ {written : Bool} {w d f : ℕ} {table : List StoredRow},
              Exact (clear written written.toNat last { st with
                table := table, entriesWritten := w, entriesDropped := d, flushErrors := f }) := by
            intro written w d f table
            refine ⟨by cases last <;> rfl, fun b hb => ?_⟩
            rcases List.mem_append.mp hb with hb | hb
            · exact h.2 b hb
            · rw [List.mem_singleton.mp hb]
          simp only [LogPipeline.exec, hw, LogPipeline.attempt, Nat.zero_add]
          cases stored with
          | true => exact hclear
          | false =>
              cases retry with
              | true => exact hclear
              | false => exact ⟨rfl, h.2⟩
      | receiving => simpa only [LogPipeline.exec, hw] using h
      | returned => simpa only [LogPipeline.exec, hw] using h
  | clearSender => exact h
  | dropHandle => exact h

/-- **Exactly once where no reply is lost.**  If the database never stores a batch whose reply
fails: the table holds the entries that were counted as written, each once, and in the order of
the events. -/
theorem log_exactly_once (steps : List LogStep)
    (hanswered : ∀ ok stored, .attempt ok stored ∈ steps → stored = ok) :
    let st := logPipeline.run start steps
    st.table.length = st.entriesWritten ∧ st.table.Sublist (st.accepted.map rowOf) := by
  intro st
  have h : Accounted st := .run steps
  have hexact : Exact st := Machine.run_inv_mem (K := Answered) (I := Exact)
    (fun _ _ _ hs hl => exact_exec hs hl) ⟨rfl, by simp [LogPipeline.start, Lane.empty]⟩ steps
    fun l hl ok stored heq => hanswered ok stored (heq ▸ hl)
  have htable : st.table = (st.lane.rows Flushed.copies).map rowOf := by
    have htable := h.table
    rwa [hexact.1, List.replicate_zero, List.flatten_nil, List.append_nil] at htable
  rw [htable, h.accepted]
  refine ⟨?_, List.Sublist.map _ (Lane.rows_sublist fun d hd => ?_)⟩
  · rw [List.length_map, h.written]
    exact Lane.length_rows hexact.2
  · rw [hexact.2 d hd]
    exact Bool.toNat_le _

/-- An entry that is written, and one whose two tries fail. -/
def twoFlushes : List LogStep :=
  [.event ⟨0, "agent", .info, "up", none, none, none, none⟩, .receive, .tick, .attempt true true,
    .event ⟨1, "agent", .warn, "slow", none, none, none, none⟩, .receive, .tick,
    .attempt false false, .attempt false false]

theorem log_exactly_once_of_two_flushes :
    (logPipeline.run start twoFlushes).entriesDropped = 1 ∧
      ((logPipeline.run start twoFlushes).table.length =
          (logPipeline.run start twoFlushes).entriesWritten ∧
        (logPipeline.run start twoFlushes).table.Sublist
          ((logPipeline.run start twoFlushes).accepted.map rowOf)) :=
  ⟨by decide +kernel, log_exactly_once twoFlushes (by simp [twoFlushes])⟩

end LogPipeline

end Networker
