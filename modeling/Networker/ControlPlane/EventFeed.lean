/-
The dashboard event bus and the browsers that follow it
(`Realtime/EventBus.cs`, `Realtime/RawWs/`).

* `SeqEvent`, `Publication`, `PublishStage`: an event under its number, and where the
  call that publishes it stands;
* `Browser`, `BrowserStage`: a browser socket with its send queue, its watermark and the
  frames it has received;
* `Feed`: the counter, the ring, the registry, the calls and the sockets so far;
* `EventBus.publish`, `EventBus.advance`, `EventBus.replay`: the statements of a publish
  call and the replay snapshot;
* `RawSocketRegistry.offer`, `eject`: the fan-out to one registered socket;
* `BrowserSocketEndpoint.advance`, `leave`: the statements of the handler of a socket;
* `RawSocketConnection.pump`, `fail`: the statements of the send pump;
* `FeedStep`, `browserFeed`: the machine of all of them.
-/
import Networker.Concurrency.Machine
import Networker.ControlPlane.World

namespace Networker

open Data Concurrency

/-- The id of a browser: its place in the order the sockets were accepted in. -/
abbrev BrowserId : Type := ℕ

/-- An event under its sequence number. -/
structure SeqEvent where
  seq : ℕ
  event : DashboardEvent

/-- Where a call of `Publish` stands. -/
inductive PublishStage
  /-- The event has its number. -/
  | numbered
  /-- The event is in the ring. -/
  | buffered
  /-- The event is still to be offered to these browsers. -/
  | broadcasting (left : Finset BrowserId)
  /-- The send queue of this browser has refused the event. -/
  | ejecting (i : BrowserId) (left : Finset BrowserId)
  deriving DecidableEq

/-- A call of `Publish`. -/
structure Publication where
  frame : SeqEvent
  stage : PublishStage

namespace Publication

/-- The event has been offered to the browser, or the browser was not registered when
the fan-out began. -/
def offered (P : Publication) (i : BrowserId) : Prop :=
  match P.stage with
  | .numbered | .buffered => False
  | .broadcasting left | .ejecting _ left => i ∉ left

/-- The call has returned. -/
def returned (P : Publication) : Prop := P.stage = .broadcasting ∅

instance (P : Publication) : Decidable P.returned := inferInstanceAs (Decidable (_ = _))

end Publication

/-- Where the handler of a browser socket stands. -/
inductive BrowserStage
  /-- The upgrade is accepted. -/
  | accepted
  /-- The connection is registered. -/
  | registered
  /-- The events left to replay, and the highest number replayed so far. -/
  | replaying (rest : List SeqEvent) (maxReplayed : ℕ)
  /-- The watermark is set and the pump runs. -/
  | serving
  /-- The connection is unregistered. -/
  | leaving
  /-- The queue is completed. -/
  | closed

/-- `EventLogCapacity`. -/
def eventLogCapacity : ℕ := 2048

/-- `DefaultSendQueueCapacity`. -/
def defaultSendQueueCapacity : ℕ := 256

/-- A browser socket and its connection. -/
structure Browser where
  since : ℕ
  stage : BrowserStage
  queue : List SeqEvent
  replayWatermark : ℕ
  dropped : Bool
  /-- The pump has been started and has not ended. -/
  pumping : Bool
  /-- The frame the pump is sending. -/
  sending : Option SeqEvent
  /-- The frames sent by the replay. -/
  replayed : List SeqEvent
  /-- The frames sent by the pump. -/
  pumped : List SeqEvent
  /-- The last number assigned when the connection was registered; no step reads it. -/
  head : ℕ
  /-- The ring as the replay found it; no step reads it. -/
  retained : List SeqEvent

/-- The state the publishers and the browser sockets share. -/
structure Feed where
  seq : ℕ
  buffer : List SeqEvent
  browserClients : Finset BrowserId
  publications : List Publication
  browsers : List Browser

namespace Feed

/-- A bus that has just started: the numbers begin at one again. -/
def started : Feed := ⟨0, [], ∅, [], []⟩

/-- The call `p` moves on. -/
def enter (p : ℕ) (frame : SeqEvent) (stage : PublishStage) (s : Feed) : Feed :=
  { s with publications := s.publications.set p ⟨frame, stage⟩ }

def setBrowser (i : BrowserId) (b : Browser) (s : Feed) : Feed :=
  { s with browsers := s.browsers.set i b }

end Feed

/-! ### The bus -/

namespace EventBus

/-- The increment of the counter. -/
def publish (e : DashboardEvent) (s : Feed) : Feed :=
  { s with seq := s.seq + 1
           publications := s.publications ++ [⟨⟨s.seq + 1, e⟩, .numbered⟩] }

/-- Append to the ring; a full ring drops its oldest entry. -/
def enqueue (e : SeqEvent) (buffer : List SeqEvent) : List SeqEvent :=
  (if eventLogCapacity ≤ buffer.length then buffer.tail else buffer) ++ [e]

/-- The retained events above a number, oldest first. -/
def replay (since : ℕ) (buffer : List SeqEvent) : List SeqEvent :=
  buffer.filter fun e => since < e.seq

/-- The next statement of the call `p` up to the beginning of the fan-out, which takes
a snapshot of the registry. -/
def advance (p : ℕ) (s : Feed) : Feed :=
  match s.publications[p]? with
  | some ⟨e, .numbered⟩ => { s with buffer := enqueue e s.buffer }.enter p e .buffered
  | some ⟨e, .buffered⟩ => s.enter p e (.broadcasting s.browserClients)
  | _ => s

end EventBus

/-! ### The connection -/

namespace RawSocketConnection

/-- `TryEnqueue` without the `Drop` of a connection whose queue is full. -/
def tryEnqueue (e : SeqEvent) (b : Browser) : Option Browser :=
  match b.dropped, b.stage with
  | true, _ | _, .closed => none
  | false, _ =>
      if b.queue.length < defaultSendQueueCapacity then
        some { b with queue := b.queue ++ [e] }
      else none

def drop (b : Browser) : Browser := { b with dropped := true }

/-- The pump takes the next frame off the queue, and discards it where the replay has
covered its number. -/
def take (b : Browser) : Browser :=
  match b.queue with
  | [] => b
  | e :: queue =>
      if 0 < e.seq ∧ e.seq ≤ b.replayWatermark then { b with queue := queue }
      else { b with queue := queue, sending := some e }

/-- The next statement of the pump. -/
def advancePump (b : Browser) : Browser :=
  match b.pumping, b.sending with
  | true, some e => { b with sending := none, pumped := b.pumped ++ [e] }
  | true, none => take b
  | false, _ => b

/-- The send of the pump throws: the connection is dropped and the pump ends. -/
def failPump (b : Browser) : Browser :=
  match b.sending with
  | some _ => drop { b with sending := none, pumping := false }
  | none => b

def pump (i : BrowserId) (s : Feed) : Feed :=
  match s.browsers[i]? with
  | some b => s.setBrowser i (advancePump b)
  | none => s

def fail (i : BrowserId) (s : Feed) : Feed :=
  match s.browsers[i]? with
  | some b => s.setBrowser i (failPump b)
  | none => s

end RawSocketConnection

/-! ### The fan-out -/

namespace RawSocketRegistry

open RawSocketConnection

/-- The call `p` offers its event to the browser `i` of its snapshot; the snapshot is
gone through in any order. -/
def offer (p : ℕ) (i : BrowserId) (s : Feed) : Feed :=
  match s.publications[p]?, s.browsers[i]? with
  | some ⟨e, .broadcasting left⟩, some b =>
      if i ∈ left then
        match tryEnqueue e b with
        | some b' => (s.setBrowser i b').enter p e (.broadcasting (left.erase i))
        | none => s.enter p e (.ejecting i left)
      else s
  | _, _ => s

/-- The browser that has refused the event is dropped and removed. -/
def eject (p : ℕ) (s : Feed) : Feed :=
  match s.publications[p]? with
  | some ⟨e, .ejecting i left⟩ =>
      match s.browsers[i]? with
      | some b =>
          { s with browserClients := s.browserClients.erase i }.setBrowser i (drop b)
            |>.enter p e (.broadcasting (left.erase i))
      | none => s
  | _ => s

def registerBrowser (i : BrowserId) (s : Feed) : Feed :=
  { s with browserClients := insert i s.browserClients }

def unregisterBrowser (i : BrowserId) (s : Feed) : Feed :=
  { s with browserClients := s.browserClients.erase i }

end RawSocketRegistry

/-! ### The handler of a browser socket -/

namespace BrowserSocketEndpoint

open RawSocketRegistry

/-- What is read of `?since=`, as the text parses: zero where the text is absent, no
number or not positive. -/
def readSince (raw : Option ℤ) : ℕ :=
  match raw with
  | some since => if 0 < since then since.toNat else 0
  | none => 0

/-- The upgrade of a browser that presents `since`. -/
def connect (raw : Option ℤ) (s : Feed) : Feed :=
  { s with browsers := s.browsers ++
      [⟨readSince raw, .accepted, [], 0, false, false, none, [], [], 0, []⟩] }

/-- The snapshot of the replay: nothing is replayed to a browser that presents zero. -/
def snapshot (b : Browser) (buffer : List SeqEvent) : Browser :=
  { b with stage := .replaying (if 0 < b.since then EventBus.replay b.since buffer else []) b.since
           retained := buffer }

/-- The next statement of the handler of the socket `i`. -/
def statement (i : BrowserId) (b : Browser) (s : Feed) : Feed :=
  match b.stage with
  | .accepted =>
      (registerBrowser i s).setBrowser i { b with stage := .registered, head := s.seq }
  | .registered => s.setBrowser i (snapshot b s.buffer)
  | .replaying (e :: rest) maxReplayed =>
      s.setBrowser i { b with stage := .replaying rest (max maxReplayed e.seq)
                              replayed := b.replayed ++ [e] }
  | .replaying [] maxReplayed =>
      s.setBrowser i { b with stage := .serving
                              replayWatermark := maxReplayed
                              pumping := true }
  | .leaving => s.setBrowser i { b with stage := .closed }
  | .serving | .closed => s

def advance (i : BrowserId) (s : Feed) : Feed :=
  match s.browsers[i]? with
  | some b => statement i b s
  | none => s

/-- The browser closes, or a send of the replay throws: the connection is
unregistered. -/
def leave (i : BrowserId) (s : Feed) : Feed :=
  match s.browsers[i]? with
  | some b =>
      match b.stage with
      | .registered | .replaying _ _ | .serving =>
          (unregisterBrowser i s).setBrowser i { b with stage := .leaving }
      | _ => s
  | none => s

end BrowserSocketEndpoint

/-! ### The feed -/

/-- What may happen next. -/
inductive FeedStep
  /-- A call of `Publish` begins. -/
  | publish (e : DashboardEvent)
  /-- A call of `Publish` goes on. -/
  | publisher (p : ℕ)
  | offer (p : ℕ) (i : BrowserId)
  | eject (p : ℕ)
  /-- A browser connects with what its `since` parses to. -/
  | connect (raw : Option ℤ)
  /-- The handler of a socket goes on. -/
  | handler (i : BrowserId)
  | pump (i : BrowserId)
  | fail (i : BrowserId)
  | leave (i : BrowserId)

namespace FeedStep

def exec : FeedStep → Feed → Feed
  | publish e => EventBus.publish e
  | publisher p => EventBus.advance p
  | offer p i => RawSocketRegistry.offer p i
  | eject p => RawSocketRegistry.eject p
  | connect raw => BrowserSocketEndpoint.connect raw
  | handler i => BrowserSocketEndpoint.advance i
  | pump i => RawSocketConnection.pump i
  | fail i => RawSocketConnection.fail i
  | leave i => BrowserSocketEndpoint.leave i

end FeedStep

/-- The event bus and its browser sockets. -/
def browserFeed : Machine FeedStep Feed := .of FeedStep.exec fun _ _ => true

end Networker
