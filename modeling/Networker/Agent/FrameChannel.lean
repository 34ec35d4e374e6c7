/-
The outbound channel of the agent's connection (`RawWebSocketClient.cs`).

* `QueuedFrame`, `SendPump`, `FrameChannel`: the frames of the calls, where the pump is, and the
  bounded channel between them;
* `FrameStep`, `frameChannel`: the machine of `ChannelFrameSink`, `SendPumpAsync` and the
  teardown, for a number of callers that relay log lines at a time;
* `frames_in_order`: every call has one outcome, and what goes out is what was accepted, in
  that order, up to where the pump stops;
* `data_keeps_room`: log lines leave room for the frames of the runs.
-/
import Networker.Concurrency.Machine

namespace Networker

open Concurrency

/-- A frame with the call it comes from, and whether it relays a log line. -/
structure QueuedFrame (α : Type) where
  call : ℕ
  low : Bool
  text : α
  deriving DecidableEq

/-- Where `SendPumpAsync` is. -/
inductive SendPump (α : Type)
  | waiting
  | sending (f : QueuedFrame α)
  | stopped
  deriving DecidableEq

/-- The channel, the calls that are under way, and what became of the frames. -/
structure FrameChannel (α : Type) where
  queue : List (QueuedFrame α)
  completed : Bool
  pump : SendPump α
  /-- Log lines between the look at the backlog and the write. -/
  checked : List (QueuedFrame α)
  /-- Critical frames between `TryWrite` and `WriteAsync`. -/
  missed : List (QueuedFrame α)
  /-- Critical frames that wait for room. -/
  blocked : List (QueuedFrame α)
  nextCall : ℕ
  /-- The frames whose calls returned true and false. -/
  accepted : List (QueuedFrame α)
  refused : List (QueuedFrame α)
  /-- The frames that went out, and those that the pump read in vain. -/
  sent : List (QueuedFrame α)
  lost : List (QueuedFrame α)

inductive FrameStep (α : Type)
  | trySend (text : α)
  /-- The first half of `TrySendLowPriority`. -/
  | checkBacklog (text : α)
  | trySendLow (i : ℕ)
  /-- The fast path of `TrySendCriticalAsync`. -/
  | trySendCritical (text : α)
  | writeAsync (i : ℕ) (cancelled : Bool)
  /-- A critical frame has waited too long. -/
  | timeout (i : ℕ)
  | read
  /-- `SendAsync` ends; a frame may have gone out although it raises. -/
  | sendEnds (ok : Bool) (went : Bool)
  | pumpStops
  | complete
  deriving DecidableEq

namespace FrameChannel

variable {α : Type}

/-- `WsChannelCapacity`. -/
def capacity : ℕ := 4096

/-- `LowPriorityHighWater`. -/
def lowPriorityHighWater : ℕ := 2048

def start : FrameChannel α := ⟨[], false, .waiting, [], [], [], 0, [], [], [], []⟩

def accept (f : QueuedFrame α) (st : FrameChannel α) : FrameChannel α :=
  { st with queue := st.queue ++ [f], accepted := st.accepted ++ [f] }

def refuse (f : QueuedFrame α) (st : FrameChannel α) : FrameChannel α :=
  { st with refused := st.refused ++ [f] }

/-- The channel takes a frame. -/
def hasRoom (st : FrameChannel α) : Bool :=
  !st.completed && decide (st.queue.length < capacity)

/-- `TryWrite`, with what becomes of a frame that does not fit. -/
def tryWrite (f : QueuedFrame α) (fail : FrameChannel α → FrameChannel α) (st : FrameChannel α) :
    FrameChannel α :=
  if st.hasRoom then st.accept f else fail st

/-- A new call. -/
def call (low : Bool) (text : α) (k : QueuedFrame α → FrameChannel α → FrameChannel α)
    (st : FrameChannel α) : FrameChannel α :=
  k ⟨st.nextCall, low, text⟩ { st with nextCall := st.nextCall + 1 }

/-- The pump reads a frame, and the first writer that waits gets its place. -/
def read (st : FrameChannel α) : FrameChannel α :=
  match st.queue, st.blocked with
  | [], _ => st
  | f :: queue, [] => { st with queue := queue, pump := .sending f }
  | f :: queue, b :: blocked =>
      { st with queue := queue, pump := .sending f, blocked := blocked }.accept b

/-- `SendAsync` ends. -/
def sendEnds (ok went : Bool) (st : FrameChannel α) : FrameChannel α :=
  match st.pump with
  | .sending f =>
      if ok then { st with pump := .waiting, sent := st.sent ++ [f] }
      else if went then { st with pump := .stopped, sent := st.sent ++ [f] }
      else { st with pump := .stopped, lost := st.lost ++ [f] }
  | _ => st

def exec : FrameStep α → FrameChannel α → FrameChannel α
  | .trySend text, st => st.call false text fun f st => st.tryWrite f (refuse f)
  | .checkBacklog text, st => st.call true text fun f st =>
      if lowPriorityHighWater ≤ st.queue.length then st.refuse f
      else { st with checked := st.checked ++ [f] }
  | .trySendLow i, st =>
      match st.checked[i]? with
      | none => st
      | some f => { st with checked := st.checked.eraseIdx i }.tryWrite f (refuse f)
  | .trySendCritical text, st => st.call false text fun f st =>
      st.tryWrite f fun st => { st with missed := st.missed ++ [f] }
  | .writeAsync i cancelled, st =>
      match st.missed[i]? with
      | none => st
      | some f =>
          if st.completed || cancelled then
            { st with missed := st.missed.eraseIdx i }.refuse f
          else { st with missed := st.missed.eraseIdx i }.tryWrite f fun st =>
            { st with blocked := st.blocked ++ [f] }
  | .timeout i, st =>
      match st.blocked[i]? with
      | none => st
      | some f => { st with blocked := st.blocked.eraseIdx i }.refuse f
  | .read, st => st.read
  | .sendEnds ok went, st => st.sendEnds ok went
  | .pumpStops, st => { st with pump := .stopped }
  | .complete, st =>
      { st with completed := true, blocked := [], refused := st.refused ++ st.blocked }

def can (callers : ℕ) : FrameStep α → FrameChannel α → Bool
  | .checkBacklog _, st => decide (st.checked.length < callers)
  | .read, st | .pumpStops, st =>
      match st.pump with
      | .waiting => true
      | _ => false
  | _, _ => true

end FrameChannel

/-- A connection, with at most `callers` calls at a time that relay a log line. -/
def frameChannel (α : Type) (callers : ℕ) : Machine (FrameStep α) (FrameChannel α) :=
  .of FrameChannel.exec (FrameChannel.can callers)

namespace FrameChannel

variable {α : Type} {callers : ℕ} {st : FrameChannel α} {f : QueuedFrame α}

/-! ### The frames of the calls -/

/-- The frames of all calls so far. -/
def frames (st : FrameChannel α) : Multiset (QueuedFrame α) :=
  st.accepted + st.refused + (st.checked + st.missed + st.blocked : Multiset (QueuedFrame α))

/-- The frame that the pump holds. -/
def held (st : FrameChannel α) : List (QueuedFrame α) :=
  match st.pump with
  | .sending f => [f]
  | _ => []

@[simp] lemma frames_accept : (st.accept f).frames = st.frames + {f} := by
  simp only [frames, accept, ← Multiset.coe_add, Multiset.coe_singleton]
  abel

@[simp] lemma frames_refuse : (st.refuse f).frames = st.frames + {f} := by
  simp only [frames, refuse, ← Multiset.coe_add, Multiset.coe_singleton]
  abel

lemma frames_tryWrite {fail : FrameChannel α → FrameChannel α}
    (h : (fail st).frames = st.frames + {f}) :
    (st.tryWrite f fail).frames = st.frames + {f} := by
  rw [tryWrite]
  split_ifs
  · exact frames_accept
  · exact h

/-- An entry and the list without it. -/
lemma coe_eraseIdx {l : List (QueuedFrame α)} {i : ℕ} (hf : l[i]? = some f) :
    (l : Multiset (QueuedFrame α)) = (l.eraseIdx i : Multiset (QueuedFrame α)) + {f} := by
  obtain ⟨hi, rfl⟩ := List.getElem?_eq_some_iff.mp hf
  rw [add_comm, Multiset.singleton_add, Multiset.cons_coe, Multiset.coe_eq_coe]
  exact (List.getElem_cons_eraseIdx_perm hi).symm

@[simp] lemma nextCall_accept : (st.accept f).nextCall = st.nextCall := rfl

@[simp] lemma nextCall_refuse : (st.refuse f).nextCall = st.nextCall := rfl

lemma nextCall_tryWrite {fail : FrameChannel α → FrameChannel α}
    (h : (fail st).nextCall = st.nextCall) : (st.tryWrite f fail).nextCall = st.nextCall := by
  rw [tryWrite]
  split_ifs
  · rfl
  · exact h

lemma frames_take_checked {i : ℕ} (hf : st.checked[i]? = some f) :
    ({ st with checked := st.checked.eraseIdx i } : FrameChannel α).frames + {f} = st.frames := by
  simp only [frames, coe_eraseIdx hf]
  abel

lemma frames_take_missed {i : ℕ} (hf : st.missed[i]? = some f) :
    ({ st with missed := st.missed.eraseIdx i } : FrameChannel α).frames + {f} = st.frames := by
  simp only [frames, coe_eraseIdx hf]
  abel

lemma frames_take_blocked {i : ℕ} (hf : st.blocked[i]? = some f) :
    ({ st with blocked := st.blocked.eraseIdx i } : FrameChannel α).frames + {f} = st.frames := by
  simp only [frames, coe_eraseIdx hf]
  abel

lemma frames_missed : ({ st with missed := st.missed ++ [f] } : FrameChannel α).frames =
    st.frames + {f} := by
  simp only [frames, ← Multiset.coe_add, Multiset.coe_singleton]
  abel

lemma frames_checked : ({ st with checked := st.checked ++ [f] } : FrameChannel α).frames =
    st.frames + {f} := by
  simp only [frames, ← Multiset.coe_add, Multiset.coe_singleton]
  abel

lemma frames_blocked : ({ st with blocked := st.blocked ++ [f] } : FrameChannel α).frames =
    st.frames + {f} := by
  simp only [frames, ← Multiset.coe_add, Multiset.coe_singleton]
  abel

/-- A step that makes a call adds its frame. -/
lemma frames_call {low : Bool} {text : α} {k : QueuedFrame α → FrameChannel α → FrameChannel α}
    (hk : ∀ f st, (k f st).frames = st.frames + {f} ∧ (k f st).nextCall = st.nextCall) :
    (st.call low text k).frames = st.frames + {⟨st.nextCall, low, text⟩} ∧
      (st.call low text k).nextCall = st.nextCall + 1 :=
  hk ⟨st.nextCall, low, text⟩ { st with nextCall := st.nextCall + 1 }

lemma frames_read (st : FrameChannel α) :
    st.read.frames = st.frames ∧ st.read.nextCall = st.nextCall := by
  rw [read]
  split
  · exact ⟨rfl, rfl⟩
  · exact ⟨rfl, rfl⟩
  · next f queue b blocked hq hb =>
    refine ⟨?_, rfl⟩
    rw [frames_accept]
    simp only [frames, hb, ← Multiset.cons_coe, ← Multiset.singleton_add]
    abel

lemma frames_sendEnds (ok went : Bool) (st : FrameChannel α) :
    (st.sendEnds ok went).frames = st.frames ∧ (st.sendEnds ok went).nextCall = st.nextCall := by
  rw [sendEnds]
  split
  · split_ifs
    · exact ⟨rfl, rfl⟩
    · exact ⟨rfl, rfl⟩
    · exact ⟨rfl, rfl⟩
  · exact ⟨rfl, rfl⟩

/-- Everything a step does to the frames of the calls: nothing, or it makes the next call. -/
lemma frames_exec (l : FrameStep α) (st : FrameChannel α) :
    ((exec l st).frames = st.frames ∧ (exec l st).nextCall = st.nextCall) ∨
      ∃ low text, (exec l st).frames = st.frames + {⟨st.nextCall, low, text⟩} ∧
        (exec l st).nextCall = st.nextCall + 1 := by
  cases l with
  | trySend text =>
      exact .inr ⟨false, text, frames_call fun f st =>
        ⟨frames_tryWrite frames_refuse, nextCall_tryWrite rfl⟩⟩
  | checkBacklog text =>
      refine .inr ⟨true, text, frames_call fun f st => ?_⟩
      split_ifs
      · exact ⟨frames_refuse, rfl⟩
      · exact ⟨frames_checked, rfl⟩
  | trySendLow i =>
      refine .inl ?_
      rw [exec]
      split
      · exact ⟨rfl, rfl⟩
      · next f hf =>
        exact ⟨(frames_tryWrite frames_refuse).trans (frames_take_checked hf),
          nextCall_tryWrite rfl⟩
  | trySendCritical text =>
      exact .inr ⟨false, text, frames_call fun f st =>
        ⟨frames_tryWrite frames_missed, nextCall_tryWrite rfl⟩⟩
  | writeAsync i cancelled =>
      refine .inl ?_
      rw [exec]
      split
      · exact ⟨rfl, rfl⟩
      · next f hf =>
        split_ifs
        · exact ⟨frames_refuse.trans (frames_take_missed hf), rfl⟩
        · exact ⟨(frames_tryWrite frames_blocked).trans (frames_take_missed hf),
            nextCall_tryWrite rfl⟩
  | timeout i =>
      refine .inl ?_
      rw [exec]
      split
      · exact ⟨rfl, rfl⟩
      · next f hf => exact ⟨frames_refuse.trans (frames_take_blocked hf), rfl⟩
  | read => exact .inl (frames_read st)
  | sendEnds ok went => exact .inl (frames_sendEnds ok went st)
  | pumpStops => exact .inl ⟨rfl, rfl⟩
  | complete =>
      refine .inl ⟨?_, rfl⟩
      simp only [exec, frames, ← Multiset.coe_add, Multiset.coe_nil]
      abel

/-- The frames of the calls are numbered. -/
def Numbered (st : FrameChannel α) : Prop :=
  st.frames.map QueuedFrame.call = Multiset.range st.nextCall

lemma Numbered.exec (h : Numbered st) (l : FrameStep α) : Numbered (exec l st) := by
  rw [Numbered] at h ⊢
  obtain ⟨hf, hn⟩ | ⟨low, text, hf, hn⟩ := frames_exec l st
  · rw [hf, hn, h]
  · rw [hf, hn, Multiset.map_add, h, Multiset.range_succ, Multiset.map_singleton, add_comm,
      Multiset.singleton_add]

/-! ### What goes out -/

/-- What was accepted has gone out, is lost with the connection, or is still to be sent. -/
structure Ordered (st : FrameChannel α) : Prop where
  inOrder : st.sent ++ (st.lost ++ (st.held ++ st.queue)) = st.accepted
  stops : st.lost = [] ∨ st.lost.length = 1 ∧ st.pump = .stopped
  fits : st.queue.length ≤ capacity

lemma Ordered.accept (h : Ordered st) (hroom : st.queue.length < capacity) :
    Ordered (st.accept f) where
  inOrder := by
    rw [FrameChannel.accept, ← h.inOrder]
    simp only [List.append_assoc]
    rfl
  stops := h.stops
  fits := by
    rw [FrameChannel.accept, List.length_append, List.length_singleton]
    omega

/-- What `Ordered` is about. -/
lemma Ordered.congr {st' : FrameChannel α} (h : Ordered st) (hsent : st'.sent = st.sent)
    (hlost : st'.lost = st.lost) (hpump : st'.pump = st.pump) (hqueue : st'.queue = st.queue)
    (haccepted : st'.accepted = st.accepted) : Ordered st' where
  inOrder := by
    rw [hsent, hlost, held, hpump, hqueue, haccepted]
    exact h.inOrder
  stops := by
    rw [hlost, hpump]
    exact h.stops
  fits := hqueue ▸ h.fits

lemma Ordered.tryWrite {fail : FrameChannel α → FrameChannel α} (h : Ordered st)
    (hfail : Ordered (fail st)) : Ordered (st.tryWrite f fail) := by
  rw [FrameChannel.tryWrite]
  split_ifs with hroom
  · rw [hasRoom, Bool.and_eq_true, decide_eq_true_eq] at hroom
    exact h.accept hroom.2
  · exact hfail

lemma Ordered.refuse (h : Ordered st) : Ordered (st.refuse f) :=
  h.congr rfl rfl rfl rfl rfl

lemma Ordered.read (h : Ordered st) (hpump : st.pump = .waiting) : Ordered st.read := by
  have hlost : st.lost = [] := by
    obtain hl | ⟨-, hs⟩ := h.stops
    · exact hl
    · rw [hpump] at hs
      cases hs
  have htake : ∀ f queue blocked, st.queue = f :: queue →
      Ordered { st with queue := queue, pump := .sending f, blocked := blocked } := by
    intro f queue blocked hq
    refine ⟨?_, .inl hlost, ?_⟩
    · rw [← h.inOrder, hlost, held, hpump, hq]
      rfl
    · have hfits := h.fits
      rw [hq, List.length_cons] at hfits
      exact Nat.le_of_succ_le hfits
  rw [FrameChannel.read]
  split
  · exact h
  · next f queue hq hb => exact (htake f queue st.blocked hq).congr rfl rfl rfl rfl rfl
  · next f queue b blocked hq hb =>
    refine (htake f queue blocked hq).accept ?_
    have hfits := h.fits
    rw [hq, List.length_cons] at hfits
    exact hfits

lemma Ordered.sendEnds (h : Ordered st) (ok went : Bool) : Ordered (st.sendEnds ok went) := by
  rw [FrameChannel.sendEnds]
  split
  · next f hpump =>
    have hlost : st.lost = [] := by
      obtain hl | ⟨-, hs⟩ := h.stops
      · exact hl
      · rw [hpump] at hs
        cases hs
    have hin : st.sent ++ [f] ++ st.queue = st.accepted := by
      rw [← h.inOrder, hlost, held, hpump, List.append_assoc]
      rfl
    split_ifs
    · exact ⟨by rw [← hin, hlost]; rfl, .inl hlost, h.fits⟩
    · exact ⟨by rw [← hin, hlost]; rfl, .inl hlost, h.fits⟩
    · refine ⟨?_, .inr ⟨by rw [hlost]; rfl, rfl⟩, h.fits⟩
      rw [← hin, hlost, List.append_assoc]
      rfl
  · exact h

lemma Ordered.exec (h : Ordered st) {l : FrameStep α} (hcan : can callers l st = true) :
    Ordered (exec l st) := by
  cases l with
  | trySend text =>
      apply Ordered.tryWrite <;> exact h.congr rfl rfl rfl rfl rfl
  | checkBacklog text =>
      rw [FrameChannel.exec, call]
      split_ifs
      · exact h.congr rfl rfl rfl rfl rfl
      · exact h.congr rfl rfl rfl rfl rfl
  | trySendLow i =>
      rw [FrameChannel.exec]
      split
      · exact h
      · apply Ordered.tryWrite <;> exact h.congr rfl rfl rfl rfl rfl
  | trySendCritical text =>
      rw [FrameChannel.exec, call]
      apply Ordered.tryWrite <;> exact h.congr rfl rfl rfl rfl rfl
  | writeAsync i cancelled =>
      rw [FrameChannel.exec]
      split
      · exact h
      · split_ifs
        · exact h.congr rfl rfl rfl rfl rfl
        · apply Ordered.tryWrite <;> exact h.congr rfl rfl rfl rfl rfl
  | timeout i =>
      rw [FrameChannel.exec]
      split
      · exact h
      · exact h.congr rfl rfl rfl rfl rfl
  | read =>
      rw [can] at hcan
      split at hcan
      · next hpump => exact h.read hpump
      · cases hcan
  | sendEnds ok went => exact h.sendEnds ok went
  | pumpStops =>
      rw [can] at hcan
      split at hcan
      · next hpump =>
        refine ⟨?_, ?_, h.fits⟩
        · calc (FrameChannel.exec .pumpStops st).sent ++ (st.lost ++ ([] ++ st.queue))
            _ = st.sent ++ (st.lost ++ (st.held ++ st.queue)) := by rw [held, hpump]; rfl
            _ = st.accepted := h.inOrder
        · obtain hl | ⟨hl, -⟩ := h.stops
          · exact .inl hl
          · exact .inr ⟨hl, rfl⟩
      · cases hcan
  | complete => exact h.congr rfl rfl rfl rfl rfl

/-! ### The backlog -/

/-- The log lines in the channel and the frames of the runs. -/
def lowQueued (st : FrameChannel α) : ℕ := st.queue.countP QueuedFrame.low

def dataQueued (st : FrameChannel α) : ℕ := st.queue.countP fun f => !f.low

/-- The log lines that are in the channel or may still get there are bounded. -/
structure Reserved (callers : ℕ) (st : FrameChannel α) : Prop where
  bound : st.lowQueued + st.checked.length < lowPriorityHighWater + callers
  few : st.checked.length ≤ callers
  checkedLow : ∀ f ∈ st.checked, f.low = true
  missedData : ∀ f ∈ st.missed, f.low = false
  blockedData : ∀ f ∈ st.blocked, f.low = false

lemma lowQueued_accept : (st.accept f).lowQueued = st.lowQueued + f.low.toNat := by
  rw [lowQueued, accept, List.countP_append, List.countP_singleton]
  cases f.low <;> rfl

lemma Reserved.accept (h : Reserved callers st) (hf : f.low = false) :
    Reserved callers (st.accept f) := by
  refine ⟨?_, h.few, h.checkedLow, h.missedData, h.blockedData⟩
  rw [lowQueued_accept, hf]
  exact h.bound

lemma Reserved.refuse (h : Reserved callers st) : Reserved callers (st.refuse f) :=
  ⟨h.bound, h.few, h.checkedLow, h.missedData, h.blockedData⟩

lemma Reserved.tryWrite {fail : FrameChannel α → FrameChannel α} (h : Reserved callers st)
    (hf : f.low = false) (hfail : Reserved callers (fail st)) :
    Reserved callers (st.tryWrite f fail) := by
  rw [FrameChannel.tryWrite]
  split_ifs
  · exact h.accept hf
  · exact hfail

lemma Reserved.checkBacklog (h : Reserved callers st) (hroom : st.checked.length < callers)
    (hf : f.low = true) (hlow : st.queue.length < lowPriorityHighWater) :
    Reserved callers { st with checked := st.checked ++ [f] } := by
  have hqueue : st.lowQueued ≤ st.queue.length := List.countP_le_length
  refine ⟨?_, ?_, ?_, h.missedData, h.blockedData⟩
  · rw [List.length_append, List.length_singleton]
    show st.lowQueued + _ < _
    omega
  · rw [List.length_append, List.length_singleton]
    exact hroom
  · intro g hg
    rw [List.mem_append, List.mem_singleton] at hg
    obtain hg | rfl := hg
    · exact h.checkedLow g hg
    · exact hf

lemma Reserved.trySendLow (h : Reserved callers st) {i : ℕ} (hf : st.checked[i]? = some f) :
    Reserved callers
      ({ st with checked := st.checked.eraseIdx i }.tryWrite f (FrameChannel.refuse f)) := by
  have hi : i < st.checked.length := (List.getElem?_eq_some_iff.mp hf).1
  have hlen : (st.checked.eraseIdx i).length + 1 = st.checked.length := by
    rw [List.length_eraseIdx_of_lt hi]
    omega
  have hbound := h.bound
  have hfew := h.few
  have hkeep : ∀ n, n ≤ st.lowQueued + 1 →
      n + (st.checked.eraseIdx i).length < lowPriorityHighWater + callers := by
    intro n hn
    omega
  have hlow : ∀ g ∈ st.checked.eraseIdx i, g.low = true := fun g hg =>
    h.checkedLow g (List.mem_of_mem_eraseIdx hg)
  rw [FrameChannel.tryWrite]
  split_ifs
  · refine ⟨hkeep _ ?_, by simp only [FrameChannel.accept]; omega, hlow, h.missedData,
      h.blockedData⟩
    rw [lowQueued_accept]
    exact Nat.add_le_add_left (Bool.toNat_le _) _
  · exact ⟨hkeep _ (Nat.le_succ _), by simp only [FrameChannel.refuse]; omega, hlow,
      h.missedData, h.blockedData⟩

lemma Reserved.read (h : Reserved callers st) : Reserved callers st.read := by
  rw [FrameChannel.read]
  have htake : ∀ f queue blocked, st.queue = f :: queue → (∀ b ∈ blocked, b.low = false) →
      Reserved callers { st with queue := queue, pump := .sending f, blocked := blocked } := by
    intro f queue blocked hq hb
    refine ⟨lt_of_le_of_lt ?_ h.bound, h.few, h.checkedLow, h.missedData, hb⟩
    rw [lowQueued, lowQueued, hq]
    exact Nat.add_le_add_right (List.sublist_cons_self f queue).countP_le _
  split
  · exact h
  · next f queue hq hb => exact htake f queue st.blocked hq h.blockedData
  · next f queue b blocked hq hb =>
    have hdata := h.blockedData
    rw [hb, List.forall_mem_cons] at hdata
    exact (htake f queue blocked hq hdata.2).accept hdata.1

lemma Reserved.sendEnds (h : Reserved callers st) (ok went : Bool) :
    Reserved callers (st.sendEnds ok went) := by
  have hkeep : ∀ pump sent lost,
      Reserved callers { st with pump := pump, sent := sent, lost := lost } := fun _ _ _ =>
    ⟨h.bound, h.few, h.checkedLow, h.missedData, h.blockedData⟩
  rw [FrameChannel.sendEnds]
  split
  · split_ifs
    · exact hkeep _ _ _
    · exact hkeep _ _ _
    · exact hkeep _ _ _
  · exact h

lemma Reserved.missed (h : Reserved callers st) {missed : List (QueuedFrame α)}
    (hm : ∀ g ∈ missed, g.low = false) : Reserved callers { st with missed := missed } :=
  ⟨h.bound, h.few, h.checkedLow, hm, h.blockedData⟩

lemma Reserved.blocked (h : Reserved callers st) {blocked : List (QueuedFrame α)}
    (hb : ∀ g ∈ blocked, g.low = false) : Reserved callers { st with blocked := blocked } :=
  ⟨h.bound, h.few, h.checkedLow, h.missedData, hb⟩

lemma data_append {l : List (QueuedFrame α)} (hl : ∀ g ∈ l, g.low = false)
    (hf : f.low = false) : ∀ g ∈ l ++ [f], g.low = false := by
  intro g hg
  rw [List.mem_append, List.mem_singleton] at hg
  obtain hg | rfl := hg
  · exact hl g hg
  · exact hf

lemma Reserved.exec (h : Reserved callers st) {l : FrameStep α} (hcan : can callers l st = true) :
    Reserved callers (exec l st) := by
  have hcall : Reserved callers { st with nextCall := st.nextCall + 1 } :=
    ⟨h.bound, h.few, h.checkedLow, h.missedData, h.blockedData⟩
  cases l with
  | trySend text => exact hcall.tryWrite rfl hcall.refuse
  | checkBacklog text =>
      rw [can, decide_eq_true_eq] at hcan
      rw [FrameChannel.exec, call]
      split_ifs with hlow
      · exact hcall.refuse
      · exact hcall.checkBacklog hcan rfl (Nat.lt_of_not_le hlow)
  | trySendLow i =>
      rw [FrameChannel.exec]
      split
      · exact h
      · next f hf => exact h.trySendLow hf
  | trySendCritical text =>
      rw [FrameChannel.exec, call]
      apply hcall.tryWrite rfl
      exact hcall.missed (data_append h.missedData rfl)
  | writeAsync i cancelled =>
      rw [FrameChannel.exec]
      split
      · exact h
      · next f hf =>
        have hdata : f.low = false := h.missedData f (List.mem_of_getElem? hf)
        have herase : Reserved callers { st with missed := st.missed.eraseIdx i } :=
          h.missed fun g hg => h.missedData g (List.mem_of_mem_eraseIdx hg)
        split_ifs
        · exact herase.refuse
        · exact herase.tryWrite hdata (herase.blocked (data_append h.blockedData hdata))
  | timeout i =>
      rw [FrameChannel.exec]
      split
      · exact h
      · exact (h.blocked fun g hg => h.blockedData g (List.mem_of_mem_eraseIdx hg)).refuse
  | read => exact h.read
  | sendEnds ok went => exact h.sendEnds ok went
  | pumpStops => exact ⟨h.bound, h.few, h.checkedLow, h.missedData, h.blockedData⟩
  | complete => exact ⟨h.bound, h.few, h.checkedLow, h.missedData, by simp [FrameChannel.exec]⟩

lemma Reserved.start : Reserved callers (start : FrameChannel α) where
  bound := Nat.lt_add_right _ (Nat.zero_lt_succ _)
  few := Nat.zero_le _
  checkedLow := by simp [FrameChannel.start]
  missedData := by simp [FrameChannel.start]
  blockedData := by simp [FrameChannel.start]

lemma Reserved.run (steps : List (FrameStep α)) :
    Reserved callers ((frameChannel α callers).run .start steps) :=
  Machine.run_inv_all (I := Reserved callers) (fun _ _ hcan h => h.exec hcan) .start steps

/-! ### The results -/

/-- **Frames go out once, in the order in which they were accepted.**  In every state of every
run each call has one outcome or is under way; the accepted frames, in order, are those that
went out, at most one that was lost with the connection, the frame that is being sent, and the
channel. -/
theorem frames_in_order (callers : ℕ) (steps : List (FrameStep α)) :
    let st := (frameChannel α callers).run start steps
    st.frames.map QueuedFrame.call = Multiset.range st.nextCall ∧
      st.sent ++ (st.lost ++ (st.held ++ st.queue)) = st.accepted ∧
      (st.lost = [] ∨ st.lost.length = 1 ∧ st.pump = .stopped) ∧
      st.queue.length ≤ capacity := by
  intro st
  have hstart : Numbered (start : FrameChannel α) := rfl
  have hcalls : Numbered st :=
    Machine.run_inv_all (I := Numbered) (fun l _ _ h => h.exec l) hstart steps
  have hordered : Ordered st := Machine.run_inv_all (I := Ordered)
    (fun _ _ hcan h => h.exec hcan) ⟨rfl, .inl rfl, Nat.zero_le _⟩ steps
  exact ⟨hcalls, hordered.inOrder, hordered.stops, hordered.fits⟩

lemma length_queue (st : FrameChannel α) : st.queue.length = st.lowQueued + st.dataQueued := by
  rw [lowQueued, dataQueued, List.length_eq_countP_add_countP QueuedFrame.low]
  simp

/-- **Log lines leave room for the frames of the runs.**  In every state of every run: while the
channel is open and holds at most `4096 - 2048 - callers` frames of runs, the next one is
accepted, whatever the number of log lines. -/
theorem data_keeps_room (callers : ℕ) (steps : List (FrameStep α)) (text : α)
    (hopen : ((frameChannel α callers).run start steps).completed = false)
    (hfew : ((frameChannel α callers).run start steps).dataQueued + lowPriorityHighWater + callers ≤
      capacity) :
    ((frameChannel α callers).run start (steps ++ [.trySend text])).accepted =
      ((frameChannel α callers).run start steps).accepted ++
        [⟨((frameChannel α callers).run start steps).nextCall, false, text⟩] := by
  rw [Machine.run_append]
  generalize hst : (frameChannel α callers).run start steps = st at hopen hfew ⊢
  have h : Reserved callers st := hst ▸ .run steps
  have hroom : st.queue.length < capacity := by
    have hbound := h.bound
    rw [length_queue]
    omega
  have hwrite : st.hasRoom = true := by
    rw [hasRoom, hopen, decide_eq_true hroom]
    rfl
  show ((st.call false text fun f st => st.tryWrite f (refuse f)) : FrameChannel α).accepted = _
  rw [call, tryWrite, if_pos]
  · rfl
  · exact hwrite

/-- A log line and the end of a run. -/
def lineAndEnd : List (FrameStep String) :=
  [.checkBacklog "stderr", .trySendLow 0, .trySendCritical "run_finished"]

theorem data_keeps_room_of_a_line :
    ((frameChannel String 1).run start (lineAndEnd ++ [.trySend "heartbeat"])).accepted =
      ((frameChannel String 1).run start lineAndEnd).accepted ++
        [⟨((frameChannel String 1).run start lineAndEnd).nextCall, false, "heartbeat"⟩] :=
  data_keeps_room 1 lineAndEnd "heartbeat" rfl (by decide)

end FrameChannel

end Networker
