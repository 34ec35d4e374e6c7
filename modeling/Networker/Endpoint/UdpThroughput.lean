/-
The UDP bulk throughput server (`networker-endpoint/src/udp_throughput.rs`).

* `magic`, `makeCtrl`, `dataPacket`: the wire format, which the client shares;
* `sendDownload`, `serveDownload`: the datagrams sent for a download;
* `UploadState`, `Server`: the state per client address, and the packet counter;
* `Server.receive`, `Server.run`: one datagram, and all of them in the order they arrive;
  an error of the socket leaves the state alone and is left out;
* `reapStaleUploads`: the sweep after every hundredth datagram;
* `Server.outputs`: what the server sends in a run.
-/
import Networker.Data.Bytes
import Networker.Concurrency.Inbox

namespace Networker

open Data Concurrency

namespace UdpThroughput

/-! ### The wire format -/

/-- `b"NWKT"`. -/
def magic : Packet := [78, 87, 75, 84]

def cmdDownload : UInt8 := 0x01
def cmdUpload : UInt8 := 0x02
def cmdDone : UInt8 := 0x04
def cmdAck : UInt8 := 0x10
def cmdReport : UInt8 := 0x11

def ctrlLen : ℕ := 12
def dataHdrLen : ℕ := 8
def chunkSize : ℕ := 1400

/-- `make_ctrl`. -/
def makeCtrl (cmd : UInt8) (value : ℕ) : Packet := magic ++ [cmd, 0, 0, 0] ++ le 4 value

/-- A packet of the length of a control packet that starts with the magic. -/
def isCtrl (pkt : Packet) : Bool := pkt.length == ctrlLen && slice 0 4 pkt == magic

/-- The command byte. -/
def cmdOf (pkt : Packet) : Option UInt8 := pkt[4]?

/-- The value of a control packet. -/
def valueOf (pkt : Packet) : ℕ := ofLe (slice 8 4 pkt)

/-- The sequence number of a data packet. -/
def seqOf (pkt : Packet) : ℕ := ofLe (slice 0 4 pkt)

/-- How many datagrams `bytes` need, as an unsigned number of 32 bits. -/
def totalSeqs (bytes : ℕ) : ℕ := (bytes + (chunkSize - 1)) / chunkSize % 2 ^ 32

/-- A data packet with a payload of `size` zeros. -/
def dataPacket (totalSeqs seq size : ℕ) : Packet :=
  le 4 seq ++ le 4 totalSeqs ++ List.replicate size 0

/-- The loop that sends the next `n` datagrams from `seq` on, with `sentBytes` sent. -/
def sendChunks (bytes seq sentBytes : ℕ) : ℕ → List Packet
  | 0 => []
  | n + 1 =>
      let payloadSize := min (bytes - sentBytes) chunkSize
      dataPacket (totalSeqs bytes) seq payloadSize ::
        sendChunks bytes (seq + 1) (sentBytes + payloadSize) n

/-- The data datagrams of a transfer, in the order they are sent. -/
def dataPackets (bytes : ℕ) : List Packet := sendChunks bytes 0 0 (totalSeqs bytes)

/-- `send_download`. -/
def sendDownload (totalBytes : ℕ) : List Packet :=
  if totalBytes = 0 then [makeCtrl cmdDone 0]
  else dataPackets totalBytes ++ [makeCtrl cmdDone totalBytes]

/-- What the server sends for one `CMD_DOWNLOAD`. -/
def serveDownload (value : ℕ) : List Packet := makeCtrl cmdAck 0 :: sendDownload value

/-! ### What the packets look like -/

/-- The payload of datagram `seq`: a full chunk, or what is left. -/
def chunkOf (bytes seq : ℕ) : ℕ := min (bytes - seq * chunkSize) chunkSize

/-- Datagram `seq` of a transfer. -/
def datagram (bytes seq : ℕ) : Packet := dataPacket (totalSeqs bytes) seq (chunkOf bytes seq)

lemma sendChunks_eq (bytes : ℕ) (n : ℕ) : ∀ seq, sendChunks bytes seq (min bytes (seq * chunkSize)) n =
    (List.range' seq n).map (datagram bytes) := by
  induction n with
  | zero => exact fun _ => rfl
  | succ n ih =>
      intro seq
      have hsize : min (bytes - min bytes (seq * chunkSize)) chunkSize = chunkOf bytes seq := by
        rw [chunkOf]
        omega
      have hsent : min bytes (seq * chunkSize) + chunkOf bytes seq =
          min bytes ((seq + 1) * chunkSize) := by
        rw [chunkOf, Nat.add_mul, Nat.one_mul]
        omega
      rw [sendChunks, List.range'_succ, List.map_cons, hsize, hsent, ih]
      rfl

lemma dataPackets_eq (bytes : ℕ) :
    dataPackets bytes = (List.range (totalSeqs bytes)).map (datagram bytes) := by
  rw [dataPackets, List.range_eq_range', ← sendChunks_eq, Nat.zero_mul, Nat.min_zero]

/-- A datagram of a transfer carries at least one byte. -/
lemma chunkOf_pos {bytes seq : ℕ} (h : seq < totalSeqs bytes) : 0 < chunkOf bytes seq := by
  have hlt : seq * chunkSize < bytes := by
    have h := lt_of_lt_of_le h (Nat.mod_le _ _)
    rw [Nat.lt_div_iff_mul_lt (by decide)] at h
    rw [chunkSize] at *
    omega
  rw [chunkOf, chunkSize] at *
  omega

/-- The first `n` chunks of a transfer are a prefix of its payload. -/
lemma sum_chunkOf_range (bytes n : ℕ) :
    ∑ seq ∈ Finset.range n, chunkOf bytes seq = min bytes (n * chunkSize) := by
  induction n with
  | zero => simp
  | succ n ih =>
      rw [Finset.sum_range_succ, ih, chunkOf, Nat.add_mul, Nat.one_mul]
      omega

/-- All chunks of a transfer that fits into 32 bits are its payload. -/
lemma sum_chunkOf {bytes : ℕ} (hfits : bytes < 2 ^ 32) :
    ∑ seq ∈ Finset.range (totalSeqs bytes), chunkOf bytes seq = bytes := by
  rw [sum_chunkOf_range, totalSeqs, chunkSize]
  omega

/-- Sequence numbers of transfers that fit into 32 bits stay far below the magic. -/
lemma seq_lt {bytes seq : ℕ} (hfits : bytes < 2 ^ 32) (h : seq < totalSeqs bytes) :
    seq < 3067834 := by
  rw [totalSeqs, chunkSize] at h
  omega

@[simp] lemma length_datagram (bytes seq : ℕ) :
    (datagram bytes seq).length = dataHdrLen + chunkOf bytes seq := by
  simp only [datagram, dataPacket, dataHdrLen, List.length_append, length_le, List.length_replicate]

lemma slice_datagram (bytes seq : ℕ) : slice 0 4 (datagram bytes seq) = le 4 seq := by
  rw [datagram, dataPacket, List.append_assoc, slice_zero (length_le 4 seq)]

lemma seqOf_datagram {bytes seq : ℕ} (hfits : bytes < 2 ^ 32) (h : seq < totalSeqs bytes) :
    seqOf (datagram bytes seq) = seq := by
  have hlt := seq_lt hfits h
  rw [seqOf, slice_datagram, ofLe_le_of_lt (by omega)]

/-- A data datagram is not taken for a control packet. -/
lemma not_isCtrl_datagram {bytes seq : ℕ} (hfits : bytes < 2 ^ 32) (h : seq < totalSeqs bytes) :
    isCtrl (datagram bytes seq) = false := by
  have hlt := seq_lt hfits h
  have hne : slice 0 4 (datagram bytes seq) ≠ magic := by
    rw [slice_datagram]
    intro heq
    have hval : ofLe (le 4 seq) = 1414223694 := by
      rw [heq]
      rfl
    rw [ofLe_le_of_lt (by omega)] at hval
    omega
  rw [isCtrl, Bool.and_eq_false_iff]
  exact Or.inr (beq_eq_false_iff_ne.mpr hne)

/-- Different datagrams of a transfer are different packets. -/
lemma datagram_injective {bytes i j : ℕ} (hfits : bytes < 2 ^ 32) (hi : i < totalSeqs bytes)
    (hj : j < totalSeqs bytes) (h : datagram bytes i = datagram bytes j) : i = j := by
  rw [← seqOf_datagram hfits hi, h, seqOf_datagram hfits hj]

@[simp] lemma isCtrl_makeCtrl (cmd : UInt8) (value : ℕ) : isCtrl (makeCtrl cmd value) = true := by
  rw [isCtrl, Bool.and_eq_true, beq_iff_eq, beq_iff_eq]
  exact ⟨by simp [makeCtrl, magic, ctrlLen], rfl⟩

@[simp] lemma cmdOf_makeCtrl (cmd : UInt8) (value : ℕ) : cmdOf (makeCtrl cmd value) = some cmd := rfl

/-- Control packets carry the lower 32 bits of a value. -/
lemma makeCtrl_congr {m n : ℕ} (cmd : UInt8) (h : m % 2 ^ 32 = n % 2 ^ 32) :
    makeCtrl cmd m = makeCtrl cmd n := by
  have hle : le 4 m = le 4 n := by
    rw [← le_mod 4 m, ← le_mod 4 n]
    exact congrArg (le 4) h
  rw [makeCtrl, makeCtrl, hle]

/-- What is read from a control packet are the lower 32 bits. -/
lemma valueOf_makeCtrl_mod (cmd : UInt8) (value : ℕ) :
    valueOf (makeCtrl cmd value) = value % 2 ^ 32 := by
  have hslice : slice 8 4 (makeCtrl cmd value) = le 4 value := by
    rw [makeCtrl, slice_append (by simp [magic])]
    exact List.take_of_length_le (by simp)
  rw [valueOf, hslice]
  exact ofLe_le 4 value

lemma valueOf_makeCtrl {cmd : UInt8} {value : ℕ} (h : value < 2 ^ 32) :
    valueOf (makeCtrl cmd value) = value := by
  rw [valueOf_makeCtrl_mod, Nat.mod_eq_of_lt h]

lemma valueOf_lt (pkt : Packet) : valueOf pkt < 2 ^ 32 := by
  have hlen : (slice 8 4 pkt).length ≤ 4 := List.length_take_le _ _
  calc valueOf pkt < 256 ^ (slice 8 4 pkt).length := ofLe_lt _
    _ ≤ 256 ^ 4 := Nat.pow_le_pow_right (by decide) hlen

/-- What the server sends for a download. -/
lemma mem_serveDownload {bytes : ℕ} {pkt : Packet} (h : pkt ∈ serveDownload bytes) :
    pkt = makeCtrl cmdAck 0 ∨ pkt = makeCtrl cmdDone bytes ∨
      ∃ seq < totalSeqs bytes, pkt = datagram bytes seq := by
  rw [serveDownload, sendDownload] at h
  rcases List.mem_cons.mp h with h | h
  · exact Or.inl h
  · split_ifs at h with hzero
    · rw [hzero]
      exact Or.inr (Or.inl (List.mem_singleton.mp h))
    · rcases List.mem_append.mp h with h | h
      · rw [dataPackets_eq] at h
        obtain ⟨seq, hseq, rfl⟩ := List.mem_map.mp h
        exact Or.inr (Or.inr ⟨seq, List.mem_range.mp hseq, rfl⟩)
      · exact Or.inr (Or.inl (List.mem_singleton.mp h))

/-! ### The server -/

/-- A source address. -/
abbrev Addr : Type := ℕ

/-- The state of an upload, from its `CMD_UPLOAD` on. -/
structure UploadState where
  expectedBytes : ℕ
  receivedSeqs : Finset ℕ
  receivedBytes : ℕ
  createdAt : ℤ

/-- Count a sequence number once. -/
def UploadState.count (st : UploadState) (seq len : ℕ) : UploadState :=
  if seq ∈ st.receivedSeqs then st
  else { st with receivedSeqs := insert seq st.receivedSeqs
                 receivedBytes := st.receivedBytes + len }

/-- The upload states by source address, and how many datagrams have arrived. -/
structure Server where
  uploadStates : Addr → Option UploadState
  pktCounter : ℕ

/-- What the server does for a datagram. -/
inductive Reply
  | send (dst : Addr) (pkt : Packet)
  /-- The task that sends the data of a download. -/
  | spawnDownload (dst : Addr) (value : ℕ)
  deriving DecidableEq

/-- What a reply, or the task it starts, sends to whom. -/
def Reply.datagrams : Reply → List (Addr × Packet)
  | .send dst pkt => [(dst, pkt)]
  | .spawnDownload dst value => (sendDownload value).map fun pkt => (dst, pkt)

/-- A datagram with its source. -/
structure Datagram where
  src : Addr
  pkt : Packet
  deriving DecidableEq

/-- `UPLOAD_STATE_TTL`. -/
def uploadStateTtl : ℤ := millis 60000

/-- `reap_stale_uploads`. -/
def reapStaleUploads (now : ℤ) (states : Addr → Option UploadState) : Addr → Option UploadState :=
  fun addr => (states addr).filter fun st => now - st.createdAt < uploadStateTtl

namespace Server

/-- The server before the first datagram. -/
def fresh : Server := ⟨fun _ => none, 0⟩

/-- Replace the state of one address. -/
def put (s : Server) (src : Addr) (st : Option UploadState) : Server :=
  { s with uploadStates := Function.update s.uploadStates src st }

/-- A new upload state. -/
def begun (now : ℤ) (value : ℕ) : UploadState := ⟨value, ∅, 0, now⟩

/-- A control packet. -/
def control (now : ℤ) (d : Datagram) (s : Server) : Server × List Reply :=
  let value := valueOf d.pkt
  if cmdOf d.pkt = some cmdDownload then
    (s, [.send d.src (makeCtrl cmdAck 0), .spawnDownload d.src value])
  else if cmdOf d.pkt = some cmdUpload then
    (s.put d.src (some (begun now value)), [.send d.src (makeCtrl cmdAck 0)])
  else if cmdOf d.pkt = some cmdDone then
    match s.uploadStates d.src with
    | some st => (s.put d.src none, [.send d.src (makeCtrl cmdReport st.receivedBytes)])
    | none => (s, [])
  else (s, [])

/-- A data packet: each sequence number counts once. -/
def data (d : Datagram) (s : Server) : Server :=
  match s.uploadStates d.src with
  | some st => s.put d.src (some (st.count (seqOf d.pkt) (d.pkt.length - dataHdrLen)))
  | none => s

/-- What a datagram does before it is counted. -/
def dispatch (now : ℤ) (d : Datagram) (s : Server) : Server × List Reply :=
  if isCtrl d.pkt then control now d s
  else if dataHdrLen < d.pkt.length then (data d s, [])
  else (s, [])

/-- Count a datagram, and sweep after every hundredth. -/
def tick (now : ℤ) (s : Server) : Server :=
  if (s.pktCounter + 1) % 100 = 0 then
    ⟨reapStaleUploads now s.uploadStates, s.pktCounter + 1⟩
  else ⟨s.uploadStates, s.pktCounter + 1⟩

/-- One datagram. -/
def receive (now : ℤ) (d : Datagram) (s : Server) : Server × List Reply :=
  let (s, replies) := dispatch now d s
  (tick now s, replies)

/-- The state after all the datagrams. -/
def run (s : Server) (as : List (Arrival Datagram)) : Server :=
  as.foldl (fun s a => (receive a.time a.item s).1) s

/-- The replies to the datagram behind the given ones. -/
def repliesTo (s : Server) (as : List (Arrival Datagram)) (a : Arrival Datagram) : List Reply :=
  (receive a.time a.item (s.run as)).2

/-- What the server sends for every datagram of a run, reply by reply. -/
def outputs (s : Server) : List (Arrival Datagram) → List (List (List (Addr × Packet)))
  | [] => []
  | a :: as =>
      (s.receive a.time a.item).2.map Reply.datagrams :: outputs (s.receive a.time a.item).1 as

/-- No state is as old as the upload TTL when a datagram has been handled. -/
def Young (s : Server) : List (Arrival Datagram) → Prop
  | [] => True
  | a :: as =>
      (∀ addr, ∀ st ∈ (s.dispatch a.time a.item).1.uploadStates addr,
        a.time - st.createdAt < uploadStateTtl) ∧
      Young (s.receive a.time a.item).1 as

/-! ### What the server does for the datagrams of an upload -/

section Dispatch

variable {now : ℤ} {src : Addr} {s : Server} {st : UploadState}

lemma dispatch_upload (value : ℕ) :
    s.dispatch now ⟨src, makeCtrl cmdUpload value⟩ =
      (s.put src (some (begun now (valueOf (makeCtrl cmdUpload value)))),
        [.send src (makeCtrl cmdAck 0)]) := by
  simp [dispatch, control, cmdUpload, cmdDownload]

lemma dispatch_done (value : ℕ) (h : s.uploadStates src = some st) :
    s.dispatch now ⟨src, makeCtrl cmdDone value⟩ =
      (s.put src none, [.send src (makeCtrl cmdReport st.receivedBytes)]) := by
  simp [dispatch, control, cmdDone, cmdUpload, cmdDownload, h]

lemma dispatch_done_none (value : ℕ) (h : s.uploadStates src = none) :
    s.dispatch now ⟨src, makeCtrl cmdDone value⟩ = (s, []) := by
  simp [dispatch, control, cmdDone, cmdUpload, cmdDownload, h]

lemma dispatch_datagram {bytes seq : ℕ} (hfits : bytes < 2 ^ 32) (hseq : seq < totalSeqs bytes)
    (h : s.uploadStates src = some st) :
    s.dispatch now ⟨src, datagram bytes seq⟩ =
      (s.put src (some (st.count seq (chunkOf bytes seq))), []) := by
  have hlen : dataHdrLen < dataHdrLen + chunkOf bytes seq :=
    Nat.lt_add_of_pos_right (chunkOf_pos hseq)
  simp only [dispatch, not_isCtrl_datagram hfits hseq, Bool.false_eq_true, if_false,
    length_datagram, if_pos hlen, data, h, seqOf_datagram hfits hseq, Nat.add_sub_cancel_left]

lemma dispatch_datagram_none {bytes seq : ℕ} (hfits : bytes < 2 ^ 32) (hseq : seq < totalSeqs bytes)
    (h : s.uploadStates src = none) : s.dispatch now ⟨src, datagram bytes seq⟩ = (s, []) := by
  have hlen : dataHdrLen < dataHdrLen + chunkOf bytes seq :=
    Nat.lt_add_of_pos_right (chunkOf_pos hseq)
  simp only [dispatch, not_isCtrl_datagram hfits hseq, Bool.false_eq_true, if_false,
    length_datagram, if_pos hlen, data, h]

/-- What the server sends goes back to the source, as a control packet. -/
lemma mem_dispatch_send {d : Datagram} {dst : Addr} {pkt : Packet}
    (h : Reply.send dst pkt ∈ (s.dispatch now d).2) :
    dst = d.src ∧ ∃ cmd value, pkt = makeCtrl cmd value := by
  simp only [dispatch] at h
  split_ifs at h
  · simp only [control] at h
    split_ifs at h
    · simp only [List.mem_cons, Reply.send.injEq, List.not_mem_nil, or_false, reduceCtorEq] at h
      exact ⟨h.1, _, _, h.2⟩
    · simp only [List.mem_singleton, Reply.send.injEq] at h
      exact ⟨h.1, _, _, h.2⟩
    · split at h
      · simp only [List.mem_singleton, Reply.send.injEq] at h
        exact ⟨h.1, _, _, h.2⟩
      · exact absurd h List.not_mem_nil
    · exact absurd h List.not_mem_nil
  · exact absurd h List.not_mem_nil
  · exact absurd h List.not_mem_nil

@[simp] lemma uploadStates_put_self {o : Option UploadState} :
    (s.put src o).uploadStates src = o := Function.update_self _ _ _

/-- A datagram of another source leaves the state of an upload alone. -/
lemma uploadStates_dispatch_other {d : Datagram} (hd : d.src ≠ src) :
    (s.dispatch now d).1.uploadStates src = s.uploadStates src := by
  have hput : ∀ o, (s.put d.src o).uploadStates src = s.uploadStates src := fun o =>
    Function.update_of_ne (Ne.symm hd) _ _
  rw [dispatch]
  split_ifs
  · simp only [control]
    split_ifs
    · rfl
    · exact hput _
    · split
      · exact hput _
      · rfl
    · rfl
  · simp only [data]
    split
    · exact hput _
    · rfl
  · rfl

/-- A sweep may drop a state, and changes none. -/
lemma uploadStates_tick (h : (s.tick now).uploadStates src = some st) :
    s.uploadStates src = some st := by
  rw [tick] at h
  split_ifs at h
  · exact (Option.filter_eq_some_iff.mp h).1
  · exact h

end Dispatch

end Server

end UdpThroughput

end Networker
