/-
The UDP bulk throughput server of the service (`Networker.Endpoint/UdpThroughputService.cs`),
which is a port of the server in `networker-endpoint`.

* `toInt`, `toUInt`: the conversions between 32-bit integers;
* `sendDownloadAsync`: the datagrams sent for a download, up to an exception;
* `Service`, `Service.receive`: the state per client address, and one datagram;
* `ServiceReply.datagrams`, `Service.outputs`: what the service sends to whom.
-/
import Networker.Endpoint.UdpThroughput

namespace Networker

open Data Concurrency

namespace UdpThroughput

/-! ### Integers -/

/-- The cast to `int`. -/
def toInt (n : ℤ) : ℤ := n.bmod (2 ^ 32)

/-- The cast to `long`. -/
def toLong (n : ℤ) : ℤ := n.bmod (2 ^ 64)

/-- The cast to `uint`. -/
def toUInt (n : ℤ) : ℕ := (n % 2 ^ 32).toNat

/-! ### The download -/

/-- The loop of `SendDownloadAsync` with `n` rounds left, from sequence number `seq` on.  A
payload of a negative size raises, and nothing more is sent. -/
def sendAsync (totalBytes : ℤ) (totalSeqs : ℕ) : ℕ → ℕ → ℤ → List Packet
  | 0, _, _ => [makeCtrl cmdDone (toUInt totalBytes)]
  | n + 1, seq, sentBytes =>
      let payloadSize := min (toInt (totalBytes - sentBytes)) (chunkSize : ℤ)
      if payloadSize < 0 then []
      else dataPacket totalSeqs seq payloadSize.toNat ::
        sendAsync totalBytes totalSeqs n (seq + 1) (toInt (sentBytes + payloadSize))

/-- `totalSeqs` in `SendDownloadAsync`. -/
def totalSeqsAsync (totalBytes : ℤ) : ℕ :=
  toUInt ((toInt (toInt (totalBytes + chunkSize) - 1)).tdiv chunkSize)

/-- `SendDownloadAsync`. -/
def sendDownloadAsync (totalBytes : ℤ) : List Packet :=
  if totalBytes = 0 then [makeCtrl cmdDone 0]
  else sendAsync totalBytes (totalSeqsAsync totalBytes) (totalSeqsAsync totalBytes) 0 0

/-! ### The service -/

/-- `UploadState`. -/
structure ServiceUpload where
  expectedBytes : ℤ
  receivedSeqs : Finset ℕ
  receivedBytes : ℤ
  createdAt : ℤ

/-- Count a sequence number once. -/
def ServiceUpload.count (st : ServiceUpload) (seq dataLen : ℕ) : ServiceUpload :=
  if seq ∈ st.receivedSeqs then st
  else { st with receivedSeqs := insert seq st.receivedSeqs
                 receivedBytes := toLong (st.receivedBytes + dataLen) }

/-- The upload states by source address, and how many datagrams have arrived. -/
structure Service where
  uploadStates : Addr → Option ServiceUpload
  pktCounter : ℕ

/-- What the service does for a datagram. -/
inductive ServiceReply
  | send (dst : Addr) (pkt : Packet)
  /-- The task that sends the data of a download. -/
  | runDownload (dst : Addr) (totalBytes : ℤ)
  deriving DecidableEq

namespace Service

/-- The service before the first datagram. -/
def fresh : Service := ⟨fun _ => none, 0⟩

/-- Replace the state of one address. -/
def put (s : Service) (src : Addr) (st : Option ServiceUpload) : Service :=
  { s with uploadStates := Function.update s.uploadStates src st }

/-- A control packet. -/
def control (now : ℤ) (d : Datagram) (s : Service) : Service × List ServiceReply :=
  let value := toInt (valueOf d.pkt)
  if cmdOf d.pkt = some cmdDownload then
    (s, [.send d.src (makeCtrl cmdAck 0), .runDownload d.src value])
  else if cmdOf d.pkt = some cmdUpload then
    (s.put d.src (some ⟨value, ∅, 0, now⟩), [.send d.src (makeCtrl cmdAck 0)])
  else if cmdOf d.pkt = some cmdDone then
    match s.uploadStates d.src with
    | some st => (s.put d.src none, [.send d.src (makeCtrl cmdReport (toUInt st.receivedBytes))])
    | none => (s, [])
  else (s, [])

/-- A data packet. -/
def data (d : Datagram) (s : Service) : Service :=
  match s.uploadStates d.src with
  | some st => s.put d.src (some (st.count (seqOf d.pkt) (d.pkt.length - dataHdrLen)))
  | none => s

/-- What a datagram does before it is counted. -/
def dispatch (now : ℤ) (d : Datagram) (s : Service) : Service × List ServiceReply :=
  if isCtrl d.pkt then control now d s
  else if dataHdrLen < d.pkt.length then (data d s, [])
  else (s, [])

/-- Remove the stale states. -/
def removeStale (now : ℤ) (states : Addr → Option ServiceUpload) : Addr → Option ServiceUpload :=
  fun addr => (states addr).filter fun st => !decide (uploadStateTtl ≤ now - st.createdAt)

/-- Count a datagram, and sweep after every hundredth. -/
def tick (now : ℤ) (s : Service) : Service :=
  if (s.pktCounter + 1) % 100 = 0 then
    ⟨removeStale now s.uploadStates, s.pktCounter + 1⟩
  else ⟨s.uploadStates, s.pktCounter + 1⟩

/-- One datagram. -/
def receive (now : ℤ) (d : Datagram) (s : Service) : Service × List ServiceReply :=
  let (s, replies) := dispatch now d s
  (tick now s, replies)

end Service

/-! ### What is sent -/

/-- What a reply of the service, or the task it starts, sends to whom. -/
def ServiceReply.datagrams : ServiceReply → List (Addr × Packet)
  | .send dst pkt => [(dst, pkt)]
  | .runDownload dst totalBytes => (sendDownloadAsync totalBytes).map fun pkt => (dst, pkt)

/-- What the service sends for every datagram of a run, reply by reply. -/
def Service.outputs (s : Service) : List (Arrival Datagram) → List (List (List (Addr × Packet)))
  | [] => []
  | a :: as =>
      (s.receive a.time a.item).2.map ServiceReply.datagrams ::
        Service.outputs (s.receive a.time a.item).1 as

/-- No state of the service is as old as the upload TTL when a datagram has been handled. -/
def Service.Young (s : Service) : List (Arrival Datagram) → Prop
  | [] => True
  | a :: as =>
      (∀ addr, ∀ st ∈ (s.dispatch a.time a.item).1.uploadStates addr,
        a.time - st.createdAt < uploadStateTtl) ∧
      Service.Young (s.receive a.time a.item).1 as

end UdpThroughput

end Networker
