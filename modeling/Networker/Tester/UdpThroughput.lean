/-
The UDP throughput probes (`networker-tester/src/runner/udp_throughput.rs`).

* `Incoming`: what a receive on the connected socket returns;
* `waitForAck`, `recvDownload`, `waitForReport`: the three receive loops;
* `runUdpdownloadProbe`, `runUdpuploadProbe`: the probes, as far as they can fail once the
  socket is connected;
* `lossPercent`, `mbps`: the reported figures, as exact fractions.
-/
import Networker.Endpoint.UdpThroughput

namespace Networker

open Data Concurrency

/-- What a receive returns: a datagram, or an error of the socket. -/
inductive Incoming
  | datagram (pkt : Packet)
  | error (e : String)
  deriving DecidableEq

/-- What arrives at a socket. -/
abbrev Inbox : Type := List (Arrival Incoming)

namespace UdpThroughput

/-- `DONE_DRAIN`. -/
def doneDrain : ℤ := millis 150

/-- The configuration of a probe, once its target is resolved. -/
structure UdpThroughputConfig where
  timeoutMs : ℕ

/-- The reported transfer. -/
structure UdpThroughputResult where
  payloadBytes : ℕ
  datagramsSent : ℕ
  datagramsReceived : Option ℕ
  bytesAcked : Option ℕ
  lossPercent : ℚ
  transferMs : ℚ
  throughputMbps : Option ℚ
  deriving DecidableEq

/-- `loss_percent`. -/
def lossPercent (sent received : ℕ) : ℚ :=
  if sent = 0 then 0 else ((sent - received : ℕ) : ℚ) / sent * 100

/-- `mbps`. -/
def mbps (payloadBytes : ℕ) (transferMs : ℚ) : Option ℚ :=
  if 0 < transferMs then some (payloadBytes / transferMs * 1000 / (1024 * 1024)) else none

/-- A span in milliseconds. -/
def toMs (span : ℤ) : ℚ := span / 1000000

/-! ### The wait for the acknowledgement -/

/-- What ended the wait for `CMD_ACK`. -/
inductive AckOutcome
  | ack
  | earlyData (seq dataLen : ℕ) (time : ℤ)
  | done
  deriving DecidableEq

/-- `timed_out_waiting_for_ack`. -/
def timedOutWaitingForAck (ignored : ℕ) : String :=
  if ignored = 0 then "Timed out waiting for CMD_ACK"
  else "Timed out waiting for CMD_ACK (" ++ toString ignored ++ " unrelated datagram(s) arrived)"

/-- A control packet with the command. -/
def isCmd (cmd : UInt8) (pkt : Packet) : Bool := isCtrl pkt && cmdOf pkt == some cmd

/-- `wait_for_ack`; the state is the number of ignored datagrams. -/
def waitForAck (start : ℤ) (timeoutMs : ℕ) : ReceiveLoop ℕ Incoming (Except String AckOutcome) where
  deadline _ := start + millis timeoutMs
  handle now i ignored :=
    match i with
    | .datagram pkt =>
        if isCmd cmdAck pkt then .inr (.ok .ack)
        else if isCmd cmdDone pkt then .inr (.ok .done)
        else if dataHdrLen < pkt.length then
          .inr (.ok (.earlyData (seqOf pkt) (pkt.length - dataHdrLen) now))
        else .inl (ignored + 1)
    | .error e => .inr (.error ("recv error: " ++ e))
  expire ignored := .error (timedOutWaitingForAck ignored)

/-! ### The download -/

/-- What the receive loop of a download keeps. -/
structure Download where
  receivedSeqs : Finset ℕ
  receivedBytes : ℕ
  tFirst : Option ℤ
  tLast : ℤ
  drainUntil : Option ℤ

namespace Download

/-- A data packet that overtook the acknowledgement is counted. -/
def entered (start : ℤ) : Option (ℕ × ℕ × ℤ) → Download
  | some (seq, dataLen, time) => ⟨{seq}, dataLen, some time, time, none⟩
  | none => ⟨∅, 0, none, start, none⟩

/-- Each sequence number is counted once. -/
def count (now : ℤ) (seq dataLen : ℕ) (s : Download) : Download :=
  { s with
    receivedSeqs := insert seq s.receivedSeqs
    receivedBytes := if seq ∈ s.receivedSeqs then s.receivedBytes else s.receivedBytes + dataLen
    tFirst := some (s.tFirst.getD now)
    tLast := now }

/-- `CMD_DONE`: the loop drains for a while. -/
def drain (now : ℤ) (s : Download) : Download :=
  { s with tLast := if s.tFirst.isNone then now else s.tLast, drainUntil := some (now + doneDrain) }

/-- From the first to the last data packet. -/
def transferMs (s : Download) : ℚ := s.tFirst.elim 0 fun t0 => toMs (s.tLast - t0)

end Download

/-- `recv_download`. -/
def recvDownload (start : ℤ) (timeoutMs : ℕ) : ReceiveLoop Download Incoming Download where
  deadline s := s.drainUntil.elim (start + millis timeoutMs) (min (start + millis timeoutMs))
  handle now i s :=
    match i with
    | .datagram pkt =>
        if isCmd cmdDone pkt then .inl (s.drain now)
        else if isCtrl pkt then .inl s
        else if dataHdrLen < pkt.length then
          .inl (s.count now (seqOf pkt) (pkt.length - dataHdrLen))
        else .inl s
    | .error _ => .inr s
  expire s := s

/-- What a download has received. -/
structure Received where
  receivedSeqs : Finset ℕ
  receivedBytes : ℕ
  transferMs : ℚ

/-- What the loop has received. -/
def Download.received (s : Download) : Received :=
  ⟨s.receivedSeqs, s.receivedBytes, s.transferMs⟩

/-- The transfer behind the acknowledgement. -/
def receiveAfter (timeoutMs : ℕ) (now : ℤ) (rest : Inbox) : AckOutcome → Received
  | .done => ⟨∅, 0, 0⟩
  | .ack => ((recvDownload now timeoutMs).run now (.entered now none) rest).result.received
  | .earlyData seq dataLen time =>
      ((recvDownload now timeoutMs).run now (.entered now (some (seq, dataLen, time)))
        rest).result.received

/-- The result of a download. -/
def Received.result (payloadBytes : ℕ) (r : Received) : UdpThroughputResult where
  payloadBytes := payloadBytes
  datagramsSent := totalSeqs payloadBytes
  datagramsReceived := some r.receivedSeqs.card
  bytesAcked := none
  lossPercent := UdpThroughput.lossPercent (totalSeqs payloadBytes) r.receivedSeqs.card
  transferMs := r.transferMs
  throughputMbps := mbps r.receivedBytes r.transferMs

/-- `run_udpdownload_probe`, from `start` on, when `CMD_DOWNLOAD` has been sent: what was
received and the result, or the error. -/
def runUdpdownloadProbe (payloadBytes : ℕ) (cfg : UdpThroughputConfig) (start : ℤ)
    (inbox : Inbox) : Except String (Received × UdpThroughputResult) :=
  let wait := (waitForAck start cfg.timeoutMs).run start 0 inbox
  match wait.result with
  | .error msg => .error msg
  | .ok outcome =>
      let received := receiveAfter cfg.timeoutMs wait.time wait.rest outcome
      .ok (received, received.result payloadBytes)

/-! ### The upload -/

/-- `wait_for_report`. -/
def waitForReport (start : ℤ) (timeoutMs : ℕ) : ReceiveLoop Unit Incoming (Option ℕ) where
  deadline _ := start + millis timeoutMs
  handle _ i _ :=
    match i with
    | .datagram pkt => if isCmd cmdReport pkt then .inr (some (valueOf pkt)) else .inl ()
    | .error _ => .inr none
  expire _ := none

/-- How the sends of an upload go. -/
structure Sending where
  /-- Sending the datagram fails. -/
  fails : ℕ → Bool
  /-- When `CMD_DONE` has been sent, for the moment the upload begins. -/
  doneAt : ℤ → ℤ

/-- How many datagrams are sent: the loop ends at the first failure. -/
def Sending.sent (s : Sending) (payloadBytes : ℕ) : ℕ :=
  ((List.range (totalSeqs payloadBytes)).takeWhile fun seq => !s.fails seq).length

/-- `send_upload`, begun at `start`: the datagrams sent, the span of the transfer and the
bytes the server has reported. -/
def sendUpload (payloadBytes timeoutMs : ℕ) (sending : Sending) (start : ℤ) (inbox : Inbox) :
    ℕ × ℚ × Option ℕ :=
  if payloadBytes = 0 then (0, 0, some 0) else
    let now := sending.doneAt start
    (sending.sent payloadBytes, toMs (now - start),
      ((waitForReport now timeoutMs).run now () inbox).result)

/-- The error of an upload without a report. -/
def noReport (timeoutMs : ℕ) : String :=
  "No CMD_REPORT from server within " ++ toString timeoutMs ++
    "ms — bytes received by the server are unknown, loss cannot be determined"

/-- The share of the payload that the server has not counted. -/
def uploadLoss (payloadBytes acked : ℕ) : ℚ :=
  if 0 < payloadBytes then ((payloadBytes - acked : ℕ) : ℚ) / payloadBytes * 100 else 0

/-- `run_udpupload_probe`, from `start` on, when `CMD_UPLOAD` has been sent. -/
def runUdpuploadProbe (payloadBytes : ℕ) (cfg : UdpThroughputConfig) (sending : Sending)
    (start : ℤ) (inbox : Inbox) : Except String UdpThroughputResult :=
  let wait := (waitForAck start cfg.timeoutMs).run start 0 inbox
  match wait.result with
  | .error msg => .error msg
  | .ok _ =>
      let (datagramsSent, transferMs, bytesAcked) :=
        sendUpload payloadBytes cfg.timeoutMs sending wait.time wait.rest
      match bytesAcked with
      | none => .error (noReport cfg.timeoutMs)
      | some acked => .ok
          { payloadBytes, datagramsSent
            datagramsReceived := none
            bytesAcked := some acked
            lossPercent := uploadLoss payloadBytes acked
            transferMs
            throughputMbps := mbps acked transferMs }

end UdpThroughput

end Networker
