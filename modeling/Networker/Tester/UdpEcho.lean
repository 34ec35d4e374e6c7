/-
The UDP echo trains (`networker-tester/src/runner/udp.rs`, `rpm.rs`).

* `probePacket`, `hearEcho`: a probe on the wire, and what a received datagram is taken for;
* `runUdpProbe`: the `udp` probe: each probe has a window of its own, which its echo ends;
* `Pacing`, `echoRtts`: the train of the `rpm` probe, back to back or on a cadence with a
  wait behind the last probe.
-/
import Networker.Data.Bytes
import Networker.Concurrency.ProbeTrain
import Networker.Tester.UdpThroughput

namespace Networker

open Data Concurrency

namespace UdpEcho

/-- A datagram of a train: the sequence number, the time in microseconds, and padding. -/
def probePacket (payloadSize seq nowUs : ℕ) : Packet :=
  be 4 seq ++ be 8 nowUs ++ List.replicate (max payloadSize 12 - 12) 0

/-- The sequence number at the front of a datagram; a runt is ignored. -/
def hearEcho : Incoming → Heard
  | .datagram pkt => if 4 ≤ pkt.length then .names (ofBe (slice 0 4 pkt)) else .noise
  | .error _ => .error

/-- An echo carries the sequence number of the probe. -/
lemma hearEcho_probePacket {payloadSize seq nowUs : ℕ} (h : seq < 2 ^ 32) :
    hearEcho (.datagram (probePacket payloadSize seq nowUs)) = .names seq := by
  have hlen : 4 ≤ (probePacket payloadSize seq nowUs).length := by
    rw [probePacket, List.length_append, List.length_append, length_be]
    omega
  rw [hearEcho, if_pos hlen, probePacket, List.append_assoc, slice_zero (length_be 4 seq),
    ofBe_be_of_lt (by omega)]

/-- The reading of a credited probe: the time from its own send, in milliseconds. -/
def rttMs (_ : ℕ) (sentAt now : ℤ) (_ : Incoming) : ℚ := UdpThroughput.toMs (now - sentAt)

/-- The readings of the first `n` probes. -/
def probeRtts (n : ℕ) (t : ProbeTable ℚ) : List (Option ℚ) := (List.range n).map t.credited

lemma probeRtts_get? {n seq : ℕ} {t : ProbeTable ℚ} {r : Option ℚ} :
    (probeRtts n t)[seq]? = some r ↔ seq < n ∧ t.credited seq = r := by
  rw [probeRtts, List.getElem?_map, Option.map_eq_some_iff]
  constructor
  · rintro ⟨i, hi, rfl⟩
    obtain ⟨hlt, rfl⟩ := List.getElem?_eq_some_iff.mp hi
    rw [List.getElem_range]
    exact ⟨by simpa using hlt, rfl⟩
  · rintro ⟨hlt, rfl⟩
    exact ⟨seq, by rw [List.getElem?_range hlt], rfl⟩

/-! ### The `udp` probe -/

/-- `UdpProbeConfig`, once the target is resolved. -/
structure UdpProbeConfig where
  targetAddr : String := "127.0.0.1:9999"
  probeCount : ℕ := 10
  timeoutMs : ℕ := 5000
  payloadSize : ℕ := 64

/-- The train of the `udp` probe (`recv_outstanding_echoes`): a window ends when its own
probe has been credited, and there is none behind a probe that was not sent. -/
def udpTrain (cfg : UdpProbeConfig) (sends : ℕ → Bool) : Train Incoming ℚ where
  sends
  hear := hearEcho
  credit := rttMs
  span := millis cfg.timeoutMs
  done seq t := t.has seq
  idle := false

/-- `UdpResult`, without the statistics. -/
structure UdpResult where
  remoteAddr : String
  probeCount : ℕ
  successCount : ℕ
  probeRttsMs : List (Option ℚ)

/-- The result of a table. -/
def udpResult (cfg : UdpProbeConfig) (t : ProbeTable ℚ) : UdpResult where
  remoteAddr := cfg.targetAddr
  probeCount := cfg.probeCount
  successCount := (probeRtts cfg.probeCount t).countP Option.isSome
  probeRttsMs := probeRtts cfg.probeCount t

/-- `run_udp_probe`, from `start` on. -/
def runUdpProbe (cfg : UdpProbeConfig) (sends : ℕ → Bool) (start : ℤ) (inbox : Inbox) :
    Train.State Incoming ℚ :=
  (udpTrain cfg sends).run (List.range cfg.probeCount) (Train.begin start inbox)

/-- The error of an attempt in which no probe was credited. -/
def noEchoReplies (r : UdpResult) : Option String :=
  if r.successCount = 0 then some
    ("No UDP echo replies from " ++ r.remoteAddr ++ " (" ++ toString r.probeCount ++
      " probes): either the path drops UDP or nothing is listening for the echo protocol " ++
      "there — this mode requires a LagHound endpoint's echo server, so 100% loss is expected " ++
      "against ordinary websites")
  else none

/-! ### The train of the `rpm` probe -/

/-- `Pacing`. -/
inductive Pacing
  | backToBack (timeoutMs : ℕ)
  | paced (intervalMs tmaxMs : ℕ)

/-- How long the train listens behind each probe. -/
def Pacing.spanMs : Pacing → ℕ
  | .backToBack timeoutMs => timeoutMs
  | .paced intervalMs _ => intervalMs

/-- What a window waits for (`recv_echoes`): the echo of its own probe, or all echoes. -/
def Pacing.done (n : ℕ) : Pacing → ℕ → ProbeTable ℚ → Bool
  | .backToBack _, seq, t => t.has seq
  | .paced _ _, _, t => t.full n

/-- The train with a pacing. -/
def echoTrain (count : ℕ) (pacing : Pacing) (sends : ℕ → Bool) : Train Incoming ℚ where
  sends
  hear := hearEcho
  credit := rttMs
  span := millis pacing.spanMs
  done := pacing.done count
  idle := true

/-- `EchoTrain`, without the drops of the socket. -/
structure EchoTrain where
  rtts : List (Option ℚ)
  censored : ℕ

/-- The probes without an answer whose loss threshold has not passed. -/
def censored (count tmaxMs : ℕ) (s : Train.State Incoming ℚ) : ℕ :=
  (List.range count).countP fun seq =>
    !s.result.has seq && (s.result.sent seq).any fun sentAt => s.time - sentAt < millis tmaxMs

/-- The train and the wait behind it. -/
def echoRun (count : ℕ) (pacing : Pacing) (sends : ℕ → Bool) (start : ℤ) (inbox : Inbox) :
    Train.State Incoming ℚ :=
  let s := (echoTrain count pacing sends).run (List.range count) (Train.begin start inbox)
  match pacing with
  | .backToBack _ => s
  | .paced _ tmaxMs => (echoTrain count pacing sends).tail count (millis tmaxMs) s

/-- `echo_rtts`, from `start` on. -/
def echoRtts (count : ℕ) (pacing : Pacing) (sends : ℕ → Bool) (start : ℤ) (inbox : Inbox) :
    EchoTrain :=
  let s := echoRun count pacing sends start inbox
  { rtts := probeRtts count s.result
    censored := match pacing with
      | .backToBack _ => 0
      | .paced _ tmaxMs => censored count tmaxMs s }

end UdpEcho

end Networker
