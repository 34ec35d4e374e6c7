/-
The STAMP sender (`networker-tester/src/runner/stamp.rs`).

* `ntpToSecs`: a timestamp in seconds, as an exact fraction;
* `Reply`, `readReply`: the readings of a credited reply;
* `stampTrain`, `probeTrain`: the train of probes, with the wait behind the last one;
* `LossSplit`, `lossSplit`: the loss by direction, from the numbers of the reflector;
* `runStampProbe`: the probe, once its target is resolved and its socket is connected.
-/
import Networker.Concurrency.ProbeTrain
import Networker.Endpoint.Stamp
import Networker.Tester.UdpThroughput

namespace Networker

open Data Concurrency

namespace Stamp

/-- `ntp_to_secs`. -/
def ntpToSecs (t : Ntp) : ℚ := t.secs.toNat + t.frac.toNat / 4294967296

/-- `StampProbeConfig`, once the target is resolved. -/
structure StampProbeConfig where
  targetAddr : String := "127.0.0.1:9997"
  probeCount : ℕ := 50
  intervalMs : ℕ := 50
  timeoutMs : ℕ := 5000

/-- The readings of a credited reply. -/
structure Reply where
  rttCorrectedMs : ℚ
  processingMs : ℚ
  fwdRawMs : ℚ
  revRawMs : ℚ
  reflectorSeq : ℕ
  deriving DecidableEq

/-- The readings of a reply, for the probe sent at `sentAt`; `wall` reads the clock. -/
def readReply (wall : ℤ → Ntp) (sentAt now : ℤ) (pkt : Packet) : Reply :=
  let t3 := ntpToSecs (readNtp pkt 4)
  let t2 := ntpToSecs (readNtp pkt 16)
  let processingMs := max ((t3 - t2) * 1000) 0
  { rttCorrectedMs := max (UdpThroughput.toMs (now - sentAt) - processingMs) 0
    processingMs
    fwdRawMs := (t2 - ntpToSecs (wall sentAt)) * 1000
    revRawMs := (ntpToSecs (wall now) - t3) * 1000
    reflectorSeq := reflectorSeqOf pkt }

/-- The datagram that is received. -/
def datagram? : Incoming → Option Packet
  | .datagram pkt => some pkt
  | .error _ => none

/-- The sequence number of the sender in a reply; a runt is ignored. -/
def hearReply : Incoming → Heard
  | .datagram pkt => if stampPacketLen ≤ pkt.length then .names (senderSeqOf pkt) else .noise
  | .error _ => .error

/-- The number of probes of a train. -/
def StampProbeConfig.count (cfg : StampProbeConfig) : ℕ := max cfg.probeCount 1

/-- The train (`recv_replies`): it listens for an interval behind each probe, or until
nothing is outstanding. -/
def stampTrain (cfg : StampProbeConfig) (wall : ℤ → Ntp) (sends : ℕ → Bool) :
    Train Incoming Reply where
  sends
  hear := hearReply
  credit _ sentAt now i := readReply wall sentAt now ((datagram? i).getD [])
  span := millis (max cfg.intervalMs 1)
  done _ t := t.full cfg.count
  idle := true

/-- `probe_train`, from `start` on. -/
def probeTrain (cfg : StampProbeConfig) (wall : ℤ → Ntp) (sends : ℕ → Bool) (start : ℤ)
    (inbox : Inbox) : Train.State Incoming Reply :=
  (stampTrain cfg wall sends).tail cfg.count (millis (max cfg.timeoutMs 1))
    ((stampTrain cfg wall sends).run (List.range cfg.count) (Train.begin start inbox))

/-- The probes lost on the way to the reflector, and the replies lost on the way back. -/
structure LossSplit where
  reached : ℕ
  fwdLost : ℕ
  revLost : ℕ
  deriving DecidableEq

/-- The loss by direction, from the highest number of the reflector. -/
def lossSplit (probesSent repliesReceived maxSeq : ℕ) : LossSplit :=
  let reached := min (maxSeq + 1) probesSent
  ⟨reached, probesSent - reached, reached - repliesReceived⟩

/-- `StampResult`, without the statistics of the delays. -/
structure StampResult where
  remoteAddr : String
  probesSent : ℕ
  repliesReceived : ℕ
  lossSentPercent : Option ℚ
  lossReturnPercent : Option ℚ
  reflectorSeqMax : Option ℕ
  probeRttsMs : List (Option ℚ)
  intervalMs : ℕ
  deriving DecidableEq

/-- The replies of a train, by probe. -/
def repliesOf (n : ℕ) (t : ProbeTable Reply) : List (Option Reply) := (List.range n).map t.credited

/-- The credited replies. -/
def received (replies : List (Option Reply)) : List Reply := replies.filterMap id

/-- The error of an attempt without a reply. -/
def allLost (cfg : StampProbeConfig) : String :=
  "All " ++ toString cfg.probeCount ++ " STAMP probes lost (is the endpoint's " ++
    "Session-Reflector on " ++ cfg.targetAddr ++ " reachable? It listens on UDP port 9997 by " ++
    "default)"

/-- The result of the replies of a train, or the error. -/
def stampResult (cfg : StampProbeConfig) (replies : List (Option Reply)) :
    Except String StampResult :=
  let repliesReceived := (received replies).length
  if repliesReceived = 0 then .error (allLost cfg) else
    let maxSeq := ((received replies).map Reply.reflectorSeq).max?
    let split := maxSeq.map (lossSplit cfg.probeCount repliesReceived)
    .ok
      { remoteAddr := cfg.targetAddr
        probesSent := cfg.probeCount
        repliesReceived
        lossSentPercent := split.map fun l => (l.fwdLost : ℚ) / cfg.probeCount * 100
        lossReturnPercent := split.map fun l => (l.revLost : ℚ) / (max l.reached 1 : ℕ) * 100
        reflectorSeqMax := maxSeq
        probeRttsMs := replies.map (Option.map Reply.rttCorrectedMs)
        intervalMs := cfg.intervalMs }

/-- `run_stamp_probe`, from `start` on. -/
def runStampProbe (cfg : StampProbeConfig) (wall : ℤ → Ntp) (sends : ℕ → Bool) (start : ℤ)
    (inbox : Inbox) : Except String StampResult :=
  stampResult cfg (repliesOf cfg.count (probeTrain cfg wall sends start inbox).result)

end Stamp

end Networker
