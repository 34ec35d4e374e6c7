/-
The record of one attempt (`networker-tester/src/metrics.rs`).

* `Protocol`: the probe modes, with their names;
* `RequestAttempt`: an attempt with the sub-results a summary reads;
* `primaryMetricLabel`, `primaryMetricValue`: the metric of a protocol, and its value for an
  attempt, if the sub-result is there;
* `attemptPayloadBytes`, `attemptBytesTransferred`: the sizes of an attempt;
* `caseId`: the protocol, payload and HTTP stack an attempt is grouped by.
-/
import Networker.Data.Float64

namespace Networker

open Data

namespace Metrics

/-- `Protocol`. -/
inductive Protocol
  | tcp | http1 | http2 | http3 | udp
  | download | download1 | download2 | download3
  | upload | upload1 | upload2 | upload3
  | webDownload | webUpload | udpDownload | udpUpload
  | mthroughput | rpm | responsiveness | stamp | ping | path | dualStack | webSocket | pmtud
  | dns | tls | tlsResume | native | curl
  | pageLoad | pageLoad2 | pageLoad3
  | browser | browser1 | browser2 | browser3
  | sdkProbe
deriving DecidableEq

/-- The name of a protocol. -/
def Protocol.name : Protocol → String
  | .tcp => "tcp"
  | .http1 => "http1"
  | .http2 => "http2"
  | .http3 => "http3"
  | .udp => "udp"
  | .download => "download"
  | .download1 => "download1"
  | .download2 => "download2"
  | .download3 => "download3"
  | .upload => "upload"
  | .upload1 => "upload1"
  | .upload2 => "upload2"
  | .upload3 => "upload3"
  | .webDownload => "webdownload"
  | .webUpload => "webupload"
  | .udpDownload => "udpdownload"
  | .udpUpload => "udpupload"
  | .mthroughput => "mthroughput"
  | .rpm => "rpm"
  | .responsiveness => "responsiveness"
  | .stamp => "stamp"
  | .ping => "ping"
  | .path => "path"
  | .dualStack => "dualstack"
  | .webSocket => "websocket"
  | .pmtud => "pmtud"
  | .dns => "dns"
  | .tls => "tls"
  | .tlsResume => "tlsresume"
  | .native => "native"
  | .curl => "curl"
  | .pageLoad => "pageload"
  | .pageLoad2 => "pageload2"
  | .pageLoad3 => "pageload3"
  | .browser => "browser"
  | .browser1 => "browser1"
  | .browser2 => "browser2"
  | .browser3 => "browser3"
  | .sdkProbe => "sdkprobe"

/-! ### Sub-results -/

/-- `HttpResult`. -/
structure HttpResult where
  headersSizeBytes : ℕ
  bodySizeBytes : ℕ
  ttfbMs : Float
  totalDurationMs : Float
  payloadBytes : ℕ := 0
  throughputMbps : Option Float := none

/-- `UdpResult`, `PingResult`, `StampResult`, `WebSocketResult`: how many probes were
answered, and the average round trip. -/
structure EchoResult where
  answered : ℕ
  rttAvgMs : Float

/-- `UdpThroughputResult`. -/
structure UdpThroughputResult where
  payloadBytes : ℕ
  bytesAcked : Option ℕ
  throughputMbps : Option Float

/-- `DualStackResult`: the totals of the two legs and the faster family. -/
structure DualStackResult where
  ipv4TotalMs : Option Float
  ipv6TotalMs : Option Float
  fasterFamily : Option String

/-- The sub-results of an attempt, each by what a summary reads of it. -/
structure SubResults where
  dnsDurationMs : Option Float := none
  tcpConnectDurationMs : Option Float := none
  tlsHandshakeDurationMs : Option Float := none
  http : Option HttpResult := none
  udp : Option EchoResult := none
  udpThroughput : Option UdpThroughputResult := none
  pageLoadTotalMs : Option Float := none
  browserLoadMs : Option Float := none
  rpm : Option (Option Float) := none
  ping : Option EchoResult := none
  pathHopCount : Option (Option ℕ) := none
  dualstack : Option DualStackResult := none
  websocket : Option EchoResult := none
  pmtudPathMtu : Option (Option ℕ) := none
  responsivenessRpmDownload : Option (Option Float) := none
  stamp : Option EchoResult := none
  mthroughputCapacityDownMbps : Option (Option Float) := none

/-- A point in time, in nanoseconds. -/
abbrev DateTime : Type := ℤ

/-- `RequestAttempt`. -/
structure RequestAttempt where
  attemptId : ℕ
  protocol : Protocol
  sequenceNum : ℕ
  startedAt : DateTime
  finishedAt : Option DateTime
  success : Bool
  results : SubResults
  retryCount : ℕ := 0
  sampleIndex : ℕ := 0
  httpStack : Option String := none
  phase : Option String := none

/-- The microseconds of a duration, where they fit 64 bits. -/
def numMicroseconds (nanos : ℤ) : Option ℤ :=
  let micros := nanos.tdiv 1000
  if -(2 ^ 63) ≤ micros ∧ micros < 2 ^ 63 then some micros else none

/-- Microseconds in milliseconds. -/
def millisOf (micros : ℤ) : Float := Float.ofInt micros / 1000.0

/-- `RequestAttempt::total_duration_ms`. -/
def RequestAttempt.totalDurationMs (a : RequestAttempt) : Option Float :=
  a.finishedAt.bind fun finished => (numMicroseconds (finished - a.startedAt)).map millisOf

/-- `attempt_payload_bytes`. -/
def attemptPayloadBytes (a : RequestAttempt) : Option ℕ :=
  ((a.results.http.map HttpResult.payloadBytes).filter (0 < ·)).or
    ((a.results.udpThroughput.map UdpThroughputResult.payloadBytes).filter (0 < ·))

/-- `attempt_bytes_transferred`. -/
def attemptBytesTransferred (a : RequestAttempt) : ℕ :=
  match a.results.http with
  | some http => http.bodySizeBytes + http.headersSizeBytes
  | none =>
      match a.results.udpThroughput with
      | some udp => udp.bytesAcked.getD udp.payloadBytes
      | none => 0

/-! ### The primary metric -/

/-- `primary_metric_label`. -/
def primaryMetricLabel : Protocol → String
  | .http1 | .http2 | .http3 | .native | .curl => "Total ms"
  | .tcp => "Connect ms"
  | .udp => "RTT avg ms"
  | .download | .download1 | .download2 | .download3
  | .upload | .upload1 | .upload2 | .upload3
  | .webDownload | .webUpload | .udpDownload | .udpUpload => "Throughput MB/s"
  | .rpm => "RPM"
  | .responsiveness => "RPM (draft)"
  | .mthroughput => "Capacity MB/s"
  | .stamp => "RTT avg ms"
  | .ping => "RTT avg ms"
  | .path => "Hops"
  | .dualStack => "Total ms"
  | .webSocket => "Msg RTT avg ms"
  | .pmtud => "Path MTU"
  | .dns => "Resolve ms"
  | .tls | .tlsResume => "Handshake ms"
  | .pageLoad | .pageLoad2 | .pageLoad3 => "Total ms"
  | .browser | .browser1 | .browser2 | .browser3 => "Load ms"
  | .sdkProbe => "Total ms"

/-- The average of an echo train, unless every echo was lost. -/
def EchoResult.average (r : EchoResult) : Option Float :=
  if 0 < r.answered then some r.rttAvgMs else none

/-- The total of the winning family, or of the only family that has one. -/
def DualStackResult.total (d : DualStackResult) : Option Float :=
  match d.fasterFamily, d.ipv4TotalMs, d.ipv6TotalMs with
  | some "ipv4", v4, _ => v4
  | some "ipv6", _, v6 => v6
  | _, some v4, none => some v4
  | _, none, some v6 => some v6
  | _, some v4, some v6 => some (Float64.fmin v4 v6)
  | _, none, none => none

/-- `primary_metric_value`. -/
def primaryMetricValue (a : RequestAttempt) : Option Float :=
  match a.protocol with
  | .http1 | .http2 | .http3 | .native | .curl => a.results.http.map HttpResult.totalDurationMs
  | .tcp => a.results.tcpConnectDurationMs
  | .udp => a.results.udp.bind EchoResult.average
  | .download | .download1 | .download2 | .download3
  | .upload | .upload1 | .upload2 | .upload3
  | .webDownload | .webUpload => a.results.http.bind HttpResult.throughputMbps
  | .udpDownload | .udpUpload => a.results.udpThroughput.bind UdpThroughputResult.throughputMbps
  | .rpm => a.results.rpm.join
  | .responsiveness => a.results.responsivenessRpmDownload.join
  | .mthroughput => a.results.mthroughputCapacityDownMbps.join
  | .stamp => a.results.stamp.bind EchoResult.average
  | .ping => a.results.ping.bind EchoResult.average
  | .path => a.results.pathHopCount.join.map Float.ofNat
  | .dualStack => a.results.dualstack.bind DualStackResult.total
  | .webSocket => a.results.websocket.bind EchoResult.average
  | .pmtud => a.results.pmtudPathMtu.join.map Float.ofNat
  | .dns => a.results.dnsDurationMs
  | .tls | .tlsResume => a.results.tlsHandshakeDurationMs
  | .pageLoad | .pageLoad2 | .pageLoad3 => a.results.pageLoadTotalMs
  | .browser | .browser1 | .browser2 | .browser3 => a.results.browserLoadMs
  | .sdkProbe => a.results.http.map HttpResult.totalDurationMs

/-! ### Cases -/

/-- A text with every colon replaced. -/
def withoutColons (s : String) : String :=
  String.ofList (s.toList.map fun c => if c = ':' then '_' else c)

/-- The protocol, payload and HTTP stack of an attempt. -/
def caseId (a : RequestAttempt) : String :=
  a.protocol.name ++ ":" ++ ((attemptPayloadBytes a).map Text.ofNat).getD "default" ++ ":" ++
    withoutColons (a.httpStack.getD "default")

end Metrics

end Networker
