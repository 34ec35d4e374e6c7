/-
One attempt of a mode task (`networker-tester/src/dispatch.rs`, with the probes of
`runner/throughput.rs` and `runner/udp_throughput.rs`).

* `Behaviour`: what the target and the network do to an attempt;
* `patchThroughput`, `verifyDownload` and their siblings: what a throughput probe makes of a
  response;
* `dispatchOnce`: the attempt of a task;
* `keepsSize`: a failed attempt still names the size it was asked for;
* `dispatchOnce_names`: an attempt that succeeds always does.
-/
import Networker.Tester.TargetRunner
import Networker.Tester.UdpThroughput

namespace Networker

open Data Metrics TargetRunner

namespace Dispatch

/-! ### What happens to an attempt -/

/-- An HTTP response: what is measured of it, and the two headers that are read. -/
structure Response where
  statusCode : ℕ
  headersSizeBytes : ℕ
  bodySizeBytes : ℕ
  ttfbMs : Float
  totalDurationMs : Float
  httpHandshakeMs : Option Float := none
  receivedBytes : Option ℕ := none
  recvBodyMs : Option Float := none

/-- An HTTP request: how long the steps of the connection took, and the response. -/
structure Exchange where
  dnsDurationMs : Option Float := none
  tcpConnectDurationMs : Option Float := none
  tlsHandshakeDurationMs : Option Float := none
  response : Option Response

/-- A transfer over UDP: the datagrams that the client has received, and the bytes that the
receiving side has. -/
structure Transfer where
  datagrams : ℕ
  bytes : ℕ
  transferMs : Float

/-- What a probe without a payload reports. No such probe sets a payload. -/
structure Report where
  success : Bool
  results : SubResults
  http : ∀ h ∈ results.http, h.payloadBytes = 0
  udpThroughput : results.udpThroughput = none

/-- What the target and the network do to an attempt. -/
structure Behaviour where
  offersH3 : Bool
  stalls : Bool
  exchange : Exchange
  transfer : Except String Transfer
  report : Report

/-- What an attempt brings. -/
structure Result where
  success : Bool
  results : SubResults := {}

/-- `error_attempt_proto`. -/
def errorAttemptProto : Result where
  success := false

/-! ### HTTP -/

/-- The result of a response. The payload is left to the throughput probes. -/
def Response.result (r : Response) : HttpResult where
  headersSizeBytes := r.headersSizeBytes
  bodySizeBytes := r.bodySizeBytes
  ttfbMs := r.ttfbMs
  totalDurationMs := r.totalDurationMs

/-- An attempt without a response (`failed_attempt`, `h3_failed`). -/
def Exchange.failed (x : Exchange) : Result where
  success := false
  results :=
    { dnsDurationMs := x.dnsDurationMs
      tcpConnectDurationMs := x.tcpConnectDurationMs
      tlsHandshakeDurationMs := x.tlsHandshakeDurationMs }

/-- A request that succeeds with a status below a bound. -/
def Exchange.probe (bound : ℕ) (x : Exchange) : Result :=
  match x.response with
  | none => x.failed
  | some r =>
      { success := decide (r.statusCode < bound)
        results := { x.failed.results with http := some r.result } }

/-- `run_probe`, for the protocols that read a response. -/
def runProbe : Exchange → Result := Exchange.probe 400

/-- `run_http3_request_probe`. -/
def runHttp3RequestProbe : Exchange → Result := Exchange.probe 500

/-- `mbps`. -/
def mbps (payloadBytes : ℕ) (transferMs : Float) : Option Float :=
  if 0.0 < transferMs then
    some (Float.ofNat payloadBytes / transferMs * 1000.0 / (1024.0 * 1024.0))
  else none

/-- `patch_throughput`. -/
def patchThroughput (payloadBytes : ℕ) (r : Response) : HttpResult :=
  let transferMs := r.totalDurationMs - r.ttfbMs - r.httpHandshakeMs.getD 0.0
  { r.result with payloadBytes, throughputMbps := mbps r.bodySizeBytes transferMs }

/-- `patch_upload_throughput`. -/
def patchUploadThroughput (payloadBytes : ℕ) (r : Response) : HttpResult :=
  let transferMs := (r.recvBodyMs.map fun srv => Float64.fmax srv r.ttfbMs).getD r.ttfbMs
  { r.result with payloadBytes, throughputMbps := mbps payloadBytes transferMs }

/-- `patch_webupload_throughput`. -/
def patchWebuploadThroughput (payloadBytes : ℕ) (r : Response) : HttpResult :=
  let transferMs :=
    (r.recvBodyMs.map fun srv => Float64.fmax srv r.ttfbMs).getD r.totalDurationMs
  { r.result with
    payloadBytes
    throughputMbps := (mbps payloadBytes transferMs).filter fun v => decide (v ≤ 100000.0) }

/-- A probe whose response, if there is one, is patched. -/
def patched (patch : Response → HttpResult) (probe : Exchange → Result) (x : Exchange) :
    Result :=
  match x.response with
  | none => probe x
  | some r => { probe x with results := { (probe x).results with http := some (patch r) } }

/-- `verify_download`. -/
def verifyDownload (expectedBytes : ℕ) (a : Result) : Result :=
  if a.success && a.results.http.any fun h => h.bodySizeBytes != expectedBytes then
    { a with success := false }
  else a

/-- `verify_upload`, with the bytes that the server says it has received. -/
def verifyUpload (expectedBytes : ℕ) (received : Option ℕ) (a : Result) : Result :=
  if a.success && received.any fun n => n != expectedBytes then { a with success := false }
  else a

/-- The bytes that the server says it has received. -/
def Exchange.receivedBytes (x : Exchange) : Option ℕ := x.response.bind (·.receivedBytes)

/-- `TransportStyle`. -/
inductive TransportStyle
  | http1
  | http2
  | http3

/-- The probe of a transport. -/
def TransportStyle.probe : TransportStyle → Exchange → Result
  | .http1 | .http2 => runProbe
  | .http3 => runHttp3RequestProbe

/-- `run_labeled_download_probe`. -/
def runLabeledDownloadProbe (transport : TransportStyle) (payloadBytes : ℕ) (x : Exchange) :
    Result :=
  verifyDownload payloadBytes (patched (patchThroughput payloadBytes) transport.probe x)

/-- `run_labeled_upload_probe`. -/
def runLabeledUploadProbe (transport : TransportStyle) (payloadBytes : ℕ) (x : Exchange) :
    Result :=
  verifyUpload payloadBytes x.receivedBytes
    (patched (patchUploadThroughput payloadBytes) transport.probe x)

/-- `run_download1_probe`. -/
def runDownload1Probe : ℕ → Exchange → Result := runLabeledDownloadProbe .http1

/-- `run_download2_probe`. -/
def runDownload2Probe : ℕ → Exchange → Result := runLabeledDownloadProbe .http2

/-- `run_download3_probe`. -/
def runDownload3Probe : ℕ → Exchange → Result := runLabeledDownloadProbe .http3

/-- `run_upload1_probe`. -/
def runUpload1Probe : ℕ → Exchange → Result := runLabeledUploadProbe .http1

/-- `run_upload2_probe`. -/
def runUpload2Probe : ℕ → Exchange → Result := runLabeledUploadProbe .http2

/-- `run_upload3_probe`. -/
def runUpload3Probe : ℕ → Exchange → Result := runLabeledUploadProbe .http3

/-- `run_download_probe`. -/
def runDownloadProbe (payloadBytes : ℕ) (x : Exchange) : Result :=
  verifyDownload payloadBytes (patched (patchThroughput payloadBytes) runProbe x)

/-- `run_upload_probe`. -/
def runUploadProbe (payloadBytes : ℕ) (x : Exchange) : Result :=
  verifyUpload payloadBytes x.receivedBytes
    (patched (patchUploadThroughput payloadBytes) runProbe x)

/-- `run_webdownload_probe`: the payload is the size of the body that has come. -/
def runWebdownloadProbe (payloadBytes : ℕ) (x : Exchange) : Result :=
  verifyDownload payloadBytes
    (patched (fun r => patchThroughput r.bodySizeBytes r) runProbe x)

/-- `run_webupload_probe`. -/
def runWebuploadProbe (payloadBytes : ℕ) (x : Exchange) : Result :=
  verifyUpload payloadBytes x.receivedBytes
    (patched (patchWebuploadThroughput payloadBytes) runProbe x)

/-! ### UDP -/

/-- `udp_tp_failed`. -/
def udpTpFailed : Result where
  success := false

/-- `run_udpdownload_probe`, with what came of the transfer. -/
def runUdpdownloadProbe (payloadBytes : ℕ) : Except String Transfer → Result
  | .error _ => udpTpFailed
  | .ok t =>
      { success := decide (0 < t.datagrams)
        results :=
          { udpThroughput := some
              { payloadBytes
                bytesAcked := none
                throughputMbps := mbps t.bytes t.transferMs } } }

/-- `run_udpupload_probe`, with what came of the transfer. -/
def runUdpuploadProbe (payloadBytes : ℕ) : Except String Transfer → Result
  | .error _ => udpTpFailed
  | .ok t =>
      { success := payloadBytes == 0 || decide (0 < t.bytes)
        results :=
          { udpThroughput := some
              { payloadBytes
                bytesAcked := some t.bytes
                throughputMbps := mbps t.bytes t.transferMs } } }

/-- What comes of a download, as the clock reads its span. -/
def downloaded (run : Except String (UdpThroughput.Received × UdpThroughput.UdpThroughputResult))
    (transferMs : Float) : Except String Transfer :=
  run.map fun r => ⟨r.1.receivedSeqs.card, r.1.receivedBytes, transferMs⟩

/-! ### The dispatch -/

/-- `h3_modes`. -/
def h3Modes : List String := ["http3", "pageload3", "browser3", "download3", "upload3"]

/-- `is_h3_mode`. -/
def isH3Mode (mode : String) : Bool := h3Modes.contains mode

/-- The protocols whose attempts have a cap (`attempt_cap`). -/
def isShort : Protocol → Bool
  | .tcp | .dns | .tls | .tlsResume | .http1 | .http2 | .http3 | .curl | .native | .ping
  | .path | .pmtud | .dualStack | .udp | .stamp | .webSocket | .sdkProbe => true
  | _ => false

/-- `dispatch_once_inner`. -/
def dispatchOnceInner (proto : Protocol) (payloadSz : Option ℕ) (b : Behaviour) : Result :=
  match proto, payloadSz with
  | .download, some sz => runDownloadProbe sz b.exchange
  | .download1, some sz => runDownload1Probe sz b.exchange
  | .download2, some sz => runDownload2Probe sz b.exchange
  | .download3, some sz => runDownload3Probe sz b.exchange
  | .upload, some sz => runUploadProbe sz b.exchange
  | .upload1, some sz => runUpload1Probe sz b.exchange
  | .upload2, some sz => runUpload2Probe sz b.exchange
  | .upload3, some sz => runUpload3Probe sz b.exchange
  | .webDownload, some sz => runWebdownloadProbe sz b.exchange
  | .webUpload, some sz => runWebuploadProbe sz b.exchange
  | .udpDownload, some sz => runUdpdownloadProbe sz b.transfer
  | .udpUpload, some sz => runUdpuploadProbe sz b.transfer
  -- Every other runner sends no payload.
  | _, _ => ⟨b.report.success, b.report.results⟩

/-- `dispatch_once`. -/
def dispatchOnce (proto : Protocol) (payloadSz : Option ℕ) (b : Behaviour) : Result :=
  if isH3Mode proto.name && !b.offersH3 then errorAttemptProto
  else if isShort proto && b.stalls then errorAttemptProto
  else dispatchOnceInner proto payloadSz b

/-! ### The size an attempt names -/

/-- The size in results, as `attempt_payload_bytes` reads it. -/
def namedSize (r : SubResults) : Option ℕ :=
  ((r.http.map HttpResult.payloadBytes).filter (0 < ·)).or
    ((r.udpThroughput.map UdpThroughputResult.payloadBytes).filter (0 < ·))

/-- The size that a task asks for; no size is asked for with no bytes. -/
def requestedSize (payloadSz : Option ℕ) : Option ℕ := payloadSz.filter (0 < ·)

@[simp]
lemma requestedSize_none : requestedSize none = none := rfl

lemma requestedSize_some (sz : ℕ) : requestedSize (some sz) = if 0 < sz then some sz else none := by
  simp [requestedSize, Option.filter]

@[simp]
lemma none_eq_requestedSize {sz : ℕ} : none = requestedSize (some sz) ↔ sz = 0 := by
  rw [requestedSize_some]
  split_ifs with h
  · simp [h.ne']
  · simp only [true_iff]
    omega

/-- Tasks that ask for different sizes are told apart. -/
@[simp]
lemma requestedSize_inj {sz sz' : ℕ} :
    requestedSize (some sz) = requestedSize (some sz') ↔ sz = sz' := by
  rw [requestedSize_some, requestedSize_some]
  split_ifs
  · simp
  · simp only [false_iff]
    omega
  · simp only [false_iff]
    omega
  · simp only [true_iff]
    omega

/-- The target has answered an HTTP request. -/
def Behaviour.answers (proto : Protocol) (b : Behaviour) : Bool :=
  (b.offersH3 || !isH3Mode proto.name) && b.exchange.response.isSome

/-- The requested size is still there when an attempt fails: there is a response, or a UDP
result, to name it, or no bytes were asked for. A `webdownload` names what has come. -/
def keepsSize (proto : Protocol) (payloadSz : Option ℕ) (b : Behaviour) : Bool :=
  match proto, payloadSz with
  | .udpDownload, some sz | .udpUpload, some sz => sz == 0 || b.transfer.isOk
  | .webDownload, some sz => (b.exchange.response.map (·.bodySizeBytes)).getD 0 == sz
  | _, some sz => sz == 0 || b.answers proto
  | _, none => true

/-- An attempt that succeeds names the requested size, and one that fails does under a
condition. -/
structure Names (payloadSz : Option ℕ) (kept : Bool) (a : Result) : Prop where
  success : a.success = true → namedSize a.results = requestedSize payloadSz
  failure : a.success = false →
    (namedSize a.results = requestedSize payloadSz ↔ kept = true)

section Http

variable {patch : Response → HttpResult} {x : Exchange} {a : Result} {sz bound : ℕ}

/-- The results of a throughput probe: the patched response, if there was one, and no success
without it. -/
structure Patched (patch : Response → HttpResult) (x : Exchange) (a : Result) : Prop where
  http : a.results.http = x.response.map patch
  udpThroughput : a.results.udpThroughput = none
  answered : a.success = true → x.response.isSome = true

lemma patched_patched (patch : Response → HttpResult) (bound : ℕ) (x : Exchange) :
    Patched patch x (patched patch (Exchange.probe bound) x) := by
  cases hx : x.response with
  | none => constructor <;> simp [patched, Exchange.probe, Exchange.failed, hx]
  | some r => constructor <;> simp [patched, Exchange.probe, Exchange.failed, hx]

/-- A verification only turns a success into a failure. -/
lemma Patched.verified (h : Patched patch x a) {c : Prop} [Decidable c] :
    Patched patch x (if c then { a with success := false } else a) := by
  split
  · exact ⟨h.http, h.udpThroughput, fun hs => absurd hs (by simp)⟩
  · exact h

lemma Patched.verifyDownload (h : Patched patch x a) (expectedBytes : ℕ) :
    Patched patch x (verifyDownload expectedBytes a) := h.verified

lemma Patched.verifyUpload (h : Patched patch x a) (expectedBytes : ℕ) (received : Option ℕ) :
    Patched patch x (verifyUpload expectedBytes received a) := h.verified

lemma Patched.namedSize_eq (h : Patched patch x a) :
    namedSize a.results = requestedSize (x.response.map fun r => (patch r).payloadBytes) := by
  rw [namedSize, h.http, h.udpThroughput, requestedSize, Option.map_map]
  simp [Function.comp_def]

/-- A response that is patched with the requested size names it. -/
lemma Patched.names (h : Patched patch x a) (hpatch : ∀ r, (patch r).payloadBytes = sz) :
    Names (some sz) (sz == 0 || x.response.isSome) a := by
  have hsize : namedSize a.results = requestedSize (x.response.map fun _ => sz) := by
    simp only [h.namedSize_eq, hpatch]
  constructor
  · intro hs
    obtain ⟨r, hr⟩ := Option.isSome_iff_exists.mp (h.answered hs)
    rw [hsize, hr, Option.map_some]
  · intro _
    cases hr : x.response with
    | none => simp [hsize, hr]
    | some r => simp [hsize, hr]

/-- A `webdownload` names the size of the body. -/
lemma names_runWebdownloadProbe (sz : ℕ) (x : Exchange) :
    Names (some sz) ((x.response.map (·.bodySizeBytes)).getD 0 == sz)
      (runWebdownloadProbe sz x) := by
  have h : Patched (fun r => patchThroughput r.bodySizeBytes r) x (runWebdownloadProbe sz x) :=
    (patched_patched _ 400 x).verifyDownload sz
  have hsize : namedSize (runWebdownloadProbe sz x).results =
      requestedSize (x.response.map (·.bodySizeBytes)) := h.namedSize_eq
  have hiff : namedSize (runWebdownloadProbe sz x).results = requestedSize (some sz) ↔
      (x.response.map (·.bodySizeBytes)).getD 0 = sz := by
    rw [hsize]
    cases x.response with
    | none => simp [eq_comm]
    | some r => simp
  constructor
  · intro hs
    rw [hiff]
    obtain ⟨r, hr⟩ := Option.isSome_iff_exists.mp (h.answered hs)
    rw [runWebdownloadProbe, Dispatch.verifyDownload] at hs
    split at hs
    · exact absurd hs (by simp)
    · next hc =>
        have hbody : (patchThroughput r.bodySizeBytes r).bodySizeBytes = r.bodySizeBytes := rfl
        rw [hs, Bool.true_and, runProbe, (patched_patched _ 400 x).http, hr] at hc
        simpa [hr, hbody] using hc
  · intro _
    rw [hiff, beq_iff_eq]

end Http

section Udp

variable (sz : ℕ) (t : Except String Transfer)

lemma names_runUdpdownloadProbe :
    Names (some sz) (sz == 0 || t.isOk) (runUdpdownloadProbe sz t) := by
  cases t with
  | error e =>
      constructor <;>
        simp [runUdpdownloadProbe, udpTpFailed, namedSize, Except.isOk, Except.toBool]
  | ok t =>
      constructor <;>
        simp [runUdpdownloadProbe, namedSize, requestedSize, Except.isOk, Except.toBool]

lemma names_runUdpuploadProbe :
    Names (some sz) (sz == 0 || t.isOk) (runUdpuploadProbe sz t) := by
  cases t with
  | error e =>
      constructor <;>
        simp [runUdpuploadProbe, udpTpFailed, namedSize, Except.isOk, Except.toBool]
  | ok t =>
      constructor <;>
        simp [runUdpuploadProbe, namedSize, requestedSize, Except.isOk, Except.toBool]

end Udp

/-! ### Every attempt -/

section DispatchOnce

variable {proto : Protocol} {b : Behaviour} {sz : ℕ}

/-- An attempt without results names no size. -/
lemma names_errorAttemptProto (payloadSz : Option ℕ) :
    Names payloadSz ((payloadSz.getD 0) == 0) errorAttemptProto := by
  cases payloadSz with
  | none => constructor <;> simp [errorAttemptProto, namedSize]
  | some sz => constructor <;> simp [errorAttemptProto, namedSize]

/-- A probe without a payload names no size. -/
lemma names_report (r : Report) : Names none true ⟨r.success, r.results⟩ := by
  have hnone : namedSize r.results = none := by
    rw [namedSize, r.udpThroughput]
    cases hhttp : r.results.http with
    | none => rfl
    | some h => simp [r.http h hhttp]
  constructor <;> simp [hnone]

lemma names_dispatchOnce_none (h : hasPayload proto = false) :
    Names none (keepsSize proto none b) (dispatchOnce proto none b) := by
  have hkeeps : keepsSize proto none b = true := by cases proto <;> rfl
  have hinner : dispatchOnceInner proto none b = ⟨b.report.success, b.report.results⟩ := by
    cases proto <;> rfl
  rw [hkeeps, dispatchOnce, hinner]
  split_ifs
  · exact names_errorAttemptProto none
  · exact names_errorAttemptProto none
  · exact names_report b.report

/-- An attempt with a payload has no cap. -/
lemma dispatchOnce_of_payload (h : hasPayload proto = true) (payloadSz : Option ℕ) :
    dispatchOnce proto payloadSz b =
      if isH3Mode proto.name && !b.offersH3 then errorAttemptProto
      else dispatchOnceInner proto payloadSz b := by
  have hshort : isShort proto = false := by
    cases proto <;> first | rfl | exact absurd h (by decide)
  rw [dispatchOnce, hshort]
  simp

/-- A throughput probe over HTTP, where the target offers what it needs. -/
lemma names_http {patch : Response → HttpResult}
    (hkeeps : keepsSize proto (some sz) b = (sz == 0 || b.answers proto))
    (hpayload : hasPayload proto = true)
    (hprobe : Patched patch b.exchange (dispatchOnceInner proto (some sz) b))
    (hpatch : ∀ r, (patch r).payloadBytes = sz) :
    Names (some sz) (keepsSize proto (some sz) b) (dispatchOnce proto (some sz) b) := by
  rw [hkeeps, dispatchOnce_of_payload hpayload, Behaviour.answers]
  split_ifs with h
  · rw [Bool.and_eq_true, Bool.not_eq_true'] at h
    rw [h.1, h.2]
    simpa using names_errorAttemptProto (some sz)
  · have hoffers : (b.offersH3 || !isH3Mode proto.name) = true := by
      revert h
      cases b.offersH3 <;> cases isH3Mode proto.name <;> decide
    rw [hoffers, Bool.true_and]
    exact hprobe.names hpatch

/-- An attempt that succeeds names the size of its task, and one that fails does as long as its
results keep it. -/
theorem dispatchOnce_names (payloadSz : Option ℕ) (h : payloadSz.isSome = hasPayload proto) :
    Names payloadSz (keepsSize proto payloadSz b) (dispatchOnce proto payloadSz b) := by
  cases payloadSz with
  | none => exact names_dispatchOnce_none h.symm
  | some sz =>
      have hdownload : ∀ bound, Patched (patchThroughput sz) b.exchange
          (verifyDownload sz (patched (patchThroughput sz) (Exchange.probe bound) b.exchange)) :=
        fun bound => (patched_patched _ bound _).verifyDownload sz
      have hupload : ∀ bound, Patched (patchUploadThroughput sz) b.exchange
          (verifyUpload sz b.exchange.receivedBytes
            (patched (patchUploadThroughput sz) (Exchange.probe bound) b.exchange)) :=
        fun bound => (patched_patched _ bound _).verifyUpload sz _
      cases proto
      case download => exact names_http rfl rfl (hdownload 400) fun _ => rfl
      case download1 => exact names_http rfl rfl (hdownload 400) fun _ => rfl
      case download2 => exact names_http rfl rfl (hdownload 400) fun _ => rfl
      case download3 => exact names_http rfl rfl (hdownload 500) fun _ => rfl
      case upload => exact names_http rfl rfl (hupload 400) fun _ => rfl
      case upload1 => exact names_http rfl rfl (hupload 400) fun _ => rfl
      case upload2 => exact names_http rfl rfl (hupload 400) fun _ => rfl
      case upload3 => exact names_http rfl rfl (hupload 500) fun _ => rfl
      case webUpload =>
        exact names_http rfl rfl ((patched_patched _ 400 _).verifyUpload sz _) fun _ => rfl
      case webDownload => exact names_runWebdownloadProbe sz b.exchange
      case udpDownload => exact names_runUdpdownloadProbe sz b.transfer
      case udpUpload => exact names_runUdpuploadProbe sz b.transfer
      all_goals exact absurd (show true = false from h) (by decide)

end DispatchOnce

end Dispatch

end Networker
