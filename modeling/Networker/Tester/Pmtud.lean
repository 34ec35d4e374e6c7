/-
The path-MTU probe (`networker-tester/src/runner/pmtud.rs`, the Linux platform module).

* `SizeClass`, `Evidence`, `searchLargestFit`: the binary search and what it keeps, for any
  classifier of sizes;
* `SockExtendedErr`, `classifyErr`: what an entry of the error queue says;
* `Host`, `Socket`: the kernel, and the connected socket with its two queues, what is still
  to arrive, the probes sent and the answers taken;
* `readErrqueue`, `drainAll`, `sendDraining`, `waitFeedback`: the calls of the probe;
* `Prober`, `classify`, `discoverBlocking`, `runPmtudProbe`: the probe, once its target is
  resolved and its socket is connected.
-/
import Networker.Concurrency.Inbox

namespace Networker

open Concurrency

namespace Pmtud

/-! ### The search -/

/-- What one probe size told us. -/
inductive SizeClass
  | fit
  | silent
  | tooBig (mtu : Option ℕ) (wireIcmp : Bool)
  deriving DecidableEq

/-- The size is taken for the new lower end. -/
def SizeClass.accepted : SizeClass → Bool
  | .tooBig _ _ => false
  | _ => true

/-- The flags of the search. -/
structure Evidence where
  confirmedSeen : Bool
  wireIcmpSeen : Bool
  boundFound : Bool
  icmpMtu : Option ℕ
  deriving DecidableEq

/-- `note`. -/
def Evidence.note (e : Evidence) : SizeClass → Evidence
  | .fit => { e with confirmedSeen := true }
  | .silent => e
  | .tooBig mtu true =>
      { e with
        boundFound := true
        wireIcmpSeen := true
        icmpMtu := mtu.elim e.icmpMtu fun m => some (e.icmpMtu.elim m (min m)) }
  | .tooBig _ false => { e with boundFound := true }

/-- The upper end below a size that is too big. -/
def bound (header hi size : ℕ) (mtu : Option ℕ) : ℕ :=
  mtu.elim (min hi (size - 1)) fun m => min (min hi (size - 1)) (m - header)

/-- `SearchOutcome`. -/
structure SearchOutcome where
  largestFit : Option ℕ
  evidence : Evidence

section Search

variable {σ : Type} (header : ℕ) (classify : ℕ → σ → Except String (SizeClass × σ))

/-- The working floor: the first of the candidates that is not too big. -/
def workingFloor : List ℕ → ℕ → Evidence → σ → Except String (Option ℕ × ℕ × Evidence × σ)
  | [], hi, e, s => .ok (none, hi, e, s)
  | c :: cs, hi, e, s =>
      match classify c s with
      | .error msg => .error msg
      | .ok (.tooBig mtu wire, s) =>
          workingFloor cs (bound header hi c mtu) (e.note (.tooBig mtu wire)) s
      | .ok (cl, s) => .ok (some c, hi, e.note cl, s)

/-- The search in between: every step leaves less, so `hi - lo` steps are enough. -/
def bisect : ℕ → ℕ → ℕ → Evidence → σ → Except String (ℕ × Evidence × σ)
  | 0, lo, _, e, s => .ok (lo, e, s)
  | n + 1, lo, hi, e, s =>
      if lo < hi then
        let mid := lo + (hi - lo + 1) / 2
        match classify mid s with
        | .error msg => .error msg
        | .ok (.tooBig mtu wire, s) =>
            bisect n lo (bound header hi mid mtu) (e.note (.tooBig mtu wire)) s
        | .ok (cl, s) => bisect n mid hi (e.note cl) s
      else .ok (lo, e, s)

/-- `search_largest_fit`. -/
def searchLargestFit (floor ceil : ℕ) (s : σ) : Except String (SearchOutcome × σ) :=
  match workingFloor header classify [floor, 32] ceil ⟨false, false, false, none⟩ s with
  | .error msg => .error msg
  | .ok (none, _, e, s) => .ok (⟨none, e⟩, s)
  | .ok (some lo, hi, e, s) =>
      match bisect header classify (hi - lo) lo hi e s with
      | .error msg => .error msg
      | .ok (lo, e, s) => .ok (⟨some lo, e⟩, s)

end Search

/-! ### The error queue -/

/-- `libc::sock_extended_err`, as far as it is read. -/
structure SockExtendedErr where
  errno : ℕ
  origin : ℕ
  type : ℕ
  code : ℕ
  info : ℕ
  deriving DecidableEq

/-- What an entry of the error queue says. -/
inductive ErrEntry
  | frag (mtu : Option ℕ) (wireIcmp : Bool)
  | portUnreach
  | other
  deriving DecidableEq

/-- `SO_EE_ORIGIN_ICMP`. -/
def originIcmp : ℕ := 2

/-- `SO_EE_ORIGIN_ICMP6`. -/
def originIcmp6 : ℕ := 3

/-- `ECONNREFUSED`. -/
def econnrefused : ℕ := 111

/-- `EMSGSIZE`. -/
def emsgsize : ℕ := 90

/-- `classify_err`. -/
def classifyErr (ee : SockExtendedErr) : ErrEntry :=
  let mtu := if 0 < ee.info then some ee.info else none
  if ee.origin = originIcmp then
    if ee.type = 3 ∧ ee.code = 4 then .frag mtu true
    else if ee.type = 3 ∧ ee.code = 3 then .portUnreach
    else .other
  else if ee.origin = originIcmp6 then
    if ee.type = 2 then .frag mtu true
    else if ee.type = 1 ∧ ee.code = 4 then .portUnreach
    else .other
  else if ee.errno = econnrefused then .portUnreach
  else if ee.errno = emsgsize then .frag mtu false
  else .other

/-! ### The socket -/

/-- A probe, or the echo of one: the stamped sequence number and the size of the payload. -/
structure Probe where
  seq : ℕ
  size : ℕ
  deriving DecidableEq

/-- What arrives: the echo of a probe, or an entry of the error queue, with or without the
control message that describes the error. -/
inductive Feed
  | echo (p : Probe)
  | error (ee : Option SockExtendedErr)
  deriving DecidableEq

/-- The echo that arrives. -/
def Feed.echo? : Feed → Option Probe
  | .echo p => some p
  | .error _ => none

/-- The error that arrives. -/
def Feed.error? : Feed → Option (Option SockExtendedErr)
  | .echo _ => none
  | .error ee => some ee

/-- What `send` returns. -/
inductive SendReturn
  | ok
  | emsgsize
  | econnrefused
  | failed (e : String)
  deriving DecidableEq

/-- The kernel: how long a call takes, what a send of a size returns, and the path MTU it
keeps for the socket; calls are counted. -/
structure Host where
  took : ℕ → ℕ
  sends : ℕ → ℕ → SendReturn
  kernelMtu : ℕ → Option ℕ

/-- What the probe takes for the delivery of its last datagram. -/
inductive Answer
  | echo (p : Probe)
  | portUnreach
  deriving DecidableEq

/-- The connected socket. -/
structure Socket where
  now : ℤ
  calls : ℕ
  /-- The receive queue. -/
  data : List Probe
  /-- The error queue. -/
  errors : List (Option SockExtendedErr)
  /-- What has not arrived. -/
  rest : List (Arrival Feed)
  /-- The probes sent, the last one first. -/
  sent : List (Arrival Probe)
  /-- The answers taken, each with the size of the probe sent last at that time. -/
  heard : List (ℕ × Answer)
  deriving DecidableEq

namespace Socket

/-- A new socket. -/
def fresh (t : ℤ) (inbox : List (Arrival Feed)) : Socket := ⟨t, 0, [], [], inbox, [], []⟩

/-- What has arrived by now is queued. -/
def arrive (s : Socket) : Socket :=
  let come := s.rest.takeWhile fun a => decide (a.time ≤ s.now)
  { s with
    data := s.data ++ come.filterMap fun a => a.item.echo?
    errors := s.errors ++ come.filterMap fun a => a.item.error?
    rest := s.rest.dropWhile fun a => decide (a.time ≤ s.now) }

/-- A call takes its time. -/
def tick (h : Host) (s : Socket) : Socket :=
  arrive { s with now := s.now + h.took s.calls, calls := s.calls + 1 }

/-- The size of the probe sent last. -/
def probed (s : Socket) : ℕ := s.sent.head?.elim 0 fun a => a.item.size

/-- An answer is taken for the delivery of the probe sent last. -/
def hear (s : Socket) (a : Answer) : Socket := { s with heard := (s.probed, a) :: s.heard }

end Socket

/-- `read_errqueue`; `none` where the queue is empty. -/
def readErrqueue (h : Host) (s : Socket) : Option ErrEntry × Socket :=
  let s := s.tick h
  match s.errors with
  | [] => (none, s)
  | ee :: rest => (some (ee.elim .other classifyErr), { s with errors := rest })

/-- `drain_all`, with the number of reads that are left. -/
def drainAll (h : Host) : ℕ → Socket → Socket
  | 0, s => s
  | n + 1, s =>
      match readErrqueue h s with
      | (none, s) => s
      | (some _, s) => drainAll h n s

/-- `SendOutcome`. -/
inductive SendOutcome
  | sent
  | emsgsize
  | fatal (msg : String)
  deriving DecidableEq

/-- `send_draining`, with the number of tries that are left. -/
def sendDraining (h : Host) (p : Probe) : ℕ → Socket → SendOutcome × Socket
  | 0, s => (.fatal "UDP send kept failing with pending async errors", s)
  | n + 1, s =>
      let s' := s.tick h
      match h.sends s.calls p.size with
      | .ok => (.sent, { s' with sent := ⟨s'.now, p⟩ :: s'.sent })
      | .emsgsize => (.emsgsize, s')
      | .econnrefused => sendDraining h p n (drainAll h 64 s')
      | .failed e => (.fatal ("UDP send failed: " ++ e), s')

/-- `Feedback`. -/
inductive Feedback
  | echo
  | portUnreach
  | fragNeeded (mtu : Option ℕ) (wireIcmp : Bool)
  | nothing
  deriving DecidableEq

/-- The calls of `poll` up to an event or the deadline. -/
def Socket.poll (deadline : ℤ) (s : Socket) : Socket :=
  if s.data ≠ [] ∨ s.errors ≠ [] then s
  else match s.rest with
    | a :: _ =>
        if a.time < deadline then { s with now := max s.now a.time }.arrive
        else { s with now := deadline }
    | [] => { s with now := deadline }

/-- The loop of `wait_feedback`.  A round before the deadline takes something off a queue. -/
def waitUntil (h : Host) (deadline : ℤ) : ℕ → Socket → Feedback × Socket
  | 0, s => (.nothing, s)
  | n + 1, s =>
      if deadline ≤ s.now then (.nothing, s) else
        let polled := s.poll deadline
        -- the error queue first
        match readErrqueue h polled with
        | (some (.frag mtu wireIcmp), s) => (.fragNeeded mtu wireIcmp, s)
        | (some .portUnreach, s) => (.portUnreach, s.hear .portUnreach)
        | (some .other, s) => waitUntil h deadline n s
        | (none, s) =>
            match polled.data, s.data with
            -- any datagram is taken for an echo, whatever it carries
            | _ :: _, p :: data =>
                let s := { s with data }
                if 0 < p.size then (.echo, s.hear (.echo p)) else waitUntil h deadline n s
            | _, _ => waitUntil h deadline n s

/-- `wait_feedback`. -/
def waitFeedback (h : Host) (timeoutMs : ℕ) (s : Socket) : Feedback × Socket :=
  waitUntil h (s.now + millis (max timeoutMs 1))
    (s.data.length + s.errors.length + s.rest.length + 2) s

/-! ### The probe -/

/-- `PMTUD_ICMP_WAIT_CAP_MS`. -/
def pmtudIcmpWaitCapMs : ℕ := 300

/-- How delivery got confirmed. -/
inductive ConfirmKind
  | udpEcho
  | portUnreach
  deriving DecidableEq

/-- `ConfirmKind::label`. -/
def ConfirmKind.label : ConfirmKind → String
  | .udpEcho => "udp-echo"
  | .portUnreach => "port-unreach"

/-- `PmtudProbeConfig`, without the target. -/
structure PmtudProbeConfig where
  probeTimeoutMs : ℕ := 1000
  retriesPerSize : ℕ := 2
  maxMtu : ℕ := 9216

/-- What `discover_blocking` keeps. -/
structure Prober where
  socket : Socket
  probesSent : ℕ
  confirmKind : Option ConfirmKind
  seq : ℕ

/-- `confirm_kind.get_or_insert`. -/
def Prober.confirm (k : ConfirmKind) (s : Prober) : Prober :=
  { s with confirmKind := some (s.confirmKind.getD k) }

section Probing

variable (h : Host) (timeoutMs retries : ℕ)

/-- The tries of the classifier for one size. -/
def tries (payload : ℕ) (confirmedMode : Bool) (waitMs : ℕ) :
    ℕ → Prober → Except String (SizeClass × Prober)
  | 0, s =>
      -- confirmations flowed at other sizes but not at this one
      .ok (if confirmedMode then .tooBig none false else .silent, s)
  | n + 1, s =>
      let seq := (s.seq + 1) % 2 ^ 32
      -- stale errors must not be credited to this probe
      match sendDraining h ⟨seq, payload⟩ 4 (drainAll h 64 s.socket) with
      | (.fatal msg, _) => .error msg
      | (.emsgsize, socket) =>
          .ok (.tooBig (h.kernelMtu socket.calls) false,
            { s with socket, seq, probesSent := s.probesSent + 1 })
      | (.sent, socket) =>
          let (feedback, socket) := waitFeedback h waitMs socket
          let s := { s with socket, seq, probesSent := s.probesSent + 1 }
          match feedback with
          | .echo => .ok (.fit, s.confirm .udpEcho)
          | .portUnreach => .ok (.fit, s.confirm .portUnreach)
          | .fragNeeded mtu wireIcmp => .ok (.tooBig mtu wireIcmp, s)
          | .nothing => tries payload confirmedMode waitMs n s

/-- The classifier of `discover_blocking`. -/
def classify (payload : ℕ) (s : Prober) : Except String (SizeClass × Prober) :=
  let confirmedMode := s.confirmKind.isSome
  tries h payload confirmedMode
    (if confirmedMode then timeoutMs else min timeoutMs pmtudIcmpWaitCapMs)
    (if confirmedMode then retries + 1 else 1) s

/-- The capability probe at the floor: whether the destination answers at all. -/
def capabilityProbe (floor : ℕ) (socket : Socket) : Prober :=
  let socket := (sendDraining h ⟨0, floor⟩ 4 (drainAll h 64 socket)).2
  let (feedback, socket) := waitFeedback h timeoutMs socket
  { socket
    probesSent := 1
    confirmKind := match feedback with
      | .echo => some .udpEcho
      | .portUnreach => some .portUnreach
      | _ => none
    seq := 0 }

end Probing

/-- `DiscoverOutcome`. -/
structure DiscoverOutcome where
  pathMtu : Option ℕ
  probesSent : ℕ
  method : String
  icmpMtu : Option ℕ
  lowerBoundOnly : Bool
  deriving DecidableEq

/-- The bytes of the IP and UDP headers. -/
def headerBytes (ipv6 : Bool) : ℕ := if ipv6 then 48 else 28

/-- The least MTU of the address family. -/
def floorMtu (ipv6 : Bool) : ℕ := if ipv6 then 1280 else 576

/-- The method of a path MTU that is confirmed in a way. -/
def confirmedMethod (k : ConfirmKind) : String := "df-" ++ k.label ++ "/ip-recverr"

/-- The verdict for each class of evidence. -/
def verdict (header ceil : ℕ) (out : SearchOutcome) (s : Prober) : DiscoverOutcome where
  pathMtu :=
    if s.confirmKind.isSome ∨ out.evidence.wireIcmpSeen then out.largestFit.map (· + header)
    else none
  probesSent := s.probesSent
  method := match s.confirmKind with
    | some k => confirmedMethod k
    | none => if out.evidence.wireIcmpSeen then "df-icmp/ip-recverr" else "df-no-feedback"
  icmpMtu := out.evidence.icmpMtu
  lowerBoundOnly := s.confirmKind.isSome && out.largestFit == some ceil
    && !out.evidence.boundFound && out.evidence.confirmedSeen

/-- `discover_blocking`, with the state in which it ends. -/
def discoverBlocking (h : Host) (ipv6 : Bool) (timeoutMs retries maxMtu : ℕ) (socket : Socket) :
    Except String (DiscoverOutcome × Prober) :=
  let header := headerBytes ipv6
  let floor := floorMtu ipv6 - header
  let ceil := max (maxMtu - header) floor
  match searchLargestFit header (classify h timeoutMs retries) floor ceil
      (capabilityProbe h timeoutMs floor socket) with
  | .error msg => .error msg
  | .ok (out, s) => .ok (verdict header ceil out s, s)

/-- `PmtudResult`, without the addresses and the context. -/
structure PmtudResult where
  pathMtu : Option ℕ
  maxUnfragmentedPayload : Option ℕ
  probesSent : ℕ
  method : String
  icmpMtu : Option ℕ
  headerBytes : ℕ
  lowerBoundOnly : Bool
  deriving DecidableEq

/-- `run_pmtud_probe`, with the state in which it ends. -/
def runPmtudProbe (cfg : PmtudProbeConfig) (h : Host) (ipv6 : Bool) (t : ℤ)
    (inbox : List (Arrival Feed)) : Except String (PmtudResult × Prober) :=
  match discoverBlocking h ipv6 (max cfg.probeTimeoutMs 1) cfg.retriesPerSize
      (min (max cfg.maxMtu 576) 65535) (.fresh t inbox) with
  | .error msg => .error msg
  | .ok (d, s) => .ok
      ({ pathMtu := d.pathMtu
         maxUnfragmentedPayload := d.pathMtu.map (· - Pmtud.headerBytes ipv6)
         probesSent := d.probesSent
         method := d.method
         icmpMtu := d.icmpMtu
         headerBytes := Pmtud.headerBytes ipv6
         lowerBoundOnly := d.lowerBoundOnly }, s)

/-- The error of an attempt without a path MTU. -/
def noPathEvidence (r : PmtudResult) : Option String :=
  if r.pathMtu.isSome then none else some
    ("No path evidence: no echo replies and no wire ICMP across " ++ toString r.probesSent ++
      " DF probes (local send limits alone are not path evidence) — silent path or ICMP " ++
      "black hole (" ++ r.method ++ ")")

end Pmtud

end Networker
