/-
The hop trace of the path probe on Linux (`crates/networker-tester/src/runner/path.rs`,
`linux_impl`).

* `IcmpError`, `classify`: an entry of the error queue of the socket, and what it tells;
* `TraceState`, `PathTrace.exec`: the trace between two looks at its clock or its queue, with
  what was sent and what has come back;
* `pathTrace`: the trace, the errors that arrive and the time that passes, in any order;
* `FaithfulTrace`: what is reported was answered to the probe it is reported for;
* `Attributable`, `Timely`: an error is read in the window of its own probe;
* `trace_faithful_of_timely`: then the trace is faithful;
* `along_timely_of_prompt`: errors that do not outlive their window are read in it.

Times are in nanoseconds. All probes are sent from one socket to one port, so that an entry
of the queue does not show which probe has caused it.
-/
import Networker.Concurrency.Machine

namespace Networker

open Concurrency

namespace PathProbe

/-! ### The error queue -/

/-- An entry of the error queue (`sock_extended_err` with its offender), the TTL of the probe
that has caused it, and the host that answered. -/
structure IcmpError where
  cause : ℕ
  answerer : String
  origin : UInt8
  type : UInt8
  code : UInt8
  errno : UInt32
  offender : Option String
  deriving DecidableEq

/-- `IcmpEvent`. -/
inductive IcmpEvent
  | timeExceeded (offender : Option String)
  | destinationReached
  | unreachable (offender : Option String)
  deriving DecidableEq

/-- `SO_EE_ORIGIN_ICMP`. -/
def originIcmp : UInt8 := 2

/-- `SO_EE_ORIGIN_ICMP6`. -/
def originIcmp6 : UInt8 := 3

/-- `ECONNREFUSED`. -/
def econnrefused : UInt32 := 111

/-- `classify`. -/
def classify (ee : IcmpError) : IcmpEvent :=
  if ee.origin = originIcmp then
    if ee.type = 11 then .timeExceeded ee.offender
    else if ee.type = 3 ∧ ee.code = 3 then .destinationReached
    else .unreachable ee.offender
  else if ee.origin = originIcmp6 then
    if ee.type = 3 then .timeExceeded ee.offender
    else if ee.type = 1 ∧ ee.code = 4 then .destinationReached
    else .unreachable ee.offender
  -- the loopback fast path refuses without an ICMP message
  else if ee.errno = econnrefused then .destinationReached
  else .unreachable none

/-! ### The trace -/

/-- `PathHop`, with the round-trip time in nanoseconds. -/
structure PathHop where
  index : ℕ
  addr : Option String
  rtt : Option ℕ
  deriving DecidableEq

/-- The arguments of `trace_blocking`, with the budget as a point in time. -/
structure TraceConfig where
  addr : String
  maxTtl : ℕ
  perHopTimeout : ℕ
  budgetDeadline : Option ℕ

/-- A probe that the trace waits for. -/
structure Window where
  ttl : ℕ
  sentAt : ℕ
  deadline : ℕ
  deriving DecidableEq

/-- Where the trace stands. -/
inductive Control
  /-- In front of the check of the budget. -/
  | probe (ttl : ℕ)
  | send (ttl : ℕ)
  /-- In front of the check of the deadline, and of `poll`. -/
  | poll (w : Window)
  | drain (w : Window)
  /-- With an entry in hand. -/
  | report (w : Window) (ee : IcmpError)
  | finished
  /-- `set_ttl` failed, and the trace with it. -/
  | failed
  deriving DecidableEq

structure TraceState where
  clock : ℕ
  control : Control
  queue : List IcmpError := []
  hops : List PathHop := []
  destinationReached : Bool := false
  destinationRtt : Option ℕ := none
  hopCount : Option ℕ := none
  probedTtls : ℕ := 0
  budgetTruncated : Bool := false
  /-- The probes that were sent, and when. -/
  sentAt : List (ℕ × ℕ) := []
  /-- The errors that have come back, and when. -/
  arrived : List (IcmpError × ℕ) := []

/-- `TraceOutcome`. -/
structure TraceOutcome where
  hops : List PathHop
  hopCount : Option ℕ
  destinationReached : Bool
  destinationRtt : Option ℕ
  probedTtls : ℕ
  budgetTruncated : Bool

/-- What the trace reports: no hops at all where nothing answered. -/
def TraceState.outcome (s : TraceState) : TraceOutcome where
  hops := if !s.destinationReached && s.hops.all (·.addr.isNone) then [] else s.hops
  hopCount := s.hopCount
  destinationReached := s.destinationReached
  destinationRtt := s.destinationRtt
  probedTtls := s.probedTtls
  budgetTruncated := s.budgetTruncated

/-- What happens next. -/
inductive TraceMove
  /-- The trace goes on; `ok` says whether the system call there succeeds, if there is one. -/
  | step (ok : Bool)
  | arrive (ee : IcmpError)
  | elapse (d : ℕ)

section Trace

variable (cfg : TraceConfig)

namespace TraceState

variable (s : TraceState)

/-- A hop is added, and the trace goes on with the next TTL, or ends. -/
def push (hop : PathHop) (control : Control) : TraceState :=
  { s with hops := s.hops ++ [hop], control := control }

/-- A hop that did not answer. -/
def silent (w : Window) : TraceState := s.push ⟨w.ttl, none, none⟩ (.probe (w.ttl + 1))

/-- A probe goes out. -/
def sendProbe (ttl : ℕ) : TraceState :=
  let deadline := s.clock + cfg.perHopTimeout
  { s with control := .poll ⟨ttl, s.clock, (cfg.budgetDeadline.elim deadline (min deadline ·))⟩
           sentAt := (ttl, s.clock) :: s.sentAt }

/-- What the trace makes of an entry. -/
def handle (w : Window) (ee : IcmpError) : TraceState :=
  let rtt := s.clock - w.sentAt
  match classify ee with
  | .timeExceeded offender => s.push ⟨w.ttl, offender, some rtt⟩ (.probe (w.ttl + 1))
  | .destinationReached =>
      { s.push ⟨w.ttl, some cfg.addr, some rtt⟩ .finished with
        destinationReached := true, destinationRtt := some rtt, hopCount := some w.ttl }
  | .unreachable offender => s.push ⟨w.ttl, offender, some rtt⟩ .finished

/-- The trace goes on. -/
def advance (ok : Bool) : TraceState :=
  match s.control with
  | .probe ttl =>
      if cfg.maxTtl < ttl then { s with control := .finished }
      else if cfg.budgetDeadline.any (· ≤ s.clock) then
        { s with control := .finished, budgetTruncated := true }
      else { s with control := .send ttl, probedTtls := ttl }
  | .send ttl => if ok then s.sendProbe cfg ttl else { s with control := .failed }
  | .poll w =>
      if w.deadline ≤ s.clock ∨ ok = false then s.silent w else { s with control := .drain w }
  | .drain w =>
      match s.queue with
      | [] => { s with control := .poll w }
      | ee :: rest => { s with control := .report w ee, queue := rest }
  | .report w ee => s.handle cfg w ee
  | .finished | .failed => s

end TraceState

/-- What a move does. -/
def PathTrace.exec : TraceMove → TraceState → TraceState
  | .step ok, s => s.advance cfg ok
  | .arrive ee, s => { s with queue := s.queue ++ [ee], arrived := (ee, s.clock) :: s.arrived }
  | .elapse d, s => { s with clock := s.clock + d }

/-- An error has been caused by a probe that was sent, and shows no other host than the one
that answered. -/
def PathTrace.can : TraceMove → TraceState → Bool
  | .arrive ee, s => s.sentAt.any (·.1 == ee.cause) && ee.offender.all (· == ee.answerer)
  | _, _ => true

/-- A trace, in a network that answers when and as it likes. -/
def pathTrace : Machine TraceMove TraceState := .of (PathTrace.exec cfg) PathTrace.can

/-- Before the first probe. -/
def TraceState.start (clock : ℕ) : TraceState where
  clock := clock
  control := .probe 1

/-! ### What is promised -/

/-- The hop was reported by the answer to the probe with its TTL, and its round-trip time is
counted from the sending of that probe until the answer was there. -/
def HopFaithful (s : TraceState) (hop : PathHop) : Prop :=
  ∀ a ∈ hop.addr, ∃ answer ∈ s.arrived, answer.1.cause = hop.index ∧ answer.1.answerer = a ∧
    ∃ probe ∈ s.sentAt, probe.1 = hop.index ∧
      ∃ rtt ∈ hop.rtt, answer.2 ≤ probe.2 + rtt ∧ probe.2 + rtt ≤ s.clock

/-- The destination has answered the probe with the TTL. -/
def CountFaithful (s : TraceState) (ttl : ℕ) : Prop :=
  ∃ answer ∈ s.arrived, answer.1.cause = ttl ∧ answer.1.answerer = cfg.addr ∧
    classify answer.1 = .destinationReached

/-- Every hop that is reported is the router of its own TTL. -/
structure FaithfulTrace (s : TraceState) : Prop where
  hops : ∀ hop ∈ s.outcome.hops, HopFaithful s hop
  hopCount : ∀ ttl ∈ s.outcome.hopCount, CountFaithful cfg s ttl

instance (s : TraceState) (hop : PathHop) : Decidable (HopFaithful s hop) :=
  inferInstanceAs (Decidable (∀ a ∈ hop.addr, ∃ answer ∈ s.arrived, _ ∧ _ ∧
    ∃ probe ∈ s.sentAt, _ ∧ ∃ rtt ∈ hop.rtt, _))

/-- The address that is reported for an entry. -/
def reportedAddr (ee : IcmpError) : Option String :=
  match classify ee with
  | .timeExceeded offender => offender
  | .destinationReached => some cfg.addr
  | .unreachable offender => offender

/-- An entry that shows an address was caused by the probe of the TTL, and what counts as the
destination is the destination. -/
def Attributable (ttl : ℕ) (ee : IcmpError) : Prop :=
  reportedAddr cfg ee = none ∨
    (ee.cause = ttl ∧ (classify ee = .destinationReached → ee.answerer = cfg.addr))

instance (ttl : ℕ) (ee : IcmpError) : Decidable (Attributable cfg ttl ee) :=
  inferInstanceAs (Decidable (_ ∨ _ ∧ (_ → _)))

/-- The entry that the trace is about to read was caused by the probe it waits for. -/
def Timely (l : TraceMove) (s : TraceState) : Prop :=
  match l, s.control with
  | .step _, .drain w => ∀ ee ∈ s.queue.head?, Attributable cfg w.ttl ee
  | _, _ => True

instance : ∀ (l : TraceMove) (s : TraceState), Decidable (Timely cfg l s)
  | .step _, ⟨_, .drain w, queue, _, _, _, _, _, _, _, _⟩ =>
      inferInstanceAs (Decidable (∀ ee ∈ queue.head?, Attributable cfg w.ttl ee))
  | .step _, ⟨_, .probe _, _, _, _, _, _, _, _, _, _⟩ => isTrue trivial
  | .step _, ⟨_, .send _, _, _, _, _, _, _, _, _, _⟩ => isTrue trivial
  | .step _, ⟨_, .poll _, _, _, _, _, _, _, _, _, _⟩ => isTrue trivial
  | .step _, ⟨_, .report _ _, _, _, _, _, _, _, _, _, _⟩ => isTrue trivial
  | .step _, ⟨_, .finished, _, _, _, _, _, _, _, _, _⟩ => isTrue trivial
  | .step _, ⟨_, .failed, _, _, _, _, _, _, _, _, _⟩ => isTrue trivial
  | .arrive _, _ => isTrue trivial
  | .elapse _, _ => isTrue trivial

/-! ### One move -/

variable {cfg} {s s' : TraceState}

/-- Nothing that was sent or has come back is forgotten. -/
structure Grows (s s' : TraceState) : Prop where
  arrived : s.arrived ⊆ s'.arrived
  sentAt : s.sentAt ⊆ s'.sentAt
  clock : s.clock ≤ s'.clock

lemma Grows.hopFaithful (h : Grows s s') {hop : PathHop} (hhop : HopFaithful s hop) :
    HopFaithful s' hop := by
  intro a ha
  obtain ⟨answer, hanswer, hcause, hrouter, probe, hprobe, httl, rtt, hrtt, hback, hclock⟩ :=
    hhop a ha
  exact ⟨answer, h.arrived hanswer, hcause, hrouter, probe, h.sentAt hprobe, httl, rtt, hrtt,
    hback, hclock.trans h.clock⟩

lemma Grows.countFaithful (h : Grows s s') {ttl : ℕ} (hcount : CountFaithful cfg s ttl) :
    CountFaithful cfg s' ttl := by
  obtain ⟨answer, hanswer, hrest⟩ := hcount
  exact ⟨answer, h.arrived hanswer, hrest⟩

/-- The probe that the trace waits for. -/
def Control.window? : Control → Option Window
  | poll w | drain w | report w _ => some w
  | _ => none

/-- The error has come back. -/
def HasArrived (s : TraceState) (ee : IcmpError) : Prop :=
  ∃ t ≤ s.clock, (ee, t) ∈ s.arrived

lemma Grows.hasArrived (h : Grows s s') {ee : IcmpError} (hee : HasArrived s ee) :
    HasArrived s' ee := by
  obtain ⟨t, ht, hmem⟩ := hee
  exact ⟨t, ht.trans h.clock, h.arrived hmem⟩

/-- A trace so far whose entries were all read in their own windows. -/
structure Tracked (cfg : TraceConfig) (s : TraceState) : Prop where
  hops : ∀ hop ∈ s.hops, HopFaithful s hop
  hopCount : ∀ ttl ∈ s.hopCount, CountFaithful cfg s ttl
  queue : ∀ ee ∈ s.queue, HasArrived s ee
  offender : ∀ answer ∈ s.arrived, ∀ a ∈ answer.1.offender, a = answer.1.answerer
  window : ∀ w ∈ s.control.window?, (w.ttl, w.sentAt) ∈ s.sentAt ∧ w.sentAt ≤ s.clock
  report : ∀ w ee, s.control = .report w ee → Attributable cfg w.ttl ee ∧ HasArrived s ee

/-- A move that neither reports nor takes an entry. -/
lemma Tracked.keep (h : Tracked cfg s) (hgrows : Grows s s') (hhops : s'.hops = s.hops)
    (hcount : s'.hopCount = s.hopCount)
    (hqueue : ∀ ee ∈ s'.queue, ee ∈ s.queue ∨ HasArrived s' ee)
    (hoffender : ∀ answer ∈ s'.arrived, ∀ a ∈ answer.1.offender, a = answer.1.answerer)
    (hwindow : ∀ w ∈ s'.control.window?,
      w ∈ s.control.window? ∨ ((w.ttl, w.sentAt) ∈ s'.sentAt ∧ w.sentAt ≤ s'.clock))
    (hreport : ∀ w ee, s'.control = .report w ee → s.control = .report w ee) :
    Tracked cfg s' where
  hops hop hhop := hgrows.hopFaithful (h.hops hop (hhops ▸ hhop))
  hopCount ttl httl := hgrows.countFaithful (h.hopCount ttl (hcount ▸ httl))
  queue ee hee := (hqueue ee hee).elim (fun hold => hgrows.hasArrived (h.queue ee hold)) id
  offender := hoffender
  window w hw := by
    rcases hwindow w hw with hold | hnew
    · obtain ⟨hsent, hclock⟩ := h.window w hold
      exact ⟨hgrows.sentAt hsent, hclock.trans hgrows.clock⟩
    · exact hnew
  report w ee hcontrol := by
    obtain ⟨hattributable, harrived⟩ := h.report w ee (hreport w ee hcontrol)
    exact ⟨hattributable, hgrows.hasArrived harrived⟩

/-- A hop is added behind which no probe is out. -/
lemma Tracked.push (h : Tracked cfg s) {hop : PathHop} {control : Control}
    (hhop : HopFaithful s hop) (hcontrol : control.window? = none) :
    Tracked cfg (s.push hop control) where
  hops hop' hhop' := by
    rcases List.mem_append.mp hhop' with hold | hnew
    · exact h.hops hop' hold
    · exact List.mem_singleton.mp hnew ▸ hhop
  hopCount := h.hopCount
  queue := h.queue
  offender := h.offender
  window w hw := absurd (hcontrol.symm.trans hw) nofun
  report w ee heq := by
    have hcontrol' : control = .report w ee := heq
    rw [hcontrol'] at hcontrol
    exact absurd hcontrol nofun

/-- An address that is reported is that of the destination, or that of the offender. -/
lemma reportedAddr_eq_some {ee : IcmpError} {a : String} (h : reportedAddr cfg ee = some a) :
    (classify ee = .destinationReached ∧ cfg.addr = a) ∨ ee.offender = some a := by
  rw [reportedAddr] at h
  by_cases hreached : classify ee = .destinationReached
  · rw [hreached] at h
    exact Or.inl ⟨hreached, Option.some.inj h⟩
  · refine Or.inr ?_
    rw [classify] at h hreached
    split_ifs at h hreached <;> first | exact h | exact absurd rfl hreached

/-- The hop that an attributable entry makes. -/
lemma Tracked.hopFaithful (h : Tracked cfg s) {w : Window} {ee : IcmpError}
    (hcontrol : s.control = .report w ee) :
    HopFaithful s ⟨w.ttl, reportedAddr cfg ee, some (s.clock - w.sentAt)⟩ := by
  intro a ha
  obtain ⟨hattributable, t, ht, harrived⟩ := h.report w ee hcontrol
  obtain ⟨hsent, hclock⟩ := h.window w (by rw [hcontrol]; rfl)
  have haddr : reportedAddr cfg ee = some a := ha
  obtain ⟨hcause, hreached⟩ := hattributable.resolve_left (by rw [haddr]; exact nofun)
  refine ⟨(ee, t), harrived, hcause, ?_, (w.ttl, w.sentAt), hsent, rfl, _, rfl, ?_, ?_⟩
  · rcases reportedAddr_eq_some haddr with ⟨hclass, rfl⟩ | hoffender
    · exact hreached hclass
    · exact (h.offender _ harrived a hoffender).symm
  · show t ≤ w.sentAt + (s.clock - w.sentAt)
    omega
  · show w.sentAt + (s.clock - w.sentAt) ≤ s.clock
    omega

/-- What is made of an attributable entry. -/
lemma Tracked.handle (h : Tracked cfg s) {w : Window} {ee : IcmpError}
    (hcontrol : s.control = .report w ee) : Tracked cfg (s.handle cfg w ee) := by
  have hhop := h.hopFaithful hcontrol
  rw [TraceState.handle]
  rw [reportedAddr] at hhop
  cases hclass : classify ee with
  | timeExceeded offender =>
      rw [hclass] at hhop
      exact h.push hhop rfl
  | unreachable offender =>
      rw [hclass] at hhop
      exact h.push hhop rfl
  | destinationReached =>
      rw [hclass] at hhop
      have hpushed := @Tracked.push _ _ h _ .finished hhop rfl
      refine ⟨hpushed.hops, fun ttl httl => ?_, hpushed.queue, hpushed.offender, hpushed.window,
        hpushed.report⟩
      obtain rfl := Option.some.inj httl
      obtain ⟨hattributable, t, -, harrived⟩ := h.report w ee hcontrol
      have haddr : reportedAddr cfg ee ≠ none := by
        rw [reportedAddr, hclass]
        exact nofun
      obtain ⟨hcause, hreached⟩ := hattributable.resolve_left haddr
      exact ⟨(ee, t), harrived, hcause, hreached hclass, hclass⟩

/-- A change of the control alone. -/
lemma Tracked.goto (h : Tracked cfg s) {control : Control} {probed : ℕ} {truncated : Bool}
    (hwindow : ∀ w ∈ control.window?, w ∈ s.control.window?)
    (hreport : ∀ w ee, control = .report w ee → s.control = .report w ee) :
    Tracked cfg { s with control := control, probedTtls := probed, budgetTruncated := truncated } :=
  h.keep ⟨List.Subset.refl _, List.Subset.refl _, le_refl _⟩ rfl rfl (fun _ hee => Or.inl hee)
    h.offender (fun w hw => Or.inl (hwindow w hw)) hreport

/-- The trace goes on, reading only entries of its window. -/
lemma Tracked.advance (h : Tracked cfg s) {ok : Bool} (hok : Timely cfg (.step ok) s) :
    Tracked cfg (s.advance cfg ok) := by
  rw [TraceState.advance]
  cases hcontrol : s.control with
  | finished => exact h
  | failed => exact h
  | report w ee => exact h.handle hcontrol
  | probe ttl =>
      dsimp only
      split_ifs
      · exact h.goto nofun nofun
      · exact h.goto nofun nofun
      · exact h.goto nofun nofun
  | send ttl =>
      dsimp only
      split_ifs
      · refine h.keep ⟨List.Subset.refl _, List.subset_cons_self _ _, le_refl _⟩ rfl rfl
          (fun _ hee => Or.inl hee) h.offender (fun w hw => ?_) nofun
        obtain rfl := Option.some.inj hw
        exact Or.inr ⟨List.mem_cons_self, le_refl _⟩
      · exact h.goto nofun nofun
  | poll w =>
      dsimp only
      split_ifs
      · exact h.push nofun rfl
      · refine h.goto (fun w' hw' => ?_) nofun
        rw [hcontrol]
        exact hw'
  | drain w =>
      have hkept : ∀ w' ∈ some w, w' ∈ s.control.window? := fun w' hw' => by
        rw [hcontrol]
        exact hw'
      cases hqueue : s.queue with
      | nil =>
          exact h.keep ⟨List.Subset.refl _, List.Subset.refl _, le_refl _⟩ rfl rfl
            (fun _ hee => absurd hee List.not_mem_nil) h.offender
            (fun w' hw' => Or.inl (hkept w' hw')) nofun
      | cons ee rest =>
          have hattributable : Attributable cfg w.ttl ee := by
            simp only [Timely, hcontrol, hqueue] at hok
            exact hok ee rfl
          have harrived := h.queue ee (by rw [hqueue]; exact List.mem_cons_self)
          refine ⟨h.hops, h.hopCount, fun e he => h.queue e ?_, h.offender,
            fun w' hw' => h.window w' (hkept w' hw'), fun w' ee' heq => ?_⟩
          · rw [hqueue]
            exact List.mem_cons_of_mem _ he
          · obtain ⟨rfl, rfl⟩ := Control.report.inj heq
            exact ⟨hattributable, harrived⟩

lemma Tracked.exec (h : Tracked cfg s) {l : TraceMove} (hcan : PathTrace.can l s = true)
    (hl : Timely cfg l s) : Tracked cfg (PathTrace.exec cfg l s) := by
  cases l with
  | step ok => exact h.advance hl
  | elapse d =>
      exact h.keep ⟨List.Subset.refl _, List.Subset.refl _, Nat.le_add_right _ _⟩ rfl rfl
        (fun _ hee => Or.inl hee) h.offender (fun _ hw => Or.inl hw) fun _ _ heq => heq
  | arrive ee =>
      have hoffender := ((Bool.and_eq_true _ _).mp hcan).2
      refine h.keep ⟨List.subset_cons_self _ _, List.Subset.refl _, le_refl _⟩ rfl rfl
        (fun e he => ?_) (fun answer hanswer a ha => ?_) (fun _ hw => Or.inl hw)
        fun _ _ heq => heq
      · rcases List.mem_append.mp he with hold | hnew
        · exact Or.inl hold
        · rw [List.mem_singleton.mp hnew]
          exact Or.inr ⟨s.clock, le_refl _, List.mem_cons_self⟩
      · rcases List.mem_cons.mp hanswer with rfl | hold
        · rw [Option.mem_def.mp ha] at hoffender
          simpa using hoffender
        · exact h.offender answer hold a ha

lemma tracked_start (clock : ℕ) : Tracked cfg (.start clock) where
  hops _ hhop := absurd hhop List.not_mem_nil
  hopCount _ httl := absurd httl nofun
  queue _ hee := absurd hee List.not_mem_nil
  offender _ hanswer := absurd hanswer List.not_mem_nil
  window _ hw := absurd hw nofun
  report _ _ heq := absurd heq nofun

lemma Tracked.faithful (h : Tracked cfg s) : FaithfulTrace cfg s where
  hops hop hhop := by
    rw [TraceState.outcome] at hhop
    dsimp only at hhop
    split_ifs at hhop
    · exact absurd hhop List.not_mem_nil
    · exact h.hops hop hhop
  hopCount := h.hopCount

/-- **Each hop is the router of its own TTL.**  Whenever the errors come back, a trace that
reads an error only in the window of the probe that has caused it reports hops that have
answered the probe with their TTL, with the time that this probe took. -/
theorem trace_faithful_of_timely (cfg : TraceConfig) (clock : ℕ) (ls : List TraceMove)
    (timely : (pathTrace cfg).Along (Timely cfg) (.start clock) ls) :
    FaithfulTrace cfg ((pathTrace cfg).run (.start clock) ls) :=
  (Machine.run_inv (I := Tracked cfg) (fun _ _ hcan h hok => h.exec hcan hok)
    (tracked_start clock) ls timely).faithful

end Trace

namespace TwoHops

/-- A destination behind one router. -/
def cfg : TraceConfig :=
  { addr := "203.0.113.9", maxTtl := 2, perHopTimeout := 1000, budgetDeadline := none }

def steps (n : ℕ) : List TraceMove := List.replicate n (.step true)

/-- The router's answer to the first probe. -/
def timeExceeded : IcmpError :=
  ⟨1, "198.51.100.1", originIcmp, 11, 0, 113, some "198.51.100.1"⟩

/-- The destination's answer to the second probe. -/
def portUnreachable : IcmpError :=
  ⟨2, "203.0.113.9", originIcmp, 3, 3, econnrefused, some "203.0.113.9"⟩

def onTime : List TraceMove :=
  steps 2 ++ [.elapse 40, .arrive timeExceeded] ++ steps 5 ++
    [.elapse 70, .arrive portUnreachable] ++ steps 3

example : ((pathTrace cfg).run (.start 0) onTime).outcome.hops =
    [⟨1, some "198.51.100.1", some 40⟩, ⟨2, some "203.0.113.9", some 70⟩] := by
  decide +kernel

theorem trace_faithful_of_timely_onTime :
    FaithfulTrace cfg ((pathTrace cfg).run (.start 0) onTime) :=
  trace_faithful_of_timely cfg 0 onTime (by decide +kernel)

/-- The router answers when the second probe is out. -/
def late : List TraceMove :=
  steps 2 ++ [.elapse 1000] ++ steps 3 ++ [.arrive timeExceeded] ++ steps 3

example : ((pathTrace cfg).run (.start 0) late).outcome.hops =
    [⟨1, none, none⟩, ⟨2, some "198.51.100.1", some 0⟩] := by
  decide +kernel

/-- The answer to the first probe makes the router the second hop. -/
theorem late_error_misattributed :
    ¬ FaithfulTrace cfg ((pathTrace cfg).run (.start 0) late) := by
  intro h
  have hhops : ∀ hop ∈ ((pathTrace cfg).run (.start 0) late).outcome.hops,
      HopFaithful ((pathTrace cfg).run (.start 0) late) hop := h.hops
  revert hhops
  decide +kernel

end TwoHops

section Prompt

variable {cfg : TraceConfig} {s s' : TraceState}

/-! ### Errors that do not outlive their window -/

/-- The last probe that was sent. -/
def TraceState.lastSent (s : TraceState) : Option ℕ := s.sentAt.head?.map (·.1)

variable (cfg) in
/-- No error is left when the next probe is sent, and one that comes back was caused by the
last probe, and by the destination where it counts as such. -/
def Prompt (l : TraceMove) (s : TraceState) : Prop :=
  match l with
  | .step _ => ∀ ttl, s.control = .send ttl → s.queue = []
  | .arrive ee => s.lastSent = some ee.cause ∧
      (classify ee = .destinationReached → ee.answerer = cfg.addr)
  | .elapse _ => True

/-- The errors in the queue were caused by the last probe, which the trace may wait for. -/
structure OnTime (cfg : TraceConfig) (s : TraceState) : Prop where
  queue : ∀ ee ∈ s.queue, s.lastSent = some ee.cause ∧
    (classify ee = .destinationReached → ee.answerer = cfg.addr)
  window : ∀ w ∈ s.control.window?, s.lastSent = some w.ttl

lemma OnTime.timely (h : OnTime cfg s) (l : TraceMove) : Timely cfg l s := by
  cases l with
  | step ok =>
      cases hcontrol : s.control with
      | drain w =>
          simp only [Timely, hcontrol]
          intro ee hee
          obtain ⟨hcause, hreached⟩ := h.queue ee (List.mem_of_mem_head? hee)
          have hwindow := h.window w (by rw [hcontrol]; rfl)
          exact Or.inr ⟨Option.some.inj (hcause.symm.trans hwindow), hreached⟩
      | _ => simp only [Timely, hcontrol]
  | arrive ee => trivial
  | elapse d => trivial

lemma OnTime.goto (h : OnTime cfg s) (hsent : s'.sentAt = s.sentAt) (hqueue : s'.queue ⊆ s.queue)
    (hwindow : ∀ w ∈ s'.control.window?, w ∈ s.control.window?) : OnTime cfg s' := by
  have hlast : s'.lastSent = s.lastSent := congrArg (fun l => l.head?.map Prod.fst) hsent
  refine ⟨fun ee hee => ?_, fun w hw => ?_⟩
  · rw [hlast]
    exact h.queue ee (hqueue hee)
  · rw [hlast]
    exact h.window w (hwindow w hw)

lemma OnTime.advance (h : OnTime cfg s) {ok : Bool} (hl : Prompt cfg (.step ok) s) :
    OnTime cfg (s.advance cfg ok) := by
  have hsame : ∀ {s' : TraceState}, s'.sentAt = s.sentAt → s'.queue = s.queue →
      (∀ w ∈ s'.control.window?, w ∈ s.control.window?) → OnTime cfg s' :=
    fun hsent hqueue => h.goto hsent (by rw [hqueue]; exact List.Subset.refl _)
  rw [TraceState.advance]
  cases hcontrol : s.control with
  | finished => exact h
  | failed => exact h
  | report w ee =>
      dsimp only
      rw [TraceState.handle]
      cases classify ee <;> exact hsame rfl rfl nofun
  | probe ttl =>
      dsimp only
      split_ifs <;> exact hsame rfl rfl nofun
  | send ttl =>
      dsimp only
      split_ifs
      · have hempty := hl ttl hcontrol
        refine ⟨fun ee hee => ?_, fun w hw => ?_⟩
        · have hee' : ee ∈ s.queue := hee
          rw [hempty] at hee'
          exact absurd hee' List.not_mem_nil
        · obtain rfl := Option.some.inj hw
          rfl
      · exact hsame rfl rfl nofun
  | poll w =>
      dsimp only
      split_ifs
      · exact hsame rfl rfl nofun
      · refine hsame rfl rfl fun w' hw' => ?_
        rw [hcontrol]
        exact hw'
  | drain w =>
      have hkept : ∀ w' ∈ some w, w' ∈ s.control.window? := fun w' hw' => by
        rw [hcontrol]
        exact hw'
      cases hqueue : s.queue with
      | nil => exact hsame rfl hqueue.symm hkept
      | cons ee rest =>
          refine h.goto rfl ?_ hkept
          rw [hqueue]
          exact List.subset_cons_self _ _

lemma OnTime.exec (h : OnTime cfg s) {l : TraceMove} (hl : Prompt cfg l s) :
    OnTime cfg (PathTrace.exec cfg l s) := by
  cases l with
  | step ok => exact h.advance hl
  | elapse d => exact h.goto rfl (List.Subset.refl _) fun _ hw => hw
  | arrive ee =>
      refine ⟨fun e he => ?_, h.window⟩
      rcases List.mem_append.mp he with hold | hnew
      · exact h.queue e hold
      · rw [List.mem_singleton.mp hnew]
        exact hl

lemma onTime_start (clock : ℕ) : OnTime cfg (.start clock) where
  queue _ hee := absurd hee List.not_mem_nil
  window _ hw := absurd hw nofun

/-- **Errors that do not outlive their window are read in it.** -/
theorem along_timely_of_prompt (cfg : TraceConfig) (clock : ℕ) (ls : List TraceMove)
    (prompt : (pathTrace cfg).Along (Prompt cfg) (.start clock) ls) :
    (pathTrace cfg).Along (Timely cfg) (.start clock) ls :=
  Machine.along_of_inv (I := OnTime cfg) (fun _ _ _ h hok => h.exec hok)
    (fun l _ _ h _ => h.timely l) (onTime_start clock) ls prompt

end Prompt

end PathProbe

end Networker
