/-
What the UDP echo trains credit.

* `EchoSchedule`: the echoes of a train as they arrive, each named by the probe it is of, in
  any order, any number of times, or not at all;
* `UdpRun`, `PacedRun`: a run of the `udp` probe, and of the paced train of the `rpm` probe,
  in which every echo arrives behind the send of its probe;
* `EchoesExact`: every probe is credited with the first of its echoes, timed from its own
  send; a lost one has no echo in the windows of the train and was waited for to the end;
* `echo_crediting_exact`: that holds of both.
-/
import Networker.Tester.UdpEcho

namespace Networker

open Data Concurrency

namespace UdpEcho

/-- The echoes of a train: when each arrives, and the probe it is of. -/
structure EchoSchedule where
  start : ℤ
  sends : ℕ → Bool
  nowUs : ℕ → ℕ
  echoes : List (Arrival ℕ)
  ordered : Schedule start echoes

namespace EchoSchedule

variable (e : EchoSchedule) (payloadSize : ℕ)

/-- An echo as the socket returns it: the datagram of the probe, unchanged. -/
def arrival (a : Arrival ℕ) : Arrival Incoming :=
  ⟨a.time, .datagram (probePacket payloadSize a.item (e.nowUs a.item))⟩

/-- The echoes as the socket returns them. -/
def inbox : Inbox := e.echoes.map (e.arrival payloadSize)

lemma inbox_ordered : Schedule e.start (e.inbox payloadSize) := by
  obtain ⟨hsorted, hstart⟩ := e.ordered
  refine ⟨List.pairwise_map.mpr hsorted, fun b hb => ?_⟩
  obtain ⟨a, ha, rfl⟩ := List.mem_map.mp hb
  exact hstart a ha

/-- No echo is an error. -/
lemma inbox_ok : ∀ b ∈ e.inbox payloadSize, hearEcho b.item ≠ .error := by
  intro b hb
  obtain ⟨a, -, rfl⟩ := List.mem_map.mp hb
  rw [arrival, hearEcho]
  split_ifs <;> simp

/-- Every echo is of a probe that was sent before it arrives. -/
def Answers (s : Train.State Incoming ℚ) : Prop :=
  ∀ a ∈ e.echoes, ∃ sentAt ∈ s.result.sent a.item, sentAt < a.time

instance (s : Train.State Incoming ℚ) : Decidable (e.Answers s) :=
  inferInstanceAs (Decidable (∀ a ∈ _, _))

end EchoSchedule

/-- A run of the `udp` probe. -/
structure UdpRun extends EchoSchedule where
  cfg : UdpProbeConfig
  fits : cfg.probeCount < 2 ^ 32
  answers : toEchoSchedule.Answers
    (runUdpProbe cfg sends start (toEchoSchedule.inbox cfg.payloadSize))

/-- A run of the paced train. -/
structure PacedRun extends EchoSchedule where
  count : ℕ
  payloadSize : ℕ
  intervalMs : ℕ
  tmaxMs : ℕ
  fits : count < 2 ^ 32
  answers : toEchoSchedule.Answers
    (echoRun count (.paced intervalMs tmaxMs) sends start (toEchoSchedule.inbox payloadSize))

namespace UdpRun

variable (u : UdpRun)

/-- How the train ends. -/
def final : Train.State Incoming ℚ :=
  runUdpProbe u.cfg u.sends u.start (u.inbox u.cfg.payloadSize)

/-- The result of the probe. -/
def result : UdpResult := udpResult u.cfg u.final.result

end UdpRun

namespace PacedRun

variable (p : PacedRun)

/-- How the train ends. -/
def final : Train.State Incoming ℚ :=
  echoRun p.count (.paced p.intervalMs p.tmaxMs) p.sends p.start (p.inbox p.payloadSize)

/-- What the train reports. -/
def result : EchoTrain :=
  echoRtts p.count (.paced p.intervalMs p.tmaxMs) p.sends p.start (p.inbox p.payloadSize)

end PacedRun

/-- The readings of a train that ends in a state, with a loss threshold. -/
structure EchoesExact (e : EchoSchedule) (timeoutMs : ℕ) (s : Train.State Incoming ℚ)
    (rtts : List (Option ℚ)) : Prop where
  /-- A reading is that of the first echo of the probe, from the send of the probe on. -/
  credited : ∀ seq r, rtts[seq]? = some (some r) → ∃ sentAt pre a post,
    s.result.sent seq = some sentAt ∧ e.echoes = pre ++ a :: post ∧ a.item = seq ∧
      (∀ b ∈ pre, b.item ≠ seq) ∧ sentAt < a.time ∧ a.time ≤ s.time ∧
      r = UdpThroughput.toMs (a.time - sentAt)
  /-- No echo of a lost probe arrives before the windows have ended. -/
  lost : ∀ seq, rtts[seq]? = some none → ∀ a ∈ e.echoes, a.item = seq → s.time ≤ a.time
  /-- A lost probe has been waited for to the end. -/
  waited : ∀ seq sentAt, rtts[seq]? = some none → s.result.sent seq = some sentAt →
    sentAt + millis timeoutMs ≤ s.time

/-! ### From the table to the readings -/

section Readings

variable {T : Train Incoming ℚ} {e : EchoSchedule} {payloadSize n : ℕ}
  {s : Train.State Incoming ℚ} {heard : Inbox}

lemma names_arrival {seq : ℕ} {a : Arrival ℕ} (hear : T.hear = hearEcho) (ha : a.item < 2 ^ 32) :
    T.names seq (e.arrival payloadSize a) = true ↔ a.item = seq := by
  rw [Train.names, hear, EchoSchedule.arrival, hearEcho_probePacket ha, beq_iff_eq]
  constructor
  · intro h
    cases h
    rfl
  · rintro rfl
    rfl

/-- The readings of a train that credits every probe with the first of its echoes. -/
lemma exact_of_tracks {timeoutMs : ℕ} (hear : T.hear = hearEcho) (hcredit : T.credit = rttMs)
    (h : T.Tracks (e.inbox payloadSize) heard s) (hanswers : e.Answers s)
    (hsmall : ∀ a ∈ e.echoes, a.item < 2 ^ 32)
    (hwaited : ∀ seq < n, ∀ sentAt, s.result.sent seq = some sentAt →
      s.result.has seq = true ∨ sentAt + millis timeoutMs ≤ s.time) :
    EchoesExact e timeoutMs s (probeRtts n s.result) := by
  -- the echoes received, and those that were not
  obtain ⟨early, late, hsplit, hearly, hlate⟩ := List.map_eq_append_iff.mp h.split
  have hmem : ∀ a ∈ early, a ∈ e.echoes := fun a ha => by
    rw [hsplit]
    exact List.mem_append_left late ha
  have hcredits : ∀ seq, s.result.credited seq =
      (s.result.sent seq).bind fun sentAt => T.first seq sentAt heard := h.credits
  have hnames : ∀ seq, ∀ a ∈ early, T.names seq (e.arrival payloadSize a) = true ↔ a.item = seq :=
    fun seq a ha => names_arrival hear (hsmall a (hmem a ha))
  refine ⟨fun seq r hr => ?_, fun seq hr a ha hitem => ?_, fun seq sentAt hr hsent => ?_⟩
  · obtain ⟨-, hr⟩ := probeRtts_get?.mp hr
    rw [hcredits, Option.bind_eq_some_iff] at hr
    obtain ⟨sentAt, hsent, hfirst⟩ := hr
    rw [Train.first, ← hearly, List.find?_map, Option.map_map, Option.map_eq_some_iff] at hfirst
    obtain ⟨a, hfind, rfl⟩ := hfirst
    obtain ⟨hname, pre, post, hpre, hbefore⟩ := List.find?_eq_some_iff_append.mp hfind
    have haearly : a ∈ early := by
      rw [hpre]
      simp
    have hitem : a.item = seq := (hnames seq a haearly).mp hname
    obtain ⟨sentAt', hsent', hlt⟩ := hanswers a (hmem a haearly)
    rw [hitem, hsent, Option.mem_def, Option.some.injEq] at hsent'
    subst hsent'
    refine ⟨sentAt, pre, a, post ++ late, hsent, ?_, hitem, fun b hb hbitem => ?_, hlt, ?_, ?_⟩
    · rw [hsplit, hpre, List.append_assoc, List.cons_append]
    · have hbearly : b ∈ early := by
        rw [hpre]
        exact List.mem_append_left _ hb
      have hnot := hbefore b hb
      rw [Function.comp_apply, (hnames seq b hbearly).mpr hbitem] at hnot
      cases hnot
    · refine h.before (e.arrival payloadSize a) ?_
      rw [← hearly]
      exact List.mem_map_of_mem haearly
    · rw [Function.comp_apply, hcredit]
      rfl
  · obtain ⟨-, hr⟩ := probeRtts_get?.mp hr
    obtain ⟨sentAt, hsent, -⟩ := hanswers a ha
    rw [hitem, Option.mem_def] at hsent
    rw [hcredits, hsent, Option.bind_some, Train.first, Option.map_eq_none_iff, ← hearly,
      List.find?_map, Option.map_eq_none_iff, List.find?_eq_none] at hr
    -- an echo received would have been credited
    rw [hsplit] at ha
    rcases List.mem_append.mp ha with ha | ha
    · exact absurd ((hnames seq a ha).mpr hitem) (hr a ha)
    · refine h.behind.2 (e.arrival payloadSize a) ?_
      rw [← hlate]
      exact List.mem_map_of_mem ha
  · obtain ⟨hseq, hr⟩ := probeRtts_get?.mp hr
    rcases hwaited seq hseq sentAt hsent with hhas | hle
    · rw [ProbeTable.has, hr] at hhas
      cases hhas
    · exact hle

/-- Only the probes of a train are sent. -/
lemma lt_of_sent {now : ℤ} {inbox : Inbox} {seq : ℕ} {sentAt : ℤ}
    (h : (T.run (List.range n) (Train.begin now inbox)).result.sent seq = some sentAt) :
    seq < n := by
  by_contra hge
  rw [Train.run_sent_of_notMem (by simpa using hge)] at h
  cases h

/-- Echoes that arrive behind the send of their probe name a probe that was sent before. -/
lemma EchoSchedule.Answers.causal (hear : T.hear = hearEcho) (hanswers : e.Answers s)
    (hsmall : ∀ a ∈ e.echoes, a.item < 2 ^ 32) (payloadSize : ℕ) :
    ∀ seq sentAt, s.result.sent seq = some sentAt →
      ∀ b ∈ e.inbox payloadSize, T.names seq b = true → sentAt < b.time := by
  intro seq sentAt hsent b hb hname
  obtain ⟨a, ha, rfl⟩ := List.mem_map.mp hb
  have hitem : a.item = seq := (names_arrival hear (hsmall a ha)).mp hname
  obtain ⟨sentAt', hsent', hlt⟩ := hanswers a ha
  rw [hitem, hsent, Option.mem_def, Option.some.injEq] at hsent'
  rw [hsent']
  exact hlt

end Readings

/-! ### The two trains -/

namespace UdpRun

variable (u : UdpRun)

lemma small : ∀ a ∈ u.echoes, a.item < 2 ^ 32 := by
  intro a ha
  obtain ⟨sentAt, hsent, -⟩ := u.answers a ha
  exact lt_trans (lt_of_sent hsent) u.fits

lemma exact : EchoesExact u.toEchoSchedule u.cfg.timeoutMs u.final u.result.probeRttsMs := by
  have hcausal : ∀ seq sentAt, u.final.result.sent seq = some sentAt →
      ∀ b ∈ u.inbox u.cfg.payloadSize, (udpTrain u.cfg u.sends).names seq b = true →
        sentAt < b.time :=
    EchoSchedule.Answers.causal (T := udpTrain u.cfg u.sends) rfl u.answers u.small _
  obtain ⟨heard, hran⟩ := Train.run_begin (T := udpTrain u.cfg u.sends)
    (List.nodup_range (n := u.cfg.probeCount)) (u.inbox_ordered u.cfg.payloadSize) hcausal
  have hwaited : Train.Waited (millis u.cfg.timeoutMs) u.final :=
    hran.waited (u.inbox_ok u.cfg.payloadSize) (fun _ _ _ hdone => hdone)
      (fun _ _ hsent => by cases hsent)
  exact exact_of_tracks rfl rfl hran.tracks u.answers u.small
    fun seq _ sentAt hsent => hwaited seq sentAt hsent

/-- The success count counts the credited probes. -/
lemma successCount : u.result.successCount =
    ((Finset.range u.cfg.probeCount).filter fun seq => u.final.result.has seq = true).card := by
  show ((List.range u.cfg.probeCount).map u.final.result.credited).countP Option.isSome = _
  rw [List.countP_map, List.countP_eq_length_filter]
  show _ = ((List.range u.cfg.probeCount).filter
    fun seq => decide (u.final.result.has seq = true)).length
  simp only [Bool.decide_eq_true]
  rfl

end UdpRun

namespace PacedRun

variable (p : PacedRun)

/-- The train in front of the last wait. -/
def probed : Train.State Incoming ℚ :=
  (echoTrain p.count (.paced p.intervalMs p.tmaxMs) p.sends).run (List.range p.count)
    (Train.begin p.start (p.inbox p.payloadSize))

lemma final_sent : p.final.result.sent = p.probed.result.sent := Train.tail_sent _ _ _

lemma probed_answers : p.toEchoSchedule.Answers p.probed := by
  intro a ha
  rw [← p.final_sent]
  exact p.answers a ha

lemma small : ∀ a ∈ p.echoes, a.item < 2 ^ 32 := by
  intro a ha
  obtain ⟨sentAt, hsent, -⟩ := p.probed_answers a ha
  exact lt_trans (lt_of_sent hsent) p.fits

lemma waited : ∃ heard,
    Train.Tailed (echoTrain p.count (.paced p.intervalMs p.tmaxMs) p.sends) p.count
      (millis p.tmaxMs) (p.inbox p.payloadSize) heard p.final := by
  have hcausal := EchoSchedule.Answers.causal
    (T := echoTrain p.count (.paced p.intervalMs p.tmaxMs) p.sends) rfl p.probed_answers p.small
    p.payloadSize
  obtain ⟨heard, hran⟩ := Train.run_begin (List.nodup_range (n := p.count))
    (p.inbox_ordered p.payloadSize) hcausal
  obtain ⟨hs, htail⟩ := Train.tail_spec p.count (millis p.tmaxMs) hran.tracks
  exact ⟨_, htail⟩

lemma exact : EchoesExact p.toEchoSchedule p.tmaxMs p.final p.result.rtts := by
  obtain ⟨heard, htail⟩ := p.waited
  exact exact_of_tracks rfl rfl htail.tracks p.answers p.small
    (htail.waited (p.inbox_ok p.payloadSize))

/-- No wait is cut short. -/
lemma censored : p.result.censored = 0 := by
  obtain ⟨heard, htail⟩ := p.waited
  show (List.range p.count).countP _ = 0
  rw [List.countP_eq_zero]
  intro seq hseq hcut
  rw [Bool.and_eq_true, Option.any_eq_true] at hcut
  obtain ⟨hlost, sentAt, hsent, hlt⟩ := hcut
  rw [decide_eq_true_eq] at hlt
  rcases htail.waited (p.inbox_ok p.payloadSize) seq (List.mem_range.mp hseq) sentAt hsent
    with hhas | hle
  · have hnot : p.final.result.has seq = false := by
      rw [Bool.not_eq_true'] at hlost
      exact hlost
    rw [hnot] at hhas
    cases hhas
  · have hshort : p.final.time - sentAt < millis p.tmaxMs := hlt
    omega

end PacedRun

/-- **Echoes are credited exactly.**  However the echoes of a train are delayed, reordered,
duplicated or lost, the `udp` probe credits each probe with the first of its echoes alone,
timed from its own send, counts the credited ones, and has waited its full timeout for a
probe it reports lost; the same holds of the paced train, of which no wait is cut short. -/
theorem echo_crediting_exact (u : UdpRun) (p : PacedRun) :
    (EchoesExact u.toEchoSchedule u.cfg.timeoutMs u.final u.result.probeRttsMs ∧
      u.result.successCount =
        ((Finset.range u.cfg.probeCount).filter fun seq => u.final.result.has seq = true).card) ∧
    (EchoesExact p.toEchoSchedule p.tmaxMs p.final p.result.rtts ∧ p.result.censored = 0) :=
  ⟨⟨u.exact, u.successCount⟩, p.exact, p.censored⟩

/-- Three probes with a window of 10 ms: the echo of the second one arrives twice, and then
that of the first one, in the window of the third. -/
def lateEcho : EchoSchedule where
  start := 0
  sends _ := true
  nowUs _ := 0
  echoes := [⟨millis 15, 1⟩, ⟨millis 16, 1⟩, ⟨millis 20, 0⟩]
  ordered := by decide

/-- The `udp` probe with these echoes. -/
def lateEchoUdp : UdpRun where
  toEchoSchedule := lateEcho
  cfg := ⟨"127.0.0.1:9999", 3, 10, 64⟩
  fits := by decide
  answers := by decide +kernel

/-- The paced train with these echoes, a probe every 7 ms. -/
def lateEchoPaced : PacedRun where
  toEchoSchedule := lateEcho
  count := 3
  payloadSize := 64
  intervalMs := 7
  tmaxMs := 10
  fits := by decide
  answers := by decide +kernel

example : lateEchoUdp.result.probeRttsMs = [some 20, some 5, none] := by decide +kernel

example : lateEchoPaced.result.rtts = [some 20, some 8, none] := by decide +kernel

end UdpEcho

end Networker
