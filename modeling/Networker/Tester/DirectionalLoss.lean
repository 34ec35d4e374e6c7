/-
The loss by direction that a STAMP train reports.

* `StampRun`: a train sent to the reflector under a fresh session, with the probes that
  reach it and the replies that come back, each at most once and in any order;
* `StampRun.lostForward`: the probes that did not reach the reflector;
* `CreditsOwn`: each reply is credited at most once, to the probe whose number it echoes;
* `LossConsistent`: the two losses and the replies make up the probes, and the forward loss
  is never reported too small;
* `directional_loss_consistent`: both hold of every train, and replies are read as built.
-/
import Networker.Tester.Stamp

namespace Networker

open Data Concurrency

namespace Stamp

open UdpThroughput (Addr Datagram)

/-- The probes that went out. -/
def sentPackets (n : ℕ) (wall : ℤ → Ntp) (t : ProbeTable Reply) : List Packet :=
  (List.range n).filterMap fun seq => (t.sent seq).map fun sentAt => senderPacket seq (wall sentAt)

/-- The datagrams that come back. -/
def datagrams (inbox : Inbox) : List Packet := inbox.filterMap fun a => datagram? a.item

/-- A train, the reflector, and the network between them: probes and replies may be lost and
reordered, but not duplicated. -/
structure StampRun where
  cfg : StampProbeConfig
  atLeastOne : 1 ≤ cfg.probeCount
  fits : cfg.probeCount < 2 ^ 32
  wall : ℤ → Ntp
  sends : ℕ → Bool
  start : ℤ
  inbox : Inbox
  inOrder : Schedule start inbox
  src : Addr
  clock : ℤ → Ntp × Ntp
  reflector : Reflector
  fresh : reflector.sessions src = none
  /-- The datagrams of all senders, as they reach the reflector. -/
  arrivals : List (Arrival Datagram)
  ordered : arrivals.Pairwise fun a b => a.time ≤ b.time
  gapless : Gapless ((ownPackets src arrivals).map Arrival.time)
  forwarded : ((ownPackets src arrivals).map Arrival.item).Subperm
    (sentPackets cfg.count wall (probeTrain cfg wall sends start inbox).result)
  returned : (datagrams inbox).Subperm (reflector.replies clock src arrivals)
  /-- A reply arrives after its probe was sent. -/
  causal : ∀ a ∈ inbox, ∀ pkt ∈ datagram? a.item,
    ∃ sentAt ∈ (probeTrain cfg wall sends start inbox).result.sent (senderSeqOf pkt),
      sentAt < a.time

namespace StampRun

variable (u : StampRun)

/-- How the train ends. -/
def final : Train.State Incoming Reply := probeTrain u.cfg u.wall u.sends u.start u.inbox

/-- What the probe reports. -/
def result : Except String StampResult := runStampProbe u.cfg u.wall u.sends u.start u.inbox

/-- The packets of the train that reach the reflector. -/
def own : List (Arrival Packet) := ownPackets u.src u.arrivals

/-- The probes that do not reach the reflector. -/
def lostForward : ℕ := u.cfg.probeCount - u.own.length

/-- The reply with the highest number arrives before the train has ended. -/
def LastReplyArrives : Prop :=
  ∃ a ∈ u.inbox, ∃ pkt ∈ datagram? a.item, reflectorSeqOf pkt + 1 = u.own.length ∧
    a.time < u.final.time

end StampRun

/-- Each reply is credited at most once, to the probe whose sequence number it echoes. -/
structure CreditsOwn (u : StampRun) : Prop where
  own : ∀ seq reply, u.final.result.credited seq = some reply →
    ∃ sentAt, ∃ a ∈ u.inbox, ∃ pkt ∈ datagram? a.item,
      u.final.result.sent seq = some sentAt ∧ senderSeqOf pkt = seq ∧
        reply = readReply u.wall sentAt a.time pkt
  once : ∀ seq seq' reply reply', u.final.result.credited seq = some reply →
    u.final.result.credited seq' = some reply' → reply.reflectorSeq = reply'.reflectorSeq →
      seq = seq'

/-- The losses of a result with a highest number. -/
structure LossConsistent (u : StampRun) (r : StampResult) (maxSeq : ℕ) (split : LossSplit) :
    Prop where
  highest : r.reflectorSeqMax = some maxSeq
  inferred : split = lossSplit r.probesSent r.repliesReceived maxSeq
  sent : r.probesSent = u.cfg.probeCount
  sum : split.fwdLost + split.revLost + r.repliesReceived = r.probesSent
  replies_le : r.repliesReceived ≤ split.reached
  reached_le : split.reached ≤ r.probesSent
  sentPercent : r.lossSentPercent = some ((split.fwdLost : ℚ) / r.probesSent * 100)
  returnPercent :
    r.lossReturnPercent = some ((split.revLost : ℚ) / (max split.reached 1 : ℕ) * 100)
  forward : u.lostForward ≤ split.fwdLost
  forward_eq : u.LastReplyArrives → split.fwdLost = u.lostForward

/-! ### The packets of the train -/

/-- The sequence number of a test packet. -/
def seqOf (pkt : Packet) : ℕ := ofBe (slice 0 4 pkt)

lemma seqOf_senderPacket {seq : ℕ} (t1 : Ntp) (h : seq < 2 ^ 32) :
    seqOf (senderPacket seq t1) = seq := by
  rw [seqOf, senderPacket, List.append_assoc, List.append_assoc, slice_zero (length_be 4 seq),
    ofBe_be_of_lt (by omega)]

lemma length_senderPacket (seq : ℕ) (t1 : Ntp) :
    (senderPacket seq t1).length = stampPacketLen := by
  simp only [senderPacket, List.length_append, length_be, Ntp.length_bytes, errorEstimate,
    List.length_cons, List.length_nil, List.length_replicate]
  rfl

/-- The packets that went out have different numbers. -/
lemma nodup_sentPackets {n : ℕ} (wall : ℤ → Ntp) (t : ProbeTable Reply) (h : n < 2 ^ 32) :
    ((sentPackets n wall t).map seqOf).Nodup := by
  have hseqs : (sentPackets n wall t).map seqOf =
      (List.range n).filter fun seq => (t.sent seq).isSome := by
    rw [sentPackets, List.map_filterMap, ← List.filterMap_eq_filter]
    refine List.filterMap_congr fun seq hseq => ?_
    have hlt : seq < 2 ^ 32 := lt_trans (List.mem_range.mp hseq) h
    cases hsent : t.sent seq with
    | none => simp [Option.guard, hsent]
    | some sentAt => simp [Option.guard, hsent, seqOf_senderPacket _ hlt]
  rw [hseqs]
  exact List.nodup_range.filter _

lemma mem_sentPackets {n : ℕ} {wall : ℤ → Ntp} {t : ProbeTable Reply} {pkt : Packet}
    (h : pkt ∈ sentPackets n wall t) :
    ∃ seq < n, ∃ sentAt, pkt = senderPacket seq (wall sentAt) := by
  obtain ⟨seq, hseq, hpkt⟩ := List.mem_filterMap.mp h
  obtain ⟨sentAt, -, rfl⟩ := Option.map_eq_some_iff.mp hpkt
  exact ⟨seq, List.mem_range.mp hseq, sentAt, rfl⟩

/-- What is among the replies is the reply to a packet, with the number of the packet. -/
lemma mem_numbered {clock : ℤ → Ntp × Ntp} {pkt : Packet} {as : List (Arrival Packet)} :
    ∀ {k : ℕ}, pkt ∈ numbered clock k as →
      ∃ i a, as[i]? = some a ∧ pkt = replyTo clock (k + i) a := by
  induction as with
  | nil => exact fun h => absurd h List.not_mem_nil
  | cons a as ih =>
      intro k h
      rcases List.mem_cons.mp h with rfl | h
      · exact ⟨0, a, rfl, rfl⟩
      · obtain ⟨i, b, hb, rfl⟩ := ih h
        exact ⟨i + 1, b, hb, by rw [Nat.add_assoc, Nat.add_comm 1 i]⟩

namespace StampRun

variable (u : StampRun)

lemma count_eq : u.cfg.count = u.cfg.probeCount := max_eq_left u.atLeastOne

/-- A packet that reaches the reflector is a probe of the train. -/
lemma own_sent {a : Arrival Packet} (ha : a ∈ u.own) :
    ∃ seq < u.cfg.probeCount, ∃ sentAt, a.item = senderPacket seq (u.wall sentAt) := by
  have hmem := u.forwarded.subset (List.mem_map_of_mem ha)
  rw [u.count_eq] at hmem
  exact mem_sentPackets hmem

lemma own_length : ∀ a ∈ u.own, stampPacketLen ≤ a.item.length := by
  intro a ha
  obtain ⟨seq, -, sentAt, hitem⟩ := u.own_sent ha
  rw [hitem, length_senderPacket]

lemma own_le : u.own.length ≤ u.cfg.probeCount := by
  have hle := u.forwarded.length_le
  rw [List.length_map, u.count_eq] at hle
  refine le_trans hle ?_
  rw [sentPackets]
  refine le_trans (List.length_filterMap_le _ _) ?_
  rw [List.length_range]

/-- The packets that reach the reflector have different numbers. -/
lemma own_nodup : (u.own.map fun a => seqOf a.item).Nodup := by
  have hfits : u.cfg.count < 2 ^ 32 := by
    rw [u.count_eq]
    exact u.fits
  obtain ⟨l, hperm, hsublist⟩ := u.forwarded
  have hnodup : (l.map seqOf).Nodup := (hsublist.map seqOf).nodup (nodup_sentPackets _ _ hfits)
  have hown : (l.map seqOf).Perm (u.own.map fun a => seqOf a.item) := by
    have hmap := hperm.map seqOf
    rwa [List.map_map] at hmap
  exact hown.nodup_iff.mp hnodup

/-- A reply that comes back answers the packet with its number. -/
lemma reply_of {a : Arrival Incoming} {pkt : Packet} (ha : a ∈ u.inbox)
    (hpkt : pkt ∈ datagram? a.item) :
    ∃ b, u.own[reflectorSeqOf pkt]? = some b ∧ senderSeqOf pkt = seqOf b.item ∧
      pkt.length = stampPacketLen := by
  have hmem : pkt ∈ u.reflector.replies u.clock u.src u.arrivals :=
    u.returned.subset (List.mem_filterMap.mpr ⟨a, ha, hpkt⟩)
  have hfits : u.own.length < 2 ^ 32 := lt_of_le_of_lt u.own_le u.fits
  rw [replies_fresh u.ordered u.own_length hfits u.gapless u.fresh] at hmem
  obtain ⟨i, b, hb, rfl⟩ := mem_numbered hmem
  have hi : i < u.own.length := (List.getElem?_eq_some_iff.mp hb).1
  obtain ⟨hlen, hseq, -, -, hsender⟩ := build_decode (u.clock b.time).1 (u.clock b.time).2
    (u.own_length b (List.mem_of_getElem? hb)) (by omega : 0 + i < 2 ^ 32)
  refine ⟨b, ?_, hsender, hlen⟩
  rw [replyTo, hseq, Nat.zero_add]
  exact hb

/-- Packets with one sequence number arrive at one place. -/
lemma own_index {i j : ℕ} {a b : Arrival Packet} (ha : u.own[i]? = some a)
    (hb : u.own[j]? = some b) (h : seqOf a.item = seqOf b.item) : i = j := by
  obtain ⟨hi, rfl⟩ := List.getElem?_eq_some_iff.mp ha
  obtain ⟨hj, rfl⟩ := List.getElem?_eq_some_iff.mp hb
  have hinj := List.nodup_iff_injective_get.mp u.own_nodup
  have hfin := @hinj ⟨i, by simpa using hi⟩ ⟨j, by simpa using hj⟩ (by simpa using h)
  exact congrArg Fin.val hfin

/-! ### What the train credits -/

/-- The train in front of the last wait. -/
def probed : Train.State Incoming Reply :=
  (stampTrain u.cfg u.wall u.sends).run (List.range u.cfg.count) (Train.begin u.start u.inbox)

lemma final_sent : u.final.result.sent = u.probed.result.sent := Train.tail_sent _ _ _

lemma names_eq_true {seq : ℕ} {a : Arrival Incoming}
    (h : (stampTrain u.cfg u.wall u.sends).names seq a = true) :
    ∃ pkt ∈ datagram? a.item, senderSeqOf pkt = seq := by
  rw [Train.names, beq_iff_eq] at h
  cases hitem : a.item with
  | error e =>
      rw [hitem] at h
      cases h
  | datagram pkt =>
      have hhear : hearReply (.datagram pkt) = .names seq := by
        rw [← hitem]
        exact h
      rw [hearReply] at hhear
      split_ifs at hhear
      cases hhear
      exact ⟨pkt, rfl, rfl⟩

/-- Every reply arrives behind the send of the probe it names. -/
lemma causal' {seq : ℕ} {sentAt : ℤ} (hsent : u.probed.result.sent seq = some sentAt) :
    ∀ a ∈ u.inbox, (stampTrain u.cfg u.wall u.sends).names seq a = true → sentAt < a.time := by
  intro a ha hname
  obtain ⟨pkt, hpkt, hseq⟩ := u.names_eq_true hname
  obtain ⟨sentAt', hsent', hlt⟩ := u.causal a ha pkt hpkt
  have hfinal : u.final.result.sent seq = some sentAt' := by
    rw [← hseq]
    exact hsent'
  rw [u.final_sent, hsent, Option.some.injEq] at hfinal
  rw [hfinal]
  exact hlt

lemma tracks : ∃ heard, (stampTrain u.cfg u.wall u.sends).Tracks u.inbox heard u.final := by
  obtain ⟨heard, hran⟩ := Train.run_begin (T := stampTrain u.cfg u.wall u.sends)
    (List.nodup_range (n := u.cfg.count)) u.inOrder fun seq sentAt hsent => u.causal' hsent
  obtain ⟨hs, htail⟩ := Train.tail_spec u.cfg.count (millis (max u.cfg.timeoutMs 1)) hran.tracks
  exact ⟨_, htail.tracks⟩

/-- A credit is the reading of a reply that names the probe. -/
lemma credited_spec {seq : ℕ} {reply : Reply} (h : u.final.result.credited seq = some reply) :
    ∃ sentAt, ∃ a ∈ u.inbox, ∃ pkt ∈ datagram? a.item,
      u.final.result.sent seq = some sentAt ∧ senderSeqOf pkt = seq ∧
        reply = readReply u.wall sentAt a.time pkt := by
  obtain ⟨heard, htracks⟩ := u.tracks
  rw [htracks.credits seq, Option.bind_eq_some_iff] at h
  obtain ⟨sentAt, hsent, hfirst⟩ := h
  rw [Train.first, Option.map_eq_some_iff] at hfirst
  obtain ⟨a, hfind, rfl⟩ := hfirst
  have ha : a ∈ u.inbox := by
    rw [htracks.split]
    exact List.mem_append_left _ (List.mem_of_find?_eq_some hfind)
  obtain ⟨pkt, hpkt, hseq⟩ := u.names_eq_true (List.find?_some hfind)
  refine ⟨sentAt, a, ha, pkt, hpkt, hsent, hseq, ?_⟩
  show readReply u.wall sentAt a.time ((datagram? a.item).getD []) = _
  rw [Option.mem_def.mp hpkt, Option.getD_some]

/-- The number of a credited reply is where its probe has arrived at the reflector. -/
lemma credited_index {seq : ℕ} {reply : Reply} (h : u.final.result.credited seq = some reply) :
    ∃ b, u.own[reply.reflectorSeq]? = some b ∧ seqOf b.item = seq := by
  obtain ⟨sentAt, a, ha, pkt, hpkt, -, hseq, rfl⟩ := u.credited_spec h
  obtain ⟨b, hb, hsender, -⟩ := u.reply_of ha hpkt
  exact ⟨b, hb, by rw [← hsender, hseq]⟩

/-- Each reply is credited at most once, to its own probe. -/
lemma creditsOwn : CreditsOwn u := by
  refine ⟨fun seq reply h => u.credited_spec h, fun seq seq' reply reply' h h' heq => ?_⟩
  obtain ⟨b, hb, rfl⟩ := u.credited_index h
  obtain ⟨b', hb', rfl⟩ := u.credited_index h'
  rw [heq, hb', Option.some.injEq] at hb
  rw [hb]

/-- A reply that arrives before the train has ended is credited. -/
lemma credited_of_arrives {a : Arrival Incoming} {pkt : Packet} (ha : a ∈ u.inbox)
    (hpkt : pkt ∈ datagram? a.item) (htime : a.time < u.final.time) :
    ∃ reply, u.final.result.credited (senderSeqOf pkt) = some reply ∧
      reply.reflectorSeq = reflectorSeqOf pkt := by
  obtain ⟨heard, htracks⟩ := u.tracks
  obtain ⟨b, hb, hsender, hlen⟩ := u.reply_of ha hpkt
  have hname : (stampTrain u.cfg u.wall u.sends).names (senderSeqOf pkt) a = true := by
    cases hitem : a.item with
    | error e =>
        rw [hitem] at hpkt
        cases hpkt
    | datagram pkt' =>
        rw [hitem] at hpkt
        cases hpkt
        rw [Train.names, hitem, beq_iff_eq]
        exact if_pos hlen.ge
  -- it has been received, so its probe is credited with a reply that names it
  have hheard : a ∈ heard := by
    have hmem := ha
    rw [htracks.split] at hmem
    rcases List.mem_append.mp hmem with h | h
    · exact h
    · exact absurd (htracks.behind.2 a h) (not_le.mpr htime)
  obtain ⟨sentAt, hsent, -⟩ := u.causal a ha pkt hpkt
  obtain ⟨c, hfind⟩ := Option.isSome_iff_exists.mp (List.find?_isSome.mpr ⟨a, hheard, hname⟩)
  obtain ⟨reply, hreply⟩ : ∃ reply, u.final.result.credited (senderSeqOf pkt) = some reply := by
    rw [htracks.credits, show u.final.result.sent (senderSeqOf pkt) = some sentAt from hsent,
      Option.bind_some, Train.first, hfind]
    exact ⟨_, rfl⟩
  refine ⟨reply, hreply, ?_⟩
  -- that reply is this one: the reflector has seen the probe once
  obtain ⟨b', hb', hseq'⟩ := u.credited_index hreply
  exact u.own_index hb' hb (by rw [hseq', hsender])

/-! ### The loss by direction -/

/-- The numbers of the credited replies. -/
def seqs : List ℕ :=
  (received (repliesOf u.cfg.count u.final.result)).map Reply.reflectorSeq

lemma seqs_eq : u.seqs = (List.range u.cfg.count).filterMap fun seq =>
    (u.final.result.credited seq).map Reply.reflectorSeq := by
  rw [seqs, received, repliesOf, List.filterMap_map, List.map_filterMap]
  rfl

lemma mem_seqs {k : ℕ} : k ∈ u.seqs ↔ ∃ seq < u.cfg.count, ∃ reply,
    u.final.result.credited seq = some reply ∧ reply.reflectorSeq = k := by
  rw [seqs_eq, List.mem_filterMap]
  simp only [List.mem_range, Option.map_eq_some_iff]

/-- The numbers of the credited replies are different. -/
lemma seqs_nodup : u.seqs.Nodup := by
  rw [seqs_eq]
  refine List.nodup_range.filterMap fun seq seq' k hk hk' => ?_
  obtain ⟨reply, hreply, rfl⟩ := Option.map_eq_some_iff.mp hk
  obtain ⟨reply', hreply', heq⟩ := Option.map_eq_some_iff.mp hk'
  exact u.creditsOwn.once seq seq' reply reply' hreply hreply' heq.symm

/-- Numbers up to a highest one. -/
lemma length_seqs_le {maxSeq : ℕ} (h : ∀ k ∈ u.seqs, k ≤ maxSeq) : u.seqs.length ≤ maxSeq + 1 := by
  have hsub : u.seqs ⊆ List.range (maxSeq + 1) := fun k hk =>
    List.mem_range.mpr (Nat.lt_succ_of_le (h k hk))
  have hle := (u.seqs_nodup.subperm hsub).length_le
  rwa [List.length_range] at hle

lemma seqs_lt {k : ℕ} (h : k ∈ u.seqs) : k < u.own.length := by
  obtain ⟨seq, -, reply, hreply, rfl⟩ := u.mem_seqs.mp h
  obtain ⟨b, hb, -⟩ := u.credited_index hreply
  exact (List.getElem?_eq_some_iff.mp hb).1

/-- A probe whose reply is credited is one of the train. -/
lemma mem_seqs_of_arrives {a : Arrival Incoming} {pkt : Packet} (ha : a ∈ u.inbox)
    (hpkt : pkt ∈ datagram? a.item) (htime : a.time < u.final.time) :
    reflectorSeqOf pkt ∈ u.seqs := by
  obtain ⟨reply, hreply, hseq⟩ := u.credited_of_arrives ha hpkt htime
  obtain ⟨b, hb, hsender, -⟩ := u.reply_of ha hpkt
  obtain ⟨seq, hlt, sentAt, hitem⟩ := u.own_sent (List.mem_of_getElem? hb)
  have hsmall : seqOf b.item < u.cfg.count := by
    rw [hitem, seqOf_senderPacket _ (lt_trans hlt u.fits), u.count_eq]
    exact hlt
  exact u.mem_seqs.mpr ⟨senderSeqOf pkt, by rw [hsender]; exact hsmall, reply, hreply, hseq⟩

/-- The losses that are inferred from the numbers of the reflector. -/
lemma lossConsistent {r : StampResult} (h : u.result = .ok r) :
    ∃ maxSeq split, LossConsistent u r maxSeq split := by
  have hlen : (received (repliesOf u.cfg.count u.final.result)).length = u.seqs.length := by
    rw [seqs, List.length_map]
  have hresult : stampResult u.cfg (repliesOf u.cfg.count u.final.result) = .ok r := h
  rw [stampResult, hlen] at hresult
  dsimp only at hresult
  split_ifs at hresult with hzero
  cases hmax : u.seqs.max? with
  | none =>
      rw [List.max?_eq_none_iff] at hmax
      rw [hmax] at hzero
      exact absurd rfl hzero
  | some maxSeq =>
      have hmaxSeq : ((received (repliesOf u.cfg.count u.final.result)).map
          Reply.reflectorSeq).max? = some maxSeq := hmax
      obtain ⟨hmem, hge⟩ := List.max?_eq_some_iff.mp hmax
      rw [hmaxSeq] at hresult
      cases hresult
      have hreplies : u.seqs.length ≤ maxSeq + 1 := u.length_seqs_le hge
      have hlt : maxSeq < u.own.length := u.seqs_lt hmem
      have hown : u.own.length ≤ u.cfg.probeCount := u.own_le
      have hreached : min (maxSeq + 1) u.cfg.probeCount = maxSeq + 1 := by omega
      refine ⟨maxSeq, lossSplit u.cfg.probeCount u.seqs.length maxSeq,
        rfl, rfl, rfl, ?_, ?_, ?_, rfl, rfl, ?_, ?_⟩
      · simp only [lossSplit, hreached]
        omega
      · simp only [lossSplit, hreached]
        exact hreplies
      · simp only [lossSplit]
        exact min_le_right _ _
      · simp only [lossSplit, lostForward, hreached]
        omega
      · rintro ⟨a, ha, pkt, hpkt, hlast, htime⟩
        have hle : reflectorSeqOf pkt ≤ maxSeq := hge _ (u.mem_seqs_of_arrives ha hpkt htime)
        simp only [lossSplit, lostForward, hreached]
        omega

end StampRun

/-- **The loss by direction is consistent.**  Of every train to the reflector under a fresh
session, with any loss and reordering: the forward loss, the reverse loss and the replies
make up the probes, and the forward loss is at least the true one, and the true one if the
last reply arrives; each reply is credited at most once, to the probe whose number it
echoes; and a reply is read as it was built. -/
theorem directional_loss_consistent (u : StampRun) :
    (∀ r, u.result = .ok r → ∃ maxSeq split, LossConsistent u r maxSeq split) ∧ CreditsOwn u ∧
      ∀ (request : Packet) (reflectorSeq : ℕ) (t2 t3 : Ntp),
        stampPacketLen ≤ request.length → reflectorSeq < 2 ^ 32 →
          let reply := buildReflectedPacket request reflectorSeq t2 t3
          reply.length = stampPacketLen ∧ reflectorSeqOf reply = reflectorSeq ∧
            readNtp reply 4 = t3 ∧ readNtp reply 16 = t2 ∧
            senderSeqOf reply = ofBe (slice 0 4 request) :=
  ⟨fun _ h => u.lossConsistent h, u.creditsOwn,
    fun _ _ t2 t3 hrequest hseq => build_decode t2 t3 hrequest hseq⟩

/-- A clock that stands still. -/
def noon : Ntp := ⟨3900000000, 0⟩

/-- Three probes, of which the second is lost and the third overtakes the first. -/
def overtaken : StampRun where
  cfg := { probeCount := 3, intervalMs := 10, timeoutMs := 100 }
  atLeastOne := by decide
  fits := by decide
  wall _ := noon
  sends _ := true
  start := 0
  inbox :=
    [⟨millis 30, .datagram (buildReflectedPacket (senderPacket 0 noon) 1 noon noon)⟩,
      ⟨millis 35, .datagram (buildReflectedPacket (senderPacket 2 noon) 0 noon noon)⟩]
  inOrder := by decide
  src := 7
  clock _ := (noon, noon)
  reflector := ⟨fun _ => none, 0⟩
  fresh := rfl
  arrivals := [⟨millis 22, 7, senderPacket 2 noon⟩, ⟨millis 25, 7, senderPacket 0 noon⟩]
  ordered := by decide
  gapless := by decide
  forwarded := by decide
  returned := by decide
  causal := by decide

/-- One of the three probes is reported lost on the way to the reflector. -/
theorem directional_loss_consistent_overtaken :
    overtaken.result.toOption.map (fun r => (r.repliesReceived, r.lossSentPercent)) =
        some (2, some (1 / 3 * 100)) ∧
      ∀ r, overtaken.result = .ok r → ∃ maxSeq split, LossConsistent overtaken r maxSeq split :=
  ⟨rfl, (directional_loss_consistent overtaken).1⟩

end Stamp

end Networker
