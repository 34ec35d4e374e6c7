/-
What a UDP upload reports of the datagrams that reached the server.

* `Upload`: an upload with all that arrives at the server, and with the replies that reach
  the client, each named by the arrival it answers;
* `Upload.accepted`: the arrival whose `CMD_REPORT` the client accepts;
* `UploadExact`: the report counts what arrived before it, and nothing that arrives within
  the report timeout is lost;
* `uploadState_run`: the server counts what it gets since the last `CMD_UPLOAD`;
* `upload_exact_iff`: when the report is exact;
* `upload_reset`: a late duplicate of the `CMD_UPLOAD`.
-/
import Networker.Tester.DownloadAccounting

namespace Networker

open Data Concurrency UdpThroughput

/-- The datagrams of an upload: `CMD_UPLOAD`, the data, `CMD_DONE`. -/
def uploadDatagrams (bytes : ℕ) : List Packet :=
  makeCtrl cmdUpload bytes :: dataPackets bytes ++ [makeCtrl cmdDone bytes]

/-- What a source has sent of the arrivals. -/
def sentBy (src : Addr) (as : List (Arrival Datagram)) : List (Arrival Packet) :=
  (as.filter fun a => a.item.src = src).map fun a => ⟨a.time, a.item.pkt⟩

/-- What has arrived since the last `CMD_UPLOAD`, the latest first. -/
def sinceUpload (bytes : ℕ) (as : List (Arrival Packet)) : List (Arrival Packet) :=
  as.reverse.takeWhile fun a => a.item != makeCtrl cmdUpload bytes

/-- The packet the server sends to a source for the datagram behind the given ones. -/
def replyTo (src : Addr) (as : List (Arrival Datagram)) (a : Arrival Datagram) : Option Packet :=
  (Server.fresh.repliesTo as a).findSome? fun
    | .send dst pkt => if dst = src then some pkt else none
    | .spawnDownload .. => none

/-- An upload: the datagrams of all clients as they arrive at the server, and the replies
to this client as they arrive there. -/
structure Upload where
  bytes : ℕ
  fits : bytes < 2 ^ 32
  cfg : UdpThroughputConfig
  sending : Sending
  start : ℤ
  src : Addr
  arrivals : List (Arrival Datagram)
  ordered : arrivals.Pairwise fun a b => a.time ≤ b.time
  /-- The source of the client sends the datagrams of the upload alone. -/
  own : ∀ a ∈ arrivals, a.item.src = src → a.item.pkt ∈ uploadDatagrams bytes
  /-- The replies that reach the client, by the arrival they answer. -/
  replies : List (Arrival ℕ)
  inOrder : Schedule start replies
  answers : ∀ b ∈ replies, ∃ a, arrivals[b.item]? = some a ∧ a.time ≤ b.time ∧
    (replyTo src (arrivals.take b.item) a).isSome = true

/-- The replies as the socket of the client returns them. -/
def inboxOf (reply : ℕ → Option Packet) (bs : List (Arrival ℕ)) : Inbox :=
  bs.filterMap fun b => (reply b.item).map fun pkt => ⟨b.time, .datagram pkt⟩

/-- The first report that arrives before the deadline. -/
def firstReport (reply : ℕ → Option Packet) (deadline : ℤ) (bs : List (Arrival ℕ)) :
    Option (Arrival ℕ) :=
  bs.find? fun c => c.time < deadline && (reply c.item).any (isCmd cmdReport)

namespace Upload

variable (u : Upload)

/-- The reply to the `k`-th arrival. -/
def reply (k : ℕ) : Option Packet :=
  u.arrivals[k]?.bind fun a => replyTo u.src (u.arrivals.take k) a

/-- The end of the report timeout, when the wait for the acknowledgement has ended. -/
def reportDeadline (acked : ℤ) : ℤ := u.sending.doneAt acked + millis u.cfg.timeoutMs

/-- The arrival whose report the client accepts, with the end of the report timeout: the
first report behind the reply that ends the wait for the acknowledgement. -/
def accepted : Option (ℕ × ℤ) :=
  match u.replies with
  | [] => none
  | b :: bs =>
      if b.time < u.start + millis u.cfg.timeoutMs then
        (firstReport u.reply (u.reportDeadline b.time) bs).map fun c =>
          (c.item, u.reportDeadline b.time)
      else none

/-- What the client has sent of the first `k` arrivals. -/
def before (k : ℕ) : List (Arrival Packet) := sentBy u.src (u.arrivals.take k)

/-- What reaches the server of the upload before the deadline. -/
def within (deadline : ℤ) : List (Arrival Packet) :=
  (sentBy u.src u.arrivals).filter fun a => a.time < deadline

/-- The probe of the client. -/
def run : Except String UdpThroughputResult :=
  runUdpuploadProbe u.bytes u.cfg u.sending u.start (inboxOf u.reply u.replies)

end Upload

/-- How many payload bytes a set of datagrams carries. -/
def payloadOf (pkts : Finset Packet) : ℕ := ∑ pkt ∈ pkts, (pkt.length - dataHdrLen)

/-- The report sent for arrival `k` counts every datagram that arrived before it exactly
once, and what the result reports lost leaves room for everything that reaches the server
before the deadline. -/
structure UploadExact (u : Upload) (k : ℕ) (deadline : ℤ) (r : UdpThroughputResult) : Prop where
  acked : r.bytesAcked = some (payloadOf (delivered u.bytes (u.before k)))
  lost : r.lossPercent * u.bytes + 100 * payloadOf (delivered u.bytes (u.within deadline)) ≤
    100 * u.bytes

/-! ### The state of the upload at the server -/

section Server

variable {bytes : ℕ} {src : Addr} {as : List (Arrival Datagram)} {a : Arrival Datagram}

lemma sentBy_concat_self (t : ℤ) (pkt : Packet) :
    sentBy src (as ++ [⟨t, ⟨src, pkt⟩⟩]) = sentBy src as ++ [⟨t, pkt⟩] := by
  simp [sentBy]

lemma sentBy_concat_other (ha : a.item.src ≠ src) : sentBy src (as ++ [a]) = sentBy src as := by
  simp [sentBy, ha]

lemma mem_uploadDatagrams {pkt : Packet} (h : pkt ∈ uploadDatagrams bytes) :
    pkt = makeCtrl cmdUpload bytes ∨ pkt = makeCtrl cmdDone bytes ∨
      ∃ seq < totalSeqs bytes, pkt = datagram bytes seq := by
  rcases List.mem_append.mp h with h | h
  · rcases List.mem_cons.mp h with h | h
    · exact Or.inl h
    · exact Or.inr (Or.inr (mem_dataPackets.mp h))
  · exact Or.inr (Or.inl (List.mem_singleton.mp h))

lemma datagram_ne_makeCtrl (hfits : bytes < 2 ^ 32) {seq : ℕ} (h : seq < totalSeqs bytes)
    (cmd : UInt8) (value : ℕ) : datagram bytes seq ≠ makeCtrl cmd value := by
  intro heq
  have hctrl := congrArg isCtrl heq
  rw [not_isCtrl_datagram hfits h, isCtrl_makeCtrl] at hctrl
  exact Bool.false_ne_true hctrl

/-- The sequence numbers in the state of an upload, each counted once with its payload. -/
structure Tally (bytes : ℕ) (counted : Finset ℕ) (st : UploadState) : Prop where
  seqs : st.receivedSeqs = counted
  sum : st.receivedBytes = ∑ seq ∈ counted, chunkOf bytes seq

lemma Tally.count {counted : Finset ℕ} {st : UploadState} (h : Tally bytes counted st) (seq : ℕ) :
    Tally bytes (insert seq counted) (st.count seq (chunkOf bytes seq)) := by
  rw [UploadState.count]
  split_ifs with hmem
  · rw [h.seqs] at hmem
    rw [Finset.insert_eq_of_mem hmem]
    exact h
  · rw [h.seqs] at hmem
    constructor
    · show insert seq st.receivedSeqs = _
      rw [h.seqs]
    · show st.receivedBytes + chunkOf bytes seq = _
      rw [Finset.sum_insert hmem, h.sum, Nat.add_comm]

/-- The sequence numbers since the last `CMD_UPLOAD`. -/
def current (bytes : ℕ) (src : Addr) (as : List (Arrival Datagram)) : Finset ℕ :=
  seqs bytes (sinceUpload bytes (sentBy src as))

lemma current_other (ha : a.item.src ≠ src) :
    current bytes src (as ++ [a]) = current bytes src as := by
  rw [current, current, sentBy_concat_other ha]

lemma current_upload (t : ℤ) :
    current bytes src (as ++ [⟨t, ⟨src, makeCtrl cmdUpload bytes⟩⟩]) = ∅ := by
  rw [current, sentBy_concat_self, sinceUpload, List.reverse_concat, List.takeWhile_cons,
    if_neg (by simp), seqs_nil]

lemma current_datagram (hfits : bytes < 2 ^ 32) {seq : ℕ} (hseq : seq < totalSeqs bytes) (t : ℤ) :
    current bytes src (as ++ [⟨t, ⟨src, datagram bytes seq⟩⟩]) =
      insert seq (current bytes src as) := by
  have hne : (datagram bytes seq != makeCtrl cmdUpload bytes) = true :=
    bne_iff_ne.mpr (datagram_ne_makeCtrl hfits hseq _ _)
  rw [current, sentBy_concat_self, sinceUpload, List.reverse_concat, List.takeWhile_cons,
    if_pos hne, seqs_cons_datagram hfits hseq rfl]
  rfl

/-- **The server counts each datagram once.**  While an upload has a state, it holds the
sequence numbers that have arrived since the last `CMD_UPLOAD`, and their payloads. -/
theorem uploadState_run (hfits : bytes < 2 ^ 32) (as : List (Arrival Datagram)) :
    (∀ a ∈ as, a.item.src = src → a.item.pkt ∈ uploadDatagrams bytes) →
    ∀ st, (Server.fresh.run as).uploadStates src = some st →
      Tally bytes (current bytes src as) st := by
  induction as using List.reverseRecOn with
  | nil => exact fun _ st hst => absurd hst nofun
  | append_singleton as a ih =>
      intro hown st hst
      have ih := ih fun b hb => hown b (List.mem_append_left _ hb)
      rw [Server.run, List.foldl_append, List.foldl_cons, List.foldl_nil] at hst
      replace hst := Server.uploadStates_tick hst
      change ((Server.fresh.run as).dispatch a.time a.item).1.uploadStates src = some st at hst
      obtain ⟨t, d⟩ := a
      by_cases ha : d.src = src
      · have hpkt := mem_uploadDatagrams (hown ⟨t, d⟩ (by simp) ha)
        obtain ⟨src', pkt⟩ := d
        obtain rfl : src' = src := ha
        rcases hpkt with rfl | rfl | ⟨seq, hseq, rfl⟩
        · -- `CMD_UPLOAD` starts the count again
          rw [Server.dispatch_upload, Server.uploadStates_put_self] at hst
          rw [current_upload, ← Option.some.inj hst]
          exact ⟨rfl, rfl⟩
        · -- `CMD_DONE` leaves no state
          cases hs : (Server.fresh.run as).uploadStates src' with
          | some st₀ =>
              rw [Server.dispatch_done _ hs, Server.uploadStates_put_self] at hst
              exact absurd hst nofun
          | none =>
              rw [Server.dispatch_done_none _ hs, hs] at hst
              exact absurd hst nofun
        · rw [current_datagram hfits hseq]
          cases hs : (Server.fresh.run as).uploadStates src' with
          | some st₀ =>
              rw [Server.dispatch_datagram hfits hseq hs, Server.uploadStates_put_self] at hst
              rw [← Option.some.inj hst]
              exact (ih st₀ hs).count seq
          | none =>
              rw [Server.dispatch_datagram_none hfits hseq hs, hs] at hst
              exact absurd hst nofun
      · rw [Server.uploadStates_dispatch_other ha] at hst
        rw [current_other ha]
        exact ih st hst

end Server

/-! ### The report and the client -/

section Report

variable {u : Upload} {k : ℕ} {deadline : ℤ}

/-- A reply is one of the packets the server sends. -/
lemma mem_of_replyTo {a : Arrival Datagram} {as : List (Arrival Datagram)} {pkt : Packet}
    {src : Addr} (h : replyTo src as a = some pkt) :
    Reply.send src pkt ∈ ((Server.fresh.run as).dispatch a.time a.item).2 := by
  obtain ⟨r, hr, hsend⟩ := List.exists_of_findSome?_eq_some h
  cases r with
  | spawnDownload dst value => exact absurd hsend nofun
  | send dst p =>
      simp only at hsend
      split_ifs at hsend with hdst
      rw [← hdst, ← Option.some.inj hsend]
      exact hr

/-- What the server sends to a client is longer than a data header. -/
lemma length_replyTo {a : Arrival Datagram} {as : List (Arrival Datagram)} {pkt : Packet}
    {src : Addr} (h : replyTo src as a = some pkt) : dataHdrLen < pkt.length := by
  obtain ⟨-, cmd, value, rfl⟩ := Server.mem_dispatch_send (mem_of_replyTo h)
  simp [makeCtrl, magic, dataHdrLen]

/-- A report answers a `CMD_DONE`, with what the state of the upload has counted. -/
lemma replyTo_report {a : Arrival Datagram} {as : List (Arrival Datagram)} {pkt : Packet}
    {bytes : ℕ} {src : Addr} (hfits : bytes < 2 ^ 32)
    (hown : a.item.src = src → a.item.pkt ∈ uploadDatagrams bytes)
    (h : replyTo src as a = some pkt) (hreport : isCmd cmdReport pkt = true) :
    ∃ st, (Server.fresh.run as).uploadStates src = some st ∧
      pkt = makeCtrl cmdReport st.receivedBytes := by
  obtain ⟨t, src', pkt'⟩ := a
  have hr := mem_of_replyTo h
  obtain ⟨rfl, -⟩ := Server.mem_dispatch_send hr
  rcases mem_uploadDatagrams (hown rfl) with rfl | rfl | ⟨seq, hseq, rfl⟩
  · rw [Server.dispatch_upload, List.mem_singleton, Reply.send.injEq] at hr
    rw [hr.2, isCmd_makeCtrl] at hreport
    exact absurd hreport (by decide)
  · cases hs : (Server.fresh.run as).uploadStates src with
    | some st =>
        rw [Server.dispatch_done _ hs, List.mem_singleton, Reply.send.injEq] at hr
        exact ⟨st, rfl, hr.2⟩
    | none =>
        rw [Server.dispatch_done_none _ hs] at hr
        exact absurd hr List.not_mem_nil
  · cases hs : (Server.fresh.run as).uploadStates src with
    | some st =>
        rw [Server.dispatch_datagram hfits hseq hs] at hr
        exact absurd hr List.not_mem_nil
    | none =>
        rw [Server.dispatch_datagram_none hfits hseq hs] at hr
        exact absurd hr List.not_mem_nil

/-- Chunks of a transfer are at most its payload. -/
lemma sum_chunkOf_le {bytes : ℕ} {s : Finset ℕ} (h : ∀ seq ∈ s, seq < totalSeqs bytes) :
    ∑ seq ∈ s, chunkOf bytes seq ≤ bytes := by
  calc ∑ seq ∈ s, chunkOf bytes seq ≤ ∑ seq ∈ Finset.range (totalSeqs bytes), chunkOf bytes seq :=
        Finset.sum_le_sum_of_subset fun seq hseq => Finset.mem_range.mpr (h seq hseq)
    _ = min bytes (totalSeqs bytes * chunkSize) := sum_chunkOf_range bytes _
    _ ≤ bytes := min_le_left _ _

lemma lt_of_mem_seqs {bytes : ℕ} {as : List (Arrival Packet)} :
    ∀ seq ∈ seqs bytes as, seq < totalSeqs bytes := fun _ h => (mem_seqs.mp h).1

/-- Every chunk counts: a part of the datagrams carries all their bytes only if it is all
of them. -/
lemma sum_chunkOf_le_iff {bytes : ℕ} {s t : Finset ℕ} (ht : ∀ seq ∈ t, seq < totalSeqs bytes)
    (hst : s ⊆ t) : ∑ seq ∈ t, chunkOf bytes seq ≤ ∑ seq ∈ s, chunkOf bytes seq ↔ t ⊆ s := by
  constructor
  · intro hle
    by_contra hnot
    obtain ⟨seq, hseq, hmiss⟩ := Finset.not_subset.mp hnot
    have hlt := Finset.sum_lt_sum_of_subset (f := chunkOf bytes) hst hseq hmiss
      (chunkOf_pos (ht seq hseq)) fun _ _ _ => Nat.zero_le _
    omega
  · exact fun hts => Finset.sum_le_sum_of_subset hts

lemma delivered_subset_iff {bytes : ℕ} (hfits : bytes < 2 ^ 32) {as bs : List (Arrival Packet)} :
    delivered bytes as ⊆ delivered bytes bs ↔ seqs bytes as ⊆ seqs bytes bs := by
  rw [delivered_eq_image, delivered_eq_image]
  constructor
  · intro h seq hseq
    obtain ⟨i, hi, heq⟩ := Finset.mem_image.mp (h (Finset.mem_image_of_mem _ hseq))
    exact datagram_injective hfits (lt_of_mem_seqs i hi) (lt_of_mem_seqs seq hseq) heq ▸ hi
  · exact Finset.image_subset_image

lemma seqs_mono {bytes : ℕ} {as bs : List (Arrival Packet)} (h : ∀ a ∈ as, a ∈ bs) :
    seqs bytes as ⊆ seqs bytes bs := by
  intro seq hseq
  obtain ⟨hlt, a, ha, hitem⟩ := mem_seqs.mp hseq
  exact mem_seqs.mpr ⟨hlt, a, h a ha, hitem⟩

/-- What the client waits for: the value of the first report. -/
lemma result_waitForReport (reply : ℕ → Option Packet) (start : ℤ) (timeoutMs : ℕ)
    (bs : List (Arrival ℕ)) : ∀ now, bs.Pairwise (fun a b => a.time ≤ b.time) →
    ((waitForReport start timeoutMs).run now () (inboxOf reply bs)).result =
      (firstReport reply (start + millis timeoutMs) bs).bind fun c =>
        (reply c.item).map valueOf := by
  induction bs with
  | nil => exact fun _ _ => rfl
  | cons c cs ih =>
      intro now hsorted
      obtain ⟨hle, hsorted⟩ := List.pairwise_cons.mp hsorted
      rw [firstReport, inboxOf, List.filterMap_cons, List.find?_cons]
      cases hreply : reply c.item with
      | none =>
          simp only [Option.map_none, Option.any_none, Bool.and_false]
          exact ih now hsorted
      | some pkt =>
          simp only [Option.map_some, Option.any_some]
          by_cases hlt : c.time < start + millis timeoutMs
          · by_cases hcmd : isCmd cmdReport pkt = true
            · rw [ReceiveLoop.run_ret (r := some (valueOf pkt)) hlt (by simp [waitForReport, hcmd])]
              simp [hlt, hcmd, hreply]
            · rw [ReceiveLoop.run_go (t := ()) hlt (by simp [waitForReport, hcmd])]
              simp only [hcmd, Bool.and_false]
              exact ih c.time hsorted
          · -- no later report is in time either
            have hnone : cs.find? (fun c => decide (c.time < start + millis timeoutMs) &&
                (reply c.item).any (isCmd cmdReport)) = none := by
              rw [List.find?_eq_none]
              intro d hd
              have hlate : ¬ d.time < start + millis timeoutMs := by
                have hcd := hle d hd
                omega
              simp [hlate]
            rw [ReceiveLoop.run_expire hlt]
            simp [hlt, hnone, waitForReport]

/-- Every reply to the client ends the wait for the acknowledgement. -/
lemma waitForAck_reply {start : ℤ} {timeoutMs : ℕ} {b : Arrival ℕ} (bs : List (Arrival ℕ))
    {reply : ℕ → Option Packet} {pkt : Packet} (hreply : reply b.item = some pkt)
    (hlen : dataHdrLen < pkt.length) (hlt : b.time < start + millis timeoutMs) :
    ∃ o, (waitForAck start timeoutMs).run start 0 (inboxOf reply (b :: bs)) =
      ⟨.ok o, b.time, inboxOf reply bs⟩ := by
  have hhandle : ∃ o, (waitForAck start timeoutMs).handle b.time (.datagram pkt) 0 =
      .inr (.ok o) := by
    simp only [waitForAck]
    split_ifs
    · exact ⟨_, rfl⟩
    · exact ⟨_, rfl⟩
    · exact ⟨_, rfl⟩
  obtain ⟨o, ho⟩ := hhandle
  refine ⟨o, ?_⟩
  rw [inboxOf, List.filterMap_cons, hreply, Option.map_some]
  exact ReceiveLoop.run_ret hlt ho

end Report

/-! ### When the report is exact -/

/-- The report of an upload misses nothing: all that arrived before it has arrived since the
last `CMD_UPLOAD`, and nothing else arrives within the report timeout. -/
def Upload.Complete (u : Upload) (k : ℕ) (deadline : ℤ) : Prop :=
  delivered u.bytes (u.before k) ⊆ delivered u.bytes (sinceUpload u.bytes (u.before k)) ∧
    delivered u.bytes (u.within deadline) ⊆ delivered u.bytes (u.before k)

instance (u : Upload) (k : ℕ) (deadline : ℤ) : Decidable (u.Complete k deadline) :=
  inferInstanceAs (Decidable (_ ∧ _))

section Exact

variable {u : Upload} {k : ℕ} {deadline : ℤ}

/-- What is known of an accepted report: the value it carries, and when it arrives. -/
lemma accepted_spec (h : u.accepted = some (k, deadline)) :
    ∃ a v, u.arrivals[k]? = some a ∧ a.time < deadline ∧
      v = ∑ seq ∈ seqs u.bytes (sinceUpload u.bytes (u.before k)), chunkOf u.bytes seq ∧
      (∀ r, u.run = .ok r → r.bytesAcked = some v ∧ r.lossPercent = uploadLoss u.bytes v) ∧
      ∃ r, u.run = .ok r := by
  cases hbs : u.replies with
  | nil =>
      rw [Upload.accepted, hbs] at h
      exact absurd h nofun
  | cons b bs =>
      rw [Upload.accepted, hbs] at h
      simp only at h
      split_ifs at h with hlt
      obtain ⟨c, hfirst, hc⟩ := Option.map_eq_some_iff.mp h
      obtain ⟨rfl, rfl⟩ := Prod.mk.inj hc
      have hcmem : c ∈ bs := List.mem_of_find?_eq_some hfirst
      have hfound := List.find?_some hfirst
      rw [Bool.and_eq_true, decide_eq_true_iff] at hfound
      obtain ⟨hctime, hreport⟩ := hfound
      -- the report that is accepted, and the arrival it answers
      obtain ⟨a, ha, hac, -⟩ := u.answers c (hbs ▸ List.mem_cons_of_mem _ hcmem)
      obtain ⟨pkt, hpkt, hcmd⟩ := (Option.any_eq_true _ _).mp hreport
      have hreply : replyTo u.src (u.arrivals.take c.item) a = some pkt := by
        rwa [Upload.reply, ha] at hpkt
      have hamem : a ∈ u.arrivals := List.mem_of_getElem? ha
      obtain ⟨st, hst, rfl⟩ := replyTo_report u.fits (u.own a hamem) hreply hcmd
      have htally := uploadState_run u.fits (u.arrivals.take c.item)
        (fun a' ha' => u.own a' (List.mem_of_mem_take ha')) st hst
      have hle : st.receivedBytes ≤ u.bytes := htally.sum ▸ sum_chunkOf_le lt_of_mem_seqs
      have hvalue : valueOf (makeCtrl cmdReport st.receivedBytes) = st.receivedBytes :=
        valueOf_makeCtrl (lt_of_le_of_lt hle u.fits)
      -- the wait for the acknowledgement
      obtain ⟨a₀, ha₀, -, hsome⟩ := u.answers b (hbs ▸ List.mem_cons_self)
      obtain ⟨pkt₀, hpkt₀⟩ := Option.isSome_iff_exists.mp hsome
      have hreply₀ : u.reply b.item = some pkt₀ := by
        rw [Upload.reply, ha₀]
        exact hpkt₀
      obtain ⟨o, hwait⟩ := waitForAck_reply bs hreply₀ (length_replyTo hpkt₀) hlt
      have hsorted : bs.Pairwise fun a b => a.time ≤ b.time :=
        (List.pairwise_cons.mp (hbs ▸ u.inOrder.1)).2
      have hacked : (sendUpload u.bytes u.cfg.timeoutMs u.sending b.time (inboxOf u.reply bs)).2.2 =
          some st.receivedBytes := by
        rw [sendUpload]
        split_ifs with hzero
        · exact congrArg some (Nat.le_zero.mp (hzero ▸ hle)).symm
        · show ((waitForReport _ _).run _ () (inboxOf u.reply bs)).result = _
          rw [result_waitForReport _ _ _ _ _ hsorted,
            show firstReport u.reply (u.sending.doneAt b.time + millis u.cfg.timeoutMs) bs = some c
              from hfirst, Option.bind_some, hpkt, Option.map_some, hvalue]
      have hrun : u.run = .ok
          { payloadBytes := u.bytes
            datagramsSent :=
              (sendUpload u.bytes u.cfg.timeoutMs u.sending b.time (inboxOf u.reply bs)).1
            datagramsReceived := none
            bytesAcked := some st.receivedBytes
            lossPercent := uploadLoss u.bytes st.receivedBytes
            transferMs :=
              (sendUpload u.bytes u.cfg.timeoutMs u.sending b.time (inboxOf u.reply bs)).2.1
            throughputMbps := mbps st.receivedBytes
              (sendUpload u.bytes u.cfg.timeoutMs u.sending b.time (inboxOf u.reply bs)).2.1 } := by
        rw [Upload.run, runUdpuploadProbe, hbs, hwait]
        simp only [hacked]
      refine ⟨a, st.receivedBytes, ha, lt_of_le_of_lt hac hctime, htally.sum,
        fun r hr => ?_, _, hrun⟩
      rw [hrun, Except.ok.injEq] at hr
      subst hr
      exact ⟨rfl, rfl⟩

/-- What arrived before an accepted report arrived within the report timeout. -/
lemma before_subset_within {a : Arrival Datagram} (ha : u.arrivals[k]? = some a)
    (hlt : a.time < deadline) : seqs u.bytes (u.before k) ⊆ seqs u.bytes (u.within deadline) := by
  refine seqs_mono fun p hp => ?_
  obtain ⟨b, hb, rfl⟩ := List.mem_map.mp hp
  obtain ⟨hbk, hsrc⟩ := List.mem_filter.mp hb
  obtain ⟨j, hj, hget⟩ := List.mem_take_iff_getElem.mp hbk
  obtain ⟨hk, hgetk⟩ := List.getElem?_eq_some_iff.mp ha
  have hle : b.time ≤ a.time := by
    rw [← hget, ← hgetk]
    exact List.pairwise_iff_getElem.mp u.ordered j k (by omega) hk (by omega)
  refine List.mem_filter.mpr ⟨List.mem_map_of_mem (List.mem_filter.mpr
    ⟨List.mem_of_mem_take hbk, hsrc⟩), ?_⟩
  exact decide_eq_true (lt_of_le_of_lt hle hlt)

/-- The bytes that are reported lost. -/
lemma uploadLoss_mul {bytes v : ℕ} (hle : v ≤ bytes) :
    uploadLoss bytes v * bytes = 100 * (bytes - v) := by
  rw [uploadLoss]
  split_ifs with hpos
  · have hne : (bytes : ℚ) ≠ 0 := by exact_mod_cast hpos.ne'
    rw [Nat.cast_sub hle]
    field_simp
  · have hzero : bytes = 0 := by omega
    have hv : v = 0 := by omega
    rw [hzero, hv]
    simp

end Exact

/-- **Upload reports.**  For every payload below `2 ^ 32`, however long the upload takes,
and for all that arrives at the server from this client and from others, the report the
client accepts is exact if and only if it is complete. -/
theorem upload_exact_iff (u : Upload) (k : ℕ) (deadline : ℤ)
    (haccepted : u.accepted = some (k, deadline)) :
    (∀ r, u.run = .ok r → UploadExact u k deadline r) ↔ u.Complete k deadline := by
  obtain ⟨a, v, ha, hlt, hv, hrun, r, hr⟩ := accepted_spec haccepted
  have hsince : seqs u.bytes (sinceUpload u.bytes (u.before k)) ⊆ seqs u.bytes (u.before k) :=
    seqs_mono fun p hp => List.mem_reverse.mp ((List.takeWhile_sublist _).subset hp)
  have hwithin := before_subset_within ha hlt
  have hle : v ≤ u.bytes := hv ▸ sum_chunkOf_le lt_of_mem_seqs
  have hbefore : payloadOf (delivered u.bytes (u.before k)) =
      ∑ seq ∈ seqs u.bytes (u.before k), chunkOf u.bytes seq := sum_delivered u.fits
  have hreach : payloadOf (delivered u.bytes (u.within deadline)) =
      ∑ seq ∈ seqs u.bytes (u.within deadline), chunkOf u.bytes seq := sum_delivered u.fits
  have hsum : v ≤ ∑ seq ∈ seqs u.bytes (u.before k), chunkOf u.bytes seq :=
    hv ▸ Finset.sum_le_sum_of_subset hsince
  have hlost : ∀ n : ℕ, uploadLoss u.bytes v * u.bytes + 100 * n ≤ 100 * u.bytes ↔ n ≤ v := by
    intro n
    rw [uploadLoss_mul hle]
    constructor
    · intro h
      have hq : (n : ℚ) ≤ v := by linarith
      exact_mod_cast hq
    · intro h
      have hq : (n : ℚ) ≤ v := by exact_mod_cast h
      linarith
  rw [Upload.Complete, delivered_subset_iff u.fits, delivered_subset_iff u.fits]
  constructor
  · intro h
    obtain ⟨hacked, hloss⟩ := hrun r hr
    have hexact := h r hr
    have hv' : v = ∑ seq ∈ seqs u.bytes (u.before k), chunkOf u.bytes seq := by
      rw [← hbefore]
      exact Option.some.inj (hacked.symm.trans hexact.acked)
    refine ⟨(sum_chunkOf_le_iff lt_of_mem_seqs hsince).mp (by omega),
      (sum_chunkOf_le_iff lt_of_mem_seqs hwithin).mp ?_⟩
    have hlast := hexact.lost
    rw [hloss, hlost, hreach] at hlast
    omega
  · rintro ⟨hall, hnone⟩ r' hr'
    obtain ⟨hacked, hloss⟩ := hrun r' hr'
    have hv' : v = ∑ seq ∈ seqs u.bytes (u.before k), chunkOf u.bytes seq := by
      have hge := (sum_chunkOf_le_iff lt_of_mem_seqs hsince).mpr hall
      omega
    refine ⟨by rw [hacked, hbefore, hv'], ?_⟩
    rw [hloss, hlost, hreach, hv']
    exact (sum_chunkOf_le_iff lt_of_mem_seqs hwithin).mpr hnone

namespace ShortUpload

/-- An upload of five bytes from source 7, next to another client. -/
def upload (arrivals : List (Arrival Datagram)) (replies : List (Arrival ℕ))
    (ordered : arrivals.Pairwise fun a b => a.time ≤ b.time)
    (own : ∀ a ∈ arrivals, a.item.src = 7 → a.item.pkt ∈ uploadDatagrams 5)
    (inOrder : Schedule 0 replies)
    (answers : ∀ b ∈ replies, ∃ a, arrivals[b.item]? = some a ∧ a.time ≤ b.time ∧
      (replyTo 7 (arrivals.take b.item) a).isSome = true) : Upload where
  bytes := 5
  fits := by omega
  cfg := ⟨1000⟩
  sending := ⟨fun _ => false, fun start => start + 2⟩
  start := 0
  src := 7
  arrivals := arrivals
  ordered := ordered
  own := own
  replies := replies
  inOrder := inOrder
  answers := answers

/-- The data arrives twice. -/
def duplicated : Upload :=
  upload [⟨1, 7, makeCtrl cmdUpload 5⟩, ⟨3, 7, datagram 5 0⟩, ⟨3, 9, makeCtrl cmdDone 0⟩,
      ⟨4, 7, datagram 5 0⟩, ⟨6, 7, makeCtrl cmdDone 5⟩]
    [⟨2, 0⟩, ⟨8, 4⟩] (by decide) (by decide) (by decide)
    (by
      intro b hb
      simp only [List.mem_cons, List.not_mem_nil, or_false] at hb
      rcases hb with rfl | rfl
      · exact ⟨⟨1, 7, makeCtrl cmdUpload 5⟩, rfl, by decide, rfl⟩
      · exact ⟨⟨6, 7, makeCtrl cmdDone 5⟩, rfl, by decide, rfl⟩)

/-- A duplicate of the `CMD_UPLOAD` arrives behind the data. -/
def reset : Upload :=
  upload [⟨1, 7, makeCtrl cmdUpload 5⟩, ⟨3, 7, datagram 5 0⟩, ⟨4, 7, makeCtrl cmdUpload 5⟩,
      ⟨6, 7, makeCtrl cmdDone 5⟩]
    [⟨2, 0⟩, ⟨8, 3⟩] (by decide) (by decide) (by decide)
    (by
      intro b hb
      simp only [List.mem_cons, List.not_mem_nil, or_false] at hb
      rcases hb with rfl | rfl
      · exact ⟨⟨1, 7, makeCtrl cmdUpload 5⟩, rfl, by decide, rfl⟩
      · exact ⟨⟨6, 7, makeCtrl cmdDone 5⟩, rfl, by decide, rfl⟩)

end ShortUpload

open ShortUpload in
theorem upload_exact_iff_duplicated :
    duplicated.run.isOk = true ∧
      ∀ r, duplicated.run = .ok r → UploadExact duplicated 4 (4 + millis 1000) r := by
  refine ⟨rfl, ?_⟩
  exact (upload_exact_iff duplicated 4 (4 + millis 1000) rfl).mpr
    (by decide)

open ShortUpload in
/-- The server forgets the datagram with the duplicate, and the report says that no byte has
arrived. -/
theorem upload_reset :
    reset.accepted = some (3, 4 + millis 1000) ∧
      ¬ ∀ r, reset.run = .ok r → UploadExact reset 3 (4 + millis 1000) r := by
  have haccepted : reset.accepted = some (3, 4 + millis 1000) := rfl
  refine ⟨haccepted, fun h => ?_⟩
  obtain ⟨-, v, -, -, hv, hrun, r, hr⟩ := accepted_spec haccepted
  have hv : v = 0 := hv.trans rfl
  have hacked := (hrun r hr).1.symm.trans (h r hr).acked
  rw [hv, Option.some.injEq] at hacked
  exact absurd hacked (by decide)

end Networker
