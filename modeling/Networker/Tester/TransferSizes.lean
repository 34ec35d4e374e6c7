/-
The sizes for which the UDP throughput probes are exact.

* `parseSize`: the sizes that the command line accepts (`parse_size` in
  `networker-tester/src/cli.rs`);
* `DownloadPath`, `UploadPath`: a transfer over a path that loses and reorders nothing, and
  on which no timeout passes;
* `DownloadPath.exact_iff`, `UploadPath.exact_iff`: the reports are exact below `2 ^ 32` bytes;
* `throughput_exact_iff`: so they are for the sizes of the command line;
* `four_gibibytes`: the size `4g`.
-/
import Networker.Data.Text
import Networker.Tester.UploadReport

namespace Networker

open Data Concurrency UdpThroughput

/-! ### The sizes of the command line -/

/-- The text of a `usize`. -/
def parseUsize (cs : List Char) : Option ℕ :=
  let digits := match cs with
    | '+' :: ds => Text.parseDigits ds
    | ds => Text.parseDigits ds
  digits.filter (· < 2 ^ 64)

/-- The text in front of the unit, and the unit. -/
def sizeUnit (cs : List Char) : List Char × ℕ :=
  match cs.getLast? with
  | some 'g' => (cs.dropLast, 2 ^ 30)
  | some 'm' => (cs.dropLast, 2 ^ 20)
  | some 'k' => (cs.dropLast, 2 ^ 10)
  | _ => (cs, 1)

/-- `parse_size`. -/
def parseSize (casing : Text.Casing) (s : String) : Option ℕ :=
  let (num, mul) := sizeUnit ((Text.trimChars s.toList).map casing.lower)
  ((parseUsize num).map (· * mul)).filter (· < 2 ^ 64)

/-! ### A download -/

/-- A download over a path that delivers what the server sends, all of it and in order, and
none of it late. -/
structure DownloadPath (payload : ℕ) where
  cfg : UdpThroughputConfig
  start : ℤ
  arrivals : List (Arrival Packet)
  ordered : Schedule start arrivals
  lossFree : arrivals.map Arrival.item = serveDownload (valueOf (makeCtrl cmdDownload payload))
  inTime : ∀ a ∈ arrivals.head?, a.time < start + millis cfg.timeoutMs ∧
    ∀ b ∈ arrivals, b.time < a.time + millis cfg.timeoutMs

namespace DownloadPath

variable {payload : ℕ} (d : DownloadPath payload)

/-- The probe of the client. -/
def run : Except String (Received × UdpThroughputResult) :=
  runUdpdownloadProbe payload d.cfg d.start (deliver d.arrivals)

/-- No loss, and as many bytes as were requested. -/
def Exact : Prop :=
  ∃ r, d.run = .ok r ∧ r.2.lossPercent = 0 ∧ r.1.receivedBytes = payload

end DownloadPath

section Download

variable {bytes : ℕ} {as : List (Arrival Packet)}

/-- A download in order: the acknowledgement, the data, `CMD_DONE`. -/
lemma serveDownload_eq (bytes : ℕ) :
    serveDownload bytes = makeCtrl cmdAck 0 :: (dataPackets bytes ++ [makeCtrl cmdDone bytes]) := by
  rw [serveDownload, sendDownload]
  split_ifs with hzero
  · subst hzero
    rfl
  · rfl

/-- Data that comes before the deadline and before `CMD_DONE` is in time. -/
lemma inTime_inOrder {deadline : ℤ} {pkts : List Packet} (hne : makeCtrl cmdDone bytes ∉ pkts) :
    as.map Arrival.item = pkts ++ [makeCtrl cmdDone bytes] → (∀ a ∈ as, a.time < deadline) →
      makeCtrl cmdDone bytes ∉ dataPackets bytes → InTime bytes deadline none as := by
  induction pkts generalizing as with
  | nil =>
      intro hitems hlt hdone
      obtain ⟨a, rfl, ha⟩ := List.map_eq_singleton_iff.mp hitems
      exact ⟨fun hmem => absurd (ha ▸ hmem) hdone, trivial⟩
  | cons pkt pkts ih =>
      intro hitems hlt hdone
      obtain ⟨a, as, rfl, ha, hrest⟩ := List.map_eq_cons_iff.mp hitems
      have hnot : ¬ (a.item = makeCtrl cmdDone bytes ∧ ∀ u ∈ (none : Option ℤ), a.time < u) := by
        rintro ⟨heq, -⟩
        exact hne (by rw [← heq, ha]; exact List.mem_cons_self)
      refine ⟨fun _ => ⟨hlt a List.mem_cons_self, by simp⟩, ?_⟩
      rw [if_neg hnot]
      exact ih (fun hmem => hne (List.mem_cons_of_mem _ hmem)) hrest
        (fun b hb => hlt b (List.mem_cons_of_mem _ hb)) hdone

lemma done_notMem_dataPackets (hfits : bytes < 2 ^ 32) :
    makeCtrl cmdDone bytes ∉ dataPackets bytes := by
  intro hmem
  obtain ⟨seq, hseq, heq⟩ := mem_dataPackets.mp hmem
  exact datagram_ne_makeCtrl hfits hseq _ _ heq.symm

/-- Everything is received of a download in order. -/
lemma DownloadPath.received {payload : ℕ} (d : DownloadPath payload) :
    ∃ r, d.run = .ok (r, r.result payload) ∧ r.receivedSeqs.card = totalSeqs (payload % 2 ^ 32) ∧
      r.receivedBytes = payload % 2 ^ 32 := by
  obtain ⟨cfg, start, arrivals, ordered, lossFree, inTime⟩ := d
  rw [valueOf_makeCtrl_mod, serveDownload_eq] at lossFree
  have hfits : payload % 2 ^ 32 < 2 ^ 32 := Nat.mod_lt _ (by decide)
  generalize hbytes : payload % 2 ^ 32 = bytes at *
  obtain ⟨a, as, rfl, ha, hrest⟩ := List.map_eq_cons_iff.mp lossFree
  obtain ⟨hack, hlate⟩ := inTime a rfl
  -- the acknowledgement comes first
  have hwait : (waitForAck start cfg.timeoutMs).run start 0 (deliver (a :: as)) =
      ⟨.ok .ack, a.time, deliver as⟩ :=
    ReceiveLoop.run_ret hack (by simp [waitForAck, ha])
  have hdone := done_notMem_dataPackets hfits
  have hsent : ∀ b ∈ as, b.item ∈ serveDownload bytes := by
    intro b hb
    have hmem : b.item ∈ as.map Arrival.item := List.mem_map_of_mem hb
    rw [hrest] at hmem
    rw [serveDownload_eq]
    exact List.mem_cons_of_mem _ hmem
  obtain ⟨hcounts, hseqs⟩ := recvDownload_received hfits a.time cfg.timeoutMs as
    (s := .entered a.time none) ordered.tail hsent
    (inTime_inOrder hdone hrest (fun b hb => hlate b (List.mem_cons_of_mem _ hb)) hdone)
    ⟨by simp [Download.entered], rfl⟩
  -- every datagram of the transfer is among the arrivals
  have hall : seqs bytes as = Finset.range (totalSeqs bytes) := by
    refine Finset.filter_eq_self.mpr fun seq hseq => ?_
    rw [hrest]
    exact List.mem_append_left _ (mem_dataPackets.mpr ⟨seq, Finset.mem_range.mp hseq, rfl⟩)
  replace hseqs := hseqs.trans ((Finset.empty_union _).trans hall)
  refine ⟨receiveAfter cfg.timeoutMs a.time (deliver as) .ack, ?_, ?_, ?_⟩
  · rw [DownloadPath.run, runUdpdownloadProbe, hwait]
  · exact (congrArg Finset.card hseqs).trans (Finset.card_range _)
  · refine hcounts.sum.trans ?_
    rw [hseqs, sum_chunkOf hfits]

/-- **Downloads.**  A download is exact if and only if its size fits into 32 bits. -/
theorem DownloadPath.exact_iff {payload : ℕ} (d : DownloadPath payload) :
    d.Exact ↔ payload < 2 ^ 32 := by
  obtain ⟨r, hrun, hcard, hbytes⟩ := d.received
  constructor
  · rintro ⟨r', hrun', -, hexact⟩
    rw [hrun, Except.ok.injEq] at hrun'
    rw [← hrun'] at hexact
    change r.receivedBytes = payload at hexact
    omega
  · intro hfits
    have hmod : payload % 2 ^ 32 = payload := Nat.mod_eq_of_lt hfits
    rw [hmod] at hcard hbytes
    refine ⟨_, hrun, ?_, hbytes⟩
    show lossPercent (totalSeqs payload) r.receivedSeqs.card = 0
    rw [hcard, lossPercent]
    split_ifs
    · rfl
    · simp

end Download

/-! ### What the server sends to a client -/

/-- The packets among replies that go to a client. -/
def packetsTo (src : Addr) (replies : List (List (Addr × Packet))) : List Packet :=
  (replies.flatten.filter fun p => p.1 = src).map Prod.snd

/-- What the server sends to a client in a run. -/
def UdpThroughput.Server.sendsTo (src : Addr) (s : Server) (as : List (Arrival Datagram)) :
    List Packet := (s.outputs as).flatMap (packetsTo src)

section Server

variable {bytes : ℕ} {src : Addr} {s : Server} {st : UploadState} {a : Arrival Datagram}
  {as : List (Arrival Datagram)}

lemma sendsTo_cons :
    s.sendsTo src (a :: as) =
      packetsTo src ((s.receive a.time a.item).2.map Reply.datagrams) ++
        (s.receive a.time a.item).1.sendsTo src as := rfl

/-- What the server does for a datagram goes back to its source. -/
lemma dst_of_mem_dispatch {now : ℤ} {d : Datagram} {r : Reply} {p : Addr × Packet}
    (hr : r ∈ (s.dispatch now d).2) (hp : p ∈ r.datagrams) : p.1 = d.src := by
  cases r with
  | send dst pkt =>
      obtain ⟨hdst, -⟩ := Server.mem_dispatch_send hr
      simp only [Reply.datagrams, List.mem_singleton] at hp
      rw [hp, hdst]
  | spawnDownload dst value =>
      have hdst : dst = d.src := by
        simp only [Server.dispatch, Server.control] at hr
        split_ifs at hr <;> simp_all
        split at hr <;> simp_all
      simp only [Reply.datagrams, List.mem_map] at hp
      obtain ⟨pkt, -, rfl⟩ := hp
      exact hdst

/-- A datagram of another source sends nothing to a client. -/
lemma packetsTo_other (ha : a.item.src ≠ src) :
    packetsTo src ((s.receive a.time a.item).2.map Reply.datagrams) = [] := by
  rw [packetsTo, List.map_eq_nil_iff, List.filter_eq_nil_iff]
  intro p hp
  obtain ⟨ps, hps, hp⟩ := List.mem_flatten.mp hp
  obtain ⟨r, hr, rfl⟩ := List.mem_map.mp hps
  have hdst := dst_of_mem_dispatch (d := a.item) hr hp
  simpa [hdst] using ha

/-- A state that is younger than the TTL survives the sweep. -/
lemma tick_of_young {now : ℤ} (hs : s.uploadStates src = some st)
    (hyoung : now - st.createdAt < uploadStateTtl) :
    (s.tick now).uploadStates src = some st := by
  rw [Server.tick]
  split_ifs
  · simp [reapStaleUploads, hs, hyoung]
  · exact hs

/-- Nothing is sent to a client that sends nothing. -/
lemma sendsTo_others (hown : sentBy src as = []) : s.sendsTo src as = [] := by
  induction as generalizing s with
  | nil => rfl
  | cons a as ih =>
      have ha : a.item.src ≠ src := by
        intro ha
        simp [sentBy, ha] at hown
      rw [sendsTo_cons, packetsTo_other ha, List.nil_append]
      refine ih ?_
      simpa [sentBy, ha] using hown

lemma createdAt_count (st : UploadState) (seq len : ℕ) :
    (st.count seq len).createdAt = st.createdAt := by
  rw [UploadState.count]
  split_ifs
  · rfl
  · rfl

/-- What arrives in front of the rest of an upload is no older. -/
lemma young_of_sentBy {createdAt : ℤ} (hle : ∀ b ∈ as, a.time ≤ b.time)
    (hne : sentBy src as ≠ [])
    (hyoung : ∀ b ∈ sentBy src as, b.time - createdAt < uploadStateTtl) :
    a.time - createdAt < uploadStateTtl := by
  obtain ⟨b, hb⟩ := List.exists_mem_of_ne_nil _ hne
  have hyoungest := hyoung b hb
  obtain ⟨c, hc, rfl⟩ := List.mem_map.mp hb
  have hac := hle c (List.mem_filter.mp hc).1
  simp only at hyoungest
  omega

/-- A datagram of an upload is counted, and nothing is sent for it. -/
lemma receive_datagram {k : ℕ} (hfits : bytes < 2 ^ 32) (hk : k < totalSeqs bytes)
    (hitem : a.item = ⟨src, datagram bytes k⟩) (hs : s.uploadStates src = some st)
    (hyoung : a.time - st.createdAt < uploadStateTtl) :
    (s.receive a.time a.item).1.uploadStates src = some (st.count k (chunkOf bytes k)) ∧
      (s.receive a.time a.item).2 = [] := by
  have hdispatch : s.dispatch a.time ⟨src, datagram bytes k⟩ =
      (s.put src (some (st.count k (chunkOf bytes k))), []) :=
    Server.dispatch_datagram hfits hk hs
  rw [Server.receive, hitem, hdispatch]
  refine ⟨tick_of_young Server.uploadStates_put_self ?_, rfl⟩
  rw [createdAt_count]
  exact hyoung

/-- `CMD_DONE` is answered with what has been counted. -/
lemma packetsTo_done (hitem : a.item = ⟨src, makeCtrl cmdDone bytes⟩)
    (hs : s.uploadStates src = some st) :
    packetsTo src ((s.receive a.time a.item).2.map Reply.datagrams) =
      [makeCtrl cmdReport st.receivedBytes] := by
  rw [Server.receive, hitem, Server.dispatch_done bytes hs]
  simp [packetsTo, Reply.datagrams]

/-- While the state of an upload is young, the rest of its data is counted, and what is reported
at the end is the payload. -/
lemma sendsTo_data (hfits : bytes < 2 ^ 32) (n : ℕ) : ∀ {k : ℕ} {s : Server} {st : UploadState},
    as.Pairwise (fun a b => a.time ≤ b.time) → k + n = totalSeqs bytes →
    (sentBy src as).map Arrival.item =
      (List.range' k n).map (datagram bytes) ++ [makeCtrl cmdDone bytes] →
    s.uploadStates src = some st → Tally bytes (Finset.range k) st →
    (∀ a ∈ sentBy src as, a.time - st.createdAt < uploadStateTtl) →
    s.sendsTo src as = [makeCtrl cmdReport bytes] := by
  induction as generalizing n with
  | nil =>
      intro k s st _ _ hitems
      exact absurd hitems.symm (by simp [sentBy])
  | cons a as ih =>
      intro k s st hsorted hn hitems hs htally hyoung
      obtain ⟨hle, hsorted⟩ := List.pairwise_cons.mp hsorted
      rw [sendsTo_cons]
      by_cases ha : a.item.src = src
      · have hown : sentBy src (a :: as) = ⟨a.time, a.item.pkt⟩ :: sentBy src as := by
          simp [sentBy, ha]
        rw [hown, List.map_cons] at hitems
        rw [hown, List.forall_mem_cons] at hyoung
        cases n with
        | zero =>
            obtain ⟨hpkt, hrest⟩ := List.cons.inj hitems
            rw [List.map_eq_nil_iff] at hrest
            have hitem : a.item = ⟨src, makeCtrl cmdDone bytes⟩ := by rw [← ha, ← hpkt]
            have hsum : st.receivedBytes = bytes := by
              rw [htally.sum, show k = totalSeqs bytes by omega, sum_chunkOf hfits]
            rw [packetsTo_done hitem hs, sendsTo_others hrest, hsum, List.append_nil]
        | succ n =>
            rw [List.range'_succ, List.map_cons, List.cons_append] at hitems
            obtain ⟨hpkt, hrest⟩ := List.cons.inj hitems
            have hitem : a.item = ⟨src, datagram bytes k⟩ := by rw [← ha, ← hpkt]
            obtain ⟨hnext, hnone⟩ := receive_datagram hfits (by omega) hitem hs hyoung.1
            have htally' := htally.count k
            rw [← Finset.range_add_one] at htally'
            rw [hnone, List.map_nil, packetsTo, List.flatten_nil, List.filter_nil, List.map_nil,
              List.nil_append]
            refine ih n hsorted (by omega) hrest hnext htally' fun b hb => ?_
            rw [createdAt_count]
            exact hyoung.2 b hb
      · have hown : sentBy src (a :: as) = sentBy src as := by simp [sentBy, ha]
        rw [hown] at hitems hyoung
        have hne : sentBy src as ≠ [] := by
          intro hnil
          rw [hnil] at hitems
          exact absurd hitems.symm (by simp)
        have hkept : (s.dispatch a.time a.item).1.uploadStates src = some st :=
          (Server.uploadStates_dispatch_other ha).trans hs
        have hnext : (s.receive a.time a.item).1.uploadStates src = some st :=
          tick_of_young hkept (young_of_sentBy hle hne hyoung)
        rw [packetsTo_other ha, List.nil_append]
        exact ih n hsorted hn hitems hnext htally hyoung

/-- What an upload is answered. -/
lemma sendsTo_upload (hfits : bytes < 2 ^ 32) (hsorted : as.Pairwise fun a b => a.time ≤ b.time)
    (hitems : (sentBy src as).map Arrival.item = uploadDatagrams bytes)
    (hyoung : ∀ a ∈ sentBy src as, ∀ b ∈ sentBy src as, b.time - a.time < uploadStateTtl) :
    s.sendsTo src as = [makeCtrl cmdAck 0, makeCtrl cmdReport bytes] := by
  induction as generalizing s with
  | nil => exact absurd hitems.symm (by simp [sentBy, uploadDatagrams])
  | cons a as ih =>
      obtain ⟨hle, hrest⟩ := List.pairwise_cons.mp hsorted
      rw [sendsTo_cons]
      by_cases ha : a.item.src = src
      · have hown : sentBy src (a :: as) = ⟨a.time, a.item.pkt⟩ :: sentBy src as := by
          simp [sentBy, ha]
        rw [hown, List.map_cons, uploadDatagrams, List.cons_append] at hitems
        rw [hown] at hyoung
        obtain ⟨hpkt, hdata⟩ := List.cons.inj hitems
        change a.item.pkt = makeCtrl cmdUpload bytes at hpkt
        have hitem : a.item = ⟨src, makeCtrl cmdUpload bytes⟩ := by rw [← ha, ← hpkt]
        have hdispatch : s.dispatch a.time ⟨src, makeCtrl cmdUpload bytes⟩ =
            (s.put src (some (Server.begun a.time (valueOf (makeCtrl cmdUpload bytes)))),
              [.send src (makeCtrl cmdAck 0)]) :=
          Server.dispatch_upload bytes
        rw [← hitem] at hdispatch
        have hfirst := hyoung _ List.mem_cons_self
        have hnext : (s.receive a.time a.item).1.uploadStates src = some (Server.begun a.time bytes)
            := by
          rw [Server.receive, hdispatch, valueOf_makeCtrl hfits]
          exact tick_of_young Server.uploadStates_put_self (hfirst _ List.mem_cons_self)
        have hsend : (s.receive a.time a.item).2 = [.send src (makeCtrl cmdAck 0)] := by
          rw [Server.receive, hdispatch]
        rw [hsend, sendsTo_data hfits (totalSeqs bytes) hrest (Nat.zero_add _)
          (by rw [hdata, dataPackets_eq, List.range_eq_range']) hnext ⟨rfl, rfl⟩
          fun b hb => hfirst b (List.mem_cons_of_mem _ hb)]
        simp [packetsTo, Reply.datagrams]
      · have hown : sentBy src (a :: as) = sentBy src as := by simp [sentBy, ha]
        rw [hown] at hitems hyoung
        rw [packetsTo_other ha, List.nil_append]
        exact ih hrest hitems hyoung

end Server

/-! ### An upload -/

/-- An upload over a path that delivers what either side sends, all of it and in order; no reply
is late, and the state at the server does not get as old as the TTL.  Other clients may send
in between. -/
structure UploadPath (payload : ℕ) where
  cfg : UdpThroughputConfig
  sending : Sending
  unfailing : ∀ seq, sending.fails seq = false
  start : ℤ
  server : Server
  src : Addr
  arrivals : List (Arrival Datagram)
  ordered : arrivals.Pairwise fun a b => a.time ≤ b.time
  lossFree : (sentBy src arrivals).map Arrival.item = uploadDatagrams payload
  young : ∀ a ∈ sentBy src arrivals, ∀ b ∈ sentBy src arrivals,
    b.time - a.time < uploadStateTtl
  replies : List (Arrival Packet)
  inOrder : Schedule start replies
  answered : replies.map Arrival.item = server.sendsTo src arrivals
  inTime : ∀ a ∈ replies.head?, a.time < start + millis cfg.timeoutMs ∧
    ∀ b ∈ replies.tail, b.time < sending.doneAt a.time + millis cfg.timeoutMs

namespace UploadPath

variable {payload : ℕ} (u : UploadPath payload)

/-- The probe of the client. -/
def run : Except String UdpThroughputResult :=
  runUdpuploadProbe payload u.cfg u.sending u.start (deliver u.replies)

/-- No loss, and as many bytes acknowledged as were requested. -/
def Exact : Prop :=
  ∃ r, u.run = .ok r ∧ r.lossPercent = 0 ∧ r.bytesAcked = some payload

/-- What is reported fits into 32 bits. -/
lemma reported_lt {start now : ℤ} {timeoutMs v : ℕ} {inbox : Inbox}
    (h : ((waitForReport start timeoutMs).run now () inbox).result = some v) : v < 2 ^ 32 := by
  obtain ⟨-, -, hq⟩ := ReceiveLoop.run_spec (L := waitForReport start timeoutMs)
    (I := fun _ _ => True) (Q := fun _ e => ∀ v ∈ e.result, v < 2 ^ 32)
    (fun _ _ _ _ _ _ _ => trivial)
    (fun _ a _ r _ _ _ hret v hv => by
      simp only [waitForReport] at hret
      split at hret
      · split_ifs at hret
        rw [← Sum.inr.inj hret] at hv
        rw [← Option.some.inj hv]
        exact valueOf_lt _
      · rw [← Sum.inr.inj hret] at hv
        exact absurd hv (Option.not_mem_none _))
    (fun _ _ _ _ _ _ v hv => absurd hv (Option.not_mem_none _)) inbox [] now () trivial
  exact hq v h

/-- What is acknowledged fits into 32 bits. -/
lemma acked_lt {r : UdpThroughputResult} (hrun : u.run = .ok r) {v : ℕ}
    (hv : r.bytesAcked = some v) : v < 2 ^ 32 := by
  rw [run, runUdpuploadProbe] at hrun
  simp only [sendUpload] at hrun
  split at hrun
  · cases hrun
  · split at hrun
    · cases hrun
    · next acked hacked =>
        cases hrun
        rw [Option.some.injEq] at hv
        subst hv
        split_ifs at hacked
        · rw [← Option.some.inj hacked]
          decide
        · exact reported_lt hacked

/-- **Uploads.**  An upload is exact if and only if its size fits into 32 bits. -/
theorem exact_iff : u.Exact ↔ payload < 2 ^ 32 := by
  constructor
  · rintro ⟨r, hrun, -, hacked⟩
    exact u.acked_lt hrun hacked
  · intro hfits
    obtain ⟨cfg, sending, unfailing, start, server, src, arrivals, ordered, lossFree, young,
      replies, inOrder, answered, inTime⟩ := u
    rw [sendsTo_upload hfits ordered lossFree young] at answered
    obtain ⟨a, as, rfl, ha, hrest⟩ := List.map_eq_cons_iff.mp answered
    obtain ⟨b, rfl, hb⟩ := List.map_eq_singleton_iff.mp hrest
    obtain ⟨hack, hreport⟩ := inTime a rfl
    -- the acknowledgement, then the report
    have hwait : (waitForAck start cfg.timeoutMs).run start 0 (deliver [a, b]) =
        ⟨.ok .ack, a.time, deliver [b]⟩ :=
      ReceiveLoop.run_ret hack (by simp [waitForAck, ha])
    have hvalue : ((waitForReport (sending.doneAt a.time) cfg.timeoutMs).run
        (sending.doneAt a.time) () (deliver [b])).result = some payload := by
      have hret : (waitForReport (sending.doneAt a.time) cfg.timeoutMs).run
          (sending.doneAt a.time) () [⟨b.time, .datagram b.item⟩] =
            ⟨some payload, b.time, []⟩ :=
        ReceiveLoop.run_ret (hreport b (by simp))
          (by simp [waitForReport, hb, valueOf_makeCtrl hfits])
      rw [deliver, List.map_singleton, hret]
    have hacked : (sendUpload payload cfg.timeoutMs sending a.time (deliver [b])).2.2 =
        some payload := by
      rw [sendUpload]
      split_ifs with hzero
      · rw [hzero]
      · exact hvalue
    refine ⟨{ payloadBytes := payload
              datagramsSent :=
                (sendUpload payload cfg.timeoutMs sending a.time (deliver [b])).1
              datagramsReceived := none
              bytesAcked := some payload
              lossPercent := uploadLoss payload payload
              transferMs := (sendUpload payload cfg.timeoutMs sending a.time (deliver [b])).2.1
              throughputMbps := mbps payload
                (sendUpload payload cfg.timeoutMs sending a.time (deliver [b])).2.1 },
      ?_, ?_, rfl⟩
    · rw [run, runUdpuploadProbe, hwait]
      simp only [hacked]
    · show uploadLoss payload payload = 0
      rw [uploadLoss]
      split_ifs
      · simp
      · rfl

end UploadPath

/-! ### The sizes of the command line -/

/-- **Sizes.**  For every size that the command line accepts, and over every path that loses
and reorders nothing, the two probes are exact if and only if the size fits into 32 bits. -/
theorem throughput_exact_iff (casing : Text.Casing) (text : String) :
    ∀ payload ∈ parseSize casing text,
      (∀ d : DownloadPath payload, d.Exact ↔ payload < 2 ^ 32) ∧
        ∀ u : UploadPath payload, u.Exact ↔ payload < 2 ^ 32 :=
  fun _ _ => ⟨fun d => d.exact_iff, fun u => u.exact_iff⟩

namespace FiveBytes

/-- A download of five bytes. -/
def download : DownloadPath 5 where
  cfg := ⟨1000⟩
  start := 0
  arrivals := [⟨1, makeCtrl cmdAck 0⟩, ⟨2, datagram 5 0⟩, ⟨3, makeCtrl cmdDone 5⟩]
  ordered := by decide
  lossFree := rfl
  inTime := by decide

/-- An upload of five bytes, next to another client. -/
def upload : UploadPath 5 where
  cfg := ⟨1000⟩
  sending := ⟨fun _ => false, fun start => start + 2⟩
  unfailing _ := rfl
  start := 0
  server := .fresh
  src := 7
  arrivals := [⟨1, 7, makeCtrl cmdUpload 5⟩, ⟨3, 7, datagram 5 0⟩, ⟨4, 9, makeCtrl cmdDone 0⟩,
    ⟨6, 7, makeCtrl cmdDone 5⟩]
  ordered := by decide
  lossFree := rfl
  young := by decide
  replies := [⟨2, makeCtrl cmdAck 0⟩, ⟨8, makeCtrl cmdReport 5⟩]
  inOrder := by decide
  answered := rfl
  inTime := by decide

end FiveBytes

open FiveBytes in
theorem throughput_exact_iff_five : download.Exact ∧ upload.Exact :=
  have h := throughput_exact_iff .ascii "5" 5 (by decide)
  ⟨(h.1 download).mpr (by decide), (h.2 upload).mpr (by decide)⟩

/-- The size `4g` is asked for as no bytes at all: the probe misses every datagram. -/
theorem four_gibibytes :
    parseSize .ascii "4g" = some (2 ^ 32) ∧ ∃ d : DownloadPath (2 ^ 32), ¬ d.Exact := by
  refine ⟨by decide, ⟨⟨1000⟩, 0, [⟨1, makeCtrl cmdAck 0⟩, ⟨2, makeCtrl cmdDone 0⟩], by decide,
    rfl, by decide⟩, fun h => ?_⟩
  exact absurd ((DownloadPath.exact_iff _).mp h) (by decide)

end Networker
