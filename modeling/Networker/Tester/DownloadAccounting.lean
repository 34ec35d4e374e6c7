/-
What a UDP download reports of the datagrams that were delivered.

* `delivered`: the data datagrams of a transfer among the arrivals;
* `Timely`: the data arrives before the timeouts and within the drain window after
  `CMD_DONE`;
* `DownloadExact`: the reported counts are those of the delivered data;
* `recvDownload_received`: the receive loop counts every datagram that is in time, once;
* `download_exact_iff`: the report is exact unless `CMD_DONE` is the first datagram of all
  and data follows;
* `done_first`: that case.
-/
import Networker.Tester.UdpThroughput

namespace Networker

open Data Concurrency UdpThroughput

/-- The arrivals as the socket returns them. -/
def deliver (as : List (Arrival Packet)) : Inbox := as.map fun a => ⟨a.time, .datagram a.item⟩

/-- The data datagrams of a transfer of `bytes` that are delivered. -/
def delivered (bytes : ℕ) (as : List (Arrival Packet)) : Finset Packet :=
  ((as.map Arrival.item).filter (· ∈ dataPackets bytes)).toFinset

/-- The data arrives before the deadline, and after a `CMD_DONE` within its drain window,
which a further `CMD_DONE` in the window extends. -/
def InTime (bytes : ℕ) (deadline : ℤ) : Option ℤ → List (Arrival Packet) → Prop
  | _, [] => True
  | drain, a :: as =>
      (a.item ∈ dataPackets bytes → a.time < deadline ∧ ∀ u ∈ drain, a.time < u) ∧
        InTime bytes deadline (if a.item = makeCtrl cmdDone bytes ∧ ∀ u ∈ drain, a.time < u then
          some (a.time + doneDrain) else drain) as

instance decidableInTime (bytes : ℕ) (deadline : ℤ) :
    ∀ drain as, Decidable (InTime bytes deadline drain as)
  | _, [] => isTrue trivial
  | drain, a :: as =>
      have := decidableInTime bytes deadline (if a.item = makeCtrl cmdDone bytes ∧
        ∀ u ∈ drain, a.time < u then some (a.time + doneDrain) else drain) as
      inferInstanceAs (Decidable ((a.item ∈ dataPackets bytes → a.time < deadline ∧
        ∀ u ∈ drain, a.time < u) ∧ InTime bytes deadline _ as))

/-- The data arrives in time: the first datagram while the probe waits for the
acknowledgement, the others while it receives. -/
def Timely (bytes timeoutMs : ℕ) (start : ℤ) : List (Arrival Packet) → Prop
  | [] => True
  | a :: as =>
      (delivered bytes (a :: as) ≠ ∅ → a.time < start + millis timeoutMs) ∧
        InTime bytes (a.time + millis timeoutMs)
          (if a.item = makeCtrl cmdDone bytes then some (a.time + doneDrain) else none) as

instance decidableTimely (bytes timeoutMs : ℕ) (start : ℤ) :
    ∀ as, Decidable (Timely bytes timeoutMs start as)
  | [] => isTrue trivial
  | _ :: _ => inferInstanceAs (Decidable (_ ∧ _))

/-- What was received and what is reported are the delivered data datagrams, each counted
once, and nothing else. -/
structure DownloadExact (bytes : ℕ) (as : List (Arrival Packet))
    (r : Received × UdpThroughputResult) : Prop where
  count : r.2.datagramsReceived = some (delivered bytes as).card
  le_sent : (delivered bytes as).card ≤ r.2.datagramsSent
  payload : r.1.receivedBytes = ∑ pkt ∈ delivered bytes as, (pkt.length - dataHdrLen)
  data : ∀ seq ∈ r.1.receivedSeqs, ∃ pkt ∈ delivered bytes as, seqOf pkt = seq

/-! ### Delivered datagrams and their sequence numbers -/

/-- The sequence numbers of the delivered data. -/
def seqs (bytes : ℕ) (as : List (Arrival Packet)) : Finset ℕ :=
  (Finset.range (totalSeqs bytes)).filter fun seq => datagram bytes seq ∈ as.map Arrival.item

section Sequences

variable {bytes : ℕ} {as : List (Arrival Packet)} {a : Arrival Packet}

lemma mem_dataPackets {pkt : Packet} :
    pkt ∈ dataPackets bytes ↔ ∃ seq < totalSeqs bytes, pkt = datagram bytes seq := by
  rw [dataPackets_eq, List.mem_map]
  constructor
  · rintro ⟨seq, hseq, rfl⟩
    exact ⟨seq, List.mem_range.mp hseq, rfl⟩
  · rintro ⟨seq, hseq, rfl⟩
    exact ⟨seq, List.mem_range.mpr hseq, rfl⟩

lemma mem_seqs {seq : ℕ} :
    seq ∈ seqs bytes as ↔ seq < totalSeqs bytes ∧ ∃ a ∈ as, a.item = datagram bytes seq := by
  rw [seqs, Finset.mem_filter, Finset.mem_range, List.mem_map]

lemma delivered_eq_image : delivered bytes as = (seqs bytes as).image (datagram bytes) := by
  ext pkt
  rw [delivered, List.mem_toFinset, List.mem_filter, Finset.mem_image, decide_eq_true_iff,
    mem_dataPackets]
  constructor
  · rintro ⟨hmem, seq, hseq, rfl⟩
    exact ⟨seq, mem_seqs.mpr ⟨hseq, List.mem_map.mp hmem⟩, rfl⟩
  · rintro ⟨seq, hseq, rfl⟩
    obtain ⟨hlt, hmem⟩ := mem_seqs.mp hseq
    exact ⟨List.mem_map.mpr hmem, seq, hlt, rfl⟩

lemma datagram_injOn (hfits : bytes < 2 ^ 32) :
    Set.InjOn (datagram bytes) (seqs bytes as : Set ℕ) := fun _ hi _ hj h =>
  datagram_injective hfits (mem_seqs.mp hi).1 (mem_seqs.mp hj).1 h

lemma card_delivered (hfits : bytes < 2 ^ 32) :
    (delivered bytes as).card = (seqs bytes as).card := by
  rw [delivered_eq_image, Finset.card_image_of_injOn (datagram_injOn hfits)]

lemma sum_delivered (hfits : bytes < 2 ^ 32) :
    ∑ pkt ∈ delivered bytes as, (pkt.length - dataHdrLen) =
      ∑ seq ∈ seqs bytes as, chunkOf bytes seq := by
  rw [delivered_eq_image, Finset.sum_image (datagram_injOn hfits)]
  refine Finset.sum_congr rfl fun seq _ => ?_
  rw [length_datagram, Nat.add_sub_cancel_left]

lemma seqs_nil : seqs bytes [] = ∅ := by
  ext seq
  simp [mem_seqs]

/-- One more data datagram. -/
lemma seqs_cons_datagram (hfits : bytes < 2 ^ 32) {seq : ℕ} (hseq : seq < totalSeqs bytes)
    (ha : a.item = datagram bytes seq) : seqs bytes (a :: as) = insert seq (seqs bytes as) := by
  ext i
  rw [Finset.mem_insert, mem_seqs, mem_seqs]
  constructor
  · rintro ⟨hi, b, hb, hitem⟩
    rcases List.mem_cons.mp hb with rfl | hb
    · exact Or.inl (datagram_injective hfits hi hseq (hitem.symm.trans ha))
    · exact Or.inr ⟨hi, b, hb, hitem⟩
  · rintro (rfl | ⟨hi, b, hb, hitem⟩)
    · exact ⟨hseq, a, List.mem_cons_self, ha⟩
    · exact ⟨hi, b, List.mem_cons_of_mem _ hb, hitem⟩

/-- One more datagram that is not data. -/
lemma seqs_cons_ctrl (hfits : bytes < 2 ^ 32) (ha : isCtrl a.item = true) :
    seqs bytes (a :: as) = seqs bytes as := by
  ext i
  rw [mem_seqs, mem_seqs]
  constructor
  · rintro ⟨hi, b, hb, hitem⟩
    rcases List.mem_cons.mp hb with rfl | hb
    · rw [hitem, not_isCtrl_datagram hfits hi] at ha
      exact absurd ha Bool.false_ne_true
    · exact ⟨hi, b, hb, hitem⟩
  · rintro ⟨hi, b, hb, hitem⟩
    exact ⟨hi, b, List.mem_cons_of_mem _ hb, hitem⟩

/-- Once the deadline or the drain window has passed, no data is in time any more. -/
lemma seqs_of_late {deadline : ℤ} {as : List (Arrival Packet)} : ∀ {drain : Option ℤ} {t : ℤ},
    Schedule t as → InTime bytes deadline drain as →
    (deadline ≤ t ∨ ∃ u, drain = some u ∧ u ≤ t) → seqs bytes as = ∅ := by
  induction as with
  | nil => exact fun _ _ _ => seqs_nil
  | cons a as ih =>
      intro drain t hsched hin hlate
      have hle : t ≤ a.time := hsched.2 a List.mem_cons_self
      have hdata : a.item ∉ dataPackets bytes := by
        intro hmem
        obtain ⟨hlt, hdrain⟩ := hin.1 hmem
        rcases hlate with hlate | ⟨u, rfl, hlate⟩
        · omega
        · have hlt := hdrain u rfl
          omega
      have hrest : seqs bytes as = ∅ := by
        refine ih hsched.tail hin.2 ?_
        rcases hlate with hlate | ⟨u, rfl, hlate⟩
        · exact Or.inl (le_trans hlate hle)
        · refine Or.inr ⟨u, if_neg ?_, le_trans hlate hle⟩
          rintro ⟨-, hdrain⟩
          have hlt := hdrain u rfl
          omega
      rw [Finset.eq_empty_iff_forall_notMem] at hrest ⊢
      intro i hi
      obtain ⟨hlt, b, hb, hitem⟩ := mem_seqs.mp hi
      rcases List.mem_cons.mp hb with rfl | hb
      · exact hdata (mem_dataPackets.mpr ⟨i, hlt, hitem⟩)
      · exact hrest i (mem_seqs.mpr ⟨hlt, b, hb, hitem⟩)

end Sequences

/-! ### The receive loop -/

section Loop

variable {bytes : ℕ}

@[simp] lemma isCmd_makeCtrl (cmd cmd' : UInt8) (value : ℕ) :
    isCmd cmd (makeCtrl cmd' value) = (cmd' == cmd) := by
  rw [isCmd, isCtrl_makeCtrl, cmdOf_makeCtrl, Bool.true_and]
  rfl

lemma not_isCmd_datagram (hfits : bytes < 2 ^ 32) {seq : ℕ} (h : seq < totalSeqs bytes)
    (cmd : UInt8) : isCmd cmd (datagram bytes seq) = false := by
  rw [isCmd, not_isCtrl_datagram hfits h, Bool.false_and]

lemma dataHdrLen_lt {seq : ℕ} (h : seq < totalSeqs bytes) :
    dataHdrLen < dataHdrLen + chunkOf bytes seq := Nat.lt_add_of_pos_right (chunkOf_pos h)

/-- What the loop has counted: the payloads of the sequence numbers it has seen. -/
structure Counts (bytes : ℕ) (s : Download) : Prop where
  lt : ∀ seq ∈ s.receivedSeqs, seq < totalSeqs bytes
  sum : s.receivedBytes = ∑ seq ∈ s.receivedSeqs, chunkOf bytes seq

lemma Counts.count {s : Download} (h : Counts bytes s) {seq : ℕ} (hseq : seq < totalSeqs bytes)
    (now : ℤ) : Counts bytes (s.count now seq (chunkOf bytes seq)) := by
  constructor
  · intro i hi
    rcases Finset.mem_insert.mp hi with rfl | hi
    · exact hseq
    · exact h.lt i hi
  · show (if seq ∈ s.receivedSeqs then s.receivedBytes else s.receivedBytes + chunkOf bytes seq) =
      ∑ i ∈ insert seq s.receivedSeqs, chunkOf bytes i
    split_ifs with hmem
    · rw [Finset.insert_eq_of_mem hmem, h.sum]
    · rw [Finset.sum_insert hmem, h.sum, Nat.add_comm]

/-- **The receive loop counts what is in time.**  It ends with the sequence numbers it has
been entered with and those of all data that arrives, each counted once. -/
theorem recvDownload_received (hfits : bytes < 2 ^ 32) (start : ℤ) (timeoutMs : ℕ)
    (as : List (Arrival Packet)) : ∀ {now : ℤ} {s : Download}, Schedule now as →
    (∀ a ∈ as, a.item ∈ serveDownload bytes) →
    InTime bytes (start + millis timeoutMs) s.drainUntil as → Counts bytes s →
    Counts bytes ((recvDownload start timeoutMs).run now s (deliver as)).result ∧
      ((recvDownload start timeoutMs).run now s (deliver as)).result.receivedSeqs =
        s.receivedSeqs ∪ seqs bytes as := by
  induction as with
  | nil =>
      intro now s _ _ _ hs
      exact ⟨hs, by rw [seqs_nil, Finset.union_empty]; rfl⟩
  | cons a as ih =>
      intro now s hsched hsent hin hs
      have hrest : ∀ b ∈ as, b.item ∈ serveDownload bytes := fun b hb =>
        hsent b (List.mem_cons_of_mem _ hb)
      by_cases hlt : a.time < (recvDownload start timeoutMs).deadline s
      · have hdrain : ∀ u ∈ s.drainUntil, a.time < u := by
          intro u hu
          rw [Option.mem_def] at hu
          simp only [recvDownload, hu, Option.elim] at hlt
          exact lt_of_lt_of_le hlt (min_le_right _ _)
        rcases mem_serveDownload (hsent a List.mem_cons_self) with ha | ha | ⟨seq, hseq, ha⟩
        · -- a late acknowledgement is ignored
          have hnot : ¬ (a.item = makeCtrl cmdDone bytes ∧ ∀ u ∈ s.drainUntil, a.time < u) := by
            rintro ⟨heq, -⟩
            have hcmd := congrArg cmdOf (ha.symm.trans heq)
            exact absurd hcmd (by simp [cmdAck, cmdDone])
          have hin' := hin.2
          rw [if_neg hnot] at hin'
          have hgo :
              (recvDownload start timeoutMs).handle a.time (.datagram a.item) s = .inl s := by
            simp [recvDownload, ha, cmdAck, cmdDone]
          rw [deliver, List.map_cons, ReceiveLoop.run_go hlt hgo,
            seqs_cons_ctrl hfits (by rw [ha, isCtrl_makeCtrl])]
          exact ih hsched.tail hrest hin' hs
        · -- `CMD_DONE` opens the drain window
          have hin' := hin.2
          rw [if_pos ⟨ha, hdrain⟩] at hin'
          have hgo : (recvDownload start timeoutMs).handle a.time (.datagram a.item) s =
              .inl (s.drain a.time) := by
            simp [recvDownload, ha]
          rw [deliver, List.map_cons, ReceiveLoop.run_go hlt hgo,
            seqs_cons_ctrl hfits (by rw [ha, isCtrl_makeCtrl])]
          exact ih (s := s.drain a.time) hsched.tail hrest hin' ⟨hs.lt, hs.sum⟩
        · have hnot : ¬ (a.item = makeCtrl cmdDone bytes ∧ ∀ u ∈ s.drainUntil, a.time < u) := by
            rintro ⟨heq, -⟩
            have hctrl := congrArg isCtrl (ha.symm.trans heq)
            rw [not_isCtrl_datagram hfits hseq, isCtrl_makeCtrl] at hctrl
            exact Bool.false_ne_true hctrl
          have hin' := hin.2
          rw [if_neg hnot] at hin'
          have hgo : (recvDownload start timeoutMs).handle a.time (.datagram a.item) s =
              .inl (s.count a.time seq (chunkOf bytes seq)) := by
            simp only [recvDownload, ha, not_isCmd_datagram hfits hseq, Bool.false_eq_true,
              if_false, not_isCtrl_datagram hfits hseq, length_datagram, if_pos (dataHdrLen_lt hseq),
              seqOf_datagram hfits hseq, Nat.add_sub_cancel_left]
          rw [deliver, List.map_cons, ReceiveLoop.run_go hlt hgo, seqs_cons_datagram hfits hseq ha]
          obtain ⟨hcounts, hseqs⟩ := ih (s := s.count a.time seq (chunkOf bytes seq)) hsched.tail
            hrest hin' (hs.count hseq a.time)
          refine ⟨hcounts, hseqs.trans ?_⟩
          show insert seq s.receivedSeqs ∪ seqs bytes as = _
          rw [Finset.insert_union, Finset.union_insert]
      · -- the loop ends, and no data is in time any more
        rw [deliver, List.map_cons, ReceiveLoop.run_expire hlt]
        have hlate : seqs bytes (a :: as) = ∅ := by
          refine seqs_of_late (t := a.time) ⟨hsched.1, fun b hb => ?_⟩ hin ?_
          · rcases List.mem_cons.mp hb with rfl | hb
            · exact le_refl _
            · exact hsched.tail.2 b hb
          · cases hd : s.drainUntil with
            | none =>
                simp only [recvDownload, hd, Option.elim, not_lt] at hlt
                exact Or.inl hlt
            | some u =>
                simp only [recvDownload, hd, Option.elim, not_lt, min_le_iff] at hlt
                exact hlt.imp_right fun h => ⟨u, rfl, h⟩
        exact ⟨hs, by rw [hlate, Finset.union_empty]; rfl⟩

end Loop

/-! ### The probe -/

section Probe

variable {bytes : ℕ} {as : List (Arrival Packet)} {r : Received}

/-- A report of exactly the delivered sequence numbers. -/
lemma downloadExact_of_seqs (hfits : bytes < 2 ^ 32)
    (hseqs : r.receivedSeqs = seqs bytes as)
    (hbytes : r.receivedBytes = ∑ seq ∈ r.receivedSeqs, chunkOf bytes seq) :
    DownloadExact bytes as (r, r.result bytes) := by
  constructor
  · show some r.receivedSeqs.card = _
    rw [hseqs, card_delivered hfits]
  · show (delivered bytes as).card ≤ totalSeqs bytes
    rw [card_delivered hfits]
    calc (seqs bytes as).card ≤ (Finset.range (totalSeqs bytes)).card :=
          Finset.card_le_card (Finset.filter_subset _ _)
      _ = totalSeqs bytes := Finset.card_range _
  · rw [sum_delivered hfits]
    exact hbytes.trans (by rw [hseqs])
  · intro seq hmem
    have hmem : seq ∈ seqs bytes as := hseqs ▸ hmem
    refine ⟨datagram bytes seq, ?_, seqOf_datagram hfits (mem_seqs.mp hmem).1⟩
    rw [delivered_eq_image]
    exact Finset.mem_image_of_mem _ hmem

/-- An empty report is exact where nothing was delivered, and only there. -/
lemma downloadExact_empty_iff (hfits : bytes < 2 ^ 32) :
    DownloadExact bytes as (⟨∅, 0, 0⟩, Received.result bytes ⟨∅, 0, 0⟩) ↔
      delivered bytes as = ∅ := by
  constructor
  · intro h
    have hcount : 0 = (delivered bytes as).card := Option.some.inj h.count
    exact Finset.card_eq_zero.mp hcount.symm
  · intro hnone
    refine downloadExact_of_seqs hfits ?_ rfl
    rw [delivered_eq_image, Finset.image_eq_empty] at hnone
    exact hnone.symm

end Probe

/-- **Download accounting.**  For every payload below `2 ^ 32` and every schedule of the
server's datagrams whose data arrives in time, the report of a download is exact unless
the first datagram of all is a `CMD_DONE` and data follows. -/
theorem download_exact_iff (bytes : ℕ) (hfits : bytes < 2 ^ 32) (cfg : UdpThroughputConfig)
    (start : ℤ) (as : List (Arrival Packet)) (hsched : Schedule start as)
    (hsent : ∀ a ∈ as, a.item ∈ serveDownload bytes)
    (htimely : Timely bytes cfg.timeoutMs start as) :
    (∀ r, runUdpdownloadProbe bytes cfg start (deliver as) = .ok r → DownloadExact bytes as r) ↔
      ((∀ a ∈ as.head?, a.item ≠ makeCtrl cmdDone bytes) ∨ delivered bytes as = ∅) := by
  cases as with
  | nil =>
      refine iff_of_true (fun r hr => ?_) (Or.inr rfl)
      cases hr
  | cons a as =>
      obtain ⟨hfirst, hin⟩ := htimely
      have hrest : ∀ b ∈ as, b.item ∈ serveDownload bytes := fun b hb =>
        hsent b (List.mem_cons_of_mem _ hb)
      have hhead : (∀ b ∈ (a :: as).head?, b.item ≠ makeCtrl cmdDone bytes) ↔
          a.item ≠ makeCtrl cmdDone bytes := by simp
      rw [hhead]
      by_cases hlt : a.time < start + millis cfg.timeoutMs
      · have hwait : ∀ {o}, (waitForAck start cfg.timeoutMs).handle a.time (.datagram a.item) 0 =
            .inr (.ok o) → runUdpdownloadProbe bytes cfg start (deliver (a :: as)) =
              .ok (receiveAfter cfg.timeoutMs a.time (deliver as) o,
                (receiveAfter cfg.timeoutMs a.time (deliver as) o).result bytes) := by
          intro o ho
          have hrun : (waitForAck start cfg.timeoutMs).run start 0 (deliver (a :: as)) =
              ⟨.ok o, a.time, deliver as⟩ := by
            rw [deliver, List.map_cons, ReceiveLoop.run_ret hlt ho]
            rfl
          rw [runUdpdownloadProbe, hrun]
        rcases mem_serveDownload (hsent a List.mem_cons_self) with ha | ha | ⟨seq, hseq, ha⟩
        · -- the acknowledgement comes first
          have hne : a.item ≠ makeCtrl cmdDone bytes := by
            rw [ha]
            intro heq
            exact absurd (congrArg cmdOf heq) (by simp [cmdAck, cmdDone])
          have hrun := hwait (o := .ack) (by simp [waitForAck, ha])
          refine iff_of_true (fun r hr => ?_) (Or.inl hne)
          rw [hrun, Except.ok.injEq] at hr
          subst hr
          rw [if_neg hne] at hin
          obtain ⟨hcounts, hseqs⟩ := recvDownload_received hfits a.time cfg.timeoutMs as
            (s := .entered a.time none) hsched.tail hrest hin
            ⟨by simp [Download.entered], rfl⟩
          refine downloadExact_of_seqs hfits ?_ hcounts.sum
          rw [seqs_cons_ctrl hfits (by rw [ha, isCtrl_makeCtrl])]
          exact hseqs.trans (Finset.empty_union _)
        · -- `CMD_DONE` comes first, and the probe stops
          have hrun := hwait (o := .done) (by simp [waitForAck, ha, cmdAck, cmdDone])
          have hiff : DownloadExact bytes (a :: as) (⟨∅, 0, 0⟩, Received.result bytes ⟨∅, 0, 0⟩) ↔
              delivered bytes (a :: as) = ∅ := downloadExact_empty_iff hfits
          constructor
          · exact fun h => Or.inr (hiff.mp (h _ hrun))
          · intro h r hr
            rw [hrun, Except.ok.injEq] at hr
            subst hr
            exact hiff.mpr (h.resolve_left fun hne => hne ha)
        · -- a data datagram comes first and is carried over
          have hne : a.item ≠ makeCtrl cmdDone bytes := by
            intro heq
            have hctrl := congrArg isCtrl (ha.symm.trans heq)
            rw [not_isCtrl_datagram hfits hseq, isCtrl_makeCtrl] at hctrl
            exact Bool.false_ne_true hctrl
          have hrun := hwait (o := .earlyData seq (chunkOf bytes seq) a.time) (by
            simp only [waitForAck, ha, not_isCmd_datagram hfits hseq, Bool.false_eq_true, if_false,
              length_datagram, if_pos (dataHdrLen_lt hseq), seqOf_datagram hfits hseq,
              Nat.add_sub_cancel_left])
          refine iff_of_true (fun r hr => ?_) (Or.inl hne)
          rw [hrun, Except.ok.injEq] at hr
          subst hr
          rw [if_neg hne] at hin
          obtain ⟨hcounts, hseqs⟩ := recvDownload_received hfits a.time cfg.timeoutMs as
            (s := .entered a.time (some (seq, chunkOf bytes seq, a.time))) hsched.tail hrest hin
            ⟨by simp [Download.entered, hseq], by simp [Download.entered]⟩
          refine downloadExact_of_seqs hfits ?_ hcounts.sum
          rw [seqs_cons_datagram hfits hseq ha]
          exact hseqs
      · -- nothing arrives while the probe waits for the acknowledgement
        have hnone : delivered bytes (a :: as) = ∅ := by
          by_contra hne
          exact hlt (hfirst hne)
        refine iff_of_true (fun r hr => ?_) (Or.inr hnone)
        have hrun : (waitForAck start cfg.timeoutMs).run start 0 (deliver (a :: as)) =
            ⟨.error (timedOutWaitingForAck 0), max start (start + millis cfg.timeoutMs),
              deliver (a :: as)⟩ := by
          rw [deliver, List.map_cons, ReceiveLoop.run_expire hlt]
          rfl
        rw [runUdpdownloadProbe, hrun] at hr
        cases hr

namespace ShortDownload

def config : UdpThroughputConfig := ⟨1000⟩

/-- A download of five bytes: the data overtakes the acknowledgement and arrives twice. -/
def reordered : List (Arrival Packet) :=
  [⟨1, datagram 5 0⟩, ⟨2, makeCtrl cmdDone 5⟩, ⟨3, makeCtrl cmdAck 0⟩, ⟨4, datagram 5 0⟩]

/-- `CMD_DONE` overtakes the acknowledgement and the data. -/
def doneFirst : List (Arrival Packet) := [⟨1, makeCtrl cmdDone 5⟩, ⟨2, datagram 5 0⟩]

end ShortDownload

open ShortDownload in
theorem download_exact_iff_reordered :
    (runUdpdownloadProbe 5 config 0 (deliver reordered)).isOk = true ∧
      ∀ r, runUdpdownloadProbe 5 config 0 (deliver reordered) = .ok r →
        DownloadExact 5 reordered r := by
  refine ⟨rfl, ?_⟩
  exact (download_exact_iff 5 (by omega) config 0 reordered (by decide)
    (by decide) (by decide)).mpr (Or.inl (by decide))

open ShortDownload in
/-- The datagram behind the `CMD_DONE` is delivered within the drain window, and the probe
reports that none was received. -/
theorem done_first :
    Timely 5 config.timeoutMs 0 doneFirst ∧
      ¬ ∀ r, runUdpdownloadProbe 5 config 0 (deliver doneFirst) = .ok r →
        DownloadExact 5 doneFirst r := by
  refine ⟨by decide, fun h => ?_⟩
  have hexact := h (⟨∅, 0, 0⟩, Received.result 5 ⟨∅, 0, 0⟩) rfl
  exact absurd hexact.count (by decide)

end Networker
