/-
The two UDP throughput servers against each other.

* `sendDownloadAsync_eq`, `sendDownload_eq_iff`: the downloads of the two servers are the same
  exactly below `2 ^ 31 - 1399` bytes;
* `Alike`: the states that have counted the same datagrams, and the same bytes modulo `2 ^ 32`;
* `Alike.dispatch`, `outputs_dispatch_iff`: what a datagram does to the states, and when the two
  servers send the same for it;
* `outputs_eq_iff`: the two servers send the same in a run if and only if no download asks for
  `2 ^ 31 - 1399` bytes or more;
* `downloads_differ`: a download of `2 ^ 31` bytes.
-/
import Networker.Endpoint.UdpThroughputService

namespace Networker

open Data Concurrency

namespace UdpThroughput

/-! ### Downloads -/

section Download

variable {v : ℕ}

lemma toInt_of_lt (h : v < 2 ^ 31) : toInt v = v := by
  rw [toInt, Int.bmod]
  omega

lemma toInt_of_ge (h : 2 ^ 31 ≤ v) (h' : v < 2 ^ 32) : toInt v = v - 2 ^ 32 := by
  rw [toInt, Int.bmod]
  omega

/-- Between two subtractions a cast does nothing. -/
lemma toInt_toInt_sub (m n : ℤ) : toInt (toInt m - n) = toInt (m - n) := Int.bmod_sub_bmod

/-- Without an overflow the number of datagrams is the same. -/
lemma totalSeqsAsync_eq (h : v < 2 ^ 31 - 1399) : totalSeqsAsync v = totalSeqs v := by
  have hsum : toInt (v + chunkSize - 1) = ((v + 1399 : ℕ) : ℤ) := by
    rw [toInt, Int.bmod, chunkSize]
    omega
  rw [totalSeqsAsync, toInt_toInt_sub, hsum, totalSeqs, toUInt, chunkSize,
    Int.tdiv_eq_ediv_of_nonneg (by omega)]
  omega

/-- The loop sends what is left, and then `CMD_DONE`. -/
lemma sendAsync_eq (h : v < 2 ^ 31) (n : ℕ) : ∀ {seq sent : ℕ}, sent ≤ v →
    sendAsync v (totalSeqs v) n seq sent = sendChunks v seq sent n ++ [makeCtrl cmdDone v] := by
  induction n with
  | zero =>
      intro seq sent _
      have hvalue : toUInt (v : ℤ) = v := by
        rw [toUInt]
        omega
      rw [sendAsync, hvalue]
      rfl
  | succ n ih =>
      intro seq sent hsent
      have hleft : toInt ((v : ℤ) - sent) = ((v - sent : ℕ) : ℤ) := by
        rw [← Nat.cast_sub hsent, toInt_of_lt (by omega)]
      have hsize : min (toInt ((v : ℤ) - sent)) (chunkSize : ℤ) =
          ((min (v - sent) chunkSize : ℕ) : ℤ) := by
        rw [hleft, Nat.cast_min]
      have hnext : toInt ((sent : ℤ) + (min (v - sent) chunkSize : ℕ)) =
          ((sent + min (v - sent) chunkSize : ℕ) : ℤ) := by
        rw [← Nat.cast_add, toInt_of_lt (by omega)]
      rw [sendAsync, sendChunks]
      simp only [hsize, hnext]
      rw [if_neg (by omega), Int.toNat_natCast, ih (by omega)]
      rfl

/-- Below `2 ^ 31 - 1399` bytes the two downloads are the same. -/
lemma sendDownloadAsync_eq (h : v < 2 ^ 31 - 1399) :
    sendDownloadAsync (toInt v) = sendDownload v := by
  rw [toInt_of_lt (by omega), sendDownloadAsync, sendDownload]
  by_cases hzero : v = 0
  · rw [if_pos (by omega), if_pos hzero]
  · rw [if_neg (by omega), if_neg hzero, totalSeqsAsync_eq h, dataPackets]
    exact sendAsync_eq (by omega) _ (Nat.zero_le v)

/-- The number of datagrams that a data packet names. -/
lemma slice_dataPacket (totalSeqs seq size : ℕ) :
    slice 4 4 (dataPacket totalSeqs seq size) = le 4 totalSeqs := by
  rw [dataPacket, List.append_assoc, slice_append (length_le 4 seq).le, length_le, Nat.sub_self,
    slice_zero (length_le 4 totalSeqs)]

lemma totalSeqs_pos (h : 0 < v) (hfits : v < 2 ^ 32) : 0 < totalSeqs v := by
  rw [totalSeqs, chunkSize]
  omega

/-- A download of at least one byte is data and `CMD_DONE`. -/
lemma length_sendDownload (h : 0 < v) (hfits : v < 2 ^ 32) : 2 ≤ (sendDownload v).length := by
  have hpos := totalSeqs_pos h hfits
  rw [sendDownload, if_neg h.ne', List.length_append, dataPackets_eq, List.length_map,
    List.length_range, List.length_singleton]
  omega

/-- A negative size sends at most one datagram: `CMD_DONE`, or none before the exception. -/
lemma length_sendDownloadAsync_of_neg {t : ℤ} (h : -2 ^ 31 ≤ t) (h' : t < 0) :
    (sendDownloadAsync t).length ≤ 1 := by
  rw [sendDownloadAsync, if_neg (by omega)]
  generalize hn : totalSeqsAsync t = n
  cases n with
  | zero => exact le_rfl
  | succ n =>
      have hsize : min (toInt (t - 0)) (chunkSize : ℤ) < 0 := by
        rw [toInt, Int.bmod]
        omega
      rw [sendAsync]
      simp only [hsize, if_true]
      exact Nat.zero_le _

/-- Where the sum overflows, the number of datagrams is another one. -/
lemma totalSeqsAsync_ne (h : 2 ^ 31 - 1399 ≤ v) (h' : v < 2 ^ 31) :
    totalSeqs v < totalSeqsAsync v ∧ totalSeqsAsync v < 2 ^ 32 := by
  have hsum : toInt (v + chunkSize - 1) = -((2 ^ 32 - v - 1399 : ℕ) : ℤ) := by
    rw [toInt, Int.bmod, chunkSize]
    omega
  rw [totalSeqsAsync, toInt_toInt_sub, hsum, totalSeqs, toUInt, chunkSize, Int.neg_tdiv,
    Int.tdiv_eq_ediv_of_nonneg (by omega)]
  omega

/-- **Downloads.**  The two servers send the same for a download if and only if it is of less
than `2 ^ 31 - 1399` bytes. -/
theorem sendDownload_eq_iff (hfits : v < 2 ^ 32) :
    sendDownload v = sendDownloadAsync (toInt v) ↔ v < 2 ^ 31 - 1399 := by
  refine ⟨fun heq => ?_, fun h => (sendDownloadAsync_eq h).symm⟩
  by_contra hnot
  by_cases hsign : v < 2 ^ 31
  · -- the first data packets name different numbers of datagrams
    obtain ⟨hlt, hbound⟩ := totalSeqsAsync_ne (by omega) hsign
    have hpos := totalSeqs_pos (v := v) (by omega) hfits
    obtain ⟨n, hn⟩ : ∃ n, totalSeqsAsync v = n + 1 := Nat.exists_eq_add_one.mpr (by omega)
    obtain ⟨m, hm⟩ : ∃ m, totalSeqs v = m + 1 := Nat.exists_eq_add_one.mpr hpos
    have hsize : ¬ min (toInt ((v : ℤ) - 0)) (chunkSize : ℤ) < 0 := by
      rw [sub_zero, toInt_of_lt hsign, chunkSize]
      omega
    rw [toInt_of_lt hsign, sendDownload, if_neg (by omega), sendDownloadAsync, if_neg (by omega),
      dataPackets, hm, hn, sendChunks, sendAsync] at heq
    simp only [hsize, if_false, List.cons_append] at heq
    have hhead := (List.cons.inj heq).1
    have htotal := congrArg (slice 4 4) hhead
    rw [slice_dataPacket, slice_dataPacket] at htotal
    have hsame := le_injective (by omega) (by omega) htotal
    omega
  · have hlong := length_sendDownload (v := v) (by omega) hfits
    have hshort := length_sendDownloadAsync_of_neg (t := v - 2 ^ 32) (by omega) (by omega)
    rw [heq, toInt_of_ge (by omega) hfits] at hlong
    omega

end Download

/-! ### The states -/

/-- The two states of an upload have counted the same sequence numbers, and the same bytes
modulo `2 ^ 32`. -/
structure AlikeUpload (st : UploadState) (su : ServiceUpload) : Prop where
  seqs : su.receivedSeqs = st.receivedSeqs
  bytes : su.receivedBytes % 2 ^ 32 = (st.receivedBytes : ℤ) % 2 ^ 32

/-- The two servers have states for the same addresses, and they are alike. -/
def Alike (s : Server) (t : Service) : Prop :=
  ∀ addr, Option.Rel AlikeUpload (s.uploadStates addr) (t.uploadStates addr)

lemma alike_fresh : Alike .fresh .fresh := fun _ => .none

section States

variable {s : Server} {t : Service} {st : UploadState} {su : ServiceUpload} {d : Datagram}
  {now now' : ℤ}

/-- The states of one address are replaced. -/
lemma Alike.put {o : Option UploadState} {o' : Option ServiceUpload} (h : Alike s t)
    (src : Addr) (ho : Option.Rel AlikeUpload o o') : Alike (s.put src o) (t.put src o') := by
  intro addr
  by_cases haddr : addr = src
  · subst haddr
    simpa [Server.put, Service.put] using ho
  · simpa [Server.put, Service.put, haddr] using h addr

/-- A datagram is counted on both sides, or on neither. -/
lemma AlikeUpload.count (h : AlikeUpload st su) (seq len : ℕ) :
    AlikeUpload (st.count seq len) (su.count seq len) := by
  have hseqs : seq ∈ su.receivedSeqs ↔ seq ∈ st.receivedSeqs := by rw [h.seqs]
  rw [UploadState.count, ServiceUpload.count]
  simp only [hseqs]
  split_ifs with hmem
  · exact h
  · refine ⟨congrArg (insert seq) h.seqs, ?_⟩
    have hbytes := h.bytes
    have hlong : toLong (su.receivedBytes + len) % 2 ^ 32 =
        (su.receivedBytes + len) % 2 ^ 32 := by
      rw [toLong, Int.bmod]
      omega
    rw [hlong]
    push_cast
    omega

/-- The reports of alike states are the same. -/
lemma AlikeUpload.report (h : AlikeUpload st su) :
    makeCtrl cmdReport (toUInt su.receivedBytes) = makeCtrl cmdReport st.receivedBytes := by
  have hbytes := h.bytes
  refine makeCtrl_congr _ ?_
  rw [toUInt]
  omega

/-- What a state is on the other side. -/
lemma Alike.cases (h : Alike s t) (src : Addr) :
    (∃ st su, s.uploadStates src = some st ∧ t.uploadStates src = some su ∧ AlikeUpload st su) ∨
      (s.uploadStates src = none ∧ t.uploadStates src = none) := by
  have hrel := h src
  rcases hs : s.uploadStates src with - | st
  · rcases ht : t.uploadStates src with - | su
    · exact .inr ⟨rfl, rfl⟩
    · rw [hs, ht] at hrel
      cases hrel
  · rcases ht : t.uploadStates src with - | su
    · rw [hs, ht] at hrel
      cases hrel
    · rw [hs, ht] at hrel
      cases hrel with
      | some hrel => exact .inl ⟨st, su, rfl, rfl, hrel⟩

/-- What a datagram does to the states. -/
lemma Alike.dispatch (h : Alike s t) (now now' : ℤ) (d : Datagram) :
    Alike (s.dispatch now d).1 (t.dispatch now' d).1 := by
  rw [Server.dispatch, Service.dispatch]
  split_ifs with hctrl hdata
  · rw [Server.control, Service.control]
    split_ifs with hdown hup hdone
    · exact h
    · exact h.put d.src (.some ⟨rfl, rfl⟩)
    · rcases h.cases d.src with ⟨st, su, hs, ht, -⟩ | ⟨hs, ht⟩
      · rw [hs, ht]
        exact h.put d.src .none
      · rw [hs, ht]
        exact h
    · exact h
  · rw [Server.data, Service.data]
    rcases h.cases d.src with ⟨st, su, hs, ht, halike⟩ | ⟨hs, ht⟩
    · rw [hs, ht]
      exact h.put d.src (.some (halike.count _ _))
    · rw [hs, ht]
      exact h
  · exact h

/-- A filter keeps what satisfies it. -/
lemma filter_eq_self {α : Type} {p : α → Bool} {o : Option α} (h : ∀ a ∈ o, p a = true) :
    o.filter p = o := by
  cases o with
  | none => rfl
  | some a => rw [Option.filter_some, if_pos (h a rfl)]

/-- A sweep keeps states that are younger than the TTL. -/
lemma Server.uploadStates_tick_of_young
    (h : ∀ addr, ∀ st ∈ s.uploadStates addr, now - st.createdAt < uploadStateTtl) :
    (s.tick now).uploadStates = s.uploadStates := by
  rw [Server.tick]
  split_ifs
  · funext addr
    exact filter_eq_self fun st hst => decide_eq_true (h addr st hst)
  · rfl

lemma Service.uploadStates_tick_of_young
    (h : ∀ addr, ∀ su ∈ t.uploadStates addr, now - su.createdAt < uploadStateTtl) :
    (t.tick now).uploadStates = t.uploadStates := by
  rw [Service.tick]
  split_ifs
  · funext addr
    refine filter_eq_self fun su hsu => ?_
    have hyoung := h addr su hsu
    simpa using hyoung
  · rfl

/-- Sweeps that find nothing stale keep the states alike. -/
lemma Alike.tick (h : Alike s t)
    (hs : ∀ addr, ∀ st ∈ s.uploadStates addr, now - st.createdAt < uploadStateTtl)
    (ht : ∀ addr, ∀ su ∈ t.uploadStates addr, now' - su.createdAt < uploadStateTtl) :
    Alike (s.tick now) (t.tick now') := by
  intro addr
  rw [Server.uploadStates_tick_of_young hs, Service.uploadStates_tick_of_young ht]
  exact h addr

/-! ### What is sent -/

/-- The datagram asks for a download. -/
def Datagram.asksDownload (d : Datagram) : Prop :=
  isCtrl d.pkt = true ∧ cmdOf d.pkt = some cmdDownload

instance : DecidablePred Datagram.asksDownload :=
  fun _ => inferInstanceAs (Decidable (_ ∧ _))

/-- Two alike servers send the same for a datagram, unless it asks for a large download. -/
lemma outputs_dispatch_iff (h : Alike s t) (now now' : ℤ) (d : Datagram) :
    (s.dispatch now d).2.map Reply.datagrams = (t.dispatch now' d).2.map ServiceReply.datagrams ↔
      (d.asksDownload → valueOf d.pkt < 2 ^ 31 - 1399) := by
  rw [Server.dispatch, Service.dispatch]
  split_ifs with hctrl hdata
  · rw [Server.control, Service.control]
    split_ifs with hdown hup hdone
    · have hinj : Function.Injective fun pkt : Packet => (d.src, pkt) := fun _ _ heq =>
        (Prod.mk.inj heq).2
      have hasks : d.asksDownload := ⟨hctrl, hdown⟩
      simp only [List.map_cons, List.map_nil, Reply.datagrams, ServiceReply.datagrams,
        List.cons.injEq, true_and, and_true, hinj.list_map.eq_iff, hasks, true_implies]
      exact sendDownload_eq_iff (valueOf_lt d.pkt)
    · exact iff_of_true rfl fun hasks => absurd hasks.2 hdown
    · refine iff_of_true ?_ fun hasks => absurd hasks.2 hdown
      rcases h.cases d.src with ⟨st, su, hs, ht, halike⟩ | ⟨hs, ht⟩
      · simp only [hs, ht, List.map_cons, List.map_nil, Reply.datagrams, ServiceReply.datagrams,
          halike.report]
      · rw [hs, ht]
        rfl
    · exact iff_of_true rfl fun hasks => absurd hasks.2 hdown
  · exact iff_of_true rfl fun hasks => absurd hasks.1 hctrl
  · exact iff_of_true rfl fun hasks => absurd hasks.1 hctrl

end States

/-! ### Runs -/

/-- A datagram as the two servers receive it, each by its own clock. -/
structure Reception where
  serverTime : ℤ
  serviceTime : ℤ
  item : Datagram

/-- What arrives at the server. -/
def Reception.atServer (r : Reception) : Arrival Datagram := ⟨r.serverTime, r.item⟩

/-- What arrives at the service. -/
def Reception.atService (r : Reception) : Arrival Datagram := ⟨r.serviceTime, r.item⟩

/-- From alike states on, the two servers send the same in a run if and only if no download
asks for `2 ^ 31 - 1399` bytes or more. -/
lemma Alike.sends_eq_iff (rs : List Reception) : ∀ {s : Server} {t : Service}, Alike s t →
    s.Young (rs.map Reception.atServer) → t.Young (rs.map Reception.atService) →
    (s.outputs (rs.map Reception.atServer) = t.outputs (rs.map Reception.atService) ↔
      ∀ r ∈ rs, r.item.asksDownload → valueOf r.item.pkt < 2 ^ 31 - 1399) := by
  induction rs with
  | nil => exact fun _ _ _ => iff_of_true rfl fun r hr => absurd hr List.not_mem_nil
  | cons r rs ih =>
      intro s t h hyoung hyoung'
      obtain ⟨hs, hrest⟩ := hyoung
      obtain ⟨ht, hrest'⟩ := hyoung'
      have hnext : Alike (s.receive r.serverTime r.item).1 (t.receive r.serviceTime r.item).1 :=
        (h.dispatch r.serverTime r.serviceTime r.item).tick hs ht
      rw [List.map_cons, List.map_cons, Server.outputs, Service.outputs, List.cons.injEq,
        List.forall_mem_cons]
      exact and_congr (outputs_dispatch_iff h r.serverTime r.serviceTime r.item)
        (ih hnext hrest hrest')

/-- **The two servers.**  In every run in which no state is as old as the upload TTL, they send
the same datagrams to the same clients if and only if no download asks for `2 ^ 31 - 1399` bytes
or more. -/
theorem outputs_eq_iff (rs : List Reception) (hserver : Server.fresh.Young (rs.map Reception.atServer))
    (hservice : Service.fresh.Young (rs.map Reception.atService)) :
    Server.fresh.outputs (rs.map Reception.atServer) = Service.fresh.outputs (rs.map Reception.atService) ↔
      ∀ r ∈ rs, r.item.asksDownload → valueOf r.item.pkt < 2 ^ 31 - 1399 :=
  alike_fresh.sends_eq_iff rs hserver hservice

/-- A run of one datagram that asks for a download. -/
def oneDownload (bytes : ℕ) : List Reception := [⟨0, 0, ⟨7, makeCtrl cmdDownload bytes⟩⟩]

lemma server_young_oneDownload (bytes : ℕ) :
    Server.fresh.Young ((oneDownload bytes).map Reception.atServer) :=
  ⟨fun _ _ h => absurd h (Option.not_mem_none _), trivial⟩

lemma service_young_oneDownload (bytes : ℕ) :
    Service.fresh.Young ((oneDownload bytes).map Reception.atService) :=
  ⟨fun _ _ h => absurd h (Option.not_mem_none _), trivial⟩

theorem outputs_eq_iff_short :
    Server.fresh.outputs ((oneDownload 5).map Reception.atServer) =
      Service.fresh.outputs ((oneDownload 5).map Reception.atService) :=
  (outputs_eq_iff (oneDownload 5) (server_young_oneDownload 5) (service_young_oneDownload 5)).mpr
    (by decide)

/-- A download of `2 ^ 31` bytes is served by one of the servers, and raises in the other. -/
theorem downloads_differ :
    Server.fresh.Young ((oneDownload (2 ^ 31)).map Reception.atServer) ∧
      Service.fresh.Young ((oneDownload (2 ^ 31)).map Reception.atService) ∧
      Server.fresh.outputs ((oneDownload (2 ^ 31)).map Reception.atServer) ≠
        Service.fresh.outputs ((oneDownload (2 ^ 31)).map Reception.atService) := by
  refine ⟨server_young_oneDownload _, service_young_oneDownload _, fun heq => ?_⟩
  have hsmall := (alike_fresh.sends_eq_iff (oneDownload (2 ^ 31)) (server_young_oneDownload _)
    (service_young_oneDownload _)).mp heq _ List.mem_cons_self ⟨by decide, by decide⟩
  exact absurd hsmall (by decide)

end UdpThroughput

end Networker
