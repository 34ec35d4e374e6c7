/-
The STAMP reflector (`networker-endpoint/src/stamp.rs`).

* `Ntp`: a timestamp on the wire; `senderPacket`, `buildReflectedPacket`: the two packets;
* `reflectorSeqOf`, `senderSeqOf`, `readNtp`: how a reply is read
  (`networker-tester/src/runner/stamp.rs`);
* `build_decode`: a reply is read as it was built;
* `Session`, `Reflector`, `sweepIdleSessions`, `Reflector.receive`: the sessions per sender,
  and one datagram;
* `Reflector.replies`, `replies_own`: the replies to one sender are numbered in the order in
  which its packets arrive, as long as its session is not dropped.
-/
import Networker.Endpoint.UdpThroughput

namespace Networker

open Data Concurrency

namespace Stamp

open UdpThroughput (Addr Datagram)

/-! ### The packets -/

/-- An NTP timestamp: seconds and fraction. -/
structure Ntp where
  secs : UInt32
  frac : UInt32
  deriving DecidableEq

/-- `STAMP_PACKET_LEN`. -/
def stampPacketLen : ℕ := 44

/-- `ERROR_ESTIMATE`. -/
def errorEstimate : Packet := [0x00, 0x01]

/-- A timestamp on the wire. -/
def Ntp.bytes (t : Ntp) : Packet := be 4 t.secs.toNat ++ be 4 t.frac.toNat

@[simp] lemma Ntp.length_bytes (t : Ntp) : t.bytes.length = 8 := by
  rw [Ntp.bytes, List.length_append, length_be, length_be]

/-- The test packet of a sender. -/
def senderPacket (seq : ℕ) (t1 : Ntp) : Packet :=
  be 4 seq ++ t1.bytes ++ errorEstimate ++ List.replicate 30 0

/-- `build_reflected_packet`. -/
def buildReflectedPacket (request : Packet) (reflectorSeq : ℕ) (t2 t3 : Ntp) : Packet :=
  be 4 reflectorSeq ++ (t3.bytes ++ (errorEstimate ++ ([0, 0] ++ (t2.bytes ++
    (slice 0 4 request ++ (slice 4 8 request ++ (slice 12 2 request ++ ([0, 0] ++
      ([255] ++ [0, 0, 0])))))))))

/-- The sequence number of the reflector. -/
def reflectorSeqOf (pkt : Packet) : ℕ := ofBe (slice 0 4 pkt)

/-- The sequence number of the sender in a reply. -/
def senderSeqOf (pkt : Packet) : ℕ := ofBe (slice 24 4 pkt)

/-- `read_ntp`, in front of the conversion to seconds. -/
def readNtp (pkt : Packet) (off : ℕ) : Ntp :=
  ⟨.ofNat (ofBe (slice off 4 pkt)), .ofNat (ofBe (slice (off + 4) 4 pkt))⟩

/-- A timestamp in front is read back. -/
lemma readNtp_bytes (t : Ntp) (rest : Packet) : readNtp (t.bytes ++ rest) 0 = t := by
  have hsecs : ofBe (be 4 t.secs.toNat) = t.secs.toNat := ofBe_be_of_lt t.secs.toNat_lt
  have hfrac : ofBe (be 4 t.frac.toNat) = t.frac.toNat := ofBe_be_of_lt t.frac.toNat_lt
  rw [readNtp, Ntp.bytes, List.append_assoc, slice_zero (length_be 4 _),
    slice_append (by rw [length_be]), length_be, Nat.zero_add, Nat.sub_self,
    slice_zero (length_be 4 _), hsecs, hfrac, UInt32.ofNat_toNat, UInt32.ofNat_toNat]

/-- A timestamp behind a field. -/
lemma readNtp_append {off : ℕ} {f rest : Packet} (hf : f.length ≤ off) :
    readNtp (f ++ rest) off = readNtp rest (off - f.length) := by
  rw [readNtp, readNtp, slice_append hf, slice_append (by omega), Nat.sub_add_comm hf]

/-- **A reply is read as it was built.** -/
theorem build_decode {request : Packet} {reflectorSeq : ℕ} (t2 t3 : Ntp)
    (hrequest : stampPacketLen ≤ request.length) (hseq : reflectorSeq < 2 ^ 32) :
    (buildReflectedPacket request reflectorSeq t2 t3).length = stampPacketLen ∧
    reflectorSeqOf (buildReflectedPacket request reflectorSeq t2 t3) = reflectorSeq ∧
    readNtp (buildReflectedPacket request reflectorSeq t2 t3) 4 = t3 ∧
    readNtp (buildReflectedPacket request reflectorSeq t2 t3) 16 = t2 ∧
    senderSeqOf (buildReflectedPacket request reflectorSeq t2 t3) = ofBe (slice 0 4 request) := by
  rw [stampPacketLen] at hrequest
  have hlen : ∀ off w, off + w ≤ 44 → (slice off w request).length = w := by
    intro off w hw
    rw [slice, List.length_take, List.length_drop]
    omega
  refine ⟨?_, ?_, ?_, ?_, ?_⟩
  · simp only [buildReflectedPacket, List.length_append, length_be, Ntp.length_bytes,
      hlen 0 4 (by omega), hlen 4 8 (by omega), hlen 12 2 (by omega), errorEstimate,
      List.length_cons, List.length_nil]
    rfl
  · rw [reflectorSeqOf, buildReflectedPacket, slice_zero (length_be 4 _), ofBe_be_of_lt (by omega)]
  · rw [buildReflectedPacket, readNtp_append (by rw [length_be]), length_be, Nat.sub_self,
      readNtp_bytes]
  · rw [buildReflectedPacket, readNtp_append (by rw [length_be]; omega), length_be,
      readNtp_append (by rw [Ntp.length_bytes]; omega), Ntp.length_bytes,
      readNtp_append (by decide), readNtp_append (by decide)]
    exact readNtp_bytes t2 _
  · rw [senderSeqOf, buildReflectedPacket, slice_append (by rw [length_be]; omega), length_be,
      slice_append (by rw [Ntp.length_bytes]; omega), Ntp.length_bytes,
      slice_append (by decide), slice_append (by decide),
      slice_append (by rw [Ntp.length_bytes]; decide), Ntp.length_bytes]
    exact congrArg ofBe (slice_zero (hlen 0 4 (by omega)))

/-! ### The reflector -/

/-- `SESSION_IDLE_EXPIRY`. -/
def sessionIdleExpiry : ℤ := millis 60000

/-- The session of a sender. -/
structure Session where
  nextSeq : ℕ
  lastSeen : ℤ
  deriving DecidableEq

/-- The sessions by address, and the time of the last sweep. -/
structure Reflector where
  sessions : Addr → Option Session
  lastSweep : ℤ

/-- `sweep_idle_sessions`. -/
def sweepIdleSessions (now : ℤ) (s : Reflector) : Reflector :=
  if sessionIdleExpiry < now - s.lastSweep then
    { sessions := fun addr =>
        (s.sessions addr).filter fun session => now - session.lastSeen < sessionIdleExpiry
      lastSweep := now }
  else s

/-- The session of a sender after a packet. -/
def Reflector.put (s : Reflector) (src : Addr) (session : Session) : Reflector :=
  { s with sessions := Function.update s.sessions src (some session) }

/-- A datagram: the new state, and the reply; `clock` reads `T2` and `T3`. -/
def Reflector.receive (clock : ℤ → Ntp × Ntp) (now : ℤ) (d : Datagram) (s : Reflector) :
    Reflector × Option Packet :=
  if d.pkt.length < stampPacketLen then (s, none) else
    let s := sweepIdleSessions now s
    let session := (s.sessions d.src).getD ⟨0, now⟩
    (s.put d.src ⟨(session.nextSeq + 1) % 2 ^ 32, now⟩,
      some (buildReflectedPacket d.pkt session.nextSeq (clock now).1 (clock now).2))

/-- The replies to a sender, in the order in which they are sent. -/
def Reflector.replies (clock : ℤ → Ntp × Ntp) (src : Addr) :
    Reflector → List (Arrival Datagram) → List Packet
  | _, [] => []
  | s, a :: as =>
      let (s', reply) := s.receive clock a.time a.item
      if a.item.src = src then reply.toList ++ s'.replies clock src as
      else s'.replies clock src as

/-- What a sender has sent of the arrivals. -/
def ownPackets (src : Addr) (as : List (Arrival Datagram)) : List (Arrival Packet) :=
  (as.filter fun a => a.item.src = src).map fun a => ⟨a.time, a.item.pkt⟩

/-- The reply to the packet with a number. -/
def replyTo (clock : ℤ → Ntp × Ntp) (k : ℕ) (a : Arrival Packet) : Packet :=
  buildReflectedPacket a.item k (clock a.time).1 (clock a.time).2

/-- The replies to the packets from number `k` on. -/
def numbered (clock : ℤ → Ntp × Ntp) : ℕ → List (Arrival Packet) → List Packet
  | _, [] => []
  | k, a :: as => replyTo clock k a :: numbered clock (k + 1) as

/-- The packets of a sender follow each other before its session expires. -/
def Gapless (times : List ℤ) : Prop := times.IsChain fun t u => u - t < sessionIdleExpiry

instance (times : List ℤ) : Decidable (Gapless times) :=
  inferInstanceAs (Decidable (times.IsChain _))

section Replies

variable {clock : ℤ → Ntp × Ntp} {src : Addr} {s : Reflector}

/-- The session of a sender that was seen a short while ago survives a sweep. -/
lemma sweep_sessions {now : ℤ} {session : Session} (h : s.sessions src = some session)
    (hrecent : now - session.lastSeen < sessionIdleExpiry) :
    (sweepIdleSessions now s).sessions src = some session := by
  rw [sweepIdleSessions]
  split_ifs
  · show (s.sessions src).filter _ = _
    rw [h, Option.filter_some_pos (by simpa using hrecent)]
  · exact h

/-- A sender without a session gets none from a sweep. -/
lemma sweep_sessions_none (now : ℤ) (h : s.sessions src = none) :
    (sweepIdleSessions now s).sessions src = none := by
  rw [sweepIdleSessions]
  split_ifs
  · show (s.sessions src).filter _ = _
    rw [h, Option.filter_none]
  · exact h

variable (clock) in
/-- A packet of another sender. -/
lemma receive_other (now : ℤ) {d : Datagram} (hsrc : d.src ≠ src) :
    (s.receive clock now d).1.sessions src = s.sessions src ∨
      (s.receive clock now d).1.sessions src = (sweepIdleSessions now s).sessions src := by
  rw [Reflector.receive]
  split_ifs
  · exact .inl rfl
  · exact .inr (Function.update_of_ne hsrc.symm _ _)

variable (clock) in
/-- A packet of the sender itself. -/
lemma receive_own {now : ℤ} {pkt : Packet} (session : Session)
    (hlong : stampPacketLen ≤ pkt.length)
    (h : ((sweepIdleSessions now s).sessions src).getD ⟨0, now⟩ = session) :
    s.receive clock now ⟨src, pkt⟩ =
      ((sweepIdleSessions now s).put src ⟨(session.nextSeq + 1) % 2 ^ 32, now⟩,
        some (replyTo clock session.nextSeq ⟨now, pkt⟩)) := by
  rw [Reflector.receive, if_neg (not_lt.mpr hlong)]
  dsimp only
  rw [h]
  rfl

@[simp] lemma put_sessions (s : Reflector) (src : Addr) (session : Session) :
    (s.put src session).sessions src = some session := Function.update_self _ _ _

lemma ownPackets_self (t : ℤ) (pkt : Packet) (as : List (Arrival Datagram)) :
    ownPackets src (⟨t, ⟨src, pkt⟩⟩ :: as) = ⟨t, pkt⟩ :: ownPackets src as := by
  simp [ownPackets]

lemma ownPackets_other {a : Arrival Datagram} (ha : a.item.src ≠ src)
    (as : List (Arrival Datagram)) : ownPackets src (a :: as) = ownPackets src as := by
  simp [ownPackets, ha]

/-- A packet of a sender arrives in the order of all datagrams. -/
lemma le_of_mem_ownPackets {t : ℤ} {as : List (Arrival Datagram)} (h : ∀ a ∈ as, t ≤ a.time) :
    ∀ b ∈ ownPackets src as, t ≤ b.time := by
  intro b hb
  obtain ⟨a, ha, rfl⟩ := List.mem_map.mp hb
  exact h a (List.mem_of_mem_filter ha)

/-- The numbers go on: while the packets of a sender follow each other before its session
expires, they are numbered from its next number on in the order in which they arrive. -/
lemma replies_session {as : List (Arrival Datagram)} :
    ∀ {s : Reflector} {k : ℕ} {last : ℤ}, as.Pairwise (fun a b => a.time ≤ b.time) →
      (∀ b ∈ ownPackets src as, stampPacketLen ≤ b.item.length) →
      k + (ownPackets src as).length < 2 ^ 32 →
      Gapless (last :: (ownPackets src as).map Arrival.time) →
      (ownPackets src as ≠ [] → s.sessions src = some ⟨k, last⟩) →
      s.replies clock src as = numbered clock k (ownPackets src as) := by
  induction as with
  | nil => exact fun _ _ _ _ _ => rfl
  | cons a as ih =>
      intro s k last hordered hlong hfits hgaps hsession
      obtain ⟨hle, hsorted⟩ := List.pairwise_cons.mp hordered
      by_cases hsrc : a.item.src = src
      · obtain ⟨t, src', pkt⟩ := a
        dsimp only at hsrc
        subst hsrc
        rw [ownPackets_self] at hlong hfits hgaps hsession ⊢
        obtain ⟨hgap, hgaps⟩ := List.isChain_cons_cons.mp hgaps
        have hswept := sweep_sessions (hsession (List.cons_ne_nil _ _)) hgap
        have hreceive := receive_own clock ⟨k, last⟩ (hlong _ List.mem_cons_self)
          (by rw [hswept, Option.getD_some])
        rw [List.length_cons] at hfits
        rw [Reflector.replies]
        dsimp only
        rw [hreceive]
        dsimp only
        rw [if_pos rfl, numbered]
        refine congrArg (replyTo clock k ⟨t, pkt⟩ :: ·) (ih hsorted ?_ (by omega) hgaps ?_)
        · exact fun b hb => hlong b (List.mem_cons_of_mem _ hb)
        · intro _
          rw [put_sessions, Nat.mod_eq_of_lt (by omega)]
      · rw [ownPackets_other hsrc] at hlong hfits hgaps hsession ⊢
        rw [Reflector.replies]
        dsimp only
        rw [if_neg hsrc]
        refine ih hsorted hlong hfits hgaps fun hown => ?_
        -- the next packet of the sender comes before its session expires, and so did this one
        obtain ⟨b, bs, hb⟩ := List.exists_cons_of_ne_nil hown
        have hab : a.time ≤ b.time :=
          le_of_mem_ownPackets hle b (by rw [hb]; exact List.mem_cons_self)
        have hgap : b.time - last < sessionIdleExpiry := by
          rw [hb] at hgaps
          exact (List.isChain_cons_cons.mp hgaps).1
        rcases receive_other clock (s := s) a.time hsrc with h | h
        · rw [h]
          exact hsession hown
        · rw [h]
          exact sweep_sessions (hsession hown) (by dsimp only; omega)

/-- **The numbers of the reflector.**  Under a fresh session the packets of a sender are
numbered from 0 on in the order in which they arrive. -/
theorem replies_fresh {as : List (Arrival Datagram)} :
    ∀ {s : Reflector}, as.Pairwise (fun a b => a.time ≤ b.time) →
      (∀ b ∈ ownPackets src as, stampPacketLen ≤ b.item.length) →
      (ownPackets src as).length < 2 ^ 32 →
      Gapless ((ownPackets src as).map Arrival.time) →
      s.sessions src = none →
      s.replies clock src as = numbered clock 0 (ownPackets src as) := by
  induction as with
  | nil => exact fun _ _ _ _ _ => rfl
  | cons a as ih =>
      intro s hordered hlong hfits hgaps hfresh
      have hsorted := (List.pairwise_cons.mp hordered).2
      by_cases hsrc : a.item.src = src
      · obtain ⟨t, src', pkt⟩ := a
        dsimp only at hsrc
        subst hsrc
        rw [ownPackets_self] at hlong hfits hgaps ⊢
        have hswept := sweep_sessions_none t hfresh
        have hreceive := receive_own clock ⟨0, t⟩ (hlong _ List.mem_cons_self)
          (by rw [hswept, Option.getD_none])
        rw [Reflector.replies]
        dsimp only
        rw [hreceive]
        dsimp only
        rw [if_pos rfl, numbered]
        rw [List.length_cons] at hfits
        refine congrArg (replyTo clock 0 ⟨t, pkt⟩ :: ·)
          (replies_session hsorted ?_ (by omega) hgaps ?_)
        · exact fun b hb => hlong b (List.mem_cons_of_mem _ hb)
        · intro _
          exact put_sessions _ _ _
      · rw [ownPackets_other hsrc] at hlong hfits hgaps ⊢
        rw [Reflector.replies]
        dsimp only
        rw [if_neg hsrc]
        refine ih hsorted hlong hfits hgaps ?_
        rcases receive_other clock (s := s) a.time hsrc with h | h
        · rw [h]
          exact hfresh
        · rw [h]
          exact sweep_sessions_none a.time hfresh

end Replies

end Stamp

end Networker
