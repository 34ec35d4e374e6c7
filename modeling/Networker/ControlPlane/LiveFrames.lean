/-
The frames of one browser: the replay, the watermark and the send pump.

* `Browser.received`, `Browser.live`, `Browser.pending`: the frames a browser has
  received, its live frames, and the frames its pump is going to send;
* `Feed.Numbered`, `Feed.Ringed`: the numbers of the calls and the entries of the ring;
* `Feed.offered`: what the calls have offered to a browser;
* `Browser.Ordered`: the replay, the watermark and the pump of one browser;
* `Browser.Fed`: its live frames against the calls that offered them.
-/
import Networker.ControlPlane.EventFeed
import Networker.Data.Distinct

namespace Networker

open Data Concurrency

/-! ### The frames of a browser -/

namespace BrowserStage

/-- The pump has not been started. -/
def early : BrowserStage → Bool
  | accepted | registered | replaying _ _ => true
  | _ => false

/-- The connection is registered and the handler has not left it. -/
def connected : BrowserStage → Bool
  | registered | replaying _ _ | serving => true
  | _ => false

end BrowserStage

namespace Browser

/-- The frames sent on the socket, in this order. -/
def received (b : Browser) : List SeqEvent := b.replayed ++ b.pumped

/-- The live frames: the ones sent and the ones waiting. -/
def live (b : Browser) : List SeqEvent := b.pumped ++ b.sending.toList ++ b.queue

/-- The waiting frames the pump does not discard. -/
def pending (b : Browser) : List SeqEvent :=
  b.sending.toList ++ b.queue.filter fun e => b.replayWatermark < e.seq

/-- What the replay sends. -/
def batch (b : Browser) : List SeqEvent :=
  if 0 < b.since then EventBus.replay b.since b.retained else []

end Browser

/-! ### The numbers -/

namespace Feed

variable {s s' : Feed} {i j : BrowserId} {b b' : Browser} {p : ℕ} {P Q : Publication}
  {e : SeqEvent}

/-- The calls have the numbers one, two and so on. -/
structure Numbered (s : Feed) : Prop where
  counter : s.publications.length = s.seq
  numbers : ∀ (p : ℕ) (P : Publication), s.publications[p]? = some P → P.frame.seq = p + 1

lemma Numbered.unique (h : s.Numbered) (hP : P ∈ s.publications) (hQ : Q ∈ s.publications)
    (hseq : P.frame.seq = Q.frame.seq) : P = Q := by
  obtain ⟨p, hp⟩ := List.mem_iff_getElem?.mp hP
  obtain ⟨q, hq⟩ := List.mem_iff_getElem?.mp hQ
  have hpq : p = q := by
    have h1 := h.numbers p P hp
    have h2 := h.numbers q Q hq
    omega
  subst hpq
  exact Option.some.inj (hp.symm.trans hq)

lemma Numbered.bounds (h : s.Numbered) (hP : P ∈ s.publications) :
    0 < P.frame.seq ∧ P.frame.seq ≤ s.seq := by
  obtain ⟨p, hp⟩ := List.mem_iff_getElem?.mp hP
  have hlt : p < s.publications.length := (List.getElem?_eq_some_iff.mp hp).1
  have hseq := h.numbers p P hp
  have hlen := h.counter
  omega

/-- A call moves on. -/
lemma Numbered.enter (h : s.Numbered) (hP : s.publications[p]? = some P) (hseq : s'.seq = s.seq)
    (hs' : s'.publications = s.publications.set p Q) (hframe : Q.frame = P.frame) :
    s'.Numbered where
  counter := by rw [hs', List.length_set, h.counter, hseq]
  numbers q R hR := by
    rw [hs'] at hR
    by_cases hqp : q = p
    · subst hqp
      have hlt : q < s.publications.length := (List.getElem?_eq_some_iff.mp hP).1
      rw [List.getElem?_set_self hlt] at hR
      obtain rfl := Option.some.inj hR
      rw [hframe, h.numbers q P hP]
    · rw [List.getElem?_set_ne (Ne.symm hqp)] at hR
      exact h.numbers q R hR

lemma Numbered.publish (h : s.Numbered) (event : DashboardEvent) :
    (EventBus.publish event s).Numbered where
  counter := by simp [EventBus.publish, h.counter]
  numbers q R hR := by
    rw [EventBus.publish, List.getElem?_append] at hR
    split at hR
    · exact h.numbers q R hR
    · next hq =>
        have hlen := h.counter
        have hq' : q - s.publications.length = 0 := by
          have := (List.getElem?_eq_some_iff.mp hR).1
          simpa using this
        rw [hq'] at hR
        obtain rfl := Option.some.inj hR
        show s.seq + 1 = q + 1
        omega

/-! ### The ring -/

/-- The entries of the ring come from calls behind their append. -/
structure Ringed (s : Feed) : Prop where
  distinct : Distinct SeqEvent.seq s.buffer
  source : ∀ e ∈ s.buffer, ∃ P ∈ s.publications, P.frame = e ∧ P.stage ≠ .numbered

/-- A call that has left the stage `numbered` keeps its entry. -/
lemma Ringed.enter (h : s.Ringed) (hP : s.publications[p]? = some P)
    (hbuffer : s'.buffer = s.buffer) (hs' : s'.publications = s.publications.set p Q) (hframe : Q.frame = P.frame)
    (hstage : Q.stage ≠ .numbered) : s'.Ringed where
  distinct := hbuffer ▸ h.distinct
  source e he := by
    obtain ⟨R, hR, hRe, hRs⟩ := h.source e (hbuffer ▸ he)
    obtain ⟨q, hq⟩ := List.mem_iff_getElem?.mp hR
    rw [hs']
    by_cases hqp : q = p
    · subst hqp
      obtain rfl := Option.some.inj (hP.symm.trans hq)
      have hlt : q < s.publications.length := (List.getElem?_eq_some_iff.mp hP).1
      exact ⟨Q, List.mem_of_getElem? (List.getElem?_set_self hlt), hframe.trans hRe, hstage⟩
    · exact ⟨R, List.mem_of_getElem? ((List.getElem?_set_ne (Ne.symm hqp)).trans hq), hRe, hRs⟩

lemma mem_enqueue {a : SeqEvent} {buffer : List SeqEvent} (h : a ∈ EventBus.enqueue e buffer) :
    a ∈ buffer ∨ a = e := by
  rw [EventBus.enqueue, List.mem_append, List.mem_singleton] at h
  refine h.imp_left fun ha => ?_
  split at ha
  · exact List.mem_of_mem_tail ha
  · exact ha

lemma distinct_enqueue {buffer : List SeqEvent} (h : Distinct SeqEvent.seq buffer)
    (he : ∀ a ∈ buffer, a.seq ≠ e.seq) : Distinct SeqEvent.seq (EventBus.enqueue e buffer) := by
  rw [EventBus.enqueue]
  split
  · exact (h.sublist buffer.tail_sublist).concat fun a ha => he a (List.mem_of_mem_tail ha)
  · exact h.concat he

/-- The append of a call under a fresh number. -/
lemma Ringed.enqueue (h : s.Ringed) (hn : s.Numbered)
    (hP : s.publications[p]? = some ⟨e, .numbered⟩) :
    ({ s with buffer := EventBus.enqueue e s.buffer }.enter p e .buffered).Ringed where
  distinct := by
    refine distinct_enqueue h.distinct fun a ha heq => ?_
    obtain ⟨R, hR, rfl, hRs⟩ := h.source a ha
    have hRP := hn.unique hR (List.mem_of_getElem? hP) heq
    exact hRs (by rw [hRP])
  source a ha := by
    have hlt : p < s.publications.length := (List.getElem?_eq_some_iff.mp hP).1
    have hself : (s.publications.set p ⟨e, .buffered⟩)[p]? = some ⟨e, .buffered⟩ :=
      List.getElem?_set_self hlt
    rcases mem_enqueue ha with ha | rfl
    · have hmoved : (s.enter p e .buffered).Ringed := h.enter hP rfl rfl rfl (by simp)
      exact hmoved.source a ha
    · exact ⟨_, List.mem_of_getElem? hself, rfl, by simp⟩

lemma Ringed.publish (h : s.Ringed) (event : DashboardEvent) :
    (EventBus.publish event s).Ringed where
  distinct := h.distinct
  source e he := by
    obtain ⟨P, hP, hPe, hPs⟩ := h.source e he
    exact ⟨P, List.mem_append_left _ hP, hPe, hPs⟩

/-! ### The offers -/

/-- A call has offered the event to the browser. -/
def offered (s : Feed) (e : SeqEvent) (i : BrowserId) : Prop :=
  ∃ P ∈ s.publications, P.frame = e ∧ P.offered i

/-- A call moves on without taking an offer back. -/
lemma offered_enter (hP : s.publications[p]? = some P)
    (hs' : s'.publications = s.publications.set p Q) (hframe : Q.frame = P.frame)
    (hgrow : P.offered i → Q.offered i) :
    s'.offered e i ↔ s.offered e i ∨ e = P.frame ∧ Q.offered i := by
  have hlt : p < s.publications.length := (List.getElem?_eq_some_iff.mp hP).1
  have hself : s'.publications[p]? = some Q := by rw [hs', List.getElem?_set_self hlt]
  constructor
  · rintro ⟨R, hR, rfl, hRo⟩
    rw [hs'] at hR
    rcases List.mem_or_eq_of_mem_set hR with hR | rfl
    · exact Or.inl ⟨R, hR, rfl, hRo⟩
    · exact Or.inr ⟨hframe, hRo⟩
  · rintro (⟨R, hR, rfl, hRo⟩ | ⟨rfl, hQ⟩)
    · obtain ⟨q, hq⟩ := List.mem_iff_getElem?.mp hR
      by_cases hqp : q = p
      · subst hqp
        obtain rfl := Option.some.inj (hP.symm.trans hq)
        exact ⟨Q, List.mem_of_getElem? hself, hframe, hgrow hRo⟩
      · have hq' : s'.publications[q]? = some R := by
          rw [hs', List.getElem?_set_ne (Ne.symm hqp), hq]
        exact ⟨R, List.mem_of_getElem? hq', rfl, hRo⟩
    · exact ⟨Q, List.mem_of_getElem? hself, hframe, hQ⟩

lemma offered_publish (event : DashboardEvent) :
    (EventBus.publish event s).offered e i ↔ s.offered e i := by
  constructor
  · rintro ⟨P, hP, hPe, hPo⟩
    rcases List.mem_append.mp hP with hP | hP
    · exact ⟨P, hP, hPe, hPo⟩
    · obtain rfl := List.mem_singleton.mp hP
      exact hPo.elim
  · rintro ⟨P, hP, hPe, hPo⟩
    exact ⟨P, List.mem_append_left _ hP, hPe, hPo⟩

/-- The event of a call that has not offered it is offered by no call. -/
lemma Numbered.not_offered (h : s.Numbered) (hP : s.publications[p]? = some P) (hi : ¬ P.offered i)
    (heq : e.seq = P.frame.seq) : ¬ s.offered e i := by
  rintro ⟨R, hR, rfl, hRo⟩
  have hRP := h.unique hR (List.mem_of_getElem? hP) heq
  exact hi (hRP ▸ hRo)

end Feed

/-! ### The replay, the watermark and the pump -/

namespace Browser

variable {b b' : Browser} {s s' : Feed} {i : BrowserId} {e : SeqEvent} {m : ℕ}

/-- The highest number replayed so far, or `since`. -/
structure Reached (since : ℕ) (replayed : List SeqEvent) (m : ℕ) : Prop where
  least : since ≤ m
  bound : ∀ r ∈ replayed, r.seq ≤ m
  attained : m = since ∨ ∃ r ∈ replayed, r.seq = m

/-- One more event is replayed. -/
lemma Reached.send {since : ℕ} {replayed : List SeqEvent} (h : Reached since replayed m)
    (e : SeqEvent) : Reached since (replayed ++ [e]) (max m e.seq) where
  least := le_trans h.least (le_max_left _ _)
  bound r hr := by
    rcases List.mem_append.mp hr with hr | hr
    · exact le_trans (h.bound r hr) (le_max_left _ _)
    · obtain rfl := List.mem_singleton.mp hr
      exact le_max_right _ _
  attained := by
    rcases le_total e.seq m with hle | hle
    · rw [max_eq_left hle]
      rcases h.attained with hm | ⟨r, hr, hm⟩
      · exact Or.inl hm
      · exact Or.inr ⟨r, List.mem_append_left _ hr, hm⟩
    · rw [max_eq_right hle]
      exact Or.inr ⟨e, by simp, rfl⟩

/-- How far the replay has come. -/
def Progress (b : Browser) : BrowserStage → Prop
  | .accepted | .registered => b.replayed = []
  | .replaying rest m => b.replayed ++ rest = b.batch ∧ Reached b.since b.replayed m
  | .serving => b.replayed = b.batch ∧ Reached b.since b.replayed b.replayWatermark
  | .leaving | .closed => True

/-- The frames of one browser, whatever the calls do. -/
structure Ordered (b : Browser) : Prop where
  retained : Distinct SeqEvent.seq b.retained
  replayed : Distinct SeqEvent.seq b.replayed
  progress : b.Progress b.stage
  /-- Before the pump is started nothing is pumped. -/
  early : b.stage.early → b.pumped = [] ∧ b.sending = none ∧ b.pumping = false
  /-- The pump of a served browser ends with a drop only. -/
  served : b.stage = .serving → b.dropped = false → b.pumping = true
  covered : b.pumping → ∀ r ∈ b.replayed, r.seq ≤ b.replayWatermark
  /-- The pump discards what the replay has covered. -/
  above : ∀ r ∈ b.replayed, ∀ e ∈ b.pumped ++ b.sending.toList, r.seq < e.seq

lemma Ordered.batch (h : b.Ordered) : Distinct SeqEvent.seq b.batch := by
  rw [Browser.batch]
  split
  · exact h.retained.sublist List.filter_sublist
  · exact distinct_nil

/-- A browser that differs in its queue only. -/
lemma Ordered.queue (h : b.Ordered) (queue : List SeqEvent) :
    { b with queue := queue }.Ordered where
  retained := h.retained
  replayed := h.replayed
  progress := h.progress
  early := h.early
  served := h.served
  covered := h.covered
  above := h.above

lemma Ordered.drop (h : b.Ordered) : (RawSocketConnection.drop b).Ordered where
  retained := h.retained
  replayed := h.replayed
  progress := h.progress
  early := h.early
  served _ hd := by simp [RawSocketConnection.drop] at hd
  covered := h.covered
  above := h.above

lemma Ordered.late (h : b.Ordered) (hp : b.pumping = true) : b.stage.early = false := by
  by_contra hearly
  have := (h.early (by simpa using hearly)).2.2
  rw [hp] at this
  contradiction

lemma Ordered.connect (raw : Option ℤ) :
    (⟨BrowserSocketEndpoint.readSince raw, .accepted, [], 0, false, false, none, [], [], 0, []⟩ :
      Browser).Ordered where
  retained := distinct_nil
  replayed := distinct_nil
  progress := rfl
  early _ := ⟨rfl, rfl, rfl⟩
  served h := by simp at h
  covered h := by simp at h
  above r hr := by simp at hr

lemma Ordered.register (h : b.Ordered) (hstage : b.stage = .accepted) (head : ℕ) :
    { b with stage := .registered, head := head }.Ordered where
  retained := h.retained
  replayed := h.replayed
  progress := by
    have hp := h.progress
    rw [hstage] at hp
    exact hp
  early _ := h.early (by rw [hstage]; rfl)
  served hs := by simp at hs
  covered := h.covered
  above := h.above

lemma Ordered.snapshot (h : b.Ordered) (hstage : b.stage = .registered) {buffer : List SeqEvent}
    (hd : Distinct SeqEvent.seq buffer) : (BrowserSocketEndpoint.snapshot b buffer).Ordered where
  retained := hd
  replayed := h.replayed
  progress := by
    have hp : b.replayed = [] := by
      have hp := h.progress
      rwa [hstage] at hp
    refine ⟨?_, le_refl _, ?_, Or.inl rfl⟩
    · show b.replayed ++ _ = _
      rw [hp]
      rfl
    · intro r hr
      have hr' : r ∈ b.replayed := hr
      simp [hp] at hr'
  early _ := h.early (by rw [hstage]; rfl)
  served hs := by simp [BrowserSocketEndpoint.snapshot] at hs
  covered := h.covered
  above := h.above

/-- One more event is replayed. -/
lemma Ordered.send {rest : List SeqEvent} (h : b.Ordered)
    (hstage : b.stage = .replaying (e :: rest) m) :
    { b with stage := .replaying rest (max m e.seq), replayed := b.replayed ++ [e] }.Ordered := by
  have hp : b.replayed ++ e :: rest = b.batch ∧ Reached b.since b.replayed m := by
    have hp := h.progress
    rwa [hstage] at hp
  have hearly := h.early (by rw [hstage]; rfl)
  have hsplit : (b.replayed ++ [e]) ++ rest = b.batch := by simpa using hp.1
  have hdistinct : Distinct SeqEvent.seq (b.replayed ++ [e]) := by
    have hb := h.batch
    rw [← hsplit] at hb
    exact hb.sublist (List.sublist_append_left _ _)
  refine ⟨h.retained, hdistinct, ⟨hsplit, hp.2.send e⟩, fun _ => hearly, by simp, ?_, ?_⟩
  · intro hpump
    have hpump' : b.pumping = true := hpump
    rw [hearly.2.2] at hpump'
    contradiction
  · intro r _ a ha
    have ha' : a ∈ b.pumped ++ b.sending.toList := ha
    simp [hearly.1, hearly.2.1] at ha'

lemma Ordered.start (h : b.Ordered) (hstage : b.stage = .replaying [] m) :
    { b with stage := .serving, replayWatermark := m, pumping := true }.Ordered := by
  have hp : b.replayed ++ [] = b.batch ∧ Reached b.since b.replayed m := by
    have hp := h.progress
    rwa [hstage] at hp
  have hreplayed : b.replayed = b.batch := by simpa using hp.1
  have hreached : Reached b.since b.replayed m := hp.2
  exact ⟨h.retained, h.replayed, ⟨hreplayed, hreached⟩,
    by simp [BrowserStage.early], fun _ _ => rfl, fun _ => hreached.bound, h.above⟩

/-- The handler moves on behind the replay. -/
lemma Ordered.depart (h : b.Ordered) {stage : BrowserStage}
    (hstage : stage = .leaving ∨ stage = .closed) : { b with stage := stage }.Ordered where
  retained := h.retained
  replayed := h.replayed
  progress := by rcases hstage with rfl | rfl <;> trivial
  early he := by rcases hstage with rfl | rfl <;> simp [BrowserStage.early] at he
  served hs := by rcases hstage with rfl | rfl <;> simp at hs
  covered := h.covered
  above := h.above

/-- What the pump of a browser does with its live frames. -/
lemma Ordered.pumped (h : b.Ordered) (hpump : b.pumping = true) {sending : Option SeqEvent}
    {queue pumped : List SeqEvent}
    (habove : ∀ r ∈ b.replayed, ∀ e ∈ pumped ++ sending.toList, r.seq < e.seq) :
    { b with queue := queue, sending := sending, pumped := pumped }.Ordered where
  retained := h.retained
  replayed := h.replayed
  progress := h.progress
  early he := by
    have he' : b.stage.early = true := he
    rw [h.late hpump] at he'
    contradiction
  served := h.served
  covered := h.covered
  above := habove

/-- The pump moves on. -/
lemma Ordered.pump (h : b.Ordered) (hpos : ∀ e ∈ b.queue, 0 < e.seq) :
    (RawSocketConnection.advancePump b).Ordered := by
  rw [RawSocketConnection.advancePump]
  split
  · next hpump hsend =>
      have habove := h.above
      rw [hsend] at habove
      exact h.pumped hpump (by simpa using habove)
  · next hpump hsend =>
      rw [RawSocketConnection.take]
      split
      · exact h
      · next e queue hqueue =>
          split_ifs with hskip
          · exact h.queue queue
          · have hhigh : b.replayWatermark < e.seq := by
              have := hpos e (by simp [hqueue])
              omega
            refine h.pumped hpump fun r hr a ha => ?_
            rcases List.mem_append.mp ha with ha | ha
            · exact h.above r hr a (List.mem_append_left _ ha)
            · obtain rfl : a = e := by simpa using ha
              exact lt_of_le_of_lt (h.covered hpump r hr) hhigh
  · exact h

/-- The pump ends. -/
lemma Ordered.fail (h : b.Ordered) : (RawSocketConnection.failPump b).Ordered := by
  rw [RawSocketConnection.failPump]
  split
  · next e hsend =>
      refine ⟨h.retained, h.replayed, h.progress, fun he => ⟨(h.early he).1, rfl, rfl⟩, ?_, ?_, ?_⟩
      · intro _ hd
        simp [RawSocketConnection.drop] at hd
      · intro hpump
        simp [RawSocketConnection.drop] at hpump
      · intro r hr a ha
        exact h.above r hr a (List.mem_append_left _ (by simpa [RawSocketConnection.drop] using ha))
  · exact h

/-! ### The live frames -/

/-- The connection takes part in the fan-out. -/
def attached (b : Browser) : Prop := b.stage.connected = true ∧ b.dropped = false

/-- The live frames of one browser and the calls. -/
structure Fed (s : Feed) (i : BrowserId) (b : Browser) : Prop where
  distinct : Distinct SeqEvent.seq b.live
  source : ∀ e ∈ b.live, s.offered e i
  member : b.attached → i ∈ s.browserClients
  /-- An offered event is a live frame, or the pump has discarded it. -/
  complete : b.attached → ∀ e, s.offered e i → b.head < e.seq →
    e ∈ b.live ∨ b.stage = .serving ∧ e.seq ≤ b.replayWatermark

/-- The calls and the registry move on without the browser. -/
lemma Fed.mono (h : b.Fed s i) (hsource : ∀ e, s.offered e i → s'.offered e i)
    (hmember : i ∈ s.browserClients → i ∈ s'.browserClients)
    (hback : b.attached → ∀ e, s'.offered e i → s.offered e i) : b.Fed s' i where
  distinct := h.distinct
  source e he := hsource e (h.source e he)
  member ha := hmember (h.member ha)
  complete ha e he := h.complete ha e (hback ha e he)

/-- The handler moves on within the connection. -/
lemma Fed.stay (h : b.Fed s i) (hlive : b'.live = b.live) (hhead : b'.head = b.head)
    (hattached : b'.attached → b.attached) (hstage : b.stage ≠ .serving) : b'.Fed s i where
  distinct := hlive ▸ h.distinct
  source := hlive ▸ h.source
  member ha := h.member (hattached ha)
  complete ha e he hlt := by
    rcases h.complete (hattached ha) e he (hhead ▸ hlt) with hin | ⟨hs, _⟩
    · exact Or.inl (hlive ▸ hin)
    · exact absurd hs hstage

/-- The browser leaves the fan-out. -/
lemma Fed.detach (h : b.Fed s i) (hlive : b'.live.Sublist b.live) (hoff : ¬ b'.attached) :
    b'.Fed s i where
  distinct := h.distinct.sublist hlive
  source e he := h.source e (hlive.subset he)
  member ha := absurd ha hoff
  complete ha := absurd ha hoff

/-- The registration: no call has a number above the counter. -/
lemma Fed.register (h : b.Fed s i) (hn : s.Numbered) :
    { b with stage := .registered, head := s.seq }.Fed (RawSocketRegistry.registerBrowser i s) i where
  distinct := h.distinct
  source := h.source
  member _ := Finset.mem_insert_self _ _
  complete _ e he hlt := by
    obtain ⟨P, hP, rfl, -⟩ := he
    have hle : P.frame.seq ≤ s.seq := (hn.bounds hP).2
    exact absurd (lt_of_lt_of_le hlt hle) (lt_irrefl _)

/-- The event of a call is enqueued. -/
lemma Fed.enqueue (h : b.Fed s i) (hnew : ∀ a, s.offered a i → a.seq ≠ e.seq)
    (hoffered : ∀ a, s'.offered a i ↔ s.offered a i ∨ a = e)
    (hclients : s'.browserClients = s.browserClients) :
    { b with queue := b.queue ++ [e] }.Fed s' i := by
  have hlive : ({ b with queue := b.queue ++ [e] } : Browser).live = b.live ++ [e] := by
    simp [Browser.live]
  refine ⟨?_, ?_, ?_, ?_⟩
  · rw [hlive]
    exact h.distinct.concat fun a ha => hnew a (h.source a ha)
  · intro a ha
    rw [hlive, List.mem_append, List.mem_singleton] at ha
    exact (hoffered a).mpr (ha.imp_left (h.source a))
  · intro ha
    rw [hclients]
    exact h.member ha
  · intro ha a hoff hlt
    rw [hlive, List.mem_append, List.mem_singleton]
    rcases (hoffered a).mp hoff with hoff | rfl
    · rcases h.complete ha a hoff hlt with hin | hcovered
      · exact Or.inl (Or.inl hin)
      · exact Or.inr hcovered
    · exact Or.inl (Or.inr rfl)

/-- The pump discards the first frame of the queue. -/
lemma Fed.skip (h : b.Fed s i) (hlate : b.stage.early = false) {queue : List SeqEvent}
    (hqueue : b.queue = e :: queue) (hcovered : e.seq ≤ b.replayWatermark) :
    { b with queue := queue }.Fed s i := by
  have hsub : ({ b with queue := queue } : Browser).live.Sublist b.live := by
    rw [Browser.live, Browser.live, hqueue]
    exact (List.sublist_cons_self e queue).append_left _
  refine ⟨h.distinct.sublist hsub, fun a ha => h.source a (hsub.subset ha), h.member, ?_⟩
  intro ha a hoff hlt
  have hserving : b.stage = .serving := by
    have hc : b.stage.connected = true := ha.1
    revert hc hlate
    cases b.stage <;> simp [BrowserStage.early, BrowserStage.connected]
  rcases h.complete ha a hoff hlt with hin | hw
  · rw [Browser.live, hqueue, List.mem_append, List.mem_cons] at hin
    rcases hin with hin | rfl | hin
    · exact Or.inl (List.mem_append_left _ hin)
    · exact Or.inr ⟨hserving, hcovered⟩
    · exact Or.inl (List.mem_append_right _ hin)
  · exact Or.inr hw

/-- A frame moves from the queue to the socket. -/
lemma Fed.shift (h : b.Fed s i) {sending : Option SeqEvent} {queue pumped : List SeqEvent}
    (hlive : pumped ++ sending.toList ++ queue = b.live) :
    { b with queue := queue, sending := sending, pumped := pumped }.Fed s i := by
  have hlive' : ({ b with queue := queue, sending := sending, pumped := pumped } : Browser).live =
      b.live := hlive
  exact ⟨hlive' ▸ h.distinct, hlive' ▸ h.source, h.member, hlive' ▸ h.complete⟩

lemma Fed.pump (h : b.Fed s i) (ho : b.Ordered) : (RawSocketConnection.advancePump b).Fed s i := by
  rw [RawSocketConnection.advancePump]
  split
  · next e _ hsend => exact h.shift (by simp [Browser.live, hsend])
  · next hpump hsend =>
      rw [RawSocketConnection.take]
      split
      · exact h
      · next e queue hqueue =>
          split_ifs with hskip
          · exact h.skip (ho.late hpump) hqueue hskip.2
          · exact h.shift (by simp [Browser.live, hsend, hqueue])
  · exact h

lemma Fed.fail (h : b.Fed s i) : (RawSocketConnection.failPump b).Fed s i := by
  rw [RawSocketConnection.failPump]
  split
  · refine h.detach ?_ ?_
    · simp [Browser.live, RawSocketConnection.drop]
    · simp [Browser.attached, RawSocketConnection.drop]
  · exact h

lemma Fed.drop (h : b.Fed s i) : (RawSocketConnection.drop b).Fed s i :=
  h.detach (List.Sublist.refl _) (by simp [Browser.attached, RawSocketConnection.drop])

end Browser

end Networker
