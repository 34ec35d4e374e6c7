/-
What a browser receives of the dashboard events.

* `Feed.Sound`: the numbers, the ring and every browser; `Feed.Sound.exec` is its step
  lemma and `Feed.Sound.run` its run lemma;
* `Feed.Sound.received`, `joined`: no frame twice, across the replay and the pump;
* `Feed.Sound.replay`, `fed`: no frame missed;
* `Feed.Sound.drained`: a pump that is left to run sends what is pending;
* `events_received_once`: what every browser receives along every run.
-/
import Networker.ControlPlane.LiveFrames

namespace Networker

open Data Concurrency

/-! ### Every step -/

namespace Feed

variable {s s' : Feed} {i j : BrowserId} {b b' : Browser} {p : ℕ} {P Q : Publication}
  {e : SeqEvent}

/-- The calls, the ring and every browser. -/
structure Sound (s : Feed) : Prop where
  numbered : s.Numbered
  ringed : s.Ringed
  browsers : ∀ (i : BrowserId) (b : Browser), s.browsers[i]? = some b → b.Ordered ∧ b.Fed s i

lemma Sound.started : Feed.started.Sound where
  numbered := ⟨rfl, fun p P h => by simp [Feed.started] at h⟩
  ringed := ⟨distinct_nil, fun e he => by simp [Feed.started] at he⟩
  browsers i b h := by simp [Feed.started] at h

/-- One browser has changed. -/
lemma browsers_set {C : BrowserId → Browser → Prop} (hs' : s'.browsers = s.browsers.set i b')
    (hself : C i b') (hother : ∀ j c, j ≠ i → s.browsers[j]? = some c → C j c) :
    ∀ j c, s'.browsers[j]? = some c → C j c := by
  intro j c hc
  rw [hs'] at hc
  by_cases hji : j = i
  · subst hji
    rw [List.getElem?_set] at hc
    simp only [if_true] at hc
    split at hc
    · obtain rfl := Option.some.inj hc
      exact hself
    · contradiction
  · rw [List.getElem?_set_ne (Ne.symm hji)] at hc
    exact hother j c hji hc

/-- A browser moves on, perhaps in or out of the registry. -/
lemma Sound.setBrowser (h : s.Sound) {clients : Finset BrowserId}
    (hkeep : ∀ j, j ≠ i → j ∈ s.browserClients → j ∈ clients) (ho : b'.Ordered)
    (hf : b'.Fed { s with browserClients := clients } i) :
    ({ s with browserClients := clients }.setBrowser i b').Sound where
  numbered := ⟨h.numbered.counter, h.numbered.numbers⟩
  ringed := ⟨h.ringed.distinct, h.ringed.source⟩
  browsers := by
    refine browsers_set (s := s) (C := fun j c => c.Ordered ∧ c.Fed _ j) rfl ?_ ?_
    · exact ⟨ho, hf.mono (fun _ => id) id fun _ _ => id⟩
    · intro j c hji hc
      have hold := h.browsers j c hc
      exact ⟨hold.1, hold.2.mono (fun _ => id) (hkeep j hji) fun _ _ => id⟩

/-- A browser moves on by itself. -/
lemma Sound.onBrowser (h : s.Sound) (ho : b'.Ordered) (hf : b'.Fed s i) :
    (s.setBrowser i b').Sound :=
  h.setBrowser (fun _ _ hj => (hj : _ ∈ s.browserClients)) ho hf

/-- A call moves on and the browser `i` with it. -/
lemma Sound.hand (h : s.Sound) (hP : s.publications[p]? = some P) (hframe : Q.frame = P.frame)
    (hstage : Q.stage ≠ .numbered) (hseq : s'.seq = s.seq) (hbuffer : s'.buffer = s.buffer)
    (hs' : s'.publications = s.publications.set p Q) (hb' : s'.browsers = s.browsers.set i b')
    (hkeep : ∀ j, j ≠ i → j ∈ s.browserClients → j ∈ s'.browserClients)
    (hother : ∀ j, j ≠ i → (Q.offered j ↔ P.offered j)) (ho : b'.Ordered) (hf : b'.Fed s' i) :
    s'.Sound where
  numbered := h.numbered.enter hP hseq hs' hframe
  ringed := h.ringed.enter hP hbuffer hs' hframe hstage
  browsers := by
    refine browsers_set (C := fun j c => c.Ordered ∧ c.Fed s' j) hb' ⟨ho, hf⟩ fun j c hji hc => ?_
    have hold := h.browsers j c hc
    have hsame : ∀ e, s'.offered e j ↔ s.offered e j := by
      intro e
      rw [offered_enter hP hs' hframe (hother j hji).mpr]
      refine ⟨?_, Or.inl⟩
      rintro (hoff | ⟨rfl, hQ⟩)
      · exact hoff
      · exact ⟨P, List.mem_of_getElem? hP, rfl, (hother j hji).mp hQ⟩
    exact ⟨hold.1, hold.2.mono (fun e => (hsame e).mpr) (hkeep j hji) fun _ e => (hsame e).mp⟩

/-- A call moves on by itself: no attached browser gets an offer. -/
lemma Sound.enter (h : s.Sound) {stage stage' : PublishStage}
    (hP : s.publications[p]? = some ⟨e, stage⟩) (hstage : stage' ≠ .numbered)
    (hgrow : ∀ j, Publication.offered ⟨e, stage⟩ j → Publication.offered ⟨e, stage'⟩ j)
    (hback : ∀ j b, s.browsers[j]? = some b → b.attached →
      Publication.offered ⟨e, stage'⟩ j → Publication.offered ⟨e, stage⟩ j) :
    (s.enter p e stage').Sound where
  numbered := h.numbered.enter hP rfl rfl rfl
  ringed := h.ringed.enter hP rfl rfl rfl hstage
  browsers j c hc := by
    have hold := h.browsers j c hc
    have hiff : ∀ a, (s.enter p e stage').offered a j ↔
        s.offered a j ∨ a = e ∧ Publication.offered ⟨e, stage'⟩ j :=
      fun a => offered_enter hP rfl rfl (hgrow j)
    refine ⟨hold.1, hold.2.mono (fun a ha => (hiff a).mpr (Or.inl ha)) id fun ha a hoff => ?_⟩
    rcases (hiff a).mp hoff with hoff | ⟨rfl, hQ⟩
    · exact hoff
    · exact ⟨_, List.mem_of_getElem? hP, rfl, hback j c hc ha hQ⟩

lemma Sound.publish (h : s.Sound) (event : DashboardEvent) : (EventBus.publish event s).Sound where
  numbered := h.numbered.publish event
  ringed := h.ringed.publish event
  browsers j c hc := by
    have hold := h.browsers j c hc
    exact ⟨hold.1, hold.2.mono (fun _ => (offered_publish event).mpr) id
      fun _ _ => (offered_publish event).mp⟩

/-- The append to the ring and the beginning of the fan-out. -/
lemma Sound.publisher (h : s.Sound) (p : ℕ) : (EventBus.advance p s).Sound := by
  rw [EventBus.advance]
  split
  · next e hP =>
      have hmoved : (s.enter p e .buffered).Sound :=
        h.enter hP (by simp) (fun _ => id) fun _ _ _ _ => id
      refine ⟨⟨hmoved.numbered.counter, hmoved.numbered.numbers⟩,
        h.ringed.enqueue h.numbered hP, fun j c hc => ?_⟩
      have hold := hmoved.browsers j c hc
      exact ⟨hold.1, hold.2.mono (fun _ => id) id fun _ _ => id⟩
  · next e hP =>
      refine h.enter hP (by simp) (fun _ => False.elim) fun j b hb ha hQ => ?_
      exact absurd ((h.browsers j b hb).2.member ha) hQ
  · exact h

/-- A connection that accepts a frame is neither dropped nor closed and has room. -/
lemma tryEnqueue_some (h : RawSocketConnection.tryEnqueue e b = some b') :
    b' = { b with queue := b.queue ++ [e] } := by
  rw [RawSocketConnection.tryEnqueue] at h
  split at h
  · contradiction
  · contradiction
  · split_ifs at h
    exact (Option.some.inj h).symm

lemma offered_erase {left : Finset BrowserId} (hj : j ≠ i) :
    Publication.offered ⟨e, .broadcasting (left.erase i)⟩ j ↔ j ∉ left := by
  simp [Publication.offered, hj]

lemma Sound.offer (h : s.Sound) (p : ℕ) (i : BrowserId) :
    (RawSocketRegistry.offer p i s).Sound := by
  rw [RawSocketRegistry.offer]
  split
  · next e left b hP hb =>
      split_ifs with hi
      · have hbrowser := h.browsers i b hb
        have hnot : ¬ Publication.offered ⟨e, .broadcasting left⟩ i := fun ho => ho hi
        split
        · next b' htry =>
            obtain rfl := tryEnqueue_some htry
            refine h.hand (i := i) (Q := ⟨e, .broadcasting (left.erase i)⟩) hP rfl (by simp) rfl rfl
              rfl rfl (fun _ _ => id) (fun j hj => offered_erase hj) (hbrowser.1.queue _) ?_
            refine hbrowser.2.enqueue (fun a ha heq => ?_) (fun a => ?_) rfl
            · exact h.numbered.not_offered hP hnot heq ha
            · rw [offered_enter (Q := ⟨e, .broadcasting (left.erase i)⟩) hP rfl rfl
                fun ho => absurd ho hnot]
              simp [Publication.offered]
        · exact h.enter hP (by simp) (fun _ => id) fun _ _ _ _ => id
      · exact h
  · exact h

lemma Sound.eject (h : s.Sound) (p : ℕ) : (RawSocketRegistry.eject p s).Sound := by
  rw [RawSocketRegistry.eject]
  split
  · next e i left hP =>
      split
      · next b hb =>
          have hbrowser := h.browsers i b hb
          refine h.hand (i := i) (Q := ⟨e, .broadcasting (left.erase i)⟩) hP rfl (by simp) rfl rfl
            rfl rfl (fun j hj => Finset.mem_erase_of_ne_of_mem hj) (fun j hj => offered_erase hj)
            hbrowser.1.drop ?_
          have hgrow : ∀ a, s.offered a i →
              (Feed.enter p e (.broadcasting (left.erase i)) s).offered a i := fun a ha =>
            (offered_enter (Q := ⟨e, .broadcasting (left.erase i)⟩) hP rfl rfl
              fun hin hmem => hin (Finset.mem_of_mem_erase hmem)).mpr (Or.inl ha)
          have hdrop := hbrowser.2.drop
          exact ⟨hdrop.distinct, fun a ha => hgrow a (hdrop.source a ha),
            fun ha => absurd ha.2 (by simp [RawSocketConnection.drop]),
            fun ha => absurd ha.2 (by simp [RawSocketConnection.drop])⟩
      · exact h
  · exact h

lemma Sound.connect (h : s.Sound) (raw : Option ℤ) :
    (BrowserSocketEndpoint.connect raw s).Sound where
  numbered := ⟨h.numbered.counter, h.numbered.numbers⟩
  ringed := ⟨h.ringed.distinct, h.ringed.source⟩
  browsers j c hc := by
    rw [BrowserSocketEndpoint.connect, List.getElem?_append] at hc
    split at hc
    · have hold := h.browsers j c hc
      exact ⟨hold.1, hold.2.mono (fun _ => id) id fun _ _ => id⟩
    · obtain rfl := List.mem_singleton.mp (List.mem_of_getElem? hc)
      exact ⟨Browser.Ordered.connect raw, distinct_nil, by simp [Browser.live],
        fun ha => by simp [Browser.attached, BrowserStage.connected] at ha,
        fun ha => by simp [Browser.attached, BrowserStage.connected] at ha⟩

/-- The handler of a browser socket. -/
lemma Sound.handler (h : s.Sound) (i : BrowserId) : (BrowserSocketEndpoint.advance i s).Sound := by
  rw [BrowserSocketEndpoint.advance]
  split
  · next b hb =>
      obtain ⟨ho, hf⟩ := h.browsers i b hb
      rw [BrowserSocketEndpoint.statement]
      split
      · next hstage =>
          exact h.setBrowser (fun _ _ => Finset.mem_insert_of_mem) (ho.register hstage s.seq)
            (hf.register h.numbered)
      · next hstage =>
          exact h.onBrowser (ho.snapshot hstage h.ringed.distinct)
            (hf.stay rfl rfl (fun ha => ⟨by rw [hstage]; rfl, ha.2⟩) (by simp [hstage]))
      · next hstage =>
          exact h.onBrowser (ho.send hstage)
            (hf.stay rfl rfl (fun ha => ⟨by rw [hstage]; rfl, ha.2⟩) (by simp [hstage]))
      · next hstage =>
          exact h.onBrowser (ho.start hstage)
            (hf.stay rfl rfl (fun ha => ⟨by rw [hstage]; rfl, ha.2⟩) (by simp [hstage]))
      · exact h.onBrowser (ho.depart (Or.inr rfl))
          (hf.detach (List.Sublist.refl _) (by simp [Browser.attached, BrowserStage.connected]))
      · exact h
      · exact h
  · exact h

lemma Sound.leave (h : s.Sound) (i : BrowserId) : (BrowserSocketEndpoint.leave i s).Sound := by
  have hgo : ∀ b, s.browsers[i]? = some b →
      ((RawSocketRegistry.unregisterBrowser i s).setBrowser i
        { b with stage := .leaving }).Sound := by
    intro b hb
    obtain ⟨ho, hf⟩ := h.browsers i b hb
    refine h.setBrowser (fun j hj => Finset.mem_erase_of_ne_of_mem hj) (ho.depart (Or.inl rfl)) ?_
    have hoff : ¬ ({ b with stage := .leaving } : Browser).attached := by
      simp [Browser.attached, BrowserStage.connected]
    exact ⟨hf.distinct, hf.source, fun ha => absurd ha hoff, fun ha => absurd ha hoff⟩
  rw [BrowserSocketEndpoint.leave]
  split
  · next b hb =>
      split
      · exact hgo b hb
      · exact hgo b hb
      · exact hgo b hb
      · exact h
  · exact h

lemma Sound.pump (h : s.Sound) (i : BrowserId) : (RawSocketConnection.pump i s).Sound := by
  rw [RawSocketConnection.pump]
  split
  · next b hb =>
      obtain ⟨ho, hf⟩ := h.browsers i b hb
      refine h.onBrowser (ho.pump fun e he => ?_) (hf.pump ho)
      obtain ⟨P, hP, rfl, -⟩ := hf.source e (List.mem_append_right _ he)
      exact (h.numbered.bounds hP).1
  · exact h

lemma Sound.fail (h : s.Sound) (i : BrowserId) : (RawSocketConnection.fail i s).Sound := by
  rw [RawSocketConnection.fail]
  split
  · next b hb =>
      obtain ⟨ho, hf⟩ := h.browsers i b hb
      exact h.onBrowser ho.fail hf.fail
  · exact h

/-- Every step keeps it. -/
lemma Sound.exec (h : s.Sound) (l : FeedStep) : (l.exec s).Sound := by
  cases l with
  | publish e => exact h.publish e
  | publisher p => exact h.publisher p
  | offer p i => exact h.offer p i
  | eject p => exact h.eject p
  | connect raw => exact h.connect raw
  | handler i => exact h.handler i
  | pump i => exact h.pump i
  | fail i => exact h.fail i
  | leave i => exact h.leave i

/-- Along every run. -/
theorem Sound.run (ls : List FeedStep) : (browserFeed.run Feed.started ls).Sound :=
  Machine.run_inv_all (fun l _ _ h => h.exec l) Sound.started ls

/-! ### What a browser receives -/

lemma Sound.received (h : s.Sound) (hb : s.browsers[i]? = some b) :
    Distinct SeqEvent.seq b.received := by
  obtain ⟨ho, hf⟩ := h.browsers i b hb
  have hpumped : Distinct SeqEvent.seq b.pumped := hf.distinct.sublist (by simp [Browser.live])
  refine distinct_append.mpr ⟨ho.replayed, hpumped, fun r hr e he => ?_⟩
  exact (ho.above r hr e (List.mem_append_left _ he)).ne

/-- The replay, the frames pumped and the frames to be pumped do not overlap. -/
lemma Sound.joined (h : s.Sound) (hb : s.browsers[i]? = some b) (hpump : b.pumping = true) :
    Distinct SeqEvent.seq (b.received ++ b.pending) := by
  obtain ⟨ho, hf⟩ := h.browsers i b hb
  have hsub : (b.pumped ++ b.pending).Sublist b.live := by
    rw [Browser.pending, Browser.live, ← List.append_assoc]
    exact List.filter_sublist.append_left _
  rw [Browser.received, List.append_assoc]
  refine distinct_append.mpr ⟨ho.replayed, hf.distinct.sublist hsub, fun r hr e he => ne_of_lt ?_⟩
  rw [Browser.pending, ← List.append_assoc, List.mem_append] at he
  rcases he with he | he
  · exact ho.above r hr e he
  · have hhigh : b.replayWatermark < e.seq := by simpa using (List.mem_filter.mp he).2
    exact lt_of_le_of_lt (ho.covered hpump r hr) hhigh

/-- A browser that is served has received everything the replay found. -/
lemma Sound.replay (h : s.Sound) (hb : s.browsers[i]? = some b) (hs : b.stage = .serving) :
    b.replayed = b.batch := by
  have hp := (h.browsers i b hb).1.progress
  rw [hs] at hp
  exact hp.1

/-- An event offered to a served browser above its watermark has been pumped or waits. -/
lemma Sound.fed (h : s.Sound) (hb : s.browsers[i]? = some b) (hs : b.stage = .serving)
    (hd : b.dropped = false) (hP : P ∈ s.publications) (hoffered : P.offered i)
    (hhead : b.head < P.frame.seq) (hhigh : b.replayWatermark < P.frame.seq) :
    P.frame ∈ b.received ++ b.pending := by
  obtain ⟨ho, hf⟩ := h.browsers i b hb
  have ha : b.attached := ⟨by rw [hs]; rfl, hd⟩
  rcases hf.complete ha P.frame ⟨P, hP, rfl, hoffered⟩ hhead with hlive | ⟨_, hlow⟩
  · rw [Browser.live, List.append_assoc, List.mem_append, List.mem_append] at hlive
    rw [Browser.received, Browser.pending]
    rcases hlive with hin | hin | hin
    · exact List.mem_append_left _ (List.mem_append_right _ hin)
    · exact List.mem_append_right _ (List.mem_append_left _ hin)
    · exact List.mem_append_right _ (List.mem_append_right _ (by simp [hin, hhigh]))
  · exact absurd hhigh (not_lt_of_ge hlow)

/-! ### The pump sends what is pending -/

/-- Every step is possible. -/
@[simp] lemma next_browserFeed (l : FeedStep) : browserFeed.next l s = l.exec s := rfl

/-- The pump of one browser makes `n` moves. -/
def pumpRun (n : ℕ) (i : BrowserId) (s : Feed) : Feed :=
  browserFeed.run s (List.replicate n (.pump i))

lemma pumpRun_succ (n : ℕ) : pumpRun (n + 1) i s = pumpRun n i (RawSocketConnection.pump i s) := by
  rw [pumpRun, List.replicate_succ, Machine.run_cons]
  rfl

lemma pump_browser (hb : s.browsers[i]? = some b) :
    (RawSocketConnection.pump i s).browsers[i]? = some (RawSocketConnection.advancePump b) := by
  have hlt : i < s.browsers.length := (List.getElem?_eq_some_iff.mp hb).1
  simp only [RawSocketConnection.pump, hb, setBrowser]
  rw [List.getElem?_set_self hlt]

/-- A pump between two frames empties the queue. -/
lemma Sound.drained_idle (h : s.Sound) (hb : s.browsers[i]? = some b) (hpump : b.pumping = true)
    (hsend : b.sending = none) :
    ∃ n b', (pumpRun n i s).browsers[i]? = some b' ∧ b'.received = b.received ++ b.pending ∧
      b'.pending = [] := by
  induction hq : b.queue generalizing s b with
  | nil =>
      have hpend : b.pending = [] := by simp [Browser.pending, hsend, hq]
      exact ⟨0, b, hb, by rw [hpend, List.append_nil], hpend⟩
  | cons e queue ih =>
      have hnext := pump_browser hb
      have hs1 := h.pump i
      have hpos : 0 < e.seq := by
        obtain ⟨P, hP, hPe, -⟩ := (h.browsers i b hb).2.source e (by simp [Browser.live, hq])
        exact hPe ▸ (h.numbered.bounds hP).1
      by_cases hskip : e.seq ≤ b.replayWatermark
      · -- the frame is discarded
        have hb1 : RawSocketConnection.advancePump b = { b with queue := queue } := by
          simp [RawSocketConnection.advancePump, RawSocketConnection.take, hpump, hsend, hq, hpos,
            hskip]
        rw [hb1] at hnext
        obtain ⟨n, b', hb', hrec, hpend⟩ := ih hs1 hnext hpump hsend rfl
        refine ⟨n + 1, b', by rw [pumpRun_succ]; exact hb', hrec.trans ?_, hpend⟩
        simp [Browser.received, Browser.pending, hsend, hq, hskip]
      · -- the frame is taken and sent
        have hb1 : RawSocketConnection.advancePump b =
            { b with queue := queue, sending := some e } := by
          simp [RawSocketConnection.advancePump, RawSocketConnection.take, hpump, hsend, hq, hskip]
        rw [hb1] at hnext
        have hnext2 := pump_browser hnext
        have hb2 : RawSocketConnection.advancePump { b with queue := queue, sending := some e } =
            { b with queue := queue, sending := none, pumped := b.pumped ++ [e] } := by
          simp [RawSocketConnection.advancePump, hpump]
        rw [hb2] at hnext2
        obtain ⟨n, b', hb', hrec, hpend⟩ := ih (hs1.pump i) hnext2 hpump rfl rfl
        refine ⟨n + 2, b', by rw [pumpRun_succ, pumpRun_succ]; exact hb', hrec.trans ?_, hpend⟩
        have hhigh : b.replayWatermark < e.seq := lt_of_not_ge hskip
        simp [Browser.received, Browser.pending, hsend, hq, hhigh]

/-- A pump that is left to run sends what is pending. -/
lemma Sound.drained (h : s.Sound) (hb : s.browsers[i]? = some b) (hpump : b.pumping = true) :
    ∃ n b', (pumpRun n i s).browsers[i]? = some b' ∧ b'.received = b.received ++ b.pending ∧
      b'.pending = [] := by
  cases hsend : b.sending with
  | none => exact h.drained_idle hb hpump hsend
  | some e =>
      have hnext := pump_browser hb
      have hb1 : RawSocketConnection.advancePump b =
          { b with sending := none, pumped := b.pumped ++ [e] } := by
        simp [RawSocketConnection.advancePump, hpump, hsend]
      rw [hb1] at hnext
      obtain ⟨n, b', hb', hrec, hpend⟩ := (h.pump i).drained_idle hnext hpump rfl
      refine ⟨n + 1, b', by rw [pumpRun_succ]; exact hb', hrec.trans ?_, hpend⟩
      simp [Browser.received, Browser.pending, hsend]

end Feed

open Feed

/-- No browser receives an event twice.  A browser that is served and has not been
dropped has received, where it presents a positive `since`, every event above `since`
that the ring retained when the replay began, each one once; of the events numbered
after its registration and published since, those above `since` and above everything
replayed have been received or wait for its pump, each one once; and the pump sends
what waits.  Nothing is replayed to a browser that presents zero. -/
theorem events_received_once (ls : List FeedStep) (i : BrowserId) (b : Browser)
    (hb : (browserFeed.run .started ls).browsers[i]? = some b) :
    (∀ e ∈ b.received, Once SeqEvent.seq e b.received) ∧
    (b.stage = .serving → b.dropped = false →
      (0 < b.since → ∀ e ∈ b.retained, b.since < e.seq → Once SeqEvent.seq e b.received) ∧
      (b.since = 0 → b.replayed = []) ∧
      (∀ P ∈ (browserFeed.run .started ls).publications, P.returned → b.head < P.frame.seq →
        b.since < P.frame.seq → (∀ r ∈ b.replayed, r.seq < P.frame.seq) →
        Once SeqEvent.seq P.frame (b.received ++ b.pending)) ∧
      ∃ n b', (browserFeed.run .started (ls ++ List.replicate n (.pump i))).browsers[i]? = some b' ∧
        b'.received = b.received ++ b.pending ∧ b'.pending = []) := by
  have h := Sound.run ls
  refine ⟨fun e he => (h.received hb).once he, fun hs hd => ?_⟩
  have ho := (h.browsers i b hb).1
  have hpump : b.pumping = true := ho.served hs hd
  have hbatch := h.replay hb hs
  refine ⟨fun hpos e he hlt => ?_, fun hzero => ?_, fun P hP hret hhead hlt hall => ?_, ?_⟩
  · have hin : e ∈ b.replayed := by
      rw [hbatch, Browser.batch, if_pos hpos, EventBus.replay, List.mem_filter]
      exact ⟨he, by simpa using hlt⟩
    exact (h.received hb).once (List.mem_append_left _ hin)
  · rw [hbatch, Browser.batch, hzero, if_neg (lt_irrefl 0)]
  · have hhigh : b.replayWatermark < P.frame.seq := by
      have hp := ho.progress
      rw [hs] at hp
      rcases hp.2.attained with hw | ⟨r, hr, hw⟩
      · rw [hw]
        exact hlt
      · rw [← hw]
        exact hall r hr
    have hoffered : P.offered i := by
      have hstage : P.stage = .broadcasting ∅ := hret
      simp [Publication.offered, hstage]
    exact (h.joined hb hpump).once (h.fed hb hs hd hP hoffered hhead hhigh)
  · obtain ⟨n, b', hb', hrest⟩ := h.drained hb hpump
    exact ⟨n, b', by rw [Machine.run_append]; exact hb', hrest⟩

namespace OneBrowser

/-- An agent has come online. -/
def online : DashboardEvent := .agentStatus 1 "online" none

/-- A call of `Publish` up to the beginning of its fan-out. -/
def publishes (p : ℕ) : List FeedStep := [.publish online, .publisher p, .publisher p]

/-- A browser comes back with `since = 1`, two events after; a third one is published and
offered to it. -/
def reconnects : List FeedStep :=
  publishes 0 ++ publishes 1 ++ [.connect (some 1)] ++ List.replicate 4 (.handler 0) ++
    publishes 2 ++ [.offer 2 0]

/-- The browser behind that run. -/
def reconnected : Browser where
  since := 1
  stage := .serving
  queue := [⟨3, online⟩]
  replayWatermark := 2
  dropped := false
  pumping := true
  sending := none
  replayed := [⟨2, online⟩]
  pumped := []
  head := 2
  retained := [⟨1, online⟩, ⟨2, online⟩]

/-- A browser connects for the first time behind one event. -/
def connects : List FeedStep := publishes 0 ++ [.connect none] ++ List.replicate 3 (.handler 0)

end OneBrowser

open OneBrowser in
theorem events_received_once_reconnected :
    Once SeqEvent.seq ⟨2, online⟩ reconnected.received ∧
      Once SeqEvent.seq ⟨3, online⟩ (reconnected.received ++ reconnected.pending) := by
  have hrun : (browserFeed.run .started reconnects).browsers[0]? = some reconnected ∧
      ⟨⟨3, online⟩, .broadcasting ∅⟩ ∈ (browserFeed.run .started reconnects).publications := by
    simp [reconnects, publishes, reconnected, FeedStep.exec, EventBus.publish, EventBus.advance,
      EventBus.enqueue, EventBus.replay, eventLogCapacity, Feed.started, Feed.enter, Feed.setBrowser,
      BrowserSocketEndpoint.connect, BrowserSocketEndpoint.readSince, BrowserSocketEndpoint.advance,
      BrowserSocketEndpoint.statement, BrowserSocketEndpoint.snapshot, RawSocketRegistry.offer,
      RawSocketRegistry.registerBrowser, RawSocketConnection.tryEnqueue, defaultSendQueueCapacity,
      List.replicate]
  obtain ⟨-, hserved⟩ := events_received_once reconnects 0 reconnected hrun.1
  obtain ⟨hreplay, -, hlive, -⟩ := hserved rfl rfl
  exact ⟨hreplay (by decide) ⟨2, online⟩ (by simp [reconnected]) (by decide),
    hlive _ hrun.2 rfl (by decide) (by decide) (by simp [reconnected])⟩

open OneBrowser in
/-- A browser that connects for the first time is served and has not been dropped, nothing
waits for it, and the event the ring retains has not been sent to it. -/
theorem first_connect_replays_nothing :
    ∃ b, (browserFeed.run .started connects).browsers[0]? = some b ∧ b.stage = .serving ∧
      b.dropped = false ∧ b.pending = [] ∧
      ∃ e ∈ (browserFeed.run .started connects).buffer, b.since < e.seq ∧
        ¬ Once SeqEvent.seq e b.received := by
  have hrun : (browserFeed.run .started connects).browsers[0]? =
        some ⟨0, .serving, [], 0, false, true, none, [], [], 1, [⟨1, online⟩]⟩ ∧
      ⟨1, online⟩ ∈ (browserFeed.run .started connects).buffer := by
    simp [connects, publishes, FeedStep.exec, EventBus.publish, EventBus.advance, EventBus.enqueue,
      eventLogCapacity, Feed.started, Feed.enter, Feed.setBrowser, BrowserSocketEndpoint.connect,
      BrowserSocketEndpoint.readSince, BrowserSocketEndpoint.advance,
      BrowserSocketEndpoint.statement, BrowserSocketEndpoint.snapshot,
      RawSocketRegistry.registerBrowser, List.replicate]
  refine ⟨_, hrun.1, rfl, rfl, rfl, ⟨1, online⟩, hrun.2, by decide, fun honce => ?_⟩
  simp [Once, Browser.received] at honce

end Networker
