/-
What the deploy page shows of the events of its deployment.

* `SeqEvent.line?`, `SeqEvent.end?`: what an event puts on the page;
* `Following`: a page that is some way into the events of a response; `Following.handle` is its
  step lemma and `Following.foldl` its run lemma;
* `Feed.Past`, `Feed.Serial`: the ring where calls of `Publish` do not overlap;
* `Written`, `Sound`: the response against the ring, and the whole stream;
* `events_shown_once`: across any number of connections each event that the ring holds is shown
  once, in order.
-/
import Networker.ControlPlane.BrowserFeed
import Networker.ControlPlane.DeployEvents

namespace Networker

open Data Concurrency ServerSentEvents

namespace SeqEvent

/-- The line that an event adds. -/
def line? (e : SeqEvent) : Option String :=
  match e.event with
  | .deployLog _ line _ => some line
  | _ => none

/-- The end that an event reports. -/
def end? (e : SeqEvent) : Option (ℕ × String × List String) :=
  match e.event with
  | .deployComplete _ status ips => some (e.seq, status, ips)
  | _ => none

end SeqEvent

/-! ### The page -/

namespace DeployPage

variable {deploymentId : Guid} {ring W P Q : List SeqEvent} {source : SeqEvent → Prop}
  {page : DeployPage} {w e : SeqEvent} {codec : EventCodec}

/-- The page shows the events that it took in. -/
structure Shows (page : DeployPage) : Prop where
  lines : page.lines = page.shown.filterMap SeqEvent.line?
  complete : page.complete = (page.shown.filterMap SeqEvent.end?).getLast?

/-- A page that is some way into the events of a response. -/
structure Following (deploymentId : Guid) (source : SeqEvent → Prop) (ring P : List SeqEvent)
    (page : DeployPage) : Prop where
  shows : page.Shows
  sorted : page.shown.Pairwise fun a b => a.seq < b.seq
  le : ∀ e ∈ page.shown, e.seq ≤ page.lastSeq
  kept : ∀ e ∈ ring, e.event.ofDeployment deploymentId = true → e.seq ≤ page.lastSeq →
    e ∈ page.shown
  done : ∀ e ∈ P, e.seq ≤ page.lastSeq
  drawn : ∀ e ∈ page.shown, source e

lemma handle_of_le (h : e.seq ≤ page.lastSeq) : page.handle e = page := if_pos h

lemma handle_of_lt (h : page.lastSeq < e.seq) : page.handle e =
    { page with lastSeq := e.seq, shown := page.shown ++ [e] }.apply e :=
  if_neg (Nat.not_le.mpr h)

@[simp] lemma lastSeq_apply : (page.apply e).lastSeq = page.lastSeq := by
  rw [apply]
  split <;> rfl

@[simp] lemma shown_apply : (page.apply e).shown = page.shown := by
  rw [apply]
  split <;> rfl

@[simp] lemma buffer_apply : (page.apply e).buffer = page.buffer := by
  rw [apply]
  split <;> rfl

lemma lines_apply : (page.apply e).lines = page.lines ++ e.line?.toList := by
  rw [apply, SeqEvent.line?]
  split <;> simp_all

lemma complete_apply : (page.apply e).complete = e.end?.or page.complete := by
  rw [apply, SeqEvent.end?]
  split <;> simp_all

lemma Shows.handle (h : page.Shows) (e : SeqEvent) : (page.handle e).Shows := by
  rw [DeployPage.handle]
  split_ifs
  · exact h
  · refine ⟨?_, ?_⟩
    · rw [lines_apply, shown_apply, List.filterMap_append, h.lines]
      cases hline : e.line? <;> simp [hline]
    · rw [complete_apply, shown_apply, List.filterMap_append, h.complete]
      cases hend : e.end? <;> simp [hend]

/-- The next event of a response: the page is one further. -/
lemma Following.handle (h : Following deploymentId source ring P page) (hW : P ++ [w] <+: W)
    (hsorted : W.Pairwise fun a b => a.seq < b.seq)
    (hcover : ∀ e ∈ ring, e.event.ofDeployment deploymentId = true → e.seq ≤ w.seq → e ∈ W)
    (hw : source w) : Following deploymentId source ring (P ++ [w]) (page.handle w) := by
  by_cases hle : w.seq ≤ page.lastSeq
  · rw [handle_of_le hle]
    refine ⟨h.shows, h.sorted, h.le, h.kept, fun e he => ?_, h.drawn⟩
    rw [List.mem_append, List.mem_singleton] at he
    obtain he | rfl := he
    · exact h.done e he
    · exact hle
  · have hlt : page.lastSeq < w.seq := Nat.not_le.mp hle
    have hshown : (page.handle w).shown = page.shown ++ [w] := by
      rw [handle_of_lt hlt, shown_apply]
    have hseq : (page.handle w).lastSeq = w.seq := by
      rw [handle_of_lt hlt, lastSeq_apply]
    have hmem : ∀ e, e ∈ page.shown ++ [w] → e ∈ page.shown ∨ e = w := fun e he => by
      rwa [List.mem_append, List.mem_singleton] at he
    refine ⟨h.shows.handle w, ?_, ?_, ?_, ?_, ?_⟩
    · rw [hshown, List.pairwise_append]
      refine ⟨h.sorted, List.pairwise_singleton _ _, fun a ha b hb => ?_⟩
      obtain rfl := List.mem_singleton.mp hb
      exact (h.le a ha).trans_lt hlt
    · rw [hshown, hseq]
      intro e he
      obtain he | rfl := hmem e he
      · exact (h.le e he).trans hlt.le
      · exact le_rfl
    · rw [hshown, hseq]
      intro e he habout hew
      rw [List.mem_append, List.mem_singleton]
      by_cases hold : e.seq ≤ page.lastSeq
      · exact .inl (h.kept e he habout hold)
      · -- the event is in the response, and not behind `w`
        obtain ⟨rest, rfl⟩ := hW
        have heW := hcover e he habout hew
        rw [List.mem_append, List.mem_append, List.mem_singleton, or_assoc] at heW
        obtain hP | rfl | hrest := heW
        · exact absurd (h.done e hP) hold
        · exact .inr rfl
        · have hbehind := (List.pairwise_append.mp hsorted).2.2 w (by simp) e hrest
          omega
    · rw [hseq]
      intro e he
      rw [List.mem_append, List.mem_singleton] at he
      obtain he | rfl := he
      · exact (h.done e he).trans hlt.le
      · exact le_rfl
    · rw [hshown]
      intro e he
      obtain he | rfl := hmem e he
      · exact h.drawn e he
      · exact hw

/-- The next events of a response. -/
lemma Following.foldl (h : Following deploymentId source ring P page) (hW : P ++ Q <+: W)
    (hsorted : W.Pairwise fun a b => a.seq < b.seq)
    (hcover : ∀ w ∈ W, ∀ e ∈ ring, e.event.ofDeployment deploymentId = true → e.seq ≤ w.seq →
      e ∈ W)
    (hsource : ∀ w ∈ W, source w) :
    Following deploymentId source ring (P ++ Q) (Q.foldl DeployPage.handle page) := by
  induction Q generalizing P page with
  | nil => rwa [List.append_nil]
  | cons w Q ih =>
      have hcons : P ++ w :: Q = P ++ [w] ++ Q := by simp
      rw [hcons] at hW ⊢
      have hpre : P ++ [w] <+: W := (List.prefix_append _ Q).trans hW
      have hmem : w ∈ W := hpre.subset (by simp)
      exact ih (h.handle hpre hsorted (hcover w hmem) (hsource w hmem)) hW

/-- The loop over the frames takes in the events that parse. -/
lemma foldl_consume (codec : EventCodec) (pieces : List (List Char)) (page : DeployPage) :
    pieces.foldl (consume codec) page =
      ((pieces.filterMap framePayload).filterMap codec.parse).foldl DeployPage.handle page := by
  induction pieces generalizing page with
  | nil => rfl
  | cons piece pieces ih =>
      rw [List.foldl_cons, ih, consume]
      cases hpayload : framePayload piece with
      | none => simp [hpayload]
      | some payload =>
          cases hparse : codec.parse payload with
          | none => simp [hpayload, hparse]
          | some e => simp [hpayload, hparse]

end DeployPage

/-! ### The ring -/

namespace Feed

variable {s : Feed} {n p : ℕ} {e : SeqEvent} {event : DashboardEvent} {P : Publication}

/-- A number below the one that waits to be appended. -/
def Past (s : Feed) (n : ℕ) : Prop :=
  n ≤ s.seq ∧ ∀ P ∈ s.publications, P.stage = .numbered → n < s.seq

/-- No call of `Publish` has numbered its event and not appended it yet. -/
def idle (s : Feed) : Bool := s.publications.all fun P => decide (P.stage ≠ .numbered)

/-- The ring where the calls of `Publish` do not overlap: the call that has not appended its
event yet is the last one. -/
structure Serial (s : Feed) : Prop where
  numbered : s.Numbered
  ringed : s.Ringed
  sorted : s.buffer.Pairwise fun a b => a.seq < b.seq
  waiting : ∀ P ∈ s.publications, P.stage = .numbered → P.frame.seq = s.seq

lemma idle_iff : s.idle = true ↔ ∀ P ∈ s.publications, P.stage ≠ .numbered := by
  simp [idle]

lemma Serial.started : Feed.started.Serial where
  numbered := Sound.started.numbered
  ringed := Sound.started.ringed
  sorted := by simp [Feed.started]
  waiting := by simp [Feed.started]

/-- The ring is past. -/
lemma Serial.past (h : s.Serial) (he : e ∈ s.buffer) : s.Past e.seq := by
  obtain ⟨P, hP, rfl, hstage⟩ := h.ringed.source e he
  have hle := (h.numbered.bounds hP).2
  refine ⟨hle, fun Q hQ hnum => lt_of_le_of_ne hle fun heq => hstage ?_⟩
  rw [h.numbered.unique hP hQ (heq.trans (h.waiting Q hQ hnum).symm), hnum]

lemma Past.publish (h : s.Past n) : (EventBus.publish event s).Past n :=
  ⟨h.1.trans (Nat.le_succ _), fun _ _ _ => Nat.lt_succ_of_le h.1⟩

lemma Serial.publish (h : s.Serial) (hidle : s.idle = true) (event : DashboardEvent) :
    (EventBus.publish event s).Serial where
  numbered := h.numbered.publish event
  ringed := h.ringed.publish event
  sorted := h.sorted
  waiting P hP hstage := by
    rw [EventBus.publish, List.mem_append, List.mem_singleton] at hP
    obtain hP | rfl := hP
    · exact absurd hstage (idle_iff.mp hidle P hP)
    · rfl

/-- The call `p` moves on from a stage behind the numbering. -/
lemma Past.enter (h : s.Past n) {stage : PublishStage} (hstage : stage ≠ .numbered) :
    (s.enter p e stage).Past n := by
  refine ⟨h.1, fun Q hQ hnum => ?_⟩
  obtain hQ | rfl := List.mem_or_eq_of_mem_set hQ
  · exact h.2 Q hQ hnum
  · exact absurd hnum hstage

lemma Past.advance (h : s.Past n) (p : ℕ) : (EventBus.advance p s).Past n := by
  rw [EventBus.advance]
  split
  · exact Past.enter (s := { s with buffer := _ }) h (by simp)
  · exact h.enter (by simp)
  · exact h

lemma Serial.enter (h : s.Serial) {stage stage' : PublishStage}
    (hP : s.publications[p]? = some ⟨e, stage⟩) (hstage : stage' ≠ .numbered) :
    (s.enter p e stage').Serial where
  numbered := h.numbered.enter hP rfl rfl rfl
  ringed := h.ringed.enter hP rfl rfl rfl hstage
  sorted := h.sorted
  waiting Q hQ hnum := by
    obtain hQ | rfl := List.mem_or_eq_of_mem_set hQ
    · exact h.waiting Q hQ hnum
    · exact absurd hnum hstage

/-- What the ring holds behind a step of a call: what it held, and an event whose number is the
last one. -/
lemma Serial.mem_advance (h : s.Serial) (he : e ∈ (EventBus.advance p s).buffer) :
    e ∈ s.buffer ∨ e.seq = s.seq ∧ s.idle = false := by
  rw [EventBus.advance] at he
  split at he
  · next a hP =>
    refine (mem_enqueue he).imp_right fun heq => ?_
    subst heq
    have hin := List.mem_of_getElem? hP
    refine ⟨h.waiting _ hin rfl, ?_⟩
    rw [← Bool.not_eq_true, idle_iff]
    exact fun hidle => hidle _ hin rfl
  · exact .inl he
  · exact .inl he

lemma Serial.advance (h : s.Serial) (p : ℕ) : (EventBus.advance p s).Serial := by
  rw [EventBus.advance]
  split
  · next a hP =>
    have hmoved : (s.enter p a .buffered).Serial := h.enter hP (by simp)
    have hin := List.mem_of_getElem? hP
    have hbehind : ∀ b ∈ s.buffer, b.seq < a.seq := fun b hb => by
      rw [h.waiting _ hin rfl]
      exact (h.past hb).2 _ hin rfl
    have hsub : (EventBus.enqueue a s.buffer).Sublist (s.buffer ++ [a]) := by
      rw [EventBus.enqueue]
      split_ifs
      · exact s.buffer.tail_sublist.append_right [a]
      · exact List.Sublist.refl _
    refine ⟨⟨hmoved.numbered.counter, hmoved.numbered.numbers⟩, h.ringed.enqueue h.numbered hP, ?_,
      hmoved.waiting⟩
    refine List.Pairwise.sublist hsub (List.pairwise_append.mpr
      ⟨h.sorted, List.pairwise_singleton _ _, fun b hb c hc => ?_⟩)
    obtain rfl := List.mem_singleton.mp hc
    exact hbehind b hb
  · next a hP => exact h.enter hP (by simp)
  · exact h

end Feed

/-! ### The response and the page -/

section Delivery

variable {codec : EventCodec} {deploymentId : Guid} {st : DeployStream} {c : DeployConnection}
  {page : DeployPage} {bus : Feed} {n : ℕ}

namespace DeployConnection

/-- The text that the page has got. -/
def taken (codec : EventCodec) (c : DeployConnection) : List Char := (c.text codec).take c.received

/-- The events that the page has found in it. -/
def found (codec : EventCodec) (c : DeployConnection) : List SeqEvent :=
  (readFrames [c.taken codec]).filterMap codec.parse

lemma wellFormed_toSse (codec : EventCodec) (frame : StreamFrame) :
    (frame.toSse codec).WellFormed := by
  cases frame with
  | event e => simp [StreamFrame.toSse, SseFrame.WellFormed]
  | keepAlive => simp [StreamFrame.toSse, SseFrame.WellFormed]

lemma wellFormed (codec : EventCodec) (c : DeployConnection) :
    ∀ frame ∈ c.frames.map (StreamFrame.toSse codec), frame.WellFormed := by
  intro frame hframe
  obtain ⟨f, -, rfl⟩ := List.mem_map.mp hframe
  exact wellFormed_toSse codec f

/-- The data of a response are its events. -/
lemma parse_data (frames : List StreamFrame)
    (hreads : ∀ e ∈ frames.filterMap StreamFrame.event?, codec.Reads e) :
    ((frames.map (StreamFrame.toSse codec)).filterMap SseFrame.data?).filterMap codec.parse =
      frames.filterMap StreamFrame.event? := by
  induction frames with
  | nil => rfl
  | cons frame frames ih =>
      cases frame with
      | event e =>
          have hevents : (StreamFrame.event e :: frames).filterMap StreamFrame.event? =
              e :: frames.filterMap StreamFrame.event? := rfl
          rw [hevents, List.forall_mem_cons] at hreads
          have hparse : codec.parse (codec.serialize e) = some e := hreads.1
          simp only [List.map_cons, StreamFrame.toSse, List.filterMap_cons, SseFrame.data?, hparse,
            StreamFrame.event?, ih hreads.2]
      | keepAlive =>
          simp only [List.map_cons, StreamFrame.toSse, List.filterMap_cons, SseFrame.data?,
            StreamFrame.event?, ih hreads]

/-- The page has found the first events, and all of them where it has got the whole text. -/
lemma found_prefix (hreads : ∀ e ∈ c.events, codec.Reads e) :
    c.found codec <+: c.events ∧ (c.drained codec = true → c.found codec = c.events) := by
  have hframes := payloads_of_frames (c.frames.map (StreamFrame.toSse codec))
    (c.wellFormed codec) [c.taken codec]
  have hflat : [c.taken codec].flatten = c.taken codec := by simp
  rw [hflat] at hframes
  obtain ⟨hpre, hall⟩ := hframes (List.take_prefix _ _)
  have hdata := parse_data c.frames hreads
  rw [events, ← hdata]
  refine ⟨hpre.filterMap codec.parse, fun hdrained => ?_⟩
  have htaken : c.taken codec = c.text codec :=
    List.take_of_length_le (of_decide_eq_true hdrained)
  rw [found, hall htaken]

/-- A chunk that the page gets, behind what it has got. -/
lemma found_receive (n : ℕ) {c' : DeployConnection}
    (hc' : c' = { c with received := c.received + (c.chunk codec n).length })
    (hbuffer : page.buffer = (Text.cut ['\n', '\n'] (c.taken codec)).2) :
    ∃ Q, c'.found codec = c.found codec ++ Q ∧ page.receive codec (c.chunk codec n) =
      { Q.foldl DeployPage.handle page with
        buffer := (Text.cut ['\n', '\n'] (c'.taken codec)).2 } := by
  have htaken : c'.taken codec = c.taken codec ++ c.chunk codec n := by
    rw [hc']
    refine List.take_add.trans (congrArg (c.taken codec ++ ·) ?_)
    rw [chunk, List.length_take]
    exact List.take_eq_take_min.symm
  have hread : ∀ t, readFrames [t] = (Text.cut ['\n', '\n'] t).1.filterMap framePayload := by
    intro t
    rw [readFrames, Text.read_chunks, List.flatten_singleton]
    rfl
  have hcut : Text.cut ['\n', '\n'] (c'.taken codec) =
      ((Text.cut ['\n', '\n'] (c.taken codec)).1 ++
        (Text.cut ['\n', '\n'] (page.buffer ++ c.chunk codec n)).1,
        (Text.cut ['\n', '\n'] (page.buffer ++ c.chunk codec n)).2) := by
    rw [htaken, hbuffer]
    exact Text.cut_append
  refine ⟨((Text.cut ['\n', '\n'] (page.buffer ++ c.chunk codec n)).1.filterMap
    framePayload).filterMap codec.parse, ?_, ?_⟩
  · rw [found, found, hread, hread, hcut, List.filterMap_append, List.filterMap_append]
  · rw [DeployPage.receive, DeployPage.foldl_consume, hcut]

end DeployConnection

/-- An event of the deployment that was published. -/
def Published (deploymentId : Guid) (bus : Feed) (e : SeqEvent) : Prop :=
  e.event.ofDeployment deploymentId = true ∧ ∃ P ∈ bus.publications, P.frame = e

/-- A response against the ring. -/
structure Written (codec : EventCodec) (deploymentId : Guid) (bus : Feed) (page : DeployPage)
    (c : DeployConnection) : Prop where
  sorted : c.events.Pairwise fun a b => a.seq < b.seq
  le : ∀ e ∈ c.events, e.seq ≤ c.since
  drawn : ∀ e ∈ c.events, Published deploymentId bus e
  cover : ∀ e ∈ bus.buffer, e.event.ofDeployment deploymentId = true → e.seq ≤ c.since →
    e ∈ c.events
  past : bus.Past c.since
  got : c.received ≤ (c.text codec).length
  rest : page.buffer = (Text.cut ['\n', '\n'] (c.taken codec)).2

/-- The whole stream. -/
structure Sound (codec : EventCodec) (deploymentId : Guid) (st : DeployStream) : Prop where
  serial : st.bus.Serial
  past : st.bus.Past st.page.lastSeq
  page : st.page.Following deploymentId (Published deploymentId st.bus) st.bus.buffer
    ((st.connection.map (DeployConnection.found codec)).getD [])
  written : ∀ c ∈ st.connection, Written codec deploymentId st.bus st.page c

/-- What the bus does to the events of the deployment: published ones stay so, and one that
comes into the ring has a number behind the past. -/
structure Grows (deploymentId : Guid) (bus bus' : Feed) : Prop where
  serial : bus'.Serial
  past : ∀ n, bus.Past n → bus'.Past n
  published : ∀ e, Published deploymentId bus e → Published deploymentId bus' e
  ring : ∀ e ∈ bus'.buffer, e ∈ bus.buffer ∨ ∀ n, bus.Past n → n < e.seq

lemma Grows.publish (h : bus.Serial) (hidle : bus.idle = true) (event : DashboardEvent) :
    Grows deploymentId bus (EventBus.publish event bus) where
  serial := h.publish hidle event
  past _ hn := hn.publish
  published e he := by
    obtain ⟨habout, P, hP, hPe⟩ := he
    exact ⟨habout, P, List.mem_append_left _ hP, hPe⟩
  ring _ he := .inl he

lemma published_enter (bus : Feed) {p : ℕ} {e a : SeqEvent} {stage stage' : PublishStage}
    (hP : bus.publications[p]? = some ⟨a, stage⟩) (he : Published deploymentId bus e) :
    Published deploymentId (bus.enter p a stage') e := by
  obtain ⟨habout, P, hmem, rfl⟩ := he
  refine ⟨habout, ?_⟩
  obtain ⟨i, hi⟩ := List.getElem?_of_mem hmem
  by_cases hip : i = p
  · subst hip
    obtain rfl := Option.some.inj (hi.symm.trans hP)
    exact ⟨⟨a, stage'⟩, List.mem_set (List.getElem?_eq_some_iff.mp hP).1 _, rfl⟩
  · refine ⟨P, List.mem_of_getElem? (i := i) ?_, rfl⟩
    rw [Feed.enter, List.getElem?_set_ne (Ne.symm hip)]
    exact hi

lemma Grows.advance (h : bus.Serial) (p : ℕ) :
    Grows deploymentId bus (EventBus.advance p bus) where
  serial := h.advance p
  past _ hn := hn.advance p
  published e he := by
    rw [EventBus.advance]
    split
    · next a hP =>
      exact published_enter { bus with buffer := _ } hP he
    · next a hP => exact published_enter bus hP he
    · exact he
  ring e he := by
    refine (h.mem_advance he).imp_right ?_
    rintro ⟨hseq, hidle⟩ n hn
    rw [Feed.idle, List.all_eq_false] at hidle
    obtain ⟨P, hP, hstage⟩ := hidle
    rw [hseq]
    exact hn.2 P hP (by simpa using hstage)

lemma Sound.grow (h : Sound codec deploymentId st) {bus' : Feed}
    (hg : Grows deploymentId st.bus bus') : Sound codec deploymentId { st with bus := bus' } where
  serial := hg.serial
  past := hg.past _ h.past
  page := by
    refine ⟨h.page.shows, h.page.sorted, h.page.le, fun e he habout hle => ?_, h.page.done,
      fun e he => hg.published e (h.page.drawn e he)⟩
    obtain hold | hnew := hg.ring e he
    · exact h.page.kept e hold habout hle
    · exact absurd hle (Nat.not_le.mpr (hnew _ h.past))
  written c hc := by
    have hw := h.written c hc
    refine ⟨hw.sorted, hw.le, fun e he => hg.published e (hw.drawn e he),
      fun e he habout hle => ?_, hg.past _ hw.past, hw.got, hw.rest⟩
    obtain hold | hnew := hg.ring e he
    · exact hw.cover e hold habout hle
    · exact absurd hle (Nat.not_le.mpr (hnew _ hw.past))

/-- What `Following` is about. -/
lemma following_congr {source : SeqEvent → Prop} {ring P : List SeqEvent} {page' : DeployPage}
    (h : page.Following deploymentId source ring P) (hseq : page'.lastSeq = page.lastSeq)
    (hlines : page'.lines = page.lines) (hcomplete : page'.complete = page.complete)
    (hshown : page'.shown = page.shown) : page'.Following deploymentId source ring P where
  shows := ⟨by rw [hlines, hshown, h.shows.lines], by rw [hcomplete, hshown, h.shows.complete]⟩
  sorted := hshown ▸ h.sorted
  le := by
    rw [hshown, hseq]
    exact h.le
  kept := by
    rw [hshown, hseq]
    exact h.kept
  done := by
    rw [hseq]
    exact h.done
  drawn := by
    rw [hshown]
    exact h.drawn

lemma following_nil {source : SeqEvent → Prop} {ring P : List SeqEvent}
    (h : page.Following deploymentId source ring P) :
    page.Following deploymentId source ring [] :=
  ⟨h.shows, h.sorted, h.le, h.kept, by simp, h.drawn⟩

lemma Sound.drop (h : Sound codec deploymentId st) :
    Sound codec deploymentId { st with connection := none } where
  serial := h.serial
  past := h.past
  page := following_nil h.page
  written := by simp

lemma Sound.connect (h : Sound codec deploymentId st) (hrow : st.row.terminal = false) :
    Sound codec deploymentId (DeployStream.exec codec deploymentId .connect st) := by
  have hrespond : DeployStream.respond deploymentId st.row = ⟨0, true, [], 0⟩ := by
    rw [DeployStream.respond, hrow, if_neg Bool.false_ne_true]
  have hpos : ∀ e ∈ st.bus.buffer, 0 < e.seq := by
    intro e he
    obtain ⟨P, hP, rfl, -⟩ := h.serial.ringed.source e he
    exact (h.serial.numbered.bounds hP).1
  rw [DeployStream.exec, hrespond]
  refine ⟨h.serial, h.past, following_congr (following_nil h.page) rfl rfl rfl rfl, ?_⟩
  rintro c hc
  obtain rfl := Option.some.inj hc
  refine ⟨List.Pairwise.nil, by simp [DeployConnection.events], by simp [DeployConnection.events],
    fun e he _ hle => ?_, ⟨Nat.zero_le _, fun P hP hstage => ?_⟩, Nat.zero_le _, rfl⟩
  · exact absurd hle (Nat.not_le.mpr (hpos e he))
  · rw [← h.serial.waiting P hP hstage]
    exact (h.serial.numbered.bounds hP).1

/-- More of the response is written. -/
lemma taken_append (codec : EventCodec) (c c' : DeployConnection) {frames : List StreamFrame}
    (hframes : c'.frames = c.frames ++ frames) (hreceived : c'.received = c.received)
    (hgot : c.received ≤ (c.text codec).length) :
    c'.taken codec = c.taken codec ∧ c'.received ≤ (c'.text codec).length := by
  have htext : c'.text codec =
      c.text codec ++ body (frames.map (StreamFrame.toSse codec)) := by
    rw [DeployConnection.text, hframes, List.map_append, body, List.flatMap_append]
    rfl
  rw [DeployConnection.taken, DeployConnection.taken, htext, hreceived, List.length_append]
  exact ⟨List.take_append_of_le_length hgot, hgot.trans (Nat.le_add_right _ _)⟩

lemma found_append {c c' : DeployConnection} {frames : List StreamFrame}
    (hframes : c'.frames = c.frames ++ frames) (hreceived : c'.received = c.received)
    (hgot : c.received ≤ (c.text codec).length) : c'.found codec = c.found codec := by
  rw [DeployConnection.found, (taken_append codec c c' hframes hreceived hgot).1]
  rfl

lemma Sound.keepAlive (h : Sound codec deploymentId st) :
    Sound codec deploymentId (DeployStream.exec codec deploymentId .keepAlive st) := by
  rw [DeployStream.exec, DeployStream.onConnection]
  cases hc : st.connection with
  | none => exact ⟨h.serial, h.past, by simpa [hc] using h.page, by simp⟩
  | some c =>
      have hw := h.written c hc
      have hpage := h.page
      rw [hc] at hpage
      set c' : DeployConnection := { c with frames := c.frames ++ [.keepAlive] } with hc'
      have hfound : c'.found codec = c.found codec := found_append rfl rfl hw.got
      have hevents : c'.events = c.events := by
        rw [hc', DeployConnection.events, List.filterMap_append]
        exact List.append_nil _
      refine ⟨h.serial, h.past, ?_, ?_⟩
      · show st.page.Following deploymentId _ st.bus.buffer (c'.found codec)
        rw [hfound]
        exact hpage
      · rintro d hd
        obtain rfl := Option.some.inj hd
        obtain ⟨htaken, hgot⟩ := taken_append codec c c' rfl rfl hw.got
        refine ⟨hevents ▸ hw.sorted, hevents ▸ hw.le, hevents ▸ hw.drawn, hevents ▸ hw.cover,
          hw.past, hgot, ?_⟩
        rw [htaken]
        exact hw.rest

/-- The number that the loop goes on from: it is past, and no entry that was read is behind it. -/
lemma tail_since (deploymentId : Guid) (hs : bus.Serial) (hpast : bus.Past c.since) :
    bus.Past (c.tail deploymentId bus.buffer).since ∧
      c.since ≤ (c.tail deploymentId bus.buffer).since ∧
      ∀ e ∈ EventBus.replay c.since bus.buffer,
        e.seq ≤ (c.tail deploymentId bus.buffer).since := by
  have hsorted : (EventBus.replay c.since bus.buffer).Pairwise fun a b => a.seq < b.seq :=
    hs.sorted.filter _
  rw [DeployConnection.tail]
  obtain hnil | ⟨init, l, hl⟩ := List.eq_nil_or_concat' (EventBus.replay c.since bus.buffer)
  · simp only [hnil, List.getLast?_nil, Option.map_none, Option.getD_none]
    exact ⟨hpast, le_rfl, by simp⟩
  · have hmem : l ∈ EventBus.replay c.since bus.buffer := by simp [hl]
    have hlast : ((EventBus.replay c.since bus.buffer).getLast?.map SeqEvent.seq).getD c.since =
        l.seq := by simp [hl]
    obtain ⟨hbuffer, hlt⟩ := List.mem_filter.mp hmem
    simp only [hlast]
    refine ⟨hs.past hbuffer, (of_decide_eq_true hlt).le, fun e he => ?_⟩
    rw [hl, List.mem_append, List.mem_singleton] at he
    rw [hl] at hsorted
    obtain he | rfl := he
    · exact ((List.pairwise_append.mp hsorted).2.2 e he l (List.mem_singleton_self l)).le
    · exact le_rfl

lemma events_tail (c : DeployConnection) (buffer : List SeqEvent) :
    (c.tail deploymentId buffer).events = c.events ++
      (EventBus.replay c.since buffer).filter fun e => e.event.ofDeployment deploymentId := by
  rw [DeployConnection.events, DeployConnection.tail, List.filterMap_append, List.filterMap_map]
  exact congrArg (c.events ++ ·) List.filterMap_some

lemma Written.tail (h : Written codec deploymentId bus page c) (hs : bus.Serial) :
    Written codec deploymentId bus page (c.tail deploymentId bus.buffer) := by
  obtain ⟨hpast, hle, hread⟩ := tail_since deploymentId hs h.past
  obtain ⟨htaken, hgot⟩ := taken_append codec c (c.tail deploymentId bus.buffer)
    rfl rfl h.got
  have hbatch : ∀ e ∈ (EventBus.replay c.since bus.buffer).filter
      fun e => e.event.ofDeployment deploymentId,
      e ∈ bus.buffer ∧ c.since < e.seq ∧ e.seq ≤ (c.tail deploymentId bus.buffer).since ∧
        e.event.ofDeployment deploymentId = true := by
    intro e he
    obtain ⟨hin, habout⟩ := List.mem_filter.mp he
    obtain ⟨hbuffer, hlt⟩ := List.mem_filter.mp hin
    exact ⟨hbuffer, of_decide_eq_true hlt, hread e hin, habout⟩
  refine ⟨?_, ?_, ?_, ?_, hpast, hgot, ?_⟩
  · rw [events_tail, List.pairwise_append]
    refine ⟨h.sorted, (hs.sorted.filter _).filter _, fun a ha b hb => ?_⟩
    exact (h.le a ha).trans_lt (hbatch b hb).2.1
  · rw [events_tail]
    intro e he
    obtain he | he := List.mem_append.mp he
    · exact (h.le e he).trans hle
    · exact (hbatch e he).2.2.1
  · rw [events_tail]
    intro e he
    obtain he | he := List.mem_append.mp he
    · exact h.drawn e he
    · obtain ⟨hbuffer, -, -, habout⟩ := hbatch e he
      obtain ⟨P, hP, hPe, -⟩ := hs.ringed.source e hbuffer
      exact ⟨habout, P, hP, hPe⟩
  · rw [events_tail]
    intro e he habout _
    rw [List.mem_append]
    by_cases hold : e.seq ≤ c.since
    · exact .inl (h.cover e he habout hold)
    · have hlt : c.since < e.seq := Nat.not_le.mp hold
      exact .inr (List.mem_filter.mpr
        ⟨List.mem_filter.mpr ⟨he, decide_eq_true hlt⟩, habout⟩)
  · rw [htaken]
    exact h.rest

lemma Sound.poll (h : Sound codec deploymentId st) :
    Sound codec deploymentId (DeployStream.exec codec deploymentId .poll st) := by
  rw [DeployStream.exec, DeployStream.onConnection]
  cases hc : st.connection with
  | none => exact ⟨h.serial, h.past, by simpa [hc] using h.page, by simp⟩
  | some c =>
      have hw := h.written c hc
      have hpage := h.page
      rw [hc] at hpage
      refine ⟨h.serial, h.past, ?_, ?_⟩
      · show st.page.Following deploymentId _ st.bus.buffer
          ((c.tail deploymentId st.bus.buffer).found codec)
        have hfound : (c.tail deploymentId st.bus.buffer).found codec = c.found codec :=
          found_append rfl rfl hw.got
        rw [hfound]
        exact hpage
      · rintro d hd
        obtain rfl := Option.some.inj hd
        exact hw.tail h.serial

lemma Feed.Past.mono {m : ℕ} (h : bus.Past m) (hn : n ≤ m) : bus.Past n :=
  ⟨hn.trans h.1, fun P hP hstage => hn.trans_lt (h.2 P hP hstage)⟩

lemma lastSeq_foldl_le {Q : List SeqEvent} {m : ℕ} (hQ : ∀ e ∈ Q, e.seq ≤ m)
    (hm : page.lastSeq ≤ m) : (Q.foldl DeployPage.handle page).lastSeq ≤ m := by
  induction Q generalizing page with
  | nil => exact hm
  | cons e Q ih =>
      rw [List.forall_mem_cons] at hQ
      refine ih hQ.2 ?_
      by_cases hle : e.seq ≤ page.lastSeq
      · rw [DeployPage.handle_of_le hle]
        exact hm
      · rw [DeployPage.handle_of_lt (Nat.not_le.mp hle), DeployPage.lastSeq_apply]
        exact hQ.1

lemma Sound.receive (h : Sound codec deploymentId st) (n : ℕ)
    (hreads : ∀ e, Published deploymentId st.bus e → codec.Reads e) :
    Sound codec deploymentId (st.receive codec n) := by
  rw [DeployStream.receive]
  split
  · exact h
  · next c hc =>
    have hw := h.written c hc
    have hpage := h.page
    rw [hc] at hpage
    set c' : DeployConnection := { c with received := c.received + (c.chunk codec n).length }
      with hc'
    obtain ⟨Q, hfound, hreceive⟩ := DeployConnection.found_receive n hc' hw.rest
    have hpre : c.found codec ++ Q <+: c.events := by
      rw [← hfound]
      exact (DeployConnection.found_prefix (c := c') fun e he => hreads e (hw.drawn e he)).1
    have hQ : ∀ e ∈ Q, e.seq ≤ c.since := fun e he =>
      hw.le e (hpre.subset (List.mem_append_right _ he))
    have hfollow := DeployPage.Following.foldl hpage hpre hw.sorted
      (fun w hmem e he habout hle => hw.cover e he habout (hle.trans (hw.le w hmem))) hw.drawn
    have hlast : (Q.foldl DeployPage.handle st.page).lastSeq ≤ max st.page.lastSeq c.since :=
      lastSeq_foldl_le (fun e he => (hQ e he).trans (le_max_right _ _)) (le_max_left _ _)
    have hmax : st.bus.Past (max st.page.lastSeq c.since) := by
      obtain heq | heq := max_choice st.page.lastSeq c.since
      · rw [heq]
        exact h.past
      · rw [heq]
        exact hw.past
    rw [hreceive]
    refine ⟨h.serial, hmax.mono hlast, ?_, ?_⟩
    · show DeployPage.Following deploymentId _ st.bus.buffer (c'.found codec) _
      rw [hfound]
      exact following_congr hfollow rfl rfl rfl rfl
    · rintro d hd
      obtain rfl := Option.some.inj hd
      refine ⟨hw.sorted, hw.le, hw.drawn, hw.cover, hw.past, ?_, rfl⟩
      show c.received + (c.chunk codec n).length ≤ (c.text codec).length
      have hchunk : (c.chunk codec n).length ≤ (c.text codec).length - c.received := by
        rw [DeployConnection.chunk, List.length_take, List.length_drop]
        exact min_le_right _ _
      have hgot := hw.got
      omega

/-! ### Whole runs -/

/-- A step of a stream that goes on: calls of `Publish` do not overlap, the control plane does
not restart, and the page does not connect behind the end of the deployment. -/
def smooth : DeployStreamStep → DeployStream → Bool
  | .publish _, st => st.bus.idle
  | .connect, st => !st.row.terminal
  | .restart, _ => false
  | _, _ => true

/-- The page reads every event of the deployment that was published. -/
def Legible (codec : EventCodec) (deploymentId : Guid) (st : DeployStream) : Prop :=
  ∀ e, Published deploymentId st.bus e → codec.Reads e

lemma Sound.exec (h : Sound codec deploymentId st) {l : DeployStreamStep} (hl : smooth l st = true)
    (hlegible : Legible codec deploymentId st) :
    Sound codec deploymentId (DeployStream.exec codec deploymentId l st) := by
  cases l with
  | publish e => exact h.grow (Grows.publish h.serial hl e)
  | publisher p => exact h.grow (Grows.advance h.serial p)
  | save row => exact ⟨h.serial, h.past, h.page, h.written⟩
  | connect => exact h.connect (Bool.not_eq_true' _ ▸ hl)
  | poll => exact h.poll
  | keepAlive => exact h.keepAlive
  | receive n => exact h.receive n hlegible
  | drop => exact h.drop
  | restart => cases hl

/-- What was published stays so. -/
lemma published_exec {l : DeployStreamStep} (hs : st.bus.Serial) (hl : smooth l st = true)
    {e : SeqEvent} (he : Published deploymentId st.bus e) :
    Published deploymentId (DeployStream.exec codec deploymentId l st).bus e := by
  cases l with
  | publish event => exact (Grows.publish hs hl event).published e he
  | publisher p => exact (Grows.advance hs p).published e he
  | receive n =>
      rw [DeployStream.exec, DeployStream.receive]
      split <;> exact he
  | restart => cases hl
  | save row => exact he
  | connect => exact he
  | poll => exact he
  | keepAlive => exact he
  | drop => exact he

lemma serial_exec {l : DeployStreamStep} (hs : st.bus.Serial) (hl : smooth l st = true) :
    (DeployStream.exec codec deploymentId l st).bus.Serial := by
  cases l with
  | publish event => exact hs.publish hl event
  | publisher p => exact hs.advance p
  | receive n =>
      rw [DeployStream.exec, DeployStream.receive]
      split <;> exact hs
  | restart => cases hl
  | save row => exact hs
  | connect => exact hs
  | poll => exact hs
  | keepAlive => exact hs
  | drop => exact hs

lemma Sound.opened (row : DeployRow) :
    Sound codec deploymentId (DeployStream.opened Feed.started row) where
  serial := .started
  past := ⟨le_rfl, by simp [DeployStream.opened, Feed.started]⟩
  page := ⟨⟨rfl, rfl⟩, List.Pairwise.nil, by simp [DeployStream.opened, DeployPage.opened],
    by simp [DeployStream.opened, Feed.started], by simp [DeployStream.opened],
    by simp [DeployStream.opened, DeployPage.opened]⟩
  written := by simp [DeployStream.opened]

/-- The invariant holds in every state of a smooth run whose events the page reads. -/
lemma Sound.run {row : DeployRow} {steps : List DeployStreamStep}
    (hsmooth : (deployStream codec deploymentId).Along (fun l st => smooth l st = true)
      (.opened Feed.started row) steps)
    (hlegible : Legible codec deploymentId
      ((deployStream codec deploymentId).run (.opened Feed.started row) steps)) :
    Sound codec deploymentId
      ((deployStream codec deploymentId).run (.opened Feed.started row) steps) := by
  have hinv := Machine.run_inv
    (I := fun st => st.bus.Serial ∧ (Legible codec deploymentId st → Sound codec deploymentId st))
    ?_ ⟨.started, fun _ => .opened row⟩ steps hsmooth
  · exact hinv.2 hlegible
  · rintro l st - ⟨hserial, hsound⟩ hl
    refine ⟨serial_exec hserial hl, fun hlegible' => ?_⟩
    have hlegible : Legible codec deploymentId st := fun e he =>
      hlegible' e (published_exec hserial hl he)
    exact (hsound hlegible).exec hl hlegible

/-- **Every event is shown once, in order.**  Over any number of connections and however their
texts are divided into chunks: what the page has taken in are published events of the
deployment, in the order of their numbers; and a page that has got the whole text of a
connection that has read the ring shows every event of the deployment that the ring holds. -/
theorem events_shown_once (codec : EventCodec) (deploymentId : Guid) (row : DeployRow)
    (steps : List DeployStreamStep)
    (hsmooth : (deployStream codec deploymentId).Along (fun l st => smooth l st = true)
      (.opened Feed.started row) steps)
    (hlegible : Legible codec deploymentId
      ((deployStream codec deploymentId).run (.opened Feed.started row) steps)) :
    let st := (deployStream codec deploymentId).run (.opened Feed.started row) steps
    st.page.Shows ∧ (st.page.shown.Pairwise fun a b => a.seq < b.seq) ∧
      (∀ e ∈ st.page.shown, Published deploymentId st.bus e) ∧
      ∀ c ∈ st.connection, c.drained codec = true → (∀ e ∈ st.bus.buffer, e.seq ≤ c.since) →
        ∀ e ∈ st.bus.buffer, e.event.ofDeployment deploymentId = true → e ∈ st.page.shown := by
  intro st
  have h : Sound codec deploymentId st := .run hsmooth hlegible
  refine ⟨h.page.shows, h.page.sorted, h.page.drawn, fun c hc hdrained hread e he habout => ?_⟩
  have hw := h.written c hc
  have hpage := h.page
  rw [Option.mem_def.mp hc] at hpage
  have hfound : c.found codec = c.events :=
    (DeployConnection.found_prefix fun e he => hlegible e (hw.drawn e he)).2 hdrained
  have hmem : e ∈ c.found codec := by
    rw [hfound]
    exact hw.cover e he habout (hread e he)
  exact h.page.kept e he habout (hpage.done e hmem)

def reported : SeqEvent := ⟨1, .deployComplete 7 "completed" []⟩

/-- The JSON of the end of a deployment. -/
def reportedText : List Char :=
  "\x7b\"seq\":1,\"type\":\"deploy_complete\",\"status\":\"completed\",\"endpoint_ips\":[]\x7d".toList

def reportedCodec : EventCodec where
  serialize _ := reportedText
  parse t := if t = reportedText then some reported else none

lemma reads_reported : reportedCodec.Reads reported := by
  simp [EventCodec.Reads, reportedCodec]

/-- A page that connects while the deployment runs, and again when its end is in the ring. -/
def reconnecting : List DeployStreamStep :=
  [.connect, .poll, .publish reported.event, .publisher 0, .drop, .connect, .poll, .receive 40,
    .receive 40]

theorem events_shown_once_of_reconnecting :
    ((deployStream reportedCodec 7).run (.opened Feed.started ⟨"running", none, []⟩)
      reconnecting).page.shown.Pairwise fun a b => a.seq < b.seq := by
  refine (events_shown_once reportedCodec 7 ⟨"running", none, []⟩ reconnecting
    (by decide) ?_).2.1
  rintro e ⟨-, P, hP, rfl⟩
  obtain rfl : P = ⟨reported, .buffered⟩ := List.mem_singleton.mp hP
  exact reads_reported

end Delivery

end Networker
