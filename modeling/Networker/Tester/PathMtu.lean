/-
What a confirmed path MTU stands for.

* `searchLargestFit_spec`: the rule of the search: an assertion about the lower end and the
  state that every classified size keeps holds of the result;
* `waitUntil_rounds`: the rounds of a wait are enough for what is pending;
* `Carries`, `Causal`: the echoes that a path of some MTU lets back, each of a probe that was
  sent before;
* `OwnEchoes`: every answer taken is the echo of a probe of the size sent last;
* `Quiet`, `waitFeedback_spec`, `classify_spec`: what the calls do to the answers taken;
* `path_mtu_of_own_echoes`: then a path MTU that is reported as confirmed by echoes is the
  size of a probe whose echo came back, and the path has it;
* `stale_echo_credited`: a duplicated echo of the floor confirms a size that the path does
  not carry.
-/
import Networker.Tester.Pmtud

namespace Networker

open Concurrency

namespace Pmtud

/-! ### The rule of the search -/

section Search

variable {σ : Type} {header : ℕ} {classify : ℕ → σ → Except String (SizeClass × σ)}
  {I : Option ℕ → σ → Prop}

/-- What a classified size keeps, with the size as the new lower end if it is accepted. -/
def Keeps (classify : ℕ → σ → Except String (SizeClass × σ)) (I : Option ℕ → σ → Prop) : Prop :=
  ∀ lo size s c s', I lo s → classify size s = .ok (c, s') →
    I (if c.accepted then some size else lo) s'

lemma workingFloor_spec (keeps : Keeps classify I) {cs : List ℕ} :
    ∀ {hi e s lo hi' e' s'}, I none s →
      workingFloor header classify cs hi e s = .ok (lo, hi', e', s') → I lo s' := by
  induction cs with
  | nil =>
      intro hi e s lo hi' e' s' hs h
      cases h
      exact hs
  | cons c cs ih =>
      intro hi e s lo hi' e' s' hs h
      rw [workingFloor] at h
      rcases hc : classify c s with msg | ⟨cl, t⟩
      · rw [hc] at h
        cases h
      · have hkept := keeps none c s cl t hs hc
        rw [hc] at h
        cases cl with
        | tooBig mtu wire => exact ih hkept h
        | fit => cases h; exact hkept
        | silent => cases h; exact hkept

lemma bisect_spec (keeps : Keeps classify I) (n : ℕ) :
    ∀ {lo hi e s lo' e' s'}, I (some lo) s →
      bisect header classify n lo hi e s = .ok (lo', e', s') → I (some lo') s' := by
  induction n with
  | zero =>
      intro lo hi e s lo' e' s' hs h
      cases h
      exact hs
  | succ n ih =>
      intro lo hi e s lo' e' s' hs h
      rw [bisect] at h
      split_ifs at h with hlt
      · dsimp only at h
        rcases hc : classify (lo + (hi - lo + 1) / 2) s with msg | ⟨cl, t⟩
        · rw [hc] at h
          cases h
        · have hkept := keeps (some lo) _ s cl t hs hc
          rw [hc] at h
          cases cl with
          | tooBig mtu wire => exact ih hkept h
          | fit => exact ih hkept h
          | silent => exact ih hkept h
      · cases h
        exact hs

/-- **The rule of the search.**  What every classified size keeps holds of the largest size
the search has settled on. -/
theorem searchLargestFit_spec (keeps : Keeps classify I) {floor ceil : ℕ} {s s' : σ}
    {out : SearchOutcome} (hs : I none s)
    (h : searchLargestFit header classify floor ceil s = .ok (out, s')) :
    I out.largestFit s' := by
  rw [searchLargestFit] at h
  rcases hfloor : workingFloor header classify [floor, 32] ceil ⟨false, false, false, none⟩ s
    with msg | ⟨lo, hi, e, t⟩
  · rw [hfloor] at h
    cases h
  · have ht := workingFloor_spec keeps hs hfloor
    rw [hfloor] at h
    cases lo with
    | none => cases h; exact ht
    | some lo =>
        dsimp only at h
        rcases hb : bisect header classify (hi - lo) lo hi e t with msg | ⟨lo', e', u⟩
        · rw [hb] at h
          cases h
        · rw [hb] at h
          cases h
          exact bisect_spec keeps _ ht hb

end Search

/-! ### The rounds of a wait -/

/-- What is queued or still to arrive. -/
def Socket.pending (s : Socket) : ℕ := s.data.length + s.errors.length + s.rest.length

/-- Something has been queued. -/
def Socket.queued (s : Socket) : Prop := s.data ≠ [] ∨ s.errors ≠ []

/-- What arrives goes to one of the queues. -/
lemma length_echoes_errors (as : List (Arrival Feed)) :
    (as.filterMap fun a => a.item.echo?).length + (as.filterMap fun a => a.item.error?).length
      = as.length := by
  induction as with
  | nil => rfl
  | cons a as ih =>
      rw [List.filterMap_cons, List.filterMap_cons]
      cases a.item with
      | echo p => simp only [Feed.echo?, Feed.error?, List.length_cons] at ih ⊢; omega
      | error ee => simp only [Feed.echo?, Feed.error?, List.length_cons] at ih ⊢; omega

lemma Socket.pending_arrive (s : Socket) : s.arrive.pending = s.pending := by
  have hsplit := congrArg List.length
    (List.takeWhile_append_dropWhile (p := fun a => decide (a.time ≤ s.now)) (l := s.rest))
  have hcome := length_echoes_errors (s.rest.takeWhile fun a => decide (a.time ≤ s.now))
  rw [List.length_append] at hsplit
  simp only [pending, arrive, List.length_append]
  omega

/-- What is due is queued. -/
lemma Socket.queued_arrive {s : Socket} {a : Arrival Feed} {as : List (Arrival Feed)}
    (hrest : s.rest = a :: as) (hdue : a.time ≤ s.now) : s.arrive.queued := by
  have hmem : a ∈ s.rest.takeWhile fun a => decide (a.time ≤ s.now) := by
    rw [hrest, List.takeWhile_cons, if_pos (by simpa using hdue)]
    exact List.mem_cons_self
  cases ha : a.item with
  | echo p =>
      have hp : p ∈ s.arrive.data := List.mem_append_right _
        (List.mem_filterMap.mpr ⟨a, hmem, by rw [ha]; exact rfl⟩)
      exact .inl (List.ne_nil_of_mem hp)
  | error ee =>
      have hee : ee ∈ s.arrive.errors := List.mem_append_right _
        (List.mem_filterMap.mpr ⟨a, hmem, by rw [ha]; exact rfl⟩)
      exact .inr (List.ne_nil_of_mem hee)

/-- After a poll something is queued, or the deadline has come. -/
lemma Socket.poll_spec (deadline : ℤ) (s : Socket) :
    (s.poll deadline).pending = s.pending ∧
      ((s.poll deadline).queued ∨ deadline ≤ (s.poll deadline).now) := by
  rw [poll]
  split_ifs with hq
  · exact ⟨rfl, .inl hq⟩
  · split
    case h_1 a as hrest =>
      split_ifs with hlt
      · exact ⟨pending_arrive _, .inl (queued_arrive hrest (le_max_right _ _))⟩
      · exact ⟨rfl, .inr le_rfl⟩
    · exact ⟨rfl, .inr le_rfl⟩

/-- A read takes an entry off the error queue; where it finds none, the queue was empty and
what was in the receive queue still is. -/
lemma readErrqueue_pending (h : Host) (s : Socket) :
    match readErrqueue h s with
    | (some _, t) => t.pending + 1 = s.pending
    | (none, t) => t.pending = s.pending ∧ s.errors = [] ∧ (s.data ≠ [] → t.data ≠ []) ∧
        s.now ≤ t.now := by
  have htick : (s.tick h).pending = s.pending := Socket.pending_arrive _
  rw [readErrqueue]
  split
  case h_1 o t heq =>
    split at heq
    case h_1 => cases heq
    case h_2 ee rest herr =>
      cases heq
      have hlen : (s.tick h).errors.length = rest.length + 1 := by rw [herr, List.length_cons]
      simp only [Socket.pending] at htick ⊢
      omega
  case h_2 t heq =>
    split at heq
    case h_2 => cases heq
    case h_1 herr =>
      cases heq
      refine ⟨htick, (List.append_eq_nil_iff.mp herr).1, fun hdata hnil => ?_, ?_⟩
      · exact hdata (List.append_eq_nil_iff.mp hnil).1
      · show s.now ≤ s.now + h.took s.calls
        omega

/-- The rounds of a wait are enough: another one changes nothing. -/
theorem waitUntil_rounds (h : Host) (deadline : ℤ) (n : ℕ) :
    ∀ s : Socket, s.pending + 2 ≤ n →
      waitUntil h deadline (n + 1) s = waitUntil h deadline n s := by
  induction n with
  | zero => intro s hs; omega
  | succ n ih =>
      intro s hs
      conv_lhs => rw [waitUntil]
      conv_rhs => rw [waitUntil]
      split_ifs with hlate
      · rfl
      · obtain ⟨hpending, hqueued⟩ := Socket.poll_spec deadline s
        have hread := readErrqueue_pending h (s.poll deadline)
        dsimp only
        generalize readErrqueue h (s.poll deadline) = r at hread ⊢
        obtain ⟨e, t⟩ := r
        rcases e with _ | (⟨mtu, wire⟩ | _ | _)
        · obtain ⟨hpend, herr, hdata, hnow⟩ := hread
          dsimp only
          split
          case h_1 q qs p data hpolled ht =>
              split_ifs
              · rfl
              · refine ih _ ?_
                have hlen : t.data.length = data.length + 1 := by rw [ht, List.length_cons]
                simp only [Socket.pending] at hpend hpending hs ⊢
                omega
          case h_2 hnone =>
              -- nothing to receive: the poll has run into the deadline
              have hdue : deadline ≤ t.now := by
                rcases hqueued with (hd | he) | hdue
                · obtain ⟨q, qs, hqs⟩ := List.exists_cons_of_ne_nil hd
                  obtain ⟨p, ps, hps⟩ := List.exists_cons_of_ne_nil (hdata hd)
                  exact (hnone q qs p ps hqs hps).elim
                · exact absurd herr he
                · exact le_trans hdue hnow
              obtain ⟨m, rfl⟩ : ∃ m, n = m + 1 := ⟨n - 1, by omega⟩
              rw [waitUntil, if_pos hdue, waitUntil, if_pos hdue]
        · rfl
        · rfl
        · exact ih t (by dsimp only at hread; omega)
/-! ### The path and the answers -/

/-- The echoes that can arrive are of probes that a path with the MTU carries. -/
def Carries (pathMtu header : ℕ) (inbox : List (Arrival Feed)) : Prop :=
  ∀ a ∈ inbox, ∀ p ∈ a.item.echo?, p.size + header ≤ pathMtu

/-- Every echo is of a probe that was sent before. -/
def Causal (inbox : List (Arrival Feed)) (s : Socket) : Prop :=
  ∀ a ∈ inbox, ∀ p ∈ a.item.echo?, ∃ b ∈ s.sent, b.item = p ∧ b.time < a.time

/-- Every answer taken is the echo of a probe of the size that was sent last. -/
def OwnEchoes (s : Socket) : Prop := ∀ r ∈ s.heard, ∃ seq, r.2 = .echo ⟨seq, r.1⟩

/-- Every echo that is queued, still to arrive or taken for an answer is one of `P`. -/
structure Socket.Echoes (P : Probe → Prop) (s : Socket) : Prop where
  data : ∀ p ∈ s.data, P p
  rest : ∀ a ∈ s.rest, ∀ p ∈ a.item.echo?, P p
  heard : ∀ r ∈ s.heard, ∀ p, r.2 = .echo p → P p

/-- No probe is sent, no answer taken, and no echo made up. -/
structure Quiet (P : Probe → Prop) (s s' : Socket) : Prop where
  sent : s'.sent = s.sent
  heard : s'.heard = s.heard
  echoes : s.Echoes P → s'.Echoes P

variable {P : Probe → Prop} {h : Host} {s t u : Socket}

lemma Quiet.refl (s : Socket) : Quiet P s s := ⟨rfl, rfl, id⟩

lemma Quiet.trans (hst : Quiet P s t) (htu : Quiet P t u) : Quiet P s u :=
  ⟨htu.sent.trans hst.sent, htu.heard.trans hst.heard, htu.echoes ∘ hst.echoes⟩

lemma Quiet.probed (hst : Quiet P s t) : t.probed = s.probed := by
  rw [Socket.probed, Socket.probed, hst.sent]

/-- What arrives is queued. -/
lemma quiet_arrive (s : Socket) : Quiet P s s.arrive := by
  refine ⟨rfl, rfl, fun hs => ⟨?_, ?_, hs.heard⟩⟩
  · intro p hp
    rcases List.mem_append.mp hp with hp | hp
    · exact hs.data p hp
    · obtain ⟨a, ha, hpa⟩ := List.mem_filterMap.mp hp
      exact hs.rest a ((List.takeWhile_sublist _).mem ha) p hpa
  · intro a ha
    exact hs.rest a ((List.dropWhile_sublist _).mem ha)

/-- Calls and the clock do not touch the queues. -/
lemma quiet_clock (s : Socket) (now : ℤ) (calls : ℕ) :
    Quiet P s { s with now := now, calls := calls } :=
  ⟨rfl, rfl, fun hs => ⟨hs.data, hs.rest, hs.heard⟩⟩

lemma quiet_tick (h : Host) (s : Socket) : Quiet P s (s.tick h) :=
  (quiet_clock s _ _).trans (quiet_arrive _)

lemma quiet_readErrqueue (h : Host) (s : Socket) : Quiet P s (readErrqueue h s).2 := by
  have htick : Quiet P s (s.tick h) := quiet_tick h s
  rw [readErrqueue]
  split
  · exact htick
  · exact htick.trans ⟨rfl, rfl, fun hs => ⟨hs.data, hs.rest, hs.heard⟩⟩

lemma quiet_drainAll (h : Host) (n : ℕ) (s : Socket) : Quiet P s (drainAll h n s) := by
  induction n generalizing s with
  | zero => exact Quiet.refl s
  | succ n ih =>
      have hread : Quiet P s (readErrqueue h s).2 := quiet_readErrqueue h s
      rw [drainAll]
      split
      case h_1 t ht =>
          rw [ht] at hread
          exact hread
      case h_2 e t ht =>
          rw [ht] at hread
          exact hread.trans (ih t)

lemma quiet_poll (deadline : ℤ) (s : Socket) : Quiet P s (s.poll deadline) := by
  rw [Socket.poll]
  split_ifs
  · exact Quiet.refl s
  · split
    · split_ifs
      · exact (quiet_clock s _ s.calls).trans (quiet_arrive _)
      · exact quiet_clock s _ s.calls
    · exact quiet_clock s _ s.calls

/-- A send takes no answer; where it succeeds, its probe is the one sent last. -/
lemma sendDraining_spec (p : Probe) (n : ℕ) :
    ∀ {s t : Socket} {o : SendOutcome}, sendDraining h p n s = (o, t) →
      t.heard = s.heard ∧ (s.Echoes P → t.Echoes P) ∧ (o = .sent → t.probed = p.size) := by
  induction n with
  | zero =>
      intro s t o hsend
      cases hsend
      exact ⟨rfl, id, fun ho => by cases ho⟩
  | succ n ih =>
      intro s t o hsend
      have htick : Quiet P s (s.tick h) := quiet_tick h s
      rw [sendDraining] at hsend
      cases hret : h.sends s.calls p.size with
      | ok =>
          rw [hret] at hsend
          cases hsend
          refine ⟨htick.heard, fun hs => ?_, fun _ => rfl⟩
          have ht := htick.echoes hs
          exact ⟨ht.data, ht.rest, ht.heard⟩
      | emsgsize =>
          rw [hret] at hsend
          cases hsend
          exact ⟨htick.heard, htick.echoes, fun ho => by cases ho⟩
      | econnrefused =>
          rw [hret] at hsend
          have hdrain := htick.trans (quiet_drainAll h 64 (s.tick h))
          obtain ⟨hheard, hechoes, hprobed⟩ := ih hsend
          exact ⟨hheard.trans hdrain.heard, hechoes ∘ hdrain.echoes, hprobed⟩
      | failed e =>
          rw [hret] at hsend
          cases hsend
          exact ⟨htick.heard, htick.echoes, fun ho => by cases ho⟩

/-- The feedback says that an answer was taken. -/
def Feedback.isAnswer : Feedback → Bool
  | .echo => true
  | .portUnreach => true
  | _ => false

/-- What a wait does: it takes one answer, for the probe sent last, where it reports one. -/
structure Waited (P : Probe → Prop) (s : Socket) (f : Feedback) (t : Socket) : Prop where
  echoes : s.Echoes P → t.Echoes P
  heard : ∃ as, t.heard = as ++ s.heard ∧ (f.isAnswer = true → ∃ a, as = [(s.probed, a)])

lemma Waited.after {f : Feedback} (hq : Quiet P s t) (hw : Waited P t f u) : Waited P s f u := by
  obtain ⟨as, hheard, has⟩ := hw.heard
  rw [hq.heard] at hheard
  rw [hq.probed] at has
  exact ⟨hw.echoes ∘ hq.echoes, as, hheard, has⟩

/-- Without an answer nothing is taken. -/
lemma Quiet.waited {f : Feedback} (hf : f.isAnswer = false) (hq : Quiet P s t) :
    Waited P s f t := by
  refine ⟨hq.echoes, [], hq.heard, fun h => ?_⟩
  rw [hf] at h
  cases h

/-- An answer is taken for the probe sent last. -/
lemma waited_hear {f : Feedback} {a : Answer} (ha : ∀ p, a = .echo p → s.Echoes P → P p) :
    Waited P s f (s.hear a) := by
  refine ⟨fun hs => ⟨hs.data, hs.rest, ?_⟩, [(s.probed, a)], rfl, fun _ => ⟨a, rfl⟩⟩
  intro r hr p hp
  rcases List.mem_cons.mp hr with rfl | hr
  · exact ha p hp hs
  · exact hs.heard r hr p hp

lemma waitUntil_spec (deadline : ℤ) (n : ℕ) :
    ∀ s, Waited P s (waitUntil h deadline n s).1 (waitUntil h deadline n s).2 := by
  induction n with
  | zero => exact fun s => (Quiet.refl s).waited rfl
  | succ n ih =>
      intro s
      rw [waitUntil]
      split_ifs with hlate
      · exact (Quiet.refl s).waited rfl
      · have hread : Quiet P s (readErrqueue h (s.poll deadline)).2 :=
          (quiet_poll deadline s).trans (quiet_readErrqueue h _)
        dsimp only
        generalize readErrqueue h (s.poll deadline) = r at hread ⊢
        obtain ⟨e, t⟩ := r
        rcases e with _ | (⟨mtu, wire⟩ | _ | _)
        · dsimp only
          split
          case h_1 q qs p data hpolled hdata =>
              have htake : Quiet P s { t with data } := by
                refine hread.trans ⟨rfl, rfl, fun ht => ⟨fun x hx => ?_, ht.rest, ht.heard⟩⟩
                exact ht.data x (by rw [hdata]; exact List.mem_cons_of_mem p hx)
              split_ifs with hsize
              · refine .after hread ⟨fun ht => ?_, _, rfl, fun _ => ⟨_, rfl⟩⟩
                have hp : P p := ht.data p (by rw [hdata]; exact List.mem_cons_self)
                refine ⟨fun x hx => ?_, ht.rest, fun r hr x hx => ?_⟩
                · exact ht.data x (by rw [hdata]; exact List.mem_cons_of_mem p hx)
                · rcases List.mem_cons.mp hr with rfl | hr
                  · cases hx
                    exact hp
                  · exact ht.heard r hr x hx
              · exact .after htake (ih _)
          case h_2 => exact .after hread (ih t)
        · exact hread.waited rfl
        · exact .after hread (waited_hear fun p hp => by cases hp)
        · exact .after hread (ih t)

/-- A wait takes an answer exactly where it reports one, for the probe sent last. -/
lemma waitFeedback_spec (timeoutMs : ℕ) (s : Socket) :
    Waited P s (waitFeedback h timeoutMs s).1 (waitFeedback h timeoutMs s).2 :=
  waitUntil_spec _ _ s

/-! ### The classifier -/

/-- What classifying a size does: a size that fits has been answered, and only such a size
confirms; a silent size is one that was tried before any confirmation. -/
structure Classified (P : Probe → Prop) (size : ℕ) (confirmed : Bool) (s : Prober)
    (c : SizeClass) (s' : Prober) : Prop where
  echoes : s.socket.Echoes P → s'.socket.Echoes P
  heard : ∃ as, s'.socket.heard = as ++ s.socket.heard
  fit : c = .fit → ∃ a, (size, a) ∈ s'.socket.heard
  kept : c ≠ .fit → s'.confirmKind = s.confirmKind
  silent : c = .silent → confirmed = false

lemma classified_fit {size : ℕ} {confirmed : Bool} {s s' : Prober}
    (hechoes : s.socket.Echoes P → s'.socket.Echoes P)
    (hheard : ∃ as, s'.socket.heard = as ++ s.socket.heard)
    (hfit : ∃ a, (size, a) ∈ s'.socket.heard) : Classified P size confirmed s .fit s' := by
  refine ⟨hechoes, hheard, fun _ => hfit, fun hc => absurd rfl hc, fun hc => ?_⟩
  cases hc

lemma classified_unfit {size : ℕ} {confirmed : Bool} {s s' : Prober} {c : SizeClass}
    (hc : c ≠ .fit) (hechoes : s.socket.Echoes P → s'.socket.Echoes P)
    (hheard : ∃ as, s'.socket.heard = as ++ s.socket.heard)
    (hkind : s'.confirmKind = s.confirmKind) (hsilent : c = .silent → confirmed = false) :
    Classified P size confirmed s c s' :=
  ⟨hechoes, hheard, fun hfit => absurd hfit hc, fun _ => hkind, hsilent⟩

lemma tries_spec {size waitMs : ℕ} {confirmed : Bool} (n : ℕ) :
    ∀ {s s' : Prober} {c : SizeClass}, tries h size confirmed waitMs n s = .ok (c, s') →
      Classified P size confirmed s c s' := by
  induction n with
  | zero =>
      intro s s' c hc
      rw [tries] at hc
      cases confirmed with
      | true =>
          cases hc
          exact classified_unfit (by simp) id ⟨[], rfl⟩ rfl (by simp)
      | false =>
          cases hc
          exact classified_unfit (by simp) id ⟨[], rfl⟩ rfl fun _ => rfl
  | succ n ih =>
      intro s s' c hc
      rw [tries] at hc
      have hdrain : Quiet P s.socket (drainAll h 64 s.socket) := quiet_drainAll h 64 s.socket
      rcases hsend : sendDraining h ⟨(s.seq + 1) % 2 ^ 32, size⟩ 4 (drainAll h 64 s.socket)
        with ⟨o, t⟩
      obtain ⟨hheard, hechoes, hprobed⟩ := sendDraining_spec (P := P) _ 4 hsend
      rw [hdrain.heard] at hheard
      replace hechoes := hechoes ∘ hdrain.echoes
      dsimp only at hc
      rw [hsend] at hc
      cases o with
      | fatal msg => cases hc
      | emsgsize =>
          cases hc
          exact classified_unfit (by simp) hechoes ⟨[], hheard⟩ rfl (by simp)
      | sent =>
          have hwait : Waited P t _ _ := waitFeedback_spec (h := h) waitMs t
          dsimp only at hc
          generalize waitFeedback h waitMs t = w at hwait hc
          obtain ⟨f, u⟩ := w
          obtain ⟨as, has, hanswer⟩ := hwait.heard
          rw [hheard] at has
          -- the answer, where there is one, is for the size of this try
          have hfit : f.isAnswer = true → ∃ a, (size, a) ∈ u.heard := by
            intro hf
            obtain ⟨a, rfl⟩ := hanswer hf
            rw [hprobed rfl] at has
            exact ⟨a, by rw [has]; exact List.mem_cons_self⟩
          cases f with
          | echo =>
              cases hc
              exact classified_fit (hwait.echoes ∘ hechoes) ⟨as, has⟩ (hfit rfl)
          | portUnreach =>
              cases hc
              exact classified_fit (hwait.echoes ∘ hechoes) ⟨as, has⟩ (hfit rfl)
          | fragNeeded mtu wire =>
              cases hc
              exact classified_unfit (by simp) (hwait.echoes ∘ hechoes) ⟨as, has⟩ rfl (by simp)
          | nothing =>
              have hrest := ih hc
              obtain ⟨bs, hbs⟩ := hrest.heard
              refine ⟨hrest.echoes ∘ hwait.echoes ∘ hechoes, ⟨bs ++ as, ?_⟩, hrest.fit,
                hrest.kept, hrest.silent⟩
              rw [hbs, List.append_assoc, ← has]

lemma classify_spec {timeoutMs retries size : ℕ} {s s' : Prober} {c : SizeClass}
    (hc : classify h timeoutMs retries size s = .ok (c, s')) :
    Classified P size s.confirmKind.isSome s c s' := tries_spec _ hc

/-- Once delivery is confirmed, the lower end of the search has been answered. -/
def Answered (P : Probe → Prop) (lo : Option ℕ) (s : Prober) : Prop :=
  s.socket.Echoes P ∧
    ∀ size ∈ lo, s.confirmKind.isSome = true → ∃ a, (size, a) ∈ s.socket.heard

lemma keeps_answered {timeoutMs retries : ℕ} :
    Keeps (classify h timeoutMs retries) (Answered P) := by
  rintro lo size s c s' ⟨hechoes, hlo⟩ hc
  have spec := classify_spec (P := P) hc
  refine ⟨spec.echoes hechoes, fun x hx hconf => ?_⟩
  cases c with
  | fit =>
      cases hx
      exact spec.fit rfl
  | silent =>
      -- a silent size leaves delivery unconfirmed
      have hunconfirmed := spec.silent rfl
      rw [spec.kept (by simp), hunconfirmed] at hconf
      cases hconf
  | tooBig mtu wire =>
      rw [spec.kept (by simp)] at hconf
      obtain ⟨a, ha⟩ := hlo x hx hconf
      obtain ⟨as, has⟩ := spec.heard
      exact ⟨a, by rw [has]; exact List.mem_append_right as ha⟩

/-! ### The reported path MTU -/

/-- What the capability probe leaves to the search. -/
lemma answered_capabilityProbe {timeoutMs floor : ℕ} (hs : s.Echoes P) :
    Answered P none (capabilityProbe h timeoutMs floor s) := by
  refine ⟨?_, fun size hsize => by cases hsize⟩
  have hdrain : Quiet P s (drainAll h 64 s) := quiet_drainAll h 64 s
  have hsend := (sendDraining_spec (P := P) (h := h) ⟨0, floor⟩ 4 (s := drainAll h 64 s) rfl).2.1
  have hwait := (waitFeedback_spec (P := P) (h := h) timeoutMs
    (sendDraining h ⟨0, floor⟩ 4 (drainAll h 64 s)).2).echoes
  exact hwait (hsend (hdrain.echoes hs))

/-- A path MTU whose method is a confirmation comes from a size that has been answered. -/
lemma verdict_confirmed {header ceil m : ℕ} {out : SearchOutcome} {s : Prober} {k : ConfirmKind}
    (hmethod : (verdict header ceil out s).method = confirmedMethod k)
    (hm : (verdict header ceil out s).pathMtu = some m) :
    s.confirmKind.isSome = true ∧ ∃ size, out.largestFit = some size ∧ size + header = m := by
  have hconf : s.confirmKind.isSome = true := by
    cases hkind : s.confirmKind with
    | some k' => rfl
    | none =>
        rw [verdict, hkind] at hmethod
        dsimp only at hmethod
        exfalso
        cases k <;> cases hwire : out.evidence.wireIcmpSeen <;> rw [hwire] at hmethod <;>
          revert hmethod <;> decide
  refine ⟨hconf, ?_⟩
  rw [verdict] at hm
  dsimp only at hm
  rw [if_pos (Or.inl hconf)] at hm
  obtain ⟨size, hsize, rfl⟩ := Option.map_eq_some_iff.mp hm
  exact ⟨size, hsize, rfl⟩

/-- A result is the verdict on a search from the capability probe on. -/
lemma runPmtudProbe_ok {cfg : PmtudProbeConfig} {ipv6 : Bool} {t : ℤ}
    {inbox : List (Arrival Feed)} {r : PmtudResult} {s : Prober}
    (hrun : runPmtudProbe cfg h ipv6 t inbox = .ok (r, s)) :
    ∃ timeoutMs floor ceil out,
      searchLargestFit (headerBytes ipv6) (classify h timeoutMs cfg.retriesPerSize) floor ceil
        (capabilityProbe h timeoutMs floor (.fresh t inbox)) = .ok (out, s) ∧
      r.pathMtu = (verdict (headerBytes ipv6) ceil out s).pathMtu ∧
      r.method = (verdict (headerBytes ipv6) ceil out s).method := by
  rw [runPmtudProbe, discoverBlocking] at hrun
  split at hrun
  · cases hrun
  case h_2 d u hdisc =>
    cases hrun
    split at hdisc
    · cases hdisc
    case h_2 out u hsearch =>
      cases hdisc
      exact ⟨_, _, _, out, hsearch, rfl, rfl⟩

/-- **A confirmed path MTU, without strangers.**  In every run in which each answer taken is
the echo of a probe of the size sent last, a path MTU reported as confirmed by echoes is the
size of a probe whose echo came back, and the path has it. -/
theorem path_mtu_of_own_echoes {cfg : PmtudProbeConfig} {h : Host} {ipv6 : Bool} {t : ℤ}
    {inbox : List (Arrival Feed)} {r : PmtudResult} {s : Prober} {pathMtu m : ℕ}
    (hrun : runPmtudProbe cfg h ipv6 t inbox = .ok (r, s))
    (hpath : Carries pathMtu (headerBytes ipv6) inbox) (hown : OwnEchoes s.socket)
    (hmethod : r.method = confirmedMethod .udpEcho) (hm : r.pathMtu = some m) :
    m ≤ pathMtu ∧
      ∃ p : Probe, (p.size, .echo p) ∈ s.socket.heard ∧ p.size + headerBytes ipv6 = m := by
  obtain ⟨timeoutMs, floor, ceil, out, hsearch, hpathMtu, hverdict⟩ := runPmtudProbe_ok hrun
  rw [hpathMtu] at hm
  rw [hverdict] at hmethod
  obtain ⟨hconf, size, hsize, rfl⟩ := verdict_confirmed hmethod hm
  -- the echoes that are ever taken are those of the inbox
  have hfresh : (Socket.fresh t inbox).Echoes fun p => p.size + headerBytes ipv6 ≤ pathMtu :=
    ⟨fun p hp => absurd hp List.not_mem_nil, hpath, fun r hr => absurd hr List.not_mem_nil⟩
  obtain ⟨hechoes, hanswered⟩ :=
    searchLargestFit_spec keeps_answered (answered_capabilityProbe hfresh) hsearch
  obtain ⟨a, ha⟩ := hanswered size hsize hconf
  obtain ⟨seq, hseq⟩ := hown _ ha
  dsimp only at hseq
  rw [hseq] at ha
  exact ⟨hechoes.heard _ ha _ rfl, ⟨seq, size⟩, ha, rfl⟩

/-- The run reports a result and ends in a state. -/
def Reports (run : Except String (PmtudResult × Prober)) (Q : PmtudResult → Prober → Prop) :
    Prop :=
  match run with
  | .ok (r, s) => Q r s
  | .error _ => False

instance {run : Except String (PmtudResult × Prober)} {Q : PmtudResult → Prober → Prop}
    [∀ r s, Decidable (Q r s)] : Decidable (Reports run Q) :=
  match run with
  | .ok (r, s) => inferInstanceAs (Decidable (Q r s))
  | .error _ => inferInstanceAs (Decidable False)

lemma Reports.exists {run : Except String (PmtudResult × Prober)}
    {Q : PmtudResult → Prober → Prop} (h : Reports run Q) : ∃ r s, run = .ok (r, s) ∧ Q r s := by
  rcases run with msg | ⟨r, s⟩
  · exact h.elim
  · exact ⟨r, s, rfl, h⟩

/-- A host whose calls take no time and whose sends succeed. -/
def promptHost : Host := ⟨fun _ => 0, fun _ _ => .ok, fun _ => none⟩

/-- The echoes of the first three probes, each in time. -/
def promptEchoes : List (Arrival Feed) :=
  [⟨millis 15, .echo ⟨0, 548⟩⟩, ⟨millis 30, .echo ⟨1, 548⟩⟩, ⟨millis 45, .echo ⟨2, 550⟩⟩]

/-- A path of 578 bytes, searched up to 579. -/
theorem path_mtu_of_own_echoes_prompt :
    ∃ r s, runPmtudProbe ⟨1000, 2, 579⟩ promptHost false 0 promptEchoes = .ok (r, s) ∧
      r.pathMtu = some 578 ∧
      (578 ≤ 578 ∧ ∃ p : Probe, (p.size, .echo p) ∈ s.socket.heard ∧ p.size + 28 = 578) := by
  have hrun : Reports (runPmtudProbe ⟨1000, 2, 579⟩ promptHost false 0 promptEchoes) fun r s =>
      s.socket.heard = [(550, .echo ⟨2, 550⟩), (548, .echo ⟨1, 548⟩), (548, .echo ⟨0, 548⟩)] ∧
        r.method = confirmedMethod .udpEcho ∧ r.pathMtu = some 578 := by
    decide +kernel
  obtain ⟨r, s, hrun, hheard, hmethod, hm⟩ := hrun.exists
  have hown : OwnEchoes s.socket := by
    rw [OwnEchoes, hheard]
    simp
  have hpath : Carries 578 (headerBytes false) promptEchoes := by
    simp [Carries, promptEchoes, Feed.echo?, headerBytes]
  exact ⟨r, s, hrun, hm, path_mtu_of_own_echoes hrun hpath hown hmethod hm⟩

/-! ### An echo of another size -/

/-- The echoes of the first two probes, the first of them twice. -/
def duplicatedEcho : List (Arrival Feed) :=
  [⟨millis 15, .echo ⟨0, 548⟩⟩, ⟨millis 16, .echo ⟨0, 548⟩⟩, ⟨millis 30, .echo ⟨1, 548⟩⟩]

/-- **A stale echo confirms a larger size.**  On a path of 576 bytes the echo of the
capability probe comes back twice.  The second copy answers the probe of the floor, whose own
echo then answers a probe of 4868 bytes: with the defaults the probe reports a path MTU of
4896, confirmed by echoes, and no echo of that size came back. -/
theorem stale_echo_credited :
    ∃ r s, runPmtudProbe {} promptHost false 0 duplicatedEcho = .ok (r, s) ∧
      Causal duplicatedEcho s.socket ∧ Carries 576 (headerBytes false) duplicatedEcho ∧
      r.method = confirmedMethod .udpEcho ∧ r.pathMtu = some 4896 ∧
      ¬ ∃ p : Probe, (p.size, .echo p) ∈ s.socket.heard ∧ p.size + headerBytes false = 4896 := by
  have hrun : Reports (runPmtudProbe {} promptHost false 0 duplicatedEcho) fun r s =>
      s.socket.heard = [(4868, .echo ⟨1, 548⟩), (548, .echo ⟨0, 548⟩), (548, .echo ⟨0, 548⟩)] ∧
        (⟨0, ⟨0, 548⟩⟩ ∈ s.socket.sent ∧ ⟨millis 15, ⟨1, 548⟩⟩ ∈ s.socket.sent) ∧
        r.method = confirmedMethod .udpEcho ∧ r.pathMtu = some 4896 := by
    decide +kernel
  obtain ⟨r, s, hrun, hheard, ⟨hfirst, hsecond⟩, hmethod, hm⟩ := hrun.exists
  refine ⟨r, s, hrun, ?_, ?_, hmethod, hm, ?_⟩
  · intro a ha p hp
    simp only [duplicatedEcho, List.mem_cons, List.not_mem_nil, or_false] at ha
    rcases ha with rfl | rfl | rfl
    · cases hp
      exact ⟨_, hfirst, rfl, by decide⟩
    · cases hp
      exact ⟨_, hfirst, rfl, by decide⟩
    · cases hp
      exact ⟨_, hsecond, rfl, by decide⟩
  · simp [Carries, duplicatedEcho, Feed.echo?, headerBytes]
  · rintro ⟨p, hp, hsize⟩
    rw [hheard] at hp
    have hsize' : p.size = 4868 := by
      simp only [headerBytes] at hsize
      simpa using hsize
    rw [hsize'] at hp
    simp only [List.mem_cons, Prod.mk.injEq, List.not_mem_nil, or_false] at hp
    rcases hp with ⟨-, hp⟩ | ⟨hp, -⟩ | ⟨hp, -⟩
    · cases hp
      cases hsize'
    · cases hp
    · cases hp

end Pmtud

end Networker
