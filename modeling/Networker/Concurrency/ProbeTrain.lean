/-
Trains of numbered probes.

* `Heard`: what an arrival is to a train: an error, noise, or an answer that names a probe;
* `ProbeTable`: when each probe was sent, and what it has been credited with;
* `Train`: how the answers are credited, and how long the train listens behind each probe;
  `Train.run`, `Train.tail`: the train, and the wait for what is left behind its last probe;
* `Train.Tracks`: every probe is credited with the first of its answers received so far;
* `tracks_run`, `tracks_tail`: that holds at the end of a train whose probes are sent before
  they are answered;
* `Train.Waited`, `waited_run`: a probe that is not credited was waited for to the end.
-/
import Networker.Concurrency.Inbox

namespace Concurrency

/-- What an arrival is to a train. -/
inductive Heard
  | error
  | noise
  | names (seq : ℕ)
  deriving DecidableEq

/-- The table of outstanding probes. -/
structure ProbeTable (γ : Type) where
  sent : ℕ → Option ℤ
  credited : ℕ → Option γ

namespace ProbeTable

variable {γ : Type}

/-- No probe has been sent. -/
def empty : ProbeTable γ := ⟨fun _ => none, fun _ => none⟩

/-- A probe has been sent. -/
def send (t : ProbeTable γ) (seq : ℕ) (now : ℤ) : ProbeTable γ :=
  { t with sent := Function.update t.sent seq (some now) }

/-- An outstanding probe is credited. -/
def credit (t : ProbeTable γ) (seq : ℕ) (c : γ) : ProbeTable γ :=
  { t with credited := Function.update t.credited seq (some c) }

/-- The probe has been credited. -/
def has (t : ProbeTable γ) (seq : ℕ) : Bool := (t.credited seq).isSome

/-- The first `n` probes have been credited. -/
def full (n : ℕ) (t : ProbeTable γ) : Bool := (List.range n).all t.has

/-- When the last of the first `n` probes was sent. -/
def lastSent (n : ℕ) (t : ProbeTable γ) : Option ℤ := ((List.range n).filterMap t.sent).max?

@[simp] lemma send_sent_self (t : ProbeTable γ) (seq : ℕ) (now : ℤ) :
    (t.send seq now).sent seq = some now := Function.update_self _ _ _

lemma send_sent_of_ne {t : ProbeTable γ} {i seq : ℕ} {now : ℤ} (h : i ≠ seq) :
    (t.send seq now).sent i = t.sent i := Function.update_of_ne h _ _

@[simp] lemma credit_self (t : ProbeTable γ) (seq : ℕ) (c : γ) :
    (t.credit seq c).credited seq = some c := Function.update_self _ _ _

lemma credit_of_ne {t : ProbeTable γ} {i seq : ℕ} {c : γ} (h : i ≠ seq) :
    (t.credit seq c).credited i = t.credited i := Function.update_of_ne h _ _

lemma full_eq_true {n : ℕ} {t : ProbeTable γ} :
    t.full n = true ↔ ∀ i < n, t.has i = true := by
  rw [full, List.all_eq_true]
  simp only [List.mem_range]

end ProbeTable

/-- A train of probes: `sends` says which of them go out, `hear` and `credit` how an
arrival is taken, and behind each probe the train listens for `span` or until `done`;
`idle` says whether it also listens behind a probe that did not go out. -/
structure Train (δ γ : Type) where
  sends : ℕ → Bool
  hear : δ → Heard
  credit : ℕ → ℤ → ℤ → δ → γ
  span : ℤ
  done : ℕ → ProbeTable γ → Bool
  idle : Bool

namespace Train

variable {δ γ : Type}

/-- How far a train is: the table, the time, and what has not been received. -/
abbrev State (δ γ : Type) : Type := ReceiveLoop.Ended δ (ProbeTable γ)

variable (T : Train δ γ)

/-- An answer is credited to the probe it names, if that is outstanding. -/
def receive (now : ℤ) (d : δ) (t : ProbeTable γ) : ProbeTable γ :=
  match T.hear d with
  | .names seq =>
      match t.sent seq, t.credited seq with
      | some sentAt, none => t.credit seq (T.credit seq sentAt now d)
      | _, _ => t
  | _ => t

/-- The loop of a window: it ends early when `stop` is reached, and at an error. -/
def window (stop : ProbeTable γ → Bool) (deadline : ℤ) :
    ReceiveLoop (ProbeTable γ) δ (ProbeTable γ) where
  deadline _ := deadline
  handle now d t :=
    match T.hear d with
    | .error => .inr t
    | _ => if stop (T.receive now d t) then .inr (T.receive now d t)
        else .inl (T.receive now d t)
  expire t := t

/-- Listen up to a deadline, unless there is nothing to wait for. -/
def listen (stop : ProbeTable γ → Bool) (deadline : ℤ) (s : State δ γ) : State δ γ :=
  if stop s.result then s else (T.window stop deadline).run s.time s.result s.rest

/-- Send a probe and listen. -/
def probe (s : State δ γ) (seq : ℕ) : State δ γ :=
  if T.sends seq then
    T.listen (T.done seq) (s.time + T.span) { s with result := s.result.send seq s.time }
  else if T.idle then T.listen (T.done seq) (s.time + T.span) s
  else s

/-- Send the probes one after the other. -/
def run (seqs : List ℕ) (s : State δ γ) : State δ γ := seqs.foldl T.probe s

/-- Listen until the last of the first `n` probes has been out for `tmax`, or until all of
them are credited. -/
def tail (n : ℕ) (tmax : ℤ) (s : State δ γ) : State δ γ :=
  match s.result.lastSent n with
  | some last => T.listen (ProbeTable.full n) (last + tmax) s
  | none => s

/-- The train at its start. -/
def begin (now : ℤ) (inbox : List (Arrival δ)) : State δ γ := ⟨.empty, now, inbox⟩

/-! ### What is credited -/

/-- The arrival names the probe. -/
def names (seq : ℕ) (a : Arrival δ) : Bool := T.hear a.item == .names seq

/-- The credit of a probe for the first of its answers. -/
def first (seq : ℕ) (sentAt : ℤ) (heard : List (Arrival δ)) : Option γ :=
  (heard.find? (T.names seq)).map fun a => T.credit seq sentAt a.time a.item

/-- Every probe that is out is credited with the first of its answers. -/
def Credits (heard : List (Arrival δ)) (t : ProbeTable γ) : Prop :=
  ∀ seq, t.credited seq = (t.sent seq).bind fun sentAt => T.first seq sentAt heard

/-- What has been received lies before the time reached, the rest behind it, and every
probe that is out is credited with the first of its answers. -/
structure Tracks (inbox : List (Arrival δ)) (heard : List (Arrival δ)) (s : State δ γ) : Prop where
  split : inbox = heard ++ s.rest
  before : ∀ a ∈ heard, a.time ≤ s.time
  behind : Schedule s.time s.rest
  credits : T.Credits heard s.result

variable {T} {inbox heard : List (Arrival δ)} {s : State δ γ} {t : ProbeTable γ} {a : Arrival δ}

@[simp] lemma receive_sent (now : ℤ) (d : δ) (t : ProbeTable γ) :
    (T.receive now d t).sent = t.sent := by
  rw [receive]
  split
  · split
    · rfl
    · rfl
  · rfl

lemma first_concat (seq : ℕ) (sentAt : ℤ) (heard : List (Arrival δ)) (a : Arrival δ) :
    T.first seq sentAt (heard ++ [a]) =
      (T.first seq sentAt heard).or
        (if T.names seq a then some (T.credit seq sentAt a.time a.item) else none) := by
  rw [first, first, List.find?_append]
  cases heard.find? (T.names seq) with
  | some b => rfl
  | none =>
      by_cases hnames : T.names seq a = true
      · simp [hnames]
      · simp [hnames]

/-- One more arrival. -/
lemma Credits.receive (h : T.Credits heard t) (a : Arrival δ) :
    T.Credits (heard ++ [a]) (T.receive a.time a.item t) := by
  intro seq
  have hseq := h seq
  rw [receive_sent]
  cases hsent : t.sent seq with
  | none =>
      -- a probe that is not out stays without credit
      rw [hsent] at hseq
      rw [Train.receive]
      split
      case h_1 seq' hnames =>
          split
          case h_1 sentAt hs hc =>
              have hne : seq ≠ seq' := by
                rintro rfl
                rw [hsent] at hs
                cases hs
              rw [ProbeTable.credit_of_ne hne, hseq]
              rfl
          case h_2 => exact hseq
      case h_2 => exact hseq
  | some sentAt =>
      rw [hsent, Option.bind_some] at hseq
      rw [Option.bind_some, first_concat]
      rw [Train.receive]
      cases hhear : T.hear a.item with
      | names seq' =>
          by_cases heq : seq' = seq
          · subst heq
            have hnames : T.names seq' a = true := by
              rw [Train.names, hhear]
              exact beq_self_eq_true _
            rw [if_pos hnames, ← hseq]
            dsimp only
            rw [hsent]
            cases hc : t.credited seq' with
            | none => exact ProbeTable.credit_self _ _ _
            | some c => rw [Option.some_or]; exact hc
          · have hnames : ¬ T.names seq a = true := by
              rw [Train.names, hhear, beq_iff_eq]
              exact fun h => heq (by cases h; rfl)
            rw [if_neg hnames, Option.or_none, ← hseq]
            dsimp only
            split
            · exact ProbeTable.credit_of_ne fun h => heq h.symm
            · rfl
      | error =>
          have hnames : ¬ T.names seq a = true := by rw [Train.names, hhear]; simp
          rw [if_neg hnames, Option.or_none, ← hseq]
      | noise =>
          have hnames : ¬ T.names seq a = true := by rw [Train.names, hhear]; simp
          rw [if_neg hnames, Option.or_none, ← hseq]

/-- An error that names no probe changes no credit. -/
lemma Credits.skip (h : T.Credits heard t) (a : Arrival δ) (ha : T.hear a.item = .error) :
    T.Credits (heard ++ [a]) t := by
  have hreceive := h.receive a
  rwa [Train.receive, ha] at hreceive

/-! ### Windows -/

/-- A window sends nothing. -/
lemma window_sent (stop : ProbeTable γ → Bool) (deadline now : ℤ) (t : ProbeTable γ)
    (as : List (Arrival δ)) :
    ((T.window stop deadline).run now t as).result.sent = t.sent := by
  have hspec := ReceiveLoop.run_spec (L := T.window stop deadline)
    (I := fun _ u => u.sent = t.sent) (Q := fun _ e => e.result.sent = t.sent)
    ?_ ?_ ?_ as [] now t rfl
  · obtain ⟨-, -, hsent⟩ := hspec
    exact hsent
  · intro hs a u u' hu _ hstep
    dsimp only [window] at hstep
    split at hstep
    · cases hstep
    · split_ifs at hstep
      cases hstep
      rw [receive_sent, hu]
  · intro hs a u r rest hu _ hstep
    dsimp only [window] at hstep
    split at hstep
    · cases hstep
      exact hu
    · split_ifs at hstep
      cases hstep
      exact (receive_sent _ _ _).trans hu
  · exact fun _ _ _ _ hu _ => hu

/-- The credits of a window are those of the arrivals it has received; it ends with `stop`,
at an error, or at its deadline. -/
lemma window_credits (stop : ProbeTable γ → Bool) (deadline now : ℤ) (h : T.Credits heard t)
    (as : List (Arrival δ)) :
    ∃ hs, as = hs ++ ((T.window stop deadline).run now t as).rest ∧
      T.Credits (heard ++ hs) ((T.window stop deadline).run now t as).result ∧
      (stop ((T.window stop deadline).run now t as).result = true ∨
        (∃ a ∈ hs, T.hear a.item = .error) ∨
        deadline ≤ ((T.window stop deadline).run now t as).time) := by
  refine ReceiveLoop.run_spec (L := T.window stop deadline)
    (I := fun hs u => T.Credits (heard ++ hs) u)
    (Q := fun hs e => T.Credits (heard ++ hs) e.result ∧
      (stop e.result = true ∨ (∃ a ∈ hs, T.hear a.item = .error) ∨ deadline ≤ e.time))
    ?_ ?_ ?_ as [] now t (by rwa [List.append_nil])
  · intro hs a u u' hcredits _ hstep
    dsimp only [window] at hstep
    rw [← List.append_assoc]
    split at hstep
    · cases hstep
    · split_ifs at hstep
      cases hstep
      exact hcredits.receive a
  · intro hs a u r rest hcredits _ hstep
    dsimp only [window] at hstep
    rw [← List.append_assoc]
    split at hstep
    case h_1 herror =>
        cases hstep
        exact ⟨hcredits.skip a herror, .inr (.inl ⟨a, by simp, herror⟩)⟩
    case h_2 =>
        split_ifs at hstep with hstop
        cases hstep
        exact ⟨hcredits.receive a, .inl hstop⟩
  · exact fun hs u now' rest hcredits _ => ⟨hcredits, .inr (.inr (le_max_right _ _))⟩

lemma listen_sent (stop : ProbeTable γ → Bool) (deadline : ℤ) (s : State δ γ) :
    (T.listen stop deadline s).result.sent = s.result.sent := by
  rw [listen]
  split_ifs
  · rfl
  · exact window_sent stop deadline s.time s.result s.rest

/-- What listening does: time passes, and what it has received is credited; it ends with
`stop`, at an error, or at the deadline. -/
structure Listened (T : Train δ γ) (stop : ProbeTable γ → Bool) (deadline : ℤ)
    (inbox heard : List (Arrival δ)) (s s' : State δ γ) : Prop where
  tracks : T.Tracks inbox heard s'
  later : s.time ≤ s'.time
  ended : stop s'.result = true ∨ (∃ a ∈ inbox, T.hear a.item = .error) ∨ deadline ≤ s'.time

lemma listen_spec (stop : ProbeTable γ → Bool) (deadline : ℤ) (h : T.Tracks inbox heard s) :
    ∃ hs, Listened T stop deadline inbox (heard ++ hs) s (T.listen stop deadline s) := by
  rw [listen]
  split_ifs with hstop
  · refine ⟨[], ⟨?_, le_refl _, .inl hstop⟩⟩
    rwa [List.append_nil]
  · obtain ⟨hs, heq, hcredits, hended⟩ :=
      window_credits stop deadline s.time h.credits s.rest
    obtain ⟨hle, hrest⟩ := (T.window stop deadline).rest_le s.rest s.time s.result h.behind
    have hsplit : inbox =
        heard ++ hs ++ ((T.window stop deadline).run s.time s.result s.rest).rest := by
      rw [List.append_assoc, ← heq]
      exact h.split
    refine ⟨hs, ⟨⟨hsplit, fun a ha => ?_, hrest, hcredits⟩, hle, ?_⟩⟩
    · rcases List.mem_append.mp ha with ha | ha
      · exact le_trans (h.before a ha) hle
      · exact (T.window stop deadline).handled_le s.rest s.time s.result h.behind heq a ha
    · refine hended.imp_right (Or.imp_left ?_)
      rintro ⟨a, ha, herror⟩
      refine ⟨a, ?_, herror⟩
      rw [hsplit]
      exact List.mem_append_left _ (List.mem_append_right _ ha)

/-- A credit stays. -/
lemma has_mono {hs : List (Arrival δ)} {s' : State δ γ} {seq : ℕ}
    (h : T.Tracks inbox heard s) (h' : T.Tracks inbox (heard ++ hs) s')
    (hsent : s'.result.sent seq = s.result.sent seq) (hhas : s.result.has seq = true) :
    s'.result.has seq = true := by
  rw [ProbeTable.has, h.credits seq] at hhas
  rw [ProbeTable.has, h'.credits seq, hsent]
  cases hseq : s.result.sent seq with
  | none => rw [hseq] at hhas; exact hhas
  | some sentAt =>
      rw [hseq] at hhas
      rw [Option.bind_some, first, Option.isSome_map] at hhas ⊢
      rw [List.find?_append, Option.isSome_or, hhas, Bool.true_or]

/-! ### A probe, the train, and the wait behind it -/

/-- A probe goes out before its answers arrive. -/
lemma tracks_send {seq : ℕ} (h : T.Tracks inbox heard s) (hnew : s.result.sent seq = none)
    (hcausal : ∀ a ∈ inbox, T.names seq a = true → s.time < a.time) :
    T.Tracks inbox heard { s with result := s.result.send seq s.time } := by
  refine ⟨h.split, h.before, h.behind, fun i => ?_⟩
  have hcredits := h.credits i
  by_cases hi : i = seq
  · subst hi
    -- its answers are still to come
    have hnone : heard.find? (T.names i) = none := by
      rw [List.find?_eq_none]
      intro a ha hnames
      have hlt := hcausal a (by rw [h.split]; exact List.mem_append_left _ ha) hnames
      exact absurd (h.before a ha) (not_le.mpr hlt)
    rw [hnew] at hcredits
    rw [ProbeTable.send_sent_self, Option.bind_some, first, hnone]
    exact hcredits
  · rw [ProbeTable.send_sent_of_ne hi]
    exact hcredits

/-- What sending a probe and listening does. -/
structure Probed (T : Train δ γ) (seq : ℕ) (inbox heard : List (Arrival δ))
    (s s' : State δ γ) : Prop where
  tracks : T.Tracks inbox heard s'
  later : s.time ≤ s'.time
  others : ∀ i, i ≠ seq → s'.result.sent i = s.result.sent i
  own : s'.result.sent seq = if T.sends seq = true then some s.time else none
  ended : T.sends seq = true → T.done seq s'.result = true ∨
    (∃ a ∈ inbox, T.hear a.item = .error) ∨ s.time + T.span ≤ s'.time

lemma probe_sent (s : State δ γ) (seq : ℕ) :
    (T.probe s seq).result.sent =
      if T.sends seq = true then (s.result.send seq s.time).sent else s.result.sent := by
  rw [probe]
  split_ifs
  · exact listen_sent _ _ _
  · exact listen_sent _ _ _
  · rfl

lemma probe_sent_of_ne (s : State δ γ) {i seq : ℕ} (h : i ≠ seq) :
    (T.probe s seq).result.sent i = s.result.sent i := by
  rw [probe_sent]
  split_ifs
  · exact ProbeTable.send_sent_of_ne h
  · rfl

lemma probe_spec {seq : ℕ} (h : T.Tracks inbox heard s) (hnew : s.result.sent seq = none)
    (hcausal : T.sends seq = true → ∀ a ∈ inbox, T.names seq a = true → s.time < a.time) :
    ∃ hs, Probed T seq inbox (heard ++ hs) s (T.probe s seq) := by
  have hown : (T.probe s seq).result.sent seq =
      if T.sends seq = true then some s.time else none := by
    rw [probe_sent]
    split_ifs
    · exact ProbeTable.send_sent_self _ _ _
    · exact hnew
  have hothers : ∀ i, i ≠ seq → (T.probe s seq).result.sent i = s.result.sent i :=
    fun i hi => probe_sent_of_ne s hi
  revert hown hothers
  rw [probe]
  split_ifs with hsends hidle
  · intro hown hothers
    obtain ⟨hs, hl⟩ := listen_spec (T.done seq) (s.time + T.span)
      (tracks_send h hnew (hcausal hsends))
    exact ⟨hs, hl.tracks, hl.later, hothers, hown.trans (if_pos hsends).symm, fun _ => hl.ended⟩
  · intro hown hothers
    obtain ⟨hs, hl⟩ := listen_spec (T.done seq) (s.time + T.span) h
    exact ⟨hs, hl.tracks, hl.later, hothers, hown.trans (if_neg hsends).symm,
      fun hsends' => absurd hsends' hsends⟩
  · intro hown hothers
    refine ⟨[], ?_, le_refl _, hothers, hown.trans (if_neg hsends).symm,
      fun hsends' => absurd hsends' hsends⟩
    rwa [List.append_nil]

lemma run_sent_of_notMem {seqs : List ℕ} {i : ℕ} (hi : i ∉ seqs) (s : State δ γ) :
    (T.run seqs s).result.sent i = s.result.sent i := by
  induction seqs generalizing s with
  | nil => rfl
  | cons seq seqs ih =>
      rw [List.mem_cons, not_or] at hi
      exact (ih hi.2 _).trans (probe_sent_of_ne s hi.1)

/-- Every probe that is out has been credited or waited for. -/
def Waited (span : ℤ) (s : State δ γ) : Prop :=
  ∀ seq sentAt, s.result.sent seq = some sentAt →
    s.result.has seq = true ∨ sentAt + span ≤ s.time

/-- What a train does that sends its probes before they are answered. -/
structure Ran (T : Train δ γ) (seqs : List ℕ) (inbox heard : List (Arrival δ))
    (s s' : State δ γ) : Prop where
  tracks : T.Tracks inbox heard s'
  later : s.time ≤ s'.time
  waited : (∀ a ∈ inbox, T.hear a.item ≠ .error) →
    (∀ seq ∈ seqs, ∀ t, T.done seq t = true → t.has seq = true) →
    Waited T.span s → Waited T.span s'

/-- **The rule of a train.**  Where no probe is answered before it is out, every probe is
credited with the first of its answers; without errors, a probe that is not credited has
been waited for. -/
theorem run_spec {seqs : List ℕ} (hnodup : seqs.Nodup) :
    ∀ {heard : List (Arrival δ)} {s : State δ γ}, T.Tracks inbox heard s →
      (∀ seq ∈ seqs, s.result.sent seq = none) →
      (∀ seq sentAt, (T.run seqs s).result.sent seq = some sentAt →
        ∀ a ∈ inbox, T.names seq a = true → sentAt < a.time) →
      ∃ hs, Ran T seqs inbox (heard ++ hs) s (T.run seqs s) := by
  induction seqs with
  | nil =>
      intro heard s h _ _
      refine ⟨[], ?_, le_refl _, fun _ _ hw => hw⟩
      rwa [List.append_nil]
  | cons seq seqs ih =>
      intro heard s h hnew hcausal
      obtain ⟨hseq, hnodup⟩ := List.nodup_cons.mp hnodup
      have hfinal : (T.run (seq :: seqs) s).result.sent seq = (T.probe s seq).result.sent seq :=
        run_sent_of_notMem hseq (T.probe s seq)
      -- the probe goes out now, so its answers are still to come
      obtain ⟨hs, hprobe⟩ := probe_spec h (hnew seq List.mem_cons_self) fun hsends =>
        hcausal seq s.time <| by
          rw [hfinal, probe_sent, if_pos hsends, ProbeTable.send_sent_self]
      have hrest : ∀ i ∈ seqs, (T.probe s seq).result.sent i = none := by
        intro i hi
        rw [hprobe.others i (fun heq => hseq (heq ▸ hi))]
        exact hnew i (List.mem_cons_of_mem seq hi)
      obtain ⟨hs', hran⟩ := ih hnodup hprobe.tracks hrest hcausal
      refine ⟨hs ++ hs', ⟨?_, le_trans hprobe.later hran.later, fun hok hdone hw => ?_⟩⟩
      · rw [← List.append_assoc]
        exact hran.tracks
      · refine hran.waited hok (fun i hi => hdone i (List.mem_cons_of_mem seq hi)) ?_
        intro i sentAt hi
        by_cases heq : i = seq
        · subst heq
          have hown := hprobe.own
          rw [hi] at hown
          split_ifs at hown with hsends
          cases hown
          rcases hprobe.ended hsends with hd | ⟨a, ha, herror⟩ | hle
          · exact .inl (hdone i List.mem_cons_self _ hd)
          · exact absurd herror (hok a ha)
          · exact .inr hle
        · have hsame := hprobe.others i heq
          rw [hsame] at hi
          rcases hw i sentAt hi with hhas | hle
          · exact .inl (has_mono h hprobe.tracks hsame hhas)
          · exact .inr (le_trans hle hprobe.later)

/-- A train at its start has received nothing. -/
lemma tracks_begin {now : ℤ} (h : Schedule now inbox) :
    T.Tracks inbox [] (begin (γ := γ) now inbox) :=
  ⟨rfl, fun _ ha => absurd ha List.not_mem_nil, h, fun _ => rfl⟩

/-- A train from its start. -/
theorem run_begin {seqs : List ℕ} {now : ℤ} (hnodup : seqs.Nodup) (h : Schedule now inbox)
    (hcausal : ∀ seq sentAt, (T.run seqs (begin now inbox)).result.sent seq = some sentAt →
      ∀ a ∈ inbox, T.names seq a = true → sentAt < a.time) :
    ∃ heard, Ran T seqs inbox heard (begin now inbox) (T.run seqs (begin now inbox)) := by
  obtain ⟨hs, hran⟩ := run_spec hnodup (tracks_begin h) (fun _ _ => rfl) hcausal
  exact ⟨[] ++ hs, hran⟩

lemma lastSent_ge {n seq : ℕ} {t : ProbeTable γ} {sentAt : ℤ} (hseq : seq < n)
    (hsent : t.sent seq = some sentAt) : ∃ last, t.lastSent n = some last ∧ sentAt ≤ last := by
  have hmem : sentAt ∈ (List.range n).filterMap t.sent :=
    List.mem_filterMap.mpr ⟨seq, List.mem_range.mpr hseq, hsent⟩
  cases hmax : ((List.range n).filterMap t.sent).max? with
  | none =>
      rw [List.max?_eq_none_iff] at hmax
      rw [hmax] at hmem
      cases hmem
  | some last => exact ⟨last, hmax, (List.max?_eq_some_iff.mp hmax).2 sentAt hmem⟩

/-- The wait behind a train sends nothing. -/
lemma tail_sent (n : ℕ) (tmax : ℤ) (s : State δ γ) :
    (T.tail n tmax s).result.sent = s.result.sent := by
  rw [tail]
  split
  · exact listen_sent _ _ _
  · rfl

/-- What the wait behind a train does. -/
structure Tailed (T : Train δ γ) (n : ℕ) (tmax : ℤ) (inbox heard : List (Arrival δ))
    (s' : State δ γ) : Prop where
  tracks : T.Tracks inbox heard s'
  waited : (∀ a ∈ inbox, T.hear a.item ≠ .error) → ∀ seq < n, ∀ sentAt,
    s'.result.sent seq = some sentAt → s'.result.has seq = true ∨ sentAt + tmax ≤ s'.time

/-- Behind the train every probe that is out is waited for. -/
theorem tail_spec (n : ℕ) (tmax : ℤ) (h : T.Tracks inbox heard s) :
    ∃ hs, Tailed T n tmax inbox (heard ++ hs) (T.tail n tmax s) := by
  cases hlast : s.result.lastSent n with
  | none =>
      rw [tail, hlast]
      refine ⟨[], ?_, fun _ seq hseq sentAt hsent => ?_⟩
      · rwa [List.append_nil]
      · obtain ⟨last, hsome, -⟩ := lastSent_ge hseq hsent
        rw [hlast] at hsome
        cases hsome
  | some last =>
      obtain ⟨hs, hl⟩ := listen_spec (ProbeTable.full n) (last + tmax) h
      have hsent := listen_sent (T := T) (ProbeTable.full n) (last + tmax) s
      rw [tail, hlast]
      refine ⟨hs, hl.tracks, fun hok seq hseq sentAt hseqSent => ?_⟩
      rcases hl.ended with hfull | ⟨a, ha, herror⟩ | hle
      · exact .inl (ProbeTable.full_eq_true.mp hfull seq hseq)
      · exact absurd herror (hok a ha)
      · rw [hsent] at hseqSent
        obtain ⟨last', hsome, hge⟩ := lastSent_ge hseq hseqSent
        rw [hlast] at hsome
        cases hsome
        exact .inr (le_trans (Int.add_le_add_right hge tmax) hle)

end Train

end Concurrency
