/-
A key that processes contend for.

A statement that finds the key free hands it to the process that executes it; some
statements may be executed by the holder only, and some of these use the key up.  The
state does not say who holds the key: the holder is a ghost of the proof.

* `Key`: which statements take, need and spend the key, and what is known of the state;
* `Proc.Contends`: a process keeps to the key, whatever the others do, starting with the
  key or without it;
* `System.Held`: at most one thread of a configuration holds the key;
* `System.Key.Lawful`, `System.Held.after`: what has to be shown of the statements and of
  the tasks, and that it is enough along every schedule.
-/
import Networker.Concurrency.Interleave

namespace Concurrency

/-- A key over the statements `ι` and the states `σ`. -/
structure Key (ι σ : Type) where
  /-- Executing the statement in this state hands the key to the process. -/
  takes : ι → σ → Bool
  /-- Only the holder of the key executes the statement. -/
  needs : ι → Prop
  /-- Executing the statement uses the key up. -/
  spends : ι → Bool
  /-- The key has been taken. -/
  taken : σ → Prop
  /-- The key has been used up. -/
  spent : σ → Prop
  /-- What may be assumed in front of every statement. -/
  inv : σ → Prop
  /-- What is assumed of the executed statements. -/
  ok : ι → σ → Prop
  /-- What the others leave alone while the key is held. -/
  rely : σ → σ → Prop
  /-- What every executed statement meets. -/
  guar : ι → σ → Prop

namespace Key

variable {ι σ : Type} (K : Key ι σ)

/-- Whether a process holds the key after a statement. -/
def after (mine : Bool) (l : ι) (s : σ) : Bool := (mine || K.takes l s) && !K.spends l

/-- A statement that has nothing to do with the key. -/
structure Neutral (l : ι) : Prop where
  takes : ∀ s, K.takes l s = false
  needs : ¬ K.needs l
  spends : K.spends l = false
  guar : ∀ s, K.guar l s

variable {K}

@[simp] lemma Neutral.after {l : ι} (h : K.Neutral l) (mine : Bool) (s : σ) :
    K.after mine l s = mine := by
  rw [Key.after, h.takes, h.spends, Bool.or_false, Bool.not_false, Bool.and_true]

end Key

/-! ### Processes -/

namespace Proc

variable {ι ε σ α β : Type}

/-- The process keeps to the key from `s` on, holding it or not, whatever the others do
in between.  Where it returns, `Q` holds of whether it holds the key then. -/
def Contends (exec : ι → σ → σ) (K : Key ι σ) (Q : Bool → α → Prop) :
    Bool → Proc ι ε σ α → σ → Prop
  | mine, .ret a, _ => Q mine a
  | _, .raise _, _ => True
  | mine, .act l k, s => ∀ s', (mine = true → K.rely s s') → K.inv s' → K.ok l s' →
      (K.needs l → mine = true) ∧ K.guar l s' ∧
        Contends exec K Q (K.after mine l s') (k s') (exec l s')

variable {exec : ι → σ → σ} {K : Key ι σ} {Q : Bool → α → Prop} {mine : Bool}

/-- Without the key a process does not count on the state. -/
lemma Contends.of_false {p : Proc ι ε σ α} {s : σ} (h : Contends exec K Q false p s) (s' : σ) :
    Contends exec K Q false p s' := by
  cases p with
  | ret a => exact h
  | raise e => trivial
  | act l k => exact fun t _ => h t (fun hmine => absurd hmine Bool.false_ne_true)

/-- With the key it puts up with what the others leave alone. -/
lemma Contends.rely (trans : ∀ {s t u}, K.rely s t → K.rely t u → K.rely s u)
    {p : Proc ι ε σ α} {s s' : σ} (h : Contends exec K Q mine p s) (hr : K.rely s s') :
    Contends exec K Q mine p s' := by
  cases p with
  | ret a => exact h
  | raise e => trivial
  | act l k => exact fun t ht => h t (fun hmine => trans hr (ht hmine))

lemma Contends.mono {Q' : Bool → α → Prop} (hQ : ∀ m a, Q m a → Q' m a) {p : Proc ι ε σ α} {s : σ}
    (h : Contends exec K Q mine p s) : Contends exec K Q' mine p s := by
  induction p generalizing mine s with
  | ret a => exact hQ mine a h
  | raise e => trivial
  | act l k ih =>
      intro s' hr hinv hok
      obtain ⟨hneeds, hguar, hk⟩ := h s' hr hinv hok
      exact ⟨hneeds, hguar, ih s' hk⟩

/-- Sequencing: the second process starts with the key if the first one ends with it. -/
lemma Contends.bind {Q' : Bool → β → Prop} {p : Proc ι ε σ α} {f : α → Proc ι ε σ β} {s : σ}
    (h : Contends exec K Q mine p s)
    (hf : ∀ m a s', Q m a → Contends exec K Q' m (f a) s') :
    Contends exec K Q' mine (p >>= f) s := by
  induction p generalizing mine s with
  | ret a => exact hf mine a s h
  | raise e => trivial
  | act l k ih =>
      intro s' hr hinv hok
      obtain ⟨hneeds, hguar, hk⟩ := h s' hr hinv hok
      exact ⟨hneeds, hguar, ih s' hk⟩

/-- A process of neutral statements keeps the key as it is. -/
lemma Issues.contends {p : Proc ι ε σ α} (hp : p.Issues K.Neutral) (mine : Bool) (s : σ) :
    Contends exec K (fun m _ => m = mine) mine p s := by
  induction p generalizing s with
  | ret a => exact rfl
  | raise e => trivial
  | act l k ih =>
      intro s' _ _ _
      refine ⟨fun hneeds => absurd hneeds hp.1.needs, hp.1.guar s', ?_⟩
      rw [hp.1.after]
      exact ih s' (hp.2 s') _

/-- A neutral statement in front of a process. -/
lemma Contends.neutral_bind {l : ι} (hl : K.Neutral l) {g : σ → α} {f : α → Proc ι ε σ β}
    {Q' : Bool → β → Prop} {s : σ}
    (hf : ∀ s', Contends exec K Q' mine (f (g s')) (exec l s')) :
    Contends exec K Q' mine (issue l g >>= f) s := by
  intro s' _ _ _
  refine ⟨fun hneeds => absurd hneeds hl.needs, hl.guar s', ?_⟩
  rw [hl.after]
  exact hf s'

/-- A loop whose bodies end without the key. -/
lemma Contends.count {f : β → Proc ι ε σ Bool} (bs : List β)
    (body : ∀ b ∈ bs, ∀ s, Contends exec K (fun m _ => m = false) false (f b) s) (s : σ) :
    Contends exec K (fun m _ => m = false) false (Proc.count f bs) s := by
  induction bs generalizing s with
  | nil => exact rfl
  | cons b bs ih =>
      refine (body b (by simp) s).bind fun m r s' hm => ?_
      subst hm
      refine (ih (fun c hc => body c (by simp [hc])) s').bind fun m n s'' hm => ?_
      exact hm

end Proc

/-! ### Configurations -/

namespace System

variable {ι ε σ τ : Type} (S : System ι ε σ τ) (K : Key ι σ)

/-- The owner, if there is one, is the only thread that holds the key. -/
structure Held (owner : Option ℕ) (c : Config ι ε σ τ) : Prop where
  inv : K.inv c.state
  taken : ∀ i, owner = some i → K.taken c.state
  unspent : ∀ i, owner = some i → ¬ K.spent c.state
  bound : ∀ i, owner = some i → i < c.threads.length
  keeps : ∀ (i : ℕ) (t : Thread ι ε σ τ), c.threads[i]? = some t →
    t.rest.Contends S.exec K (fun _ _ => True) (owner == some i) c.state

/-- What has to be shown of the statements, of the tasks of a kind and of the
environment. -/
structure LawfulKey (kind : τ → Prop) : Prop where
  refl : ∀ s, K.rely s s
  trans : ∀ {s t u}, K.rely s t → K.rely t u → K.rely s u
  takes : ∀ l s, K.takes l s = true → ¬ K.taken s ∧ K.taken (S.exec l s)
  spends : ∀ l, K.spends l = true → K.needs l
  taken : ∀ l s, K.inv s → K.ok l s → K.taken s → K.taken (S.exec l s)
  spent : ∀ s, K.inv s → K.spent s → K.taken s
  unspent : ∀ l s, K.spends l = false → ¬ K.spent s → ¬ K.spent (S.exec l s)
  inv : ∀ l s, K.inv s → K.ok l s → K.guar l s → (K.needs l → K.taken s ∧ ¬ K.spent s) →
    K.inv (S.exec l s)
  rely : ∀ l s, ¬ K.needs l → K.inv s → K.ok l s → K.guar l s → K.taken s →
    K.rely s (S.exec l s)
  entry : ∀ t, kind t → K.Neutral (S.entry t)
  code : ∀ t, kind t → ∀ s, (S.code t).Contends S.exec K (fun _ _ => True) false s
  env : ∀ l s, S.moves l s = true → K.Neutral l

variable {S K} {kind : τ → Prop} {c : Config ι ε σ τ} {owner : Option ℕ}

lemma Held.fresh {s : σ} (h : K.inv s) : S.Held K none (Config.fresh s) where
  inv := h
  taken := by simp
  unspent := by simp
  bound := by simp
  keeps := by simp [Config.fresh]

/-- A neutral statement from outside the threads leaves the key with its owner. -/
lemma Held.neutral (L : S.LawfulKey K kind) (h : S.Held K owner c) {l : ι} (hl : K.Neutral l)
    (hok : K.ok l c.state) : S.Held K owner ⟨S.exec l c.state, c.threads⟩ where
  inv := L.inv l _ h.inv hok (hl.guar _) fun hneeds => absurd hneeds hl.needs
  taken i hi := L.taken l _ h.inv hok (h.taken i hi)
  unspent i hi := L.unspent l _ hl.spends (h.unspent i hi)
  bound := h.bound
  keeps i t hget := by
    have hold := h.keeps i t hget
    by_cases hi : owner = some i
    · have htaken := h.taken i hi
      exact hold.rely L.trans (L.rely l _ hl.needs h.inv hok (hl.guar _) htaken)
    · rw [beq_eq_false_iff_ne.mpr hi] at hold ⊢
      exact hold.of_false _

/-- Starting a task leaves the key with its owner. -/
lemma Held.start (L : S.LawfulKey K kind) (h : S.Held K owner c) {t : τ} (hkind : kind t)
    (hok : K.ok (S.entry t) c.state) :
    S.Held K owner ⟨S.exec (S.entry t) c.state, c.threads ++ [⟨t, S.code t⟩]⟩ := by
  have hold := h.neutral L (L.entry t hkind) hok
  refine ⟨hold.inv, hold.taken, hold.unspent, fun i hi => ?_, fun i u hget => ?_⟩
  · have hlt := h.bound i hi
    simp only [List.length_append, List.length_singleton]
    omega
  · rcases Nat.lt_or_ge i c.threads.length with hlt | hge
    · rw [List.getElem?_append_left hlt] at hget
      exact hold.keeps i u hget
    · have hne : owner ≠ some i := fun hi => absurd (h.bound i hi) (by omega)
      rw [List.getElem?_append_right hge, List.getElem?_singleton] at hget
      split_ifs at hget
      obtain rfl := Option.some.inj hget
      rw [beq_eq_false_iff_ne.mpr hne]
      exact L.code t hkind _

/-- Who holds the key after a statement of thread `i`. -/
def ownerAfter (K : Key ι σ) (owner : Option ℕ) (i : ℕ) (l : ι) (s : σ) : Option ℕ :=
  if K.after (owner == some i) l s then some i else if owner = some i then none else owner

lemma ownerAfter_self (i : ℕ) (l : ι) (s : σ) :
    (ownerAfter K owner i l s == some i) = K.after (owner == some i) l s := by
  rw [ownerAfter]
  by_cases hafter : K.after (owner == some i) l s = true
  · rw [if_pos hafter, hafter, beq_self_eq_true]
  · have hfalse : K.after (owner == some i) l s = false := Bool.eq_false_iff.mpr hafter
    rw [if_neg hafter, hfalse, beq_eq_false_iff_ne]
    split_ifs with howner
    · exact nofun
    · exact howner

/-- A statement of thread `i` hands the key to no other thread. -/
lemma owner_of_ownerAfter {i j : ℕ} (hj : j ≠ i) {l : ι} {s : σ}
    (h : ownerAfter K owner i l s = some j) : owner = some j := by
  rw [ownerAfter] at h
  split_ifs at h
  · exact absurd (Option.some.inj h).symm hj
  · exact h

/-- The key is free when a statement takes it. -/
lemma Held.free (L : S.LawfulKey K kind) (h : S.Held K owner c) {l : ι}
    (htakes : K.takes l c.state = true) : owner = none := by
  cases owner with
  | none => rfl
  | some j => exact absurd (h.taken j rfl) (L.takes l _ htakes).1

/-- Another owner than thread `i` keeps the key. -/
lemma Held.ownerAfter_of_ne (L : S.LawfulKey K kind) (h : S.Held K owner c) {i j : ℕ} (hji : j ≠ i)
    (hj : owner = some j) (l : ι) : ownerAfter K owner i l c.state = some j := by
  have htakes : K.takes l c.state = false := Bool.eq_false_iff.mpr fun ht => by
    rw [h.free L ht] at hj
    exact absurd hj nofun
  have hne : owner ≠ some i := fun hi => hji (Option.some.inj (hj.symm.trans hi))
  rw [ownerAfter, Key.after, beq_eq_false_iff_ne.mpr hne, htakes, Bool.or_false,
    Bool.false_and, if_neg Bool.false_ne_true, if_neg hne, hj]

/-- Whoever holds the key after a statement of a thread: it has been taken, and it has not
been used up. -/
lemma Held.taken_step (L : S.LawfulKey K kind) (h : S.Held K owner c) {i j : ℕ} {l : ι}
    (hneeds : K.needs l → owner = some i) (hok : K.ok l c.state)
    (hafter : ownerAfter K owner i l c.state = some j) :
    K.taken (S.exec l c.state) ∧ ¬ K.spent (S.exec l c.state) := by
  by_cases hspends : K.spends l = true
  · -- the statement uses the key up, so nobody holds it afterwards
    rw [ownerAfter, Key.after, hspends, Bool.not_true, Bool.and_false,
      if_neg Bool.false_ne_true, if_pos (hneeds (L.spends l hspends))] at hafter
    exact absurd hafter nofun
  · rw [Bool.not_eq_true] at hspends
    by_cases htakes : K.takes l c.state = true
    · obtain ⟨hnot, hyes⟩ := L.takes l _ htakes
      exact ⟨hyes, L.unspent l _ hspends fun hs => hnot (L.spent _ h.inv hs)⟩
    · have hj : owner = some j := by
        by_cases hji : j = i
        · subst hji
          have hself := beq_iff_eq.mpr hafter
          rw [ownerAfter_self, Key.after, Bool.eq_false_iff.mpr htakes, Bool.or_false,
            Bool.and_eq_true] at hself
          exact beq_iff_eq.mp hself.1
        · exact owner_of_ownerAfter hji hafter
      exact ⟨L.taken l _ h.inv hok (h.taken j hj), L.unspent l _ hspends (h.unspent j hj)⟩

/-- A statement of a thread hands the key on as `ownerAfter` says. -/
lemma Held.step (L : S.LawfulKey K kind) (h : S.Held K owner c) {i : ℕ} {t : τ} {l : ι}
    {k : σ → Proc ι ε σ Unit} (hget : c.threads[i]? = some ⟨t, .act l k⟩) (hok : K.ok l c.state) :
    S.Held K (ownerAfter K owner i l c.state)
      ⟨S.exec l c.state, c.threads.set i ⟨t, k c.state⟩⟩ := by
  obtain ⟨hneeds, hguar, hrest⟩ := h.keeps i _ hget c.state (fun _ => L.refl _) h.inv hok
  obtain ⟨hlt, -⟩ := List.getElem?_eq_some_iff.mp hget
  have hholder : K.needs l → owner = some i := fun hn => beq_iff_eq.mp (hneeds hn)
  have htaken : ∀ j, ownerAfter K owner i l c.state = some j →
      K.taken (S.exec l c.state) ∧ ¬ K.spent (S.exec l c.state) :=
    fun j => h.taken_step L hholder hok
  refine ⟨?_, fun j hj => (htaken j hj).1, fun j hj => (htaken j hj).2, fun j hj => ?_,
    fun j u hu => ?_⟩
  · exact L.inv l _ h.inv hok hguar fun hn =>
      ⟨h.taken i (hholder hn), h.unspent i (hholder hn)⟩
  · rw [List.length_set]
    by_cases hji : j = i
    · exact hji ▸ hlt
    · exact h.bound j (owner_of_ownerAfter hji hj)
  · by_cases hji : j = i
    · subst hji
      rw [List.getElem?_set_self hlt] at hu
      obtain rfl := Option.some.inj hu
      rw [ownerAfter_self]
      exact hrest
    · rw [List.getElem?_set_ne (Ne.symm hji)] at hu
      have hold := h.keeps j u hu
      by_cases hj : owner = some j
      · -- another thread holds the key, so this statement does not need it
        have hnot : ¬ K.needs l := fun hn => by
          rw [hholder hn] at hj
          exact hji (Option.some.inj hj).symm
        rw [h.ownerAfter_of_ne L hji hj, beq_self_eq_true]
        rw [hj, beq_self_eq_true] at hold
        exact hold.rely L.trans (L.rely l _ hnot h.inv hok hguar (h.taken j hj))
      · have hne : ownerAfter K owner i l c.state ≠ some j := fun ha =>
          hj (owner_of_ownerAfter hji ha)
        rw [beq_eq_false_iff_ne.mpr hj] at hold
        rw [beq_eq_false_iff_ne.mpr hne]
        exact hold.of_false _

/-- Once the key has been taken, nobody takes it again. -/
lemma ownerAfter_of_taken (L : S.LawfulKey K kind) {i : ℕ} {l : ι} {s : σ} (h : K.taken s) :
    ownerAfter K owner i l s = owner ∨ ownerAfter K owner i l s = none := by
  have htakes : K.takes l s = false := Bool.eq_false_iff.mpr fun ht => (L.takes l s ht).1 h
  rw [ownerAfter, Key.after, htakes, Bool.or_false]
  by_cases hi : owner = some i
  · rw [hi, if_pos rfl]
    split_ifs
    · exact Or.inl rfl
    · exact Or.inr rfl
  · rw [beq_eq_false_iff_ne.mpr hi, Bool.false_and, if_neg Bool.false_ne_true, if_neg hi]
    exact Or.inl rfl

/-- One decision leaves at most one thread with the key, and once the key has been taken
that is its owner or nobody. -/
lemma Held.next (L : S.LawfulKey K kind) (h : S.Held K owner c) {a : Action ι τ}
    (hkind : Starts kind c a) (ha : S.Meets K.ok c a) :
    ∃ owner', S.Held K owner' (S.next c a) ∧
      (K.taken c.state → owner' = owner ∨ owner' = none) := by
  cases a with
  | start t =>
      by_cases hadm : S.admits c.live t c.state = true
      · refine ⟨owner, ?_, fun _ => Or.inl rfl⟩
        simp only [System.next, hadm, if_true]
        exact h.start L hkind (ha _ (by simp [label, hadm]))
      · exact ⟨owner, by rwa [System.next, if_neg hadm], fun _ => Or.inl rfl⟩
  | env l =>
      by_cases hmv : S.moves l c.state = true
      · refine ⟨owner, ?_, fun _ => Or.inl rfl⟩
        simp only [System.next, hmv, if_true]
        exact h.neutral L (L.env l _ hmv) (ha l (by simp [label, hmv]))
      · exact ⟨owner, by rwa [System.next, if_neg hmv], fun _ => Or.inl rfl⟩
  | step i =>
      simp only [System.next]
      split
      · rename_i t l k hget
        exact ⟨_, h.step L hget (ha l (by simp [label, hget])), ownerAfter_of_taken L⟩
      · exact ⟨owner, h, fun _ => Or.inl rfl⟩

/-- **One holder at a time.**  A schedule of admissible statements that starts only
lawful tasks leaves at most one thread with the key, and once the key has been taken that
is its owner or nobody. -/
theorem Held.after (L : S.LawfulKey K kind) :
    ∀ {owner c} (as : List (Action ι τ)), S.Held K owner c → S.Along (Starts kind) c as →
      S.Along (S.Meets K.ok) c as → ∃ owner', S.Held K owner' (S.after c as) ∧
        (K.taken c.state → owner' = owner ∨ owner' = none) := by
  intro owner c as
  induction as generalizing owner c with
  | nil => exact fun h _ _ => ⟨owner, h, fun _ => Or.inl rfl⟩
  | cons a as ih =>
      intro h hkind hok
      obtain ⟨owner₁, h₁, hkeep₁⟩ := h.next L hkind.1 hok.1
      obtain ⟨owner₂, h₂, hkeep₂⟩ := ih h₁ hkind.2 hok.2
      refine ⟨owner₂, h₂, fun htaken => ?_⟩
      have htaken₁ : K.taken (S.next c a).state := by
        rw [S.state_next]
        cases hl : S.label c a with
        | none => exact htaken
        | some l => exact L.taken l _ h.inv (hok.1 l hl) htaken
      rcases hkeep₂ htaken₁ with rfl | rfl
      · exact hkeep₁ htaken
      · exact Or.inr rfl

/-- A thread that takes the key and does not use it up at once holds it. -/
lemma Held.acquire (L : S.LawfulKey K kind) (h : S.Held K owner c) {i : ℕ} {l : ι}
    (hl : S.label c (.step i) = some l) (hok : K.ok l c.state) (htakes : K.takes l c.state = true)
    (hspends : K.spends l = false) : S.Held K (some i) (S.next c (.step i)) := by
  have hafter : ownerAfter K owner i l c.state = some i := by
    rw [ownerAfter, Key.after, htakes, hspends, Bool.or_true, Bool.not_false, Bool.and_true,
      if_pos rfl]
  simp only [label] at hl
  split at hl
  · rename_i t l' k hget
    obtain rfl := Option.some.inj hl
    have hstep := h.step L hget hok
    rw [hafter] at hstep
    simpa only [System.next, hget] using hstep
  · exact absurd hl.symm (Option.some_ne_none l)

/-- A statement that needs the key is a statement of its owner. -/
lemma Held.of_needs (L : S.LawfulKey K kind) (h : S.Held K owner c) {a : Action ι τ}
    (hkind : Starts kind c a) {l : ι} (hl : S.label c a = some l) (hok : K.ok l c.state)
    (hneeds : K.needs l) : ∃ i, owner = some i ∧ a = .step i := by
  cases a with
  | start t =>
      simp only [label] at hl
      split_ifs at hl
      obtain rfl := Option.some.inj hl
      exact absurd hneeds (L.entry t hkind).needs
  | env l' =>
      simp only [label] at hl
      split_ifs at hl with hmv
      obtain rfl := Option.some.inj hl
      exact absurd hneeds (L.env _ _ hmv).needs
  | step i =>
      simp only [label] at hl
      split at hl
      · rename_i t l' k hget
        obtain rfl := Option.some.inj hl
        have hmine := (h.keeps i _ hget c.state (fun _ => L.refl _) h.inv hok).1 hneeds
        exact ⟨i, beq_iff_eq.mp hmine, rfl⟩
      · exact absurd hl.symm (Option.some_ne_none l)

end System

end Concurrency
