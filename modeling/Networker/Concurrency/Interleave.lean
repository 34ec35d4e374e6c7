/-
Any interleaving of processes over one shared state.

* `System`: the tasks that may run, the statement a start executes, when a task
  may be started, and the moves of the environment;
* `System.Config`, `System.next`, `System.after`: configurations, one scheduling
  decision and a whole schedule.  A decision that is not possible leaves the
  configuration as it is, so every list of decisions is a schedule;
* `System.label`: the statement a decision executes;
  `System.state_next` says that the state changes by that statement alone;
* `System.Along`: a condition on every decision of a schedule;
  `System.after_inv` derives an invariant of a whole schedule from one statement;
* `System.after_sound`: threads that are safe under their rely relation keep the
  guarantee and the invariant in every schedule.
-/
import Networker.Concurrency.Process

namespace Concurrency

/-- The tasks `τ` a system may run over one shared state. -/
structure System (ι ε σ τ : Type) where
  /-- What a statement does to the state. -/
  exec : ι → σ → σ
  /-- The process a task runs. -/
  code : τ → Proc ι ε σ Unit
  /-- The statement executed when the task is started. -/
  entry : τ → ι
  /-- Whether the task may be started next to the live tasks. -/
  admits : List τ → τ → σ → Bool
  /-- The statements the environment may execute by itself. -/
  moves : ι → σ → Bool

namespace System

variable {ι ε σ τ : Type}

/-- A started task with what is left of its process. -/
structure Thread (ι ε σ τ : Type) where
  task : τ
  rest : Proc ι ε σ Unit

/-- A thread that still has a statement to issue. -/
def Thread.live (t : Thread ι ε σ τ) : Bool :=
  match t.rest with
  | .act _ _ => true
  | _ => false

/-- The shared state and the threads, in the order they were started. -/
structure Config (ι ε σ τ : Type) where
  state : σ
  threads : List (Thread ι ε σ τ)

/-- The tasks of the live threads. -/
def Config.live (c : Config ι ε σ τ) : List τ :=
  (c.threads.filter Thread.live).map Thread.task

/-- The configuration before any task has started. -/
def Config.fresh (s : σ) : Config ι ε σ τ := ⟨s, []⟩

/-- One decision of the scheduler. -/
inductive Action (ι τ : Type)
  | start (t : τ)
  | step (i : ℕ)
  | env (l : ι)

variable (S : System ι ε σ τ)

/-- The statement a decision executes, if it is possible. -/
def label (c : Config ι ε σ τ) : Action ι τ → Option ι
  | .start t => if S.admits c.live t c.state then some (S.entry t) else none
  | .step i =>
      match c.threads[i]? with
      | some ⟨_, .act l _⟩ => some l
      | _ => none
  | .env l => if S.moves l c.state then some l else none

/-- The configuration after one decision. -/
def next (c : Config ι ε σ τ) : Action ι τ → Config ι ε σ τ
  | .start t =>
      if S.admits c.live t c.state then
        ⟨S.exec (S.entry t) c.state, c.threads ++ [⟨t, S.code t⟩]⟩
      else c
  | .step i =>
      match c.threads[i]? with
      | some ⟨t, .act l k⟩ => ⟨S.exec l c.state, c.threads.set i ⟨t, k c.state⟩⟩
      | _ => c
  | .env l => if S.moves l c.state then ⟨S.exec l c.state, c.threads⟩ else c

/-- The configuration after a schedule. -/
def after (c : Config ι ε σ τ) (as : List (Action ι τ)) : Config ι ε σ τ :=
  as.foldl S.next c

@[simp] lemma after_nil (c : Config ι ε σ τ) : S.after c [] = c := rfl

@[simp] lemma after_cons (c : Config ι ε σ τ) (a : Action ι τ) (as : List (Action ι τ)) :
    S.after c (a :: as) = S.after (S.next c a) as := rfl

lemma after_append (c : Config ι ε σ τ) (as bs : List (Action ι τ)) :
    S.after c (as ++ bs) = S.after (S.after c as) bs :=
  List.foldl_append

lemma after_concat (c : Config ι ε σ τ) (as : List (Action ι τ)) (a : Action ι τ) :
    S.after c (as ++ [a]) = S.next (S.after c as) a := by
  rw [after_append, after_cons, after_nil]

/-- A decision changes the state by the statement it executes and by nothing
else. -/
lemma state_next (c : Config ι ε σ τ) (a : Action ι τ) :
    (S.next c a).state = (S.label c a).elim c.state fun l => S.exec l c.state := by
  cases a with
  | start t => by_cases h : S.admits c.live t c.state <;> simp [next, label, h]
  | env l => by_cases h : S.moves l c.state <;> simp [next, label, h]
  | step i =>
      simp only [next, label]
      split <;> rfl

/-- A condition on every decision of a schedule, read in the configuration the
decision is taken in. -/
def Along (P : Config ι ε σ τ → Action ι τ → Prop) (c : Config ι ε σ τ) :
    List (Action ι τ) → Prop
  | [] => True
  | a :: as => P c a ∧ Along P (S.next c a) as

/-- A condition on every executed statement and the state it is executed in. -/
def Meets (ok : ι → σ → Prop) (c : Config ι ε σ τ) (a : Action ι τ) : Prop :=
  ∀ l ∈ S.label c a, ok l c.state

instance decidableAlong {P : Config ι ε σ τ → Action ι τ → Prop} [∀ c a, Decidable (P c a)] :
    ∀ c as, Decidable (S.Along P c as)
  | _, [] => isTrue trivial
  | c, a :: as =>
      have := decidableAlong (P := P) (S.next c a) as
      inferInstanceAs (Decidable (P c a ∧ S.Along P (S.next c a) as))

instance {ok : ι → σ → Prop} [∀ l s, Decidable (ok l s)] (c : Config ι ε σ τ) (a : Action ι τ) :
    Decidable (S.Meets ok c a) :=
  match h : S.label c a with
  | none => isTrue fun l hl => absurd (h ▸ hl) (by simp)
  | some l => decidable_of_iff (ok l c.state) (by simp [Meets, h])

variable {S}

lemma along_append {P : Config ι ε σ τ → Action ι τ → Prop} {c : Config ι ε σ τ}
    {as bs : List (Action ι τ)} :
    S.Along P c (as ++ bs) ↔ S.Along P c as ∧ S.Along P (S.after c as) bs := by
  induction as generalizing c with
  | nil => simp [Along]
  | cons a as ih => simp only [List.cons_append, Along, ih, after_cons, and_assoc]

/-- A condition along a schedule holds at each of its decisions. -/
lemma along_iff {P : Config ι ε σ τ → Action ι τ → Prop} {c : Config ι ε σ τ}
    {as : List (Action ι τ)} :
    S.Along P c as ↔ ∀ xs a ys, as = xs ++ a :: ys → P (S.after c xs) a := by
  induction as generalizing c with
  | nil => simp [Along]
  | cons b bs ih =>
      rw [Along, ih]
      constructor
      · rintro ⟨hb, hbs⟩ xs a ys heq
        cases xs with
        | nil =>
            obtain ⟨rfl, rfl⟩ := List.cons.inj heq
            exact hb
        | cons x xs =>
            obtain ⟨rfl, rfl⟩ := List.cons.inj heq
            exact hbs xs a ys rfl
      · intro h
        refine ⟨h [] b bs rfl, fun xs a ys heq => ?_⟩
        exact h (b :: xs) a ys (by rw [heq, List.cons_append])

lemma Along.mono {P Q : Config ι ε σ τ → Action ι τ → Prop} (hPQ : ∀ c a, P c a → Q c a)
    {c : Config ι ε σ τ} {as : List (Action ι τ)} (h : S.Along P c as) : S.Along Q c as :=
  along_iff.mpr fun xs a ys heq => hPQ _ _ (along_iff.mp h xs a ys heq)

/-- An invariant of the state: what every admissible statement preserves holds
after every schedule of admissible statements. -/
theorem after_inv {ok : ι → σ → Prop} {I : σ → Prop} {c : Config ι ε σ τ}
    (keep : ∀ l s, I s → ok l s → I (S.exec l s)) (h0 : I c.state) :
    ∀ as, S.Along (S.Meets ok) c as → I (S.after c as).state := by
  intro as
  induction as generalizing c with
  | nil => exact fun _ => h0
  | cons a as ih =>
      rintro ⟨ha, has⟩
      refine ih ?_ has
      rw [S.state_next]
      cases hl : S.label c a with
      | none => exact h0
      | some l => exact keep l c.state h0 (ha l (by simp [hl]))

/-- A relation that every admissible statement respects, and that is a preorder,
relates the two ends of a schedule. -/
theorem after_rel {ok : ι → σ → Prop} {R : σ → σ → Prop} (refl : ∀ s, R s s)
    (trans : ∀ {s t u}, R s t → R t u → R s u) (step : ∀ l s, ok l s → R s (S.exec l s))
    (c : Config ι ε σ τ) (as : List (Action ι τ)) (h : S.Along (S.Meets ok) c as) :
    R c.state (S.after c as).state :=
  after_inv (I := R c.state) (fun l s hs hok => trans hs (step l s hok)) (refl _) as h

lemma along_and {P Q : Config ι ε σ τ → Action ι τ → Prop} {c : Config ι ε σ τ}
    {as : List (Action ι τ)} (hP : S.Along P c as) (hQ : S.Along Q c as) :
    S.Along (fun c a => P c a ∧ Q c a) c as :=
  along_iff.mpr fun xs a ys heq =>
    ⟨along_iff.mp hP xs a ys heq, along_iff.mp hQ xs a ys heq⟩

lemma along_meets_and {ok ok' : ι → σ → Prop} {c : Config ι ε σ τ} {as : List (Action ι τ)}
    (h : S.Along (S.Meets ok) c as) (h' : S.Along (S.Meets ok') c as) :
    S.Along (S.Meets fun l s => ok l s ∧ ok' l s) c as :=
  (along_and h h').mono fun _ _ ha l hl => ⟨ha.1 l hl, ha.2 l hl⟩

/-- The condition of the statement that a decision of a schedule executes. -/
lemma Along.meets {ok : ι → σ → Prop} {c : Config ι ε σ τ} {as xs ys : List (Action ι τ)}
    {a : Action ι τ} (h : S.Along (S.Meets ok) c as) (heq : as = xs ++ a :: ys) {l : ι}
    (hl : S.label (S.after c xs) a = some l) : ok l (S.after c xs).state :=
  along_iff.mp h xs a ys heq l hl

/-- The state after a decision that executes a statement. -/
lemma state_next_of_label {c : Config ι ε σ τ} {a : Action ι τ} {l : ι}
    (h : S.label c a = some l) : (S.next c a).state = S.exec l c.state := by
  rw [S.state_next, h]
  rfl

/-! ### Tasks of a kind -/

/-- Every task the decision starts is of a kind. -/
def Starts (K : τ → Prop) (_ : Config ι ε σ τ) : Action ι τ → Prop
  | .start t => K t
  | _ => True

instance {K : τ → Prop} [DecidablePred K] (c : Config ι ε σ τ) :
    (a : Action ι τ) → Decidable (Starts K c a)
  | .start t => inferInstanceAs (Decidable (K t))
  | .step _ => isTrue trivial
  | .env _ => isTrue trivial

/-- Every schedule starts tasks of some kind. -/
lemma along_starts_any {c : Config ι ε σ τ} (as : List (Action ι τ)) :
    S.Along (Starts fun _ => True) c as :=
  along_iff.mpr fun _ a _ _ => by cases a <;> trivial

/-- Nothing is asked of the executed statements. -/
lemma along_meets_any {c : Config ι ε σ τ} (as : List (Action ι τ)) :
    S.Along (S.Meets fun _ _ => True) c as :=
  along_iff.mpr fun _ _ _ _ _ _ => trivial

/-- When the tasks of a kind and the environment issue only statements that satisfy
`P`, a schedule that starts only such tasks executes only such statements. -/
theorem along_of_issues {P : ι → Prop} {K : τ → Prop}
    (code : ∀ t, K t → P (S.entry t) ∧ (S.code t).Issues P)
    (env : ∀ l s, S.moves l s = true → P l) {c : Config ι ε σ τ}
    (hc : ∀ t ∈ c.threads, t.rest.Issues P) :
    ∀ as, S.Along (Starts K) c as → S.Along (S.Meets fun l _ => P l) c as := by
  intro as
  induction as generalizing c with
  | nil => exact fun _ => trivial
  | cons a as ih =>
      rintro ⟨ha, has⟩
      cases a with
      | start t =>
          obtain ⟨hentry, hcode⟩ := code t ha
          refine ⟨fun l hl => ?_, ih (fun u hu => ?_) has⟩
          · simp only [label] at hl
            split_ifs at hl
            · exact Option.some.inj (Option.mem_def.mp hl) ▸ hentry
            · exact absurd hl (by simp)
          · simp only [next] at hu
            split_ifs at hu
            · rcases List.mem_append.mp hu with hu | hu
              · exact hc u hu
              · rw [List.mem_singleton.mp hu]
                exact hcode
            · exact hc u hu
      | env l =>
          refine ⟨fun l' hl => ?_, ih (fun u hu => ?_) has⟩
          · simp only [label] at hl
            split_ifs at hl with hmv
            · exact Option.some.inj (Option.mem_def.mp hl) ▸ env l _ hmv
            · exact absurd hl (by simp)
          · simp only [next] at hu
            split_ifs at hu <;> exact hc u hu
      | step i =>
          refine ⟨fun l hl => ?_, ih (fun u hu => ?_) has⟩
          · simp only [label] at hl
            split at hl
            · rename_i t l' k hget
              have := hc _ (List.mem_of_getElem? hget)
              exact Option.some.inj (Option.mem_def.mp hl) ▸ this.1
            · exact absurd hl (by simp)
          · simp only [next] at hu
            split at hu
            · rename_i t l' k hget
              have hold := hc _ (List.mem_of_getElem? hget)
              rcases List.mem_or_eq_of_mem_set hu with hu | rfl
              · exact hc u hu
              · exact hold.2 _
            · exact hc u hu

/-! ### Rely and guarantee across threads -/

/-- What each task relies on, what it may assume of its statements, and what it
guarantees. -/
structure Discipline (ι σ τ : Type) where
  /-- What may be assumed in front of every statement. -/
  inv : σ → Prop
  /-- The tasks that run under the lock. -/
  holds : τ → Prop
  /-- What is true while no live task holds the lock. -/
  res : σ → Prop
  /-- What a started task has established for good. -/
  here : τ → σ → Prop
  /-- What is assumed of the executed statements. -/
  ok : ι → σ → Prop
  rely : τ → σ → σ → Prop
  guar : τ → ι → σ → Prop

variable (S) (D : Discipline ι σ τ)

/-- The process keeps the discipline of the task from `s` on, and when it ends it has
restored what the lock protects. -/
def Discipline.Keeps (t : τ) (p : Proc ι ε σ Unit) (s : σ) : Prop :=
  p.Safe S.exec (D.rely t) (fun l s => D.inv s ∧ D.ok l s) (D.guar t)
    (fun _ s => D.holds t → D.res s) (fun _ s => D.holds t → D.res s) s

/-- A configuration in which the invariant holds, every live thread keeps its
discipline, two live threads may run side by side, and what the lock protects is
in order while it is free. -/
structure Sound (compat : τ → τ → Prop) (c : Config ι ε σ τ) : Prop where
  inv : D.inv c.state
  keeps : ∀ t ∈ c.threads, t.live → D.Keeps S t.task t.rest c.state
  here : ∀ t ∈ c.threads, t.live → D.here t.task c.state
  compat : c.threads.Pairwise fun t u => t.live → u.live → compat t.task u.task
  free : (∀ t ∈ c.threads, t.live → ¬ D.holds t.task) → D.res c.state

/-- What has to be shown of the tasks of a kind and of the environment. -/
structure Lawful (kind : τ → Prop) (compat : τ → τ → Prop) : Prop where
  symm : ∀ {t u}, compat t u → compat u t
  excl : ∀ {t u}, compat t u → D.holds t → ¬ D.holds u
  refl : ∀ t s, D.rely t s s
  trans : ∀ t {a b c}, D.rely t a b → D.rely t b c → D.rely t a c
  inv : ∀ t l s, D.inv s → D.ok l s → D.guar t l s → D.inv (S.exec l s)
  here : ∀ t u l s, D.inv s → D.ok l s → D.guar t l s → D.here u s → D.here u (S.exec l s)
  res : ∀ t l s, ¬ D.holds t → D.inv s → D.ok l s → D.guar t l s → D.res s → D.res (S.exec l s)
  rely : ∀ t u l s, compat t u → D.inv s → D.ok l s → D.guar t l s → D.rely u s (S.exec l s)
  start : ∀ ts t s, kind t → S.admits ts t s = true → D.inv s → D.ok (S.entry t) s →
    (∀ u ∈ ts, D.here u s) → ((∀ u ∈ ts, ¬ D.holds u) → D.res s) →
    (∀ u ∈ ts, compat t u) ∧ D.guar t (S.entry t) s ∧ D.here t (S.exec (S.entry t) s) ∧
      D.Keeps S t (S.code t) (S.exec (S.entry t) s)
  env : ∀ l s, S.moves l s = true → D.inv s → D.ok l s →
    D.inv (S.exec l s) ∧ (D.res s → D.res (S.exec l s)) ∧
      ∀ t, D.rely t s (S.exec l s) ∧ (D.here t s → D.here t (S.exec l s))

variable {S D} {kind : τ → Prop} {compat : τ → τ → Prop}

/-- Keeping a discipline is stable under what the task relies on. -/
lemma Discipline.Keeps.rely (L : S.Lawful D kind compat) {t : τ} {p : Proc ι ε σ Unit} {s s' : σ}
    (h : D.Keeps S t p s) (hr : D.rely t s s') : D.Keeps S t p s' :=
  Proc.Safe.rely (R := D.rely t) (fun h1 h2 => L.trans t h1 h2) h hr

/-- A thread that has ended has restored what the lock protects. -/
lemma Discipline.Keeps.res (L : S.Lawful D kind compat) {t : Thread ι ε σ τ} {s : σ}
    (h : D.Keeps S t.task t.rest s) (hend : ¬ t.live) (hholds : D.holds t.task) : D.res s := by
  obtain ⟨task, rest⟩ := t
  cases rest with
  | ret a => exact h s (L.refl task s) hholds
  | raise e => exact h s (L.refl task s) hholds
  | act l k => exact absurd rfl hend

lemma mem_live {c : Config ι ε σ τ} {u : τ} :
    u ∈ c.live ↔ ∃ t ∈ c.threads, t.live ∧ t.task = u := by
  simp only [Config.live, List.mem_map, List.mem_filter, and_assoc]

/-- What a start that takes place has to meet. -/
lemma Sound.start (L : S.Lawful D kind compat) {c : Config ι ε σ τ} (hc : S.Sound D compat c)
    {t : τ} (hkind : kind t) (hadm : S.admits c.live t c.state = true)
    (hok : D.ok (S.entry t) c.state) :
    (∀ u ∈ c.threads, u.live → compat t u.task) ∧ D.guar t (S.entry t) c.state ∧
      D.here t (S.exec (S.entry t) c.state) ∧
      D.Keeps S t (S.code t) (S.exec (S.entry t) c.state) := by
  have hhere : ∀ u ∈ c.live, D.here u c.state := by
    intro u hu
    obtain ⟨v, hv, hlive, rfl⟩ := mem_live.mp hu
    exact hc.here v hv hlive
  have hfree : (∀ u ∈ c.live, ¬ D.holds u) → D.res c.state := fun h =>
    hc.free fun v hv hlive => h v.task (mem_live.mpr ⟨v, hv, hlive, rfl⟩)
  obtain ⟨hcompat, hrest⟩ := L.start _ _ _ hkind hadm hc.inv hok hhere hfree
  exact ⟨fun u hu hlive => hcompat _ (mem_live.mpr ⟨u, hu, hlive, rfl⟩), hrest⟩

/-- Starting a task preserves soundness. -/
lemma Sound.next_start (L : S.Lawful D kind compat) {c : Config ι ε σ τ}
    (hc : S.Sound D compat c) {t : τ} (hkind : kind t) (hadm : S.admits c.live t c.state = true)
    (hok : D.ok (S.entry t) c.state) :
    S.Sound D compat ⟨S.exec (S.entry t) c.state, c.threads ++ [⟨t, S.code t⟩]⟩ := by
  obtain ⟨hcompat, hguar, hhere, hkeep⟩ := hc.start L hkind hadm hok
  refine ⟨L.inv t _ _ hc.inv hok hguar, fun u hu hlive => ?_, fun u hu hlive => ?_, ?_,
    fun hfree => ?_⟩
  · rcases List.mem_append.mp hu with hu | hu
    · exact (hc.keeps u hu hlive).rely L
        (L.rely t u.task _ _ (hcompat u hu hlive) hc.inv hok hguar)
    · rw [List.mem_singleton.mp hu]
      exact hkeep
  · rcases List.mem_append.mp hu with hu | hu
    · exact L.here t u.task _ _ hc.inv hok hguar (hc.here u hu hlive)
    · rw [List.mem_singleton.mp hu]
      exact hhere
  · refine List.pairwise_append.mpr ⟨hc.compat, by simp, fun u hu v hv hul _ => ?_⟩
    rw [List.mem_singleton.mp hv]
    exact L.symm (hcompat u hu hul)
  · by_cases hholds : D.holds t
    · -- the new thread holds the lock, so it has ended already
      refine hkeep.res L (t := ⟨t, S.code t⟩) (fun hlive => ?_) hholds
      exact hfree _ (List.mem_append_right _ (List.mem_singleton_self _)) hlive hholds
    · exact L.res t _ _ hholds hc.inv hok hguar
        (hc.free fun u hu => hfree u (List.mem_append_left _ hu))

/-- A statement of a thread preserves soundness. -/
lemma Sound.next_step (L : S.Lawful D kind compat) {c : Config ι ε σ τ}
    (hc : S.Sound D compat c) {i : ℕ} {t : τ} {l : ι} {k : σ → Proc ι ε σ Unit}
    (hget : c.threads[i]? = some ⟨t, .act l k⟩) (hok : D.ok l c.state) :
    S.Sound D compat ⟨S.exec l c.state, c.threads.set i ⟨t, k c.state⟩⟩ := by
  obtain ⟨hi, hgeti⟩ := List.getElem?_eq_some_iff.mp hget
  have hmem : (⟨t, .act l k⟩ : Thread ι ε σ τ) ∈ c.threads := hgeti ▸ List.getElem_mem hi
  obtain ⟨hguar, hrest⟩ := hc.keeps _ hmem rfl c.state (L.refl _ _) ⟨hc.inv, hok⟩
  have hpair : ∀ j (hj : j < c.threads.length), j ≠ i → c.threads[j].live →
      compat t c.threads[j].task := by
    intro j hj hji hlive
    have hpw := List.pairwise_iff_getElem.mp hc.compat
    rcases Nat.lt_or_gt_of_ne hji with hlt | hlt
    · have := hpw j i hj hi hlt hlive (by rw [hgeti]; rfl)
      rw [hgeti] at this
      exact L.symm this
    · have := hpw i j hi hj hlt (by rw [hgeti]; rfl) hlive
      rwa [hgeti] at this
  have hcases : ∀ u ∈ c.threads.set i ⟨t, k c.state⟩, u = ⟨t, k c.state⟩ ∨
      ∃ j, ∃ hj : j < c.threads.length, j ≠ i ∧ u = c.threads[j] := by
    intro u hu
    obtain ⟨j, hj, rfl⟩ := List.getElem_of_mem hu
    rw [List.length_set] at hj
    by_cases hji : j = i
    · subst hji
      exact Or.inl (List.getElem_set_self _)
    · exact Or.inr ⟨j, hj, hji, List.getElem_set_ne (Ne.symm hji) _⟩
  refine ⟨L.inv t l _ hc.inv hok hguar, fun u hu hlive => ?_, fun u hu hlive => ?_, ?_,
    fun hfree => ?_⟩
  · rcases hcases u hu with rfl | ⟨j, hj, hji, rfl⟩
    · exact hrest
    · exact (hc.keeps _ (List.getElem_mem hj) hlive).rely L
        (L.rely t _ l _ (hpair j hj hji hlive) hc.inv hok hguar)
  · rcases hcases u hu with rfl | ⟨j, hj, hji, rfl⟩
    · exact L.here t t l _ hc.inv hok hguar (hc.here _ hmem rfl)
    · exact L.here t _ l _ hc.inv hok hguar (hc.here _ (List.getElem_mem hj) hlive)
  · refine List.pairwise_iff_getElem.mpr fun x y hx hy hxy => ?_
    rw [List.length_set] at hx hy
    have hpw := List.pairwise_iff_getElem.mp hc.compat x y hx hy hxy
    rw [List.getElem_set, List.getElem_set]
    split_ifs with h1 h2 h2
    · omega
    · subst h1
      exact fun _ hl => hpair y hy (by omega) hl
    · subst h2
      exact fun hl _ => L.symm (hpair x hx (by omega) hl)
    · exact hpw
  · by_cases hholds : D.holds t
    · -- the thread holds the lock, so it has ended with this statement
      have hself : (⟨t, k c.state⟩ : Thread ι ε σ τ) ∈ c.threads.set i ⟨t, k c.state⟩ :=
        List.mem_iff_getElem.mpr ⟨i, by rw [List.length_set]; exact hi, List.getElem_set_self _⟩
      exact Discipline.Keeps.res L (t := ⟨t, k c.state⟩) hrest
        (fun hlive => hfree _ hself hlive hholds) hholds
    · refine L.res t l _ hholds hc.inv hok hguar (hc.free fun u hu hlive => ?_)
      obtain ⟨j, hj, rfl⟩ := List.getElem_of_mem hu
      by_cases hji : j = i
      · subst hji
        rw [hgeti]
        exact hholds
      · refine hfree _ (List.mem_iff_getElem.mpr ⟨j, by rw [List.length_set]; exact hj, ?_⟩) hlive
        exact List.getElem_set_ne (Ne.symm hji) _

/-- A move of the environment preserves soundness. -/
lemma Sound.next_env (L : S.Lawful D kind compat) {c : Config ι ε σ τ}
    (hc : S.Sound D compat c) {l : ι} (hmv : S.moves l c.state = true) (hok : D.ok l c.state) :
    S.Sound D compat ⟨S.exec l c.state, c.threads⟩ := by
  obtain ⟨hinv, hres, htasks⟩ := L.env l _ hmv hc.inv hok
  refine ⟨hinv, fun u hu hlive => ?_, fun u hu hlive => ?_, hc.compat, fun hfree => ?_⟩
  · exact (hc.keeps u hu hlive).rely L (htasks u.task).1
  · exact (htasks u.task).2 (hc.here u hu hlive)
  · exact hres (hc.free hfree)

/-- One decision preserves soundness. -/
lemma Sound.next (L : S.Lawful D kind compat) {c : Config ι ε σ τ} (hc : S.Sound D compat c)
    {a : Action ι τ} (hkind : Starts kind c a) (ha : S.Meets D.ok c a) :
    S.Sound D compat (S.next c a) := by
  cases a with
  | start t =>
      by_cases hadm : S.admits c.live t c.state = true
      · simp only [System.next, hadm, if_true]
        exact hc.next_start L hkind hadm (ha _ (by simp [label, hadm]))
      · rw [System.next, if_neg hadm]
        exact hc
  | env l =>
      by_cases hmv : S.moves l c.state = true
      · simp only [System.next, hmv, if_true]
        exact hc.next_env L hmv (ha l (by simp [label, hmv]))
      · rw [System.next, if_neg hmv]
        exact hc
  | step i =>
      simp only [System.next]
      split
      · rename_i t l k hget
        exact hc.next_step L hget (ha l (by simp [label, hget]))
      · exact hc

/-- **Soundness of the discipline.**  When every task of a kind keeps its discipline,
a schedule of admissible statements that starts only such tasks leads to a sound
configuration. -/
theorem after_sound (L : S.Lawful D kind compat) {c : Config ι ε σ τ} (hc : S.Sound D compat c) :
    ∀ as, S.Along (Starts kind) c as → S.Along (S.Meets D.ok) c as →
      S.Sound D compat (S.after c as) := by
  intro as
  induction as generalizing c with
  | nil => exact fun _ _ => hc
  | cons a as ih => exact fun hk h => ih (hc.next L hk.1 h.1) hk.2 h.2

/-- Every statement a thread executes in a sound configuration meets the
guarantee of its task. -/
lemma Sound.guar (L : S.Lawful D kind compat) {c : Config ι ε σ τ} (hc : S.Sound D compat c)
    {i : ℕ} {t : τ} {l : ι} {k : σ → Proc ι ε σ Unit} (hget : c.threads[i]? = some ⟨t, .act l k⟩)
    (hok : D.ok l c.state) : D.guar t l c.state :=
  (hc.keeps _ (List.mem_of_getElem? hget) rfl c.state (L.refl _ _) ⟨hc.inv, hok⟩).1

/-- An executed statement meets the guarantee of a task, or it is a move of the
environment. -/
lemma Sound.of_label (L : S.Lawful D kind compat) {c : Config ι ε σ τ} (hc : S.Sound D compat c)
    {a : Action ι τ} {l : ι} (hkind : Starts kind c a) (hl : S.label c a = some l)
    (hok : D.ok l c.state) : (∃ t, D.guar t l c.state) ∨ S.moves l c.state = true := by
  cases a with
  | start t =>
      simp only [label] at hl
      split_ifs at hl with hadm
      obtain rfl := Option.some.inj hl
      exact Or.inl ⟨t, (hc.start L hkind hadm hok).2.1⟩
  | env l' =>
      simp only [label] at hl
      split_ifs at hl with hmv
      obtain rfl := Option.some.inj hl
      exact Or.inr hmv
  | step i =>
      simp only [label] at hl
      split at hl
      · rename_i t l' k hget
        obtain rfl := Option.some.inj hl
        exact Or.inl ⟨t, hc.guar L hget hok⟩
      · exact absurd hl (by simp)

/-- A schedule from a sound configuration executes statements that meet the guarantee of
a task or that the environment may execute. -/
theorem along_guar (L : S.Lawful D kind compat) {c : Config ι ε σ τ} (hc : S.Sound D compat c)
    {as : List (Action ι τ)} (hkind : S.Along (Starts kind) c as)
    (hok : S.Along (S.Meets D.ok) c as) :
    S.Along (S.Meets fun l s => (∃ t, D.guar t l s) ∨ S.moves l s = true) c as := by
  refine along_iff.mpr fun xs a ys heq l hl => ?_
  have hkinds := along_append.mp (heq ▸ hkind)
  have hoks := along_append.mp (heq ▸ hok)
  exact (after_sound L hc xs hkinds.1 hoks.1).of_label L hkinds.2.1 hl (hoks.2.1 l hl)

/-- The invariant holds in front of every statement of such a schedule. -/
theorem along_inv (L : S.Lawful D kind compat) {c : Config ι ε σ τ} (hc : S.Sound D compat c)
    {as : List (Action ι τ)} (hkind : S.Along (Starts kind) c as)
    (hok : S.Along (S.Meets D.ok) c as) : S.Along (S.Meets fun _ s => D.inv s) c as := by
  refine along_iff.mpr fun xs a ys heq _ _ => ?_
  have hkinds := along_append.mp (heq ▸ hkind)
  have hoks := along_append.mp (heq ▸ hok)
  exact (after_sound L hc xs hkinds.1 hoks.1).inv

/-- A configuration without threads is sound as soon as the invariant and what the lock
protects hold. -/
lemma Sound.fresh {s : σ} (h : D.inv s) (hres : D.res s) : S.Sound D compat (Config.fresh s) :=
  ⟨h, by simp [Config.fresh], by simp [Config.fresh], by simp [Config.fresh], fun _ => hres⟩

end System

end Concurrency
