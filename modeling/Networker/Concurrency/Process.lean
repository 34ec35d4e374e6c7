/-
Processes as trees of statements.

A process issues one statement at a time, sees the state the statement was
executed in, and continues: everything that happens between two statements is
pure.  The meaning of a statement is a parameter `exec`, so that facts about
what one statement does to the state are proved once and hold in every process.

* `Proc`, its monad, `Proc.rescue` (a handler for raised errors), the loops `Proc.each`,
  `Proc.count` and `Proc.fold`, and `Proc.via` (a process inside a larger state);
* `Proc.run`, `Proc.trace`: the sequential meaning and the statements executed;
* `Proc.Ends`: a process that runs alone returns with a postcondition;
* `Proc.Issues`: every statement a process may ever issue satisfies a predicate;
* `Proc.Safe`: the rely-guarantee judgement: whatever a rely relation does
  between two statements, every statement meets the guarantee.
-/
import Mathlib.Tactic

namespace Concurrency

/-- A process over statements `ι`, errors `ε` and states `σ` with results in `α`.
The continuation of a statement sees the state before the statement. -/
inductive Proc (ι ε σ α : Type) : Type where
  | ret (a : α)
  | raise (e : ε)
  | act (l : ι) (next : σ → Proc ι ε σ α)

namespace Proc

variable {ι ε σ α β γ : Type}

/-! ### Sequencing, handlers and loops -/

/-- Sequential composition; an error skips the continuation. -/
def bind : Proc ι ε σ α → (α → Proc ι ε σ β) → Proc ι ε σ β
  | .ret a, f => f a
  | .raise e, _ => .raise e
  | .act l k, f => .act l fun s => (k s).bind f

instance : Monad (Proc ι ε σ) where
  pure := .ret
  bind := .bind

@[simp] lemma pure_eq (a : α) : (pure a : Proc ι ε σ α) = .ret a := rfl

@[simp] lemma ret_bind (a : α) (f : α → Proc ι ε σ β) : (Proc.ret a >>= f) = f a := rfl

@[simp] lemma raise_bind (e : ε) (f : α → Proc ι ε σ β) :
    ((Proc.raise e : Proc ι ε σ α) >>= f) = .raise e := rfl

@[simp] lemma act_bind (l : ι) (k : σ → Proc ι ε σ α) (f : α → Proc ι ε σ β) :
    (Proc.act l k >>= f) = .act l fun s => k s >>= f := rfl

lemma bind_assoc (p : Proc ι ε σ α) (f : α → Proc ι ε σ β) (g : β → Proc ι ε σ γ) :
    (p >>= f) >>= g = p >>= fun a => f a >>= g := by
  induction p with
  | ret a => rfl
  | raise e => rfl
  | act l k ih => simp only [act_bind, ih]

/-- Run a handler where the process raises. -/
def rescue : Proc ι ε σ α → (ε → Proc ι ε σ α) → Proc ι ε σ α
  | .ret a, _ => .ret a
  | .raise e, h => h e
  | .act l k, h => .act l fun s => (k s).rescue h

/-- Issue a statement and read a result off the state it was executed in. -/
def issue (l : ι) (result : σ → α) : Proc ι ε σ α := .act l fun s => .ret (result s)

/-- Lift a pure computation that may fail. -/
def lift : Except ε α → Proc ι ε σ α
  | .ok a => .ret a
  | .error e => .raise e

/-- Run a body for every element of a list. -/
def each (f : β → Proc ι ε σ Unit) : List β → Proc ι ε σ Unit
  | [] => .ret ()
  | b :: bs => f b >>= fun _ => each f bs

/-- Run a body for every element of a list and count the elements whose body
returns `true`. -/
def count (f : β → Proc ι ε σ Bool) : List β → Proc ι ε σ ℕ
  | [] => .ret 0
  | b :: bs => f b >>= fun r => count f bs >>= fun n => .ret (n + r.toNat)

/-- Run a body for every element of a list and hand a value on. -/
def fold (f : γ → β → Proc ι ε σ γ) : γ → List β → Proc ι ε σ γ
  | c, [] => .ret c
  | c, b :: bs => f c b >>= fun c' => fold f c' bs

/-- Run a process inside a larger state: its statements are put among the ones there, and
it raises where its view of the state fails. -/
def via {ι' ε' σ' : Type} (put : ι → ι') (err : ε → ε') (view : ι → σ' → Except ε' σ) :
    Proc ι ε σ α → Proc ι' ε' σ' α
  | .ret a => .ret a
  | .raise e => .raise (err e)
  | .act l k => .act (put l) fun s =>
      match view l s with
      | .ok t => via put err view (k t)
      | .error e => .raise e

/-! ### The sequential meaning -/

variable (exec : ι → σ → σ)

/-- The result and the final state of a process that runs alone. -/
def run : Proc ι ε σ α → σ → Except ε α × σ
  | .ret a, s => (.ok a, s)
  | .raise e, s => (.error e, s)
  | .act l k, s => run (k s) (exec l s)

/-- The statements a process executes when it runs alone. -/
def trace : Proc ι ε σ α → σ → List ι
  | .ret _, _ => []
  | .raise _, _ => []
  | .act l k, s => l :: trace (k s) (exec l s)

@[simp] lemma run_ret (a : α) (s : σ) : run exec (.ret a : Proc ι ε σ α) s = (.ok a, s) := rfl

@[simp] lemma run_raise (e : ε) (s : σ) :
    run exec (.raise e : Proc ι ε σ α) s = (.error e, s) := rfl

@[simp] lemma run_act (l : ι) (k : σ → Proc ι ε σ α) (s : σ) :
    run exec (.act l k) s = run exec (k s) (exec l s) := rfl

@[simp] lemma run_issue (l : ι) (g : σ → α) (s : σ) :
    run exec (issue l g : Proc ι ε σ α) s = (.ok (g s), exec l s) := rfl

@[simp] lemma trace_ret (a : α) (s : σ) : trace exec (.ret a : Proc ι ε σ α) s = [] := rfl

@[simp] lemma trace_raise (e : ε) (s : σ) :
    trace exec (.raise e : Proc ι ε σ α) s = [] := rfl

@[simp] lemma trace_act (l : ι) (k : σ → Proc ι ε σ α) (s : σ) :
    trace exec (.act l k) s = l :: trace exec (k s) (exec l s) := rfl

@[simp] lemma trace_issue (l : ι) (g : σ → α) (s : σ) :
    trace exec (issue l g : Proc ι ε σ α) s = [l] := rfl

/-- Running a sequence: the second process starts where the first one returned. -/
lemma run_bind (p : Proc ι ε σ α) (f : α → Proc ι ε σ β) (s : σ) :
    run exec (p >>= f) s =
      match run exec p s with
      | (.ok a, s') => run exec (f a) s'
      | (.error e, s') => (.error e, s') := by
  induction p generalizing s with
  | ret a => rfl
  | raise e => rfl
  | act l k ih => simp only [act_bind, run_act, ih]

lemma run_bind_ok {p : Proc ι ε σ α} {f : α → Proc ι ε σ β} {s s' : σ} {a : α}
    (h : run exec p s = (.ok a, s')) : run exec (p >>= f) s = run exec (f a) s' := by
  rw [run_bind, h]

lemma run_bind_error {p : Proc ι ε σ α} {f : α → Proc ι ε σ β} {s s' : σ} {e : ε}
    (h : run exec p s = (.error e, s')) : run exec (p >>= f) s = (.error e, s') := by
  rw [run_bind, h]

/-- The trace of a sequence. -/
lemma trace_bind (p : Proc ι ε σ α) (f : α → Proc ι ε σ β) (s : σ) :
    trace exec (p >>= f) s = trace exec p s ++
      match run exec p s with
      | (.ok a, s') => trace exec (f a) s'
      | (.error _, _) => [] := by
  induction p generalizing s with
  | ret a => rfl
  | raise e => rfl
  | act l k ih => simp only [act_bind, trace_act, run_act, ih, List.cons_append]

/-- A statement of a sequence is executed by the first process, or by the second one
after the first has returned. -/
lemma mem_trace_bind {p : Proc ι ε σ α} {f : α → Proc ι ε σ β} {s : σ} {l : ι} :
    l ∈ trace exec (p >>= f) s ↔ l ∈ trace exec p s ∨
      ∃ a s', run exec p s = (.ok a, s') ∧ l ∈ trace exec (f a) s' := by
  rw [trace_bind, List.mem_append]
  refine or_congr Iff.rfl ?_
  rcases run exec p s with ⟨_ | a, s'⟩
  · simp
  · constructor
    · exact fun h => ⟨a, s', rfl, h⟩
    · rintro ⟨b, t, heq, h⟩
      rw [Prod.mk.injEq, Except.ok.injEq] at heq
      obtain ⟨rfl, rfl⟩ := heq
      exact h

lemma run_rescue (p : Proc ι ε σ α) (h : ε → Proc ι ε σ α) (s : σ) :
    run exec (p.rescue h) s =
      match run exec p s with
      | (.ok a, s') => (.ok a, s')
      | (.error e, s') => run exec (h e) s' := by
  induction p generalizing s with
  | ret a => rfl
  | raise e => rfl
  | act l k ih => simp only [rescue, run_act, ih]

/-- A property that every executed statement preserves holds in the final state. -/
lemma run_preserves {P : σ → Prop} (p : Proc ι ε σ α) (s : σ)
    (step : ∀ l ∈ trace exec p s, ∀ t, P t → P (exec l t)) (hs : P s) :
    P (run exec p s).2 := by
  induction p generalizing s with
  | ret a => exact hs
  | raise e => exact hs
  | act l k ih =>
      refine ih s (exec l s) (fun l' hl' => ?_) ?_
      · exact step l' (by simp [hl'])
      · exact step l (by simp) s hs

/-! ### The statements a process may issue -/

/-- Every statement the process may issue, in whatever states, satisfies `P`. -/
def Issues (P : ι → Prop) : Proc ι ε σ α → Prop
  | .ret _ => True
  | .raise _ => True
  | .act l k => P l ∧ ∀ s, Issues P (k s)

variable {P : ι → Prop}

@[simp] lemma issues_ret (a : α) : Issues P (.ret a : Proc ι ε σ α) := trivial

@[simp] lemma issues_raise (e : ε) : Issues P (.raise e : Proc ι ε σ α) := trivial

@[simp] lemma issues_act (l : ι) (k : σ → Proc ι ε σ α) :
    Issues P (.act l k) ↔ P l ∧ ∀ s, Issues P (k s) := Iff.rfl

@[simp] lemma issues_issue (l : ι) (g : σ → α) :
    Issues P (issue l g : Proc ι ε σ α) ↔ P l := by
  simp [issue]

@[simp] lemma issues_issue_bind (l : ι) (g : σ → α) (f : α → Proc ι ε σ β) :
    Issues P (issue l g >>= f) ↔ P l ∧ ∀ s, Issues P (f (g s)) := Iff.rfl

@[simp] lemma issues_lift (x : Except ε α) : Issues P (lift x : Proc ι ε σ α) := by
  cases x <;> trivial

lemma Issues.bind {p : Proc ι ε σ α} {f : α → Proc ι ε σ β} (hp : Issues P p)
    (hf : ∀ a, Issues P (f a)) : Issues P (p >>= f) := by
  induction p with
  | ret a => exact hf a
  | raise e => trivial
  | act l k ih => exact ⟨hp.1, fun s => ih s (hp.2 s)⟩

lemma Issues.rescue {p : Proc ι ε σ α} {h : ε → Proc ι ε σ α} (hp : Issues P p)
    (hh : ∀ e, Issues P (h e)) : Issues P (p.rescue h) := by
  induction p with
  | ret a => trivial
  | raise e => exact hh e
  | act l k ih => exact ⟨hp.1, fun s => ih s (hp.2 s)⟩

lemma Issues.each {f : β → Proc ι ε σ Unit} (bs : List β) (hf : ∀ b ∈ bs, Issues P (f b)) :
    Issues P (each f bs) := by
  induction bs with
  | nil => trivial
  | cons b bs ih =>
      exact (hf b (by simp)).bind fun _ => ih fun c hc => hf c (by simp [hc])

lemma Issues.count {f : β → Proc ι ε σ Bool} (bs : List β) (hf : ∀ b ∈ bs, Issues P (f b)) :
    Issues P (count f bs) := by
  induction bs with
  | nil => trivial
  | cons b bs ih =>
      exact (hf b (by simp)).bind fun _ => (ih fun c hc => hf c (by simp [hc])).bind
        fun _ => trivial

/-- A process inside a larger state issues what its statements are put as. -/
lemma Issues.via {ι' ε' σ' : Type} {P' : ι' → Prop} {put : ι → ι'} {err : ε → ε'}
    {view : ι → σ' → Except ε' σ} (hput : ∀ l, P' (put l)) (p : Proc ι ε σ α) :
    Issues P' (p.via put err view) := by
  induction p with
  | ret a => trivial
  | raise e => trivial
  | act l k ih =>
      rw [Proc.via, issues_act]
      refine ⟨hput l, fun s => ?_⟩
      split
      · exact ih _
      · trivial

lemma Issues.mono {Q : ι → Prop} (h : ∀ l, P l → Q l) {p : Proc ι ε σ α} (hp : Issues P p) :
    Issues Q p := by
  induction p with
  | ret a => trivial
  | raise e => trivial
  | act l k ih => exact ⟨h l hp.1, fun s => ih s (hp.2 s)⟩

/-- A process that runs alone executes only statements it may issue. -/
lemma Issues.trace {p : Proc ι ε σ α} (hp : Issues P p) (s : σ) :
    ∀ l ∈ trace exec p s, P l := by
  induction p generalizing s with
  | ret a => simp
  | raise e => simp
  | act l k ih =>
      intro l' hl'
      rcases List.mem_cons.mp hl' with rfl | h
      · exact hp.1
      · exact ih s (hp.2 s) _ l' h

/-! ### Sequential correctness -/

/-- Run alone from `s`, the process returns, with a result and a state that satisfy `Q`. -/
def Ends (p : Proc ι ε σ α) (s : σ) (Q : α → σ → Prop) : Prop :=
  ∃ a s', run exec p s = (.ok a, s') ∧ Q a s'

variable {exec} {Q : α → σ → Prop}

/-- What every statement a process may issue preserves holds after the process. -/
lemma Issues.run_preserves {I : σ → Prop} {p : Proc ι ε σ α} (hp : Issues P p)
    (keep : ∀ l s, P l → I s → I (exec l s)) {s : σ} (hs : I s) : I (run exec p s).2 :=
  Proc.run_preserves exec p s (fun l hl t => keep l t (hp.trace exec s l hl)) hs

lemma ends_ret {a : α} {s : σ} : Ends exec (.ret a : Proc ι ε σ α) s Q ↔ Q a s := by
  simp [Ends]

lemma ends_issue {l : ι} {g : σ → α} {s : σ} :
    Ends exec (issue l g : Proc ι ε σ α) s Q ↔ Q (g s) (exec l s) := by
  simp [Ends]

lemma ends_issue_bind {l : ι} {g : σ → α} {f : α → Proc ι ε σ β} {s : σ} {Q' : β → σ → Prop} :
    Ends exec (issue l g >>= f) s Q' ↔ Ends exec (f (g s)) (exec l s) Q' := Iff.rfl

lemma Ends.mono {p : Proc ι ε σ α} {s : σ} {Q' : α → σ → Prop} (hQ : ∀ a t, Q a t → Q' a t)
    (h : Ends exec p s Q) : Ends exec p s Q' := by
  obtain ⟨a, t, hrun, hpost⟩ := h
  exact ⟨a, t, hrun, hQ a t hpost⟩

lemma Ends.bind {p : Proc ι ε σ α} {f : α → Proc ι ε σ β} {s : σ} {Q' : β → σ → Prop}
    (hp : Ends exec p s Q) (hf : ∀ a s', Q a s' → Ends exec (f a) s' Q') :
    Ends exec (p >>= f) s Q' := by
  obtain ⟨a, s', hrun, hQ⟩ := hp
  obtain ⟨b, s'', hrun', hQ'⟩ := hf a s' hQ
  exact ⟨b, s'', (run_bind_ok exec hrun).trans hrun', hQ'⟩

/-- A sequence behind a process with a known result. -/
lemma ends_bind_of_run_ok {p : Proc ι ε σ α} {f : α → Proc ι ε σ β} {s s' : σ} {a : α}
    {Q' : β → σ → Prop} (h : run exec p s = (.ok a, s')) :
    Ends exec (p >>= f) s Q' ↔ Ends exec (f a) s' Q' := by
  rw [Ends, run_bind_ok exec h, Ends]

/-- A sequence behind a process that raises does not return. -/
lemma not_ends_bind_of_run_error {p : Proc ι ε σ α} {f : α → Proc ι ε σ β} {s s' : σ} {e : ε}
    {Q' : β → σ → Prop} (h : run exec p s = (.error e, s')) : ¬ Ends exec (p >>= f) s Q' := by
  rintro ⟨b, t, hrun, -⟩
  rw [run_bind_error exec h] at hrun
  exact absurd (congrArg Prod.fst hrun) (by simp)

/-- A loop whose body returns and keeps an invariant returns with the invariant. -/
lemma Ends.count {I : σ → Prop} {f : β → Proc ι ε σ Bool} (bs : List β)
    (hf : ∀ b ∈ bs, ∀ s, I s → Ends exec (f b) s fun _ s' => I s') {s : σ} (hs : I s) :
    Ends exec (Proc.count f bs) s fun _ s' => I s' := by
  induction bs generalizing s with
  | nil => exact ⟨0, s, rfl, hs⟩
  | cons b bs ih =>
      refine (hf b (by simp) s hs).bind fun r s' hs' => ?_
      refine (ih (fun c hc => hf c (by simp [hc])) hs').bind fun n s'' hs'' => ?_
      exact ends_ret.mpr hs''

/-- A loop whose body returns and moves on an assertion about the elements it is through
with and the number of those that have counted. -/
lemma Ends.count_through {I : List β → ℕ → σ → Prop} {f : β → Proc ι ε σ Bool} {all : List β}
    (body : ∀ done b rest n s, all = done ++ b :: rest → I done n s →
      Ends exec (f b) s fun r s' => I (done ++ [b]) (n + r.toNat) s') (bs : List β) :
    ∀ {done n s}, all = done ++ bs → I done n s →
      Ends exec (Proc.count f bs) s fun m s' => I all (n + m) s' := by
  induction bs with
  | nil =>
      intro done n s hall hs
      rw [List.append_nil] at hall
      exact ends_ret.mpr (hall ▸ hs)
  | cons b bs ih =>
      intro done n s hall hs
      refine (body done b bs n s hall hs).bind fun r s' hs' => ?_
      refine (ih (by rw [hall, List.append_assoc, List.singleton_append]) hs').bind
        fun m s'' hs'' => ends_ret.mpr ?_
      have hsum : n + r.toNat + m = n + (m + r.toNat) := by omega
      rwa [hsum] at hs''

/-- A loop returns exactly if each of its bodies does, when that is decided by a condition
on the element in every state the loop can reach. -/
lemma ends_count_iff {I : σ → Prop} {C : β → Prop} {f : β → Proc ι ε σ Bool} (bs : List β)
    (keep : ∀ b s, I s → I (run exec (f b) s).2)
    (body : ∀ b ∈ bs, ∀ s, I s → (Ends exec (f b) s (fun _ _ => True) ↔ C b)) {s : σ} (hs : I s) :
    Ends exec (Proc.count f bs) s (fun _ _ => True) ↔ ∀ b ∈ bs, C b := by
  induction bs generalizing s with
  | nil => exact iff_of_true (ends_ret.mpr trivial) (by simp)
  | cons b bs ih =>
      have hb := body b (by simp) s hs
      have hkeep := keep b s hs
      rw [List.forall_mem_cons, ← hb, Proc.count]
      rcases hrun : run exec (f b) s with ⟨e | r, s'⟩
      · refine iff_of_false (not_ends_bind_of_run_error hrun) ?_
        rintro ⟨⟨a, t, hok, -⟩, -⟩
        rw [hrun] at hok
        exact absurd (congrArg Prod.fst hok) (by simp)
      · rw [hrun] at hkeep
        have hrest := ih (fun c hc => body c (by simp [hc])) hkeep
        rw [ends_bind_of_run_ok hrun, ← hrest]
        constructor
        · rintro ⟨a, t, hok, -⟩
          refine ⟨⟨r, s', hrun, trivial⟩, ?_⟩
          rw [run_bind] at hok
          rcases hbs : run exec (Proc.count f bs) s' with ⟨e | n, s''⟩
          · rw [hbs] at hok
            exact absurd (congrArg Prod.fst hok) (by simp)
          · exact ⟨n, s'', hbs, trivial⟩
        · rintro ⟨-, hends⟩
          exact hends.bind fun n t _ => ends_ret.mpr trivial

variable (exec) in
/-- The elements whose body a loop enters when it runs alone: it stops where one raises. -/
def entered (f : β → Proc ι ε σ Bool) : List β → σ → List β
  | [], _ => []
  | b :: bs, s => b :: match run exec (f b) s with
      | (.ok _, s') => entered f bs s'
      | (.error _, _) => []

/-- A loop that returns has entered the body of every element. -/
lemma Ends.entered {f : β → Proc ι ε σ Bool} {bs : List β} {s : σ} {Q : ℕ → σ → Prop}
    (h : Ends exec (Proc.count f bs) s Q) : Proc.entered exec f bs s = bs := by
  induction bs generalizing s Q with
  | nil => rfl
  | cons b bs ih =>
      obtain ⟨n, t, hrun, -⟩ := h
      rw [Proc.count, run_bind] at hrun
      rw [Proc.entered]
      rcases hb : run exec (f b) s with ⟨_ | r, s'⟩
      · rw [hb] at hrun
        exact absurd (congrArg Prod.fst hrun) (by simp)
      · rw [hb] at hrun
        dsimp only at hrun ⊢
        rw [run_bind] at hrun
        rcases hbs : run exec (Proc.count f bs) s' with ⟨_ | m, s''⟩
        · rw [hbs] at hrun
          exact absurd (congrArg Prod.fst hrun) (by simp)
        · rw [ih (Q := fun _ _ => True) ⟨m, s'', hbs, trivial⟩]

/-- A loop over a list with an element whose body establishes `J`, when every body keeps
the invariant before it and `J` after it. -/
lemma Ends.count_mem {I J : σ → Prop} {f : β → Proc ι ε σ Bool} {b : β} (bs : List β) (hb : b ∈ bs)
    (hI : ∀ c ∈ bs, ∀ s, I s → Ends exec (f c) s fun _ s' => I s')
    (hJ : ∀ c ∈ bs, ∀ s, J s → Ends exec (f c) s fun _ s' => J s')
    (hest : ∀ s, I s → Ends exec (f b) s fun _ s' => J s') {s : σ} (hs : I s) :
    Ends exec (Proc.count f bs) s fun _ s' => J s' := by
  induction bs generalizing s with
  | nil => exact absurd hb (by simp)
  | cons c bs ih =>
      have hrest : ∀ d ∈ bs, d ∈ c :: bs := fun d hd => List.mem_cons_of_mem c hd
      rcases List.mem_cons.mp hb with rfl | hmem
      · refine (hest s hs).bind fun r s' hs' => ?_
        refine (Ends.count bs (fun d hd => hJ d (hrest d hd)) hs').bind fun n s'' hs'' => ?_
        exact ends_ret.mpr hs''
      · refine (hI c (by simp) s hs).bind fun r s' hs' => ?_
        refine (ih hmem (fun d hd => hI d (hrest d hd)) (fun d hd => hJ d (hrest d hd))
          hs').bind fun n s'' hs'' => ?_
        exact ends_ret.mpr hs''

/-! ### Rely and guarantee -/

/-- The process meets the guarantee `G` from `s` on, whatever the rely relation
`R` does to the state before each of its statements; `ok` is what may be assumed
of the statement and of the state it is executed in.  Where the process returns,
`Q` holds, and where it raises, `E`. -/
def Safe (exec : ι → σ → σ) (R : σ → σ → Prop) (ok G : ι → σ → Prop) (E : ε → σ → Prop)
    (Q : α → σ → Prop) : Proc ι ε σ α → σ → Prop
  | .ret a, s => ∀ s', R s s' → Q a s'
  | .raise e, s => ∀ s', R s s' → E e s'
  | .act l k, s => ∀ s', R s s' → ok l s' → G l s' ∧ Safe exec R ok G E Q (k s') (exec l s')

/-- The rely relation keeps an assertion. -/
def Stable (R : σ → σ → Prop) (I : σ → Prop) : Prop := ∀ s s', R s s' → I s → I s'

variable {R : σ → σ → Prop} {ok G : ι → σ → Prop} {E : ε → σ → Prop}

/-- The judgement is stable under the rely relation. -/
lemma Safe.rely (trans : ∀ {s t u}, R s t → R t u → R s u) {p : Proc ι ε σ α} {s s' : σ}
    (h : Safe exec R ok G E Q p s) (hr : R s s') : Safe exec R ok G E Q p s' := by
  cases p with
  | ret a => exact fun t ht => h t (trans hr ht)
  | raise e => exact fun t ht => h t (trans hr ht)
  | act l k => exact fun t ht => h t (trans hr ht)

/-- A returned result that satisfies a stable postcondition. -/
lemma Stable.safe_ret {I : σ → Prop} (hI : Stable R I) {a : α} {s : σ} (hs : I s) :
    Safe exec R ok G E (fun _ => I) (.ret a : Proc ι ε σ α) s := fun s' hr => hI s s' hr hs

/-- A statement in front of a process, entered with a stable assertion. -/
lemma Stable.safe_issue_bind {I : σ → Prop} (hI : Stable R I) {l : ι} {g : σ → α}
    {f : α → Proc ι ε σ β} {Q : β → σ → Prop} {s : σ} (hs : I s)
    (step : ∀ t, I t → ok l t → G l t ∧ Safe exec R ok G E Q (f (g t)) (exec l t)) :
    Safe exec R ok G E Q (issue l g >>= f) s := fun t hr hok => step t (hI s t hr hs) hok

/-- Sequencing: the second process is safe wherever the first one returns. -/
lemma Safe.bind (refl : ∀ s, R s s) {Q' : β → σ → Prop} {p : Proc ι ε σ α}
    {f : α → Proc ι ε σ β} {s : σ} (h : Safe exec R ok G E Q p s)
    (hf : ∀ a s', Q a s' → Safe exec R ok G E Q' (f a) s') :
    Safe exec R ok G E Q' (p >>= f) s := by
  induction p generalizing s with
  | ret a => exact hf a s (h s (refl s))
  | raise e => exact h
  | act l k ih =>
      intro s' hr hok
      obtain ⟨hg, hk⟩ := h s' hr hok
      exact ⟨hg, ih s' hk⟩

/-- A handler that is safe wherever the process raises. -/
lemma Safe.rescue (refl : ∀ s, R s s) {E' : ε → σ → Prop} {h : ε → Proc ι ε σ α}
    (hh : ∀ e s, E e s → Safe exec R ok G E' Q (h e) s)
    {p : Proc ι ε σ α} {s : σ} (hp : Safe exec R ok G E Q p s) :
    Safe exec R ok G E' Q (p.rescue h) s := by
  induction p generalizing s with
  | ret a => exact hp
  | raise e => exact hh e s (hp s (refl s))
  | act l k ih =>
      intro s' hr hok
      obtain ⟨hg, hk⟩ := hp s' hr hok
      exact ⟨hg, ih s' hk⟩

lemma Safe.mono {E' : ε → σ → Prop} {Q' : α → σ → Prop} (hE : ∀ e s, E e s → E' e s)
    (hQ : ∀ a s, Q a s → Q' a s) {p : Proc ι ε σ α} {s : σ} (h : Safe exec R ok G E Q p s) :
    Safe exec R ok G E' Q' p s := by
  induction p generalizing s with
  | ret a => exact fun s' hr => hQ a s' (h s' hr)
  | raise e => exact fun s' hr => hE e s' (h s' hr)
  | act l k ih =>
      intro s' hr hok
      obtain ⟨hg, hk⟩ := h s' hr hok
      exact ⟨hg, ih s' hk⟩

/-- Less to put up with, and less to owe. -/
lemma Safe.weaken {T : σ → σ → Prop} {H : ι → σ → Prop} (hR : ∀ s s', T s s' → R s s')
    (hG : ∀ l s, G l s → H l s) {p : Proc ι ε σ α} {s : σ} (h : Safe exec R ok G E Q p s) :
    Safe exec T ok H E Q p s := by
  induction p generalizing s with
  | ret a => exact fun s' hr => h s' (hR s s' hr)
  | raise e => exact fun s' hr => h s' (hR s s' hr)
  | act l k ih =>
      intro s' hr hok
      obtain ⟨hg, hk⟩ := h s' (hR s s' hr) hok
      exact ⟨hG l s' hg, ih s' hk⟩

/-- A loop with an assertion about the elements that are left. -/
lemma Safe.count (refl : ∀ s, R s s) {I : List β → σ → Prop} (hI : Stable R (I []))
    {f : β → Proc ι ε σ Bool}
    (body : ∀ b bs s, I (b :: bs) s → Safe exec R ok G E (fun _ => I bs) (f b) s) :
    ∀ bs s, I bs s → Safe exec R ok G E (fun _ => I []) (Proc.count f bs) s
  | [], _, hs => hI.safe_ret hs
  | b :: bs, s, hs => (body b bs s hs).bind refl fun _ t ht =>
      (Safe.count refl hI body bs t ht).bind refl fun _ _ hu => hI.safe_ret hu

/-- A loop that hands a value on, with an assertion about the elements that are left. -/
lemma Safe.fold (refl : ∀ s, R s s) {I : List β → γ → σ → Prop} (hI : ∀ c, Stable R (I [] c))
    {f : γ → β → Proc ι ε σ γ}
    (body : ∀ b bs c s, I (b :: bs) c s → Safe exec R ok G E (fun c' => I bs c') (f c b) s) :
    ∀ bs c s, I bs c s → Safe exec R ok G E (fun c' => I [] c') (Proc.fold f c bs) s
  | [], c, s, hs => fun t hr => hI c s t hr hs
  | b :: bs, c, s, hs => (body b bs c s hs).bind refl fun c' t ht =>
      Safe.fold refl hI body bs c' t ht

/-- A process whose statements meet the guarantee and keep a stable assertion. -/
lemma Issues.safe {I : σ → Prop} {p : Proc ι ε σ α} (hI : Stable R I)
    (hp : Issues (fun l => ∀ t, I t → ok l t → G l t ∧ I (exec l t)) p) {s : σ} (hs : I s) :
    Safe exec R ok G (fun _ => I) (fun _ => I) p s := by
  induction p generalizing s with
  | ret a => exact hI.safe_ret hs
  | raise e => exact fun t hr => hI s t hr hs
  | act l k ih =>
      intro t hr hok
      obtain ⟨hg, ht⟩ := hp.1 t (hI s t hr hs) hok
      exact ⟨hg, ih t (hp.2 t) ht⟩

/-- What a process may issue strengthens its guarantee. -/
lemma Safe.issues {p : Proc ι ε σ α} {s : σ} (h : Safe exec R ok G E Q p s) (hp : Issues P p) :
    Safe exec R ok (fun l s => P l ∧ G l s) E Q p s := by
  induction p generalizing s with
  | ret a => exact h
  | raise e => exact h
  | act l k ih =>
      intro s' hr hok
      obtain ⟨hg, hk⟩ := h s' hr hok
      exact ⟨⟨hp.1, hg⟩, ih s' hk (hp.2 s')⟩

end Proc

end Concurrency
