/-
Receive loops with a deadline.

* `millis`: instants and spans are in nanoseconds;
* `Arrival`: something that arrives, and when; `Schedule`: arrivals in the order of their
  times;
* `ReceiveLoop`: a loop that waits for the next arrival up to a deadline that may depend on
  its state, handles it, and goes on or returns;
* `ReceiveLoop.run`: what the loop returns, when, and what has not been received then;
* `run_spec`: the rule of a loop: an assertion about the arrivals handled so far and the
  state, from which the result follows wherever the loop ends;
* `rest_le`, `handled_le`: what is left arrives when the loop has ended or later, what has
  been received before.
-/
import Mathlib.Tactic

namespace Concurrency

/-- Milliseconds, in nanoseconds. -/
def millis (n : ℕ) : ℤ := n * 1000000

/-- Something that arrives, and when. -/
structure Arrival (δ : Type) where
  time : ℤ
  item : δ
  deriving DecidableEq

/-- The arrivals come one after the other, none before `start`. -/
def Schedule {δ : Type} (start : ℤ) (as : List (Arrival δ)) : Prop :=
  as.Pairwise (fun a b => a.time ≤ b.time) ∧ ∀ a ∈ as, start ≤ a.time

instance {δ : Type} (start : ℤ) (as : List (Arrival δ)) : Decidable (Schedule start as) :=
  inferInstanceAs (Decidable (_ ∧ _))

/-- What follows an arrival of a schedule is a schedule from its time on. -/
lemma Schedule.tail {δ : Type} {start : ℤ} {a : Arrival δ} {as : List (Arrival δ)}
    (h : Schedule start (a :: as)) : Schedule a.time as := by
  obtain ⟨hle, hsorted⟩ := List.pairwise_cons.mp h.1
  exact ⟨hsorted, hle⟩

lemma Schedule.mono {δ : Type} {s t : ℤ} {as : List (Arrival δ)} (h : Schedule t as)
    (hst : s ≤ t) : Schedule s as :=
  ⟨h.1, fun a ha => le_trans hst (h.2 a ha)⟩

/-- A loop that receives arrivals of type `δ` with a state `σ` and returns a `ρ`. -/
structure ReceiveLoop (σ δ ρ : Type) where
  /-- How long the loop waits in a state. -/
  deadline : σ → ℤ
  /-- Handle an arrival: go on with a new state, or return. -/
  handle : ℤ → δ → σ → σ ⊕ ρ
  /-- What the loop returns when its deadline has passed. -/
  expire : σ → ρ

namespace ReceiveLoop

variable {σ δ ρ : Type}

/-- How a loop has ended: its result, when, and what has not been received. -/
structure Ended (δ ρ : Type) where
  result : ρ
  time : ℤ
  rest : List (Arrival δ)

variable (L : ReceiveLoop σ δ ρ)

/-- Run the loop, entered at `now`; an arrival is handled when it arrives. -/
def run (now : ℤ) (s : σ) : List (Arrival δ) → Ended δ ρ
  | [] => ⟨L.expire s, max now (L.deadline s), []⟩
  | a :: as =>
      if a.time < L.deadline s then
        match L.handle a.time a.item s with
        | .inl s' => run a.time s' as
        | .inr r => ⟨r, a.time, as⟩
      else ⟨L.expire s, max now (L.deadline s), a :: as⟩

variable {L} {now : ℤ} {s t : σ} {r : ρ} {a : Arrival δ} {as : List (Arrival δ)}

@[simp] lemma run_nil : L.run now s [] = ⟨L.expire s, max now (L.deadline s), []⟩ := rfl

/-- The loop handles an arrival and goes on. -/
lemma run_go (hlt : a.time < L.deadline s) (h : L.handle a.time a.item s = .inl t) :
    L.run now s (a :: as) = L.run a.time t as := by
  rw [run, if_pos hlt, h]

/-- The loop returns at an arrival. -/
lemma run_ret (hlt : a.time < L.deadline s) (h : L.handle a.time a.item s = .inr r) :
    L.run now s (a :: as) = ⟨r, a.time, as⟩ := by
  rw [run, if_pos hlt, h]

/-- The deadline passes before the next arrival. -/
lemma run_expire (h : ¬ a.time < L.deadline s) :
    L.run now s (a :: as) = ⟨L.expire s, max now (L.deadline s), a :: as⟩ := by
  rw [run, if_neg h]

/-- **The rule of a receive loop.**  `I` is an assertion about the arrivals handled so far
and the state; what the loop returns satisfies `Q` with all arrivals it has handled. -/
theorem run_spec {I : List (Arrival δ) → σ → Prop}
    {Q : List (Arrival δ) → Ended δ ρ → Prop}
    (go : ∀ hs a s s', I hs s → a.time < L.deadline s → L.handle a.time a.item s = .inl s' →
      I (hs ++ [a]) s')
    (ret : ∀ hs a s r rest, I hs s → a.time < L.deadline s → L.handle a.time a.item s = .inr r →
      Q (hs ++ [a]) ⟨r, a.time, rest⟩)
    (expire : ∀ hs s now rest, I hs s → (∀ a ∈ rest.head?, L.deadline s ≤ a.time) →
      Q hs ⟨L.expire s, max now (L.deadline s), rest⟩)
    (as : List (Arrival δ)) : ∀ (pre : List (Arrival δ)) (now : ℤ) (s : σ), I pre s →
      ∃ hs, as = hs ++ (L.run now s as).rest ∧ Q (pre ++ hs) (L.run now s as) := by
  induction as with
  | nil =>
      intro pre now s hs
      refine ⟨[], rfl, ?_⟩
      rw [List.append_nil, run]
      exact expire pre s now [] hs (by simp)
  | cons a as ih =>
      intro pre now s hs
      rw [run]
      split_ifs with hlt
      · cases hstep : L.handle a.time a.item s with
        | inl s' =>
            obtain ⟨hs', heq, hq⟩ := ih (pre ++ [a]) a.time s' (go pre a s s' hs hlt hstep)
            refine ⟨a :: hs', by rw [List.cons_append, ← heq], ?_⟩
            rwa [List.append_assoc] at hq
        | inr r => exact ⟨[a], rfl, ret pre a s r as hs hlt hstep⟩
      · refine ⟨[], rfl, ?_⟩
        rw [List.append_nil]
        exact expire pre s now (a :: as) hs (by simpa using hlt)

/-- A loop does not end before it is entered, and what it has not received arrives when it
has ended or later. -/
theorem rest_le (as : List (Arrival δ)) : ∀ (now : ℤ) (s : σ), Schedule now as →
    now ≤ (L.run now s as).time ∧ Schedule (L.run now s as).time (L.run now s as).rest := by
  induction as with
  | nil => exact fun now s _ => ⟨le_max_left _ _, List.Pairwise.nil, by simp [run]⟩
  | cons a as ih =>
      intro now s has
      have hnow : now ≤ a.time := has.2 a List.mem_cons_self
      rw [run]
      split_ifs with hlt
      · cases L.handle a.time a.item s with
        | inl s' =>
            obtain ⟨hle, hrest⟩ := ih a.time s' has.tail
            exact ⟨le_trans hnow hle, hrest⟩
        | inr r => exact ⟨hnow, has.tail⟩
      · refine ⟨le_max_left _ _, has.1, fun b hb => ?_⟩
        have hab : a.time ≤ b.time := by
          rcases List.mem_cons.mp hb with rfl | hb
          · exact le_refl _
          · exact (List.pairwise_cons.mp has.1).1 b hb
        rw [not_lt] at hlt
        exact max_le (le_trans hnow hab) (le_trans hlt hab)

/-- What a loop has received arrives before it has ended. -/
lemma handled_le (as : List (Arrival δ)) : ∀ (now : ℤ) (s : σ), Schedule now as →
    ∀ {hs}, as = hs ++ (L.run now s as).rest → ∀ a ∈ hs, a.time ≤ (L.run now s as).time := by
  induction as with
  | nil =>
      intro now s _ hs heq a ha
      rw [List.append_eq_nil_iff.mp heq.symm |>.1] at ha
      cases ha
  | cons a as ih =>
      intro now s has hs heq b hb
      -- a loop that goes on ends after what it has just received
      have hlater : ∀ t, a.time ≤ (L.run a.time t as).time := fun t =>
        (rest_le as a.time t has.tail).1
      rw [run] at heq ⊢
      split_ifs at heq ⊢ with hlt
      · cases hstep : L.handle a.time a.item s with
        | inl s' =>
            rw [hstep] at heq
            dsimp only at heq ⊢
            rcases hs with _ | ⟨c, hs⟩
            · cases hb
            · rw [List.cons_append, List.cons.injEq] at heq
              obtain ⟨rfl, heq⟩ := heq
              rcases List.mem_cons.mp hb with rfl | hb
              · exact hlater s'
              · exact ih a.time s' has.tail heq b hb
        | inr r =>
            rw [hstep] at heq
            dsimp only at heq ⊢
            have hone : hs = [a] := by
              have h := heq
              rw [← List.singleton_append] at h
              exact (List.append_cancel_right h).symm
            rw [hone, List.mem_singleton] at hb
            rw [hb]
      · have hnone : hs = [] := by
          have h := heq
          rw [← List.nil_append (a :: as)] at h
          exact (List.append_cancel_right h).symm
        rw [hnone] at hb
        cases hb

end ReceiveLoop

end Concurrency
