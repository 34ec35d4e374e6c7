/-
Loops that stop by what a round says.

* `StoppingLoop.after`: the state after some rounds, as if none of them stopped;
* `StoppingLoop.EndsAt`: the first round that stops;
* `StoppingLoop.run`: the loop, with a bound on its rounds; `run_of_endsAt`: it returns the
  state after the round it ends at, and `endsAt_run` that it ends there;
* `EndsAt.congr`: loops whose rounds stop alike end alike.
-/
import Mathlib.Order.WellFounded
import Mathlib.Tactic.Common

namespace Data

variable {σ : Type*}

/-- A loop over rounds `1, 2, …`; a round returns the new state and whether the loop stops. -/
structure StoppingLoop (σ : Type*) where
  start : σ
  round : ℕ → σ → σ × Bool

namespace StoppingLoop

variable (L : StoppingLoop σ)

/-- The state after `k` rounds. -/
def after : ℕ → σ
  | 0 => L.start
  | k + 1 => (L.round (k + 1) (after k)).1

/-- Whether the round `k + 1` stops. -/
def stops (k : ℕ) : Bool := (L.round (k + 1) (L.after k)).2

/-- The loop ends with the round `n`. -/
def EndsAt (n : ℕ) : Prop := ∃ k, n = k + 1 ∧ L.stops k = true ∧ ∀ j < k, L.stops j = false

/-- At most `fuel` more rounds, after `k` of them. -/
def runFrom : ℕ → ℕ → σ → ℕ × σ
  | 0, k, s => (k, s)
  | fuel + 1, k, s =>
      match L.round (k + 1) s with
      | (s, true) => (k + 1, s)
      | (s, false) => runFrom fuel (k + 1) s

/-- The loop, for at most `fuel` rounds: how many it made, and its state. -/
def run (fuel : ℕ) : ℕ × σ := L.runFrom fuel 0 L.start

variable {L} {L' : StoppingLoop σ} {n n' : ℕ}

lemma after_succ (k : ℕ) : L.after (k + 1) = (L.round (k + 1) (L.after k)).1 := rfl

lemma EndsAt.unique (h : L.EndsAt n) (h' : L.EndsAt n') : n = n' := by
  obtain ⟨k, rfl, hstop, hgo⟩ := h
  obtain ⟨k', rfl, hstop', hgo'⟩ := h'
  rcases lt_trichotomy k k' with hlt | rfl | hlt
  · exact absurd hstop (by simp [hgo' k hlt])
  · rfl
  · exact absurd hstop' (by simp [hgo k' hlt])

/-- A loop one of whose rounds stops ends. -/
lemma exists_endsAt {k : ℕ} (h : L.stops k = true) : ∃ n ≤ k + 1, L.EndsAt n := by
  induction k using Nat.strong_induction_on with
  | _ k ih =>
      by_cases hfirst : ∃ j < k, L.stops j = true
      · obtain ⟨j, hjk, hj⟩ := hfirst
        obtain ⟨n, hn, hends⟩ := ih j hjk hj
        exact ⟨n, by omega, hends⟩
      · push Not at hfirst
        exact ⟨k + 1, le_rfl, k, rfl, h, fun j hj => by simpa using hfirst j hj⟩

lemma runFrom_of_endsAt {fuel k : ℕ} (h : L.EndsAt n) (hk : k < n) (hn : n ≤ k + fuel) :
    L.runFrom fuel k (L.after k) = (n, L.after n) := by
  obtain ⟨m, rfl, hstop, hgo⟩ := h
  induction fuel generalizing k with
  | zero => omega
  | succ fuel ih =>
      obtain ⟨s, b, hround⟩ : ∃ s b, L.round (k + 1) (L.after k) = (s, b) := ⟨_, _, rfl⟩
      have hs : L.after (k + 1) = s := congrArg Prod.fst hround
      have hb : L.stops k = b := congrArg Prod.snd hround
      rw [runFrom, hround]
      by_cases hkm : k = m
      · subst hkm
        rw [hstop] at hb
        subst hb
        rw [hs]
      · rw [hgo k (by omega)] at hb
        subst hb
        rw [← hs]
        exact ih (by omega) (by omega)

/-- The loop returns the state after the round it ends at. -/
lemma run_of_endsAt {fuel : ℕ} (h : L.EndsAt n) (hn : n ≤ fuel) :
    L.run fuel = (n, L.after n) := by
  have hpos : 0 < n := by
    obtain ⟨k, rfl, -⟩ := h
    exact k.succ_pos
  exact runFrom_of_endsAt h hpos (by omega)

/-- With fuel for a round that stops, the loop returns from the round it ends at. -/
lemma run_of_stops {fuel k : ℕ} (hstops : L.stops k = true) (hk : k < fuel) (h : L.EndsAt n) :
    L.run fuel = (n, L.after n) := by
  obtain ⟨m, hm, hends⟩ := exists_endsAt hstops
  obtain rfl := h.unique hends
  exact run_of_endsAt h (by omega)

lemma endsAt_run {fuel k : ℕ} (hstops : L.stops k = true) (hk : k < fuel) :
    L.EndsAt (L.run fuel).1 := by
  obtain ⟨n, -, hends⟩ := exists_endsAt hstops
  rw [run_of_stops hstops hk hends]
  exact hends

/-- Loops whose rounds up to the last stop alike end alike. -/
lemma EndsAt.congr (h : L.EndsAt n) (hstops : ∀ k < n, L.stops k = L'.stops k) :
    L'.EndsAt n := by
  obtain ⟨k, rfl, hstop, hgo⟩ := h
  refine ⟨k, rfl, ?_, fun j hj => ?_⟩
  · rw [← hstops k k.lt_succ_self, hstop]
  · rw [← hstops j (by omega), hgo j hj]

variable (L L') in
/-- Loops whose rounds are the same have the same states. -/
lemma after_congr {a : ℕ} (hstart : L.start = L'.start)
    (hround : ∀ k < a, L.round (k + 1) = L'.round (k + 1)) : ∀ k ≤ a, L.after k = L'.after k := by
  intro k hk
  induction k with
  | zero => exact hstart
  | succ k ih => rw [after_succ, after_succ, ih (by omega), hround k (by omega)]

end StoppingLoop

end Data
