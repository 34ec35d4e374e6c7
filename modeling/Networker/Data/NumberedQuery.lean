/-
Queries whose conditions refer to bound parameters by number.

* `NumberedQuery`: the conditions so far, the parameters, and the next number;
* `NumberedQuery.push`, `NumberedQuery.pushSome`: one more condition with its parameter;
* `NumberedQuery.holds`: whether a row satisfies the conditions, read through the parameters
  that are bound in the end;
* `NumberedQuery.Fits`, `holds_push`: the numbers stay right, and one more condition is one more
  test, whatever is bound behind it.
-/
import Mathlib.Tactic

namespace Data

/-- Conditions on rows with the numbers of their parameters. -/
structure NumberedQuery (ρ ν : Type) where
  conditions : List ((ρ → ν → Bool) × ℕ)
  params : List ν
  nextIdx : ℕ

namespace NumberedQuery

variable {ρ ν : Type}

/-- One more condition, on one more parameter. -/
def push (q : NumberedQuery ρ ν) (test : ρ → ν → Bool) (v : ν) : NumberedQuery ρ ν :=
  ⟨q.conditions ++ [(test, q.nextIdx)], q.params ++ [v], q.nextIdx + 1⟩

/-- A condition that is there only with a value for it. -/
def pushSome (q : NumberedQuery ρ ν) (test : ρ → ν → Bool) (v : Option ν) : NumberedQuery ρ ν :=
  v.elim q (q.push test)

/-- The row satisfies every condition; a number that is not bound satisfies none. -/
def holds (q : NumberedQuery ρ ν) (bound : List ν) (row : ρ) : Bool :=
  q.conditions.all fun c => (bound[c.2 - 1]?).any (c.1 row)

/-- The numbers are those of the parameters, counted from one. -/
structure Fits (q : NumberedQuery ρ ν) : Prop where
  next : q.nextIdx = q.params.length + 1
  le : ∀ c ∈ q.conditions, 1 ≤ c.2 ∧ c.2 ≤ q.params.length

variable {q : NumberedQuery ρ ν} {test : ρ → ν → Bool} {v : ν} {row : ρ}

lemma Fits.push (h : q.Fits) (test : ρ → ν → Bool) (v : ν) : (q.push test v).Fits := by
  refine ⟨?_, fun c hc => ?_⟩
  · rw [NumberedQuery.push, h.next, List.length_append, List.length_singleton]
  · rw [NumberedQuery.push, List.length_append, List.length_singleton]
    rcases List.mem_append.mp hc with hc | hc
    · have hle := h.le c hc
      omega
    · rw [List.mem_singleton.mp hc, h.next]
      omega

lemma Fits.pushSome (h : q.Fits) (test : ρ → ν → Bool) (v : Option ν) :
    (q.pushSome test v).Fits := by
  cases v with
  | none => exact h
  | some v => exact h.push test v

/-- What is bound behind the parameters of the conditions does not matter. -/
lemma Fits.holds_append (h : q.Fits) (more : List ν) (row : ρ) :
    q.holds (q.params ++ more) row = q.holds q.params row := by
  rw [holds, holds, Bool.eq_iff_iff, List.all_eq_true, List.all_eq_true]
  refine forall₂_congr fun c hc => ?_
  obtain ⟨hpos, hle⟩ := h.le c hc
  rw [List.getElem?_append_left (by omega)]

/-- One more condition is one more test. -/
lemma Fits.holds_push (h : q.Fits) (test : ρ → ν → Bool) (v : ν) (row : ρ) :
    (q.push test v).holds (q.push test v).params row = (q.holds q.params row && test row v) := by
  have hold := h.holds_append [v] row
  rw [holds] at hold
  have hlast : (q.params ++ [v])[q.nextIdx - 1]? = some v := by
    rw [h.next, Nat.add_sub_cancel, List.getElem?_concat_length]
  rw [holds, NumberedQuery.push, List.all_append, hold]
  simp [hlast]

/-- A condition that is there only with a value tests only with a value. -/
lemma Fits.holds_pushSome (h : q.Fits) (test : ρ → ν → Bool) (v : Option ν) (row : ρ) :
    (q.pushSome test v).holds (q.pushSome test v).params row =
      (q.holds q.params row && v.all (test row)) := by
  cases v with
  | none => exact (Bool.and_true _).symm
  | some v => exact h.holds_push test v row

end NumberedQuery

end Data
