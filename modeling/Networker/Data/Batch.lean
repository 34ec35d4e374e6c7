/-
Batches cut from the front of a queue.

A pass serves the first `n` elements of a queue and does something for those that
satisfy a condition `p`.

* `countP_take_eq_min_iff`: when the cut costs nothing;
* `spare_imp_iff`: when a pass with room to spare has left nothing behind.
-/
import Mathlib.Tactic

namespace Data

namespace Batch

variable {α : Type} {p : α → Bool} {n : ℕ} {xs : List α}

/-- Every element of the batch counts, or no element behind it does. -/
def Fair (p : α → Bool) (n : ℕ) (xs : List α) : Prop :=
  (∀ x ∈ xs.take n, p x = true) ∨ ∀ x ∈ xs.drop n, p x = false

lemma countP_drop_eq_zero_iff : (xs.drop n).countP p = 0 ↔ ∀ x ∈ xs.drop n, p x = false := by
  simp only [List.countP_eq_zero, Bool.not_eq_true]

lemma countP_take_add_drop : (xs.take n).countP p + (xs.drop n).countP p = xs.countP p := by
  rw [← List.countP_append, List.take_append_drop]

/-- A batch that is not cut short has nothing behind it. -/
lemma drop_eq_nil_of_length_lt (h : (xs.take n).length < n) : xs.drop n = [] := by
  rw [List.length_take] at h
  exact List.drop_eq_nil_of_le (by omega)

/-- The batch has as many counting elements as it could, exactly if it is fair. -/
theorem countP_take_eq_min_iff : (xs.take n).countP p = min n (xs.countP p) ↔ Fair p n xs := by
  have hsum : (xs.take n).countP p + (xs.drop n).countP p = xs.countP p := countP_take_add_drop
  have hlen : (xs.take n).length ≤ n := List.length_take_le n xs
  have hle : (xs.take n).countP p ≤ (xs.take n).length := List.countP_le_length
  rw [Fair, ← countP_drop_eq_zero_iff, ← List.countP_eq_length]
  constructor
  · intro h
    by_cases hz : (xs.drop n).countP p = 0
    · exact Or.inr hz
    · exact Or.inl (by omega)
  · rintro (hall | hz)
    · by_cases hshort : (xs.take n).length < n
      · have hnil : (xs.drop n).countP p = 0 := by
          rw [drop_eq_nil_of_length_lt hshort, List.countP_nil]
        omega
      · omega
    · omega

/-- A batch with fewer counting elements than it has room for leaves none behind,
exactly if it is fair. -/
theorem spare_imp_iff :
    ((xs.take n).countP p < n → ∀ x ∈ xs.drop n, p x = false) ↔ Fair p n xs := by
  have hlen : (xs.take n).length ≤ n := List.length_take_le n xs
  have hle : (xs.take n).countP p ≤ (xs.take n).length := List.countP_le_length
  constructor
  · intro h
    by_cases hlt : (xs.take n).countP p < n
    · exact Or.inr (h hlt)
    · exact Or.inl (List.countP_eq_length.mp (by omega))
  · rintro (hall | hnone) hlt
    · have hcount := List.countP_eq_length.mpr hall
      have hnil : xs.drop n = [] := drop_eq_nil_of_length_lt (by omega)
      rw [hnil]
      simp
    · exact hnone

end Batch

end Data
