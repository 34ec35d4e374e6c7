/-
Lists grouped by a key, in the order of the keys.

* `keysOf`: the keys of a list, each once, in ascending order;
* `group`: the elements of one key, in list order;
* `sum_countP_group`: what is counted group by group is counted over the whole list;
* `flatMap_group_perm`: the groups together are the list;
* `smallestGroup_lt_iff`: when the smallest group is small.
-/
import Mathlib.Tactic

namespace Data

section Grouped

variable {α κ : Type} [LinearOrder κ] {key : α → κ} {xs ys : List α} {p : α → Bool}

/-- The keys of a list, in ascending order. -/
def keysOf (key : α → κ) (xs : List α) : List κ := (xs.map key).dedup.insertionSort (· ≤ ·)

/-- The elements with a key. -/
def group (key : α → κ) (k : κ) (xs : List α) : List α := xs.filter fun x => key x = k

lemma mem_keysOf {k : κ} : k ∈ keysOf key xs ↔ ∃ x ∈ xs, key x = k := by
  rw [keysOf, List.mem_insertionSort, List.mem_dedup, List.mem_map]

lemma nodup_keysOf : (keysOf key xs).Nodup :=
  (List.perm_insertionSort _ _).nodup_iff.mpr (List.nodup_dedup _)

lemma mem_group {k : κ} {x : α} : x ∈ group key k xs ↔ x ∈ xs ∧ key x = k := by
  rw [group, List.mem_filter, decide_eq_true_iff]

lemma group_append (k : κ) : group key k (xs ++ ys) = group key k xs ++ group key k ys := by
  simp [group]

lemma group_singleton (k : κ) (x : α) : group key k [x] = if key x = k then [x] else [] := by
  rw [group, List.filter_singleton]
  by_cases h : key x = k <;> simp [h]

/-- One element is counted under its own key alone. -/
lemma sum_indicator {ks : List κ} (hks : ks.Nodup) {k : κ} (hk : k ∈ ks) :
    (ks.map fun j => if k = j then 1 else 0).sum = 1 := by
  induction ks with
  | nil => exact absurd hk (List.not_mem_nil)
  | cons j ks ih =>
      obtain ⟨hj, hks⟩ := List.nodup_cons.mp hks
      rw [List.map_cons, List.sum_cons]
      rcases List.mem_cons.mp hk with rfl | hk
      · have hzero : (ks.map fun i => if k = i then 1 else 0) = ks.map fun _ => 0 :=
          List.map_congr_left fun i hi => if_neg fun h => hj (by rwa [h])
        rw [if_pos rfl, hzero, List.map_const', List.sum_replicate, smul_zero, add_zero]
      · have hne : k ≠ j := fun h => hj (by rwa [← h])
        rw [if_neg hne, ih hks hk, zero_add]

/-- What is counted group by group is counted over the whole list. -/
theorem sum_countP_group {ks : List κ} (hks : ks.Nodup) (h : ∀ y ∈ ys, key y ∈ ks) :
    (ks.map fun k => (group key k ys).countP p).sum = ys.countP p := by
  induction ys with
  | nil => simp [group]
  | cons y ys ih =>
      have hy : key y ∈ ks := h y List.mem_cons_self
      have hsplit : (fun k => (group key k (y :: ys)).countP p) = fun k =>
          (if p y = true then (if key y = k then 1 else 0) else 0) +
            (group key k ys).countP p := by
        funext k
        by_cases hk : key y = k <;> by_cases hp : p y = true <;>
          simp [group, hk, hp, add_comm]
      rw [hsplit, List.sum_map_add, ih fun z hz => h z (List.mem_cons_of_mem y hz),
        List.countP_cons]
      by_cases hp : p y = true
      · simp only [hp, if_true]
        rw [sum_indicator hks hy, add_comm]
      · simp [hp]

/-- The groups together are the list, in another order. -/
theorem flatMap_group_perm {ks : List κ} (hks : ks.Nodup) (h : ∀ y ∈ ys, key y ∈ ks) :
    (ks.flatMap fun k => group key k ys).Perm ys := by
  classical
  refine List.perm_iff_count.mpr fun a => ?_
  rw [List.count_flatMap]
  exact sum_countP_group hks h

/-- The smallest group is small, or there is none. -/
lemma smallestGroup_lt_iff (key : α → κ) (xs : List α) {n : ℕ} (hn : 0 < n) :
    (((keysOf key xs).map fun k => (group key k xs).length).min?).getD 0 < n ↔
      xs = [] ∨ ∃ k ∈ xs.map key, (xs.map key).count k < n := by
  have hcount (k : κ) : (group key k xs).length = (xs.map key).count k := by
    rw [group, ← List.countP_eq_length_filter, List.count, List.countP_map]
    simp [Function.comp_def, beq_eq_decide]
  simp only [hcount]
  cases hmin : ((keysOf key xs).map fun k => (xs.map key).count k).min? with
  | none =>
      have hnil : xs = [] := by
        rw [List.min?_eq_none_iff, List.map_eq_nil_iff] at hmin
        rw [List.eq_nil_iff_forall_not_mem]
        intro x hx
        exact absurd (mem_keysOf.mpr ⟨x, hx, rfl⟩) (hmin ▸ List.not_mem_nil)
      simp [hnil, hn]
  | some m =>
      obtain ⟨hm, hle⟩ := List.min?_eq_some_iff.mp hmin
      obtain ⟨k, hk, rfl⟩ := List.mem_map.mp hm
      obtain ⟨x, hx, rfl⟩ := mem_keysOf.mp hk
      rw [Option.getD_some]
      constructor
      · exact fun h => Or.inr ⟨key x, List.mem_map_of_mem hx, h⟩
      · rintro (rfl | ⟨k, hk, h⟩)
        · exact absurd hx List.not_mem_nil
        · have hmem : k ∈ keysOf key xs := mem_keysOf.mpr (List.mem_map.mp hk)
          exact (hle _ (List.mem_map_of_mem (f := fun k => (xs.map key).count k) hmem)).trans_lt h

end Grouped

end Data
