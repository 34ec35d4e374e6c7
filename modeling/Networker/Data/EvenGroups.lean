/-
Lists in which all groups have the same size.

* `EvenlyGrouped`: every one of the keys has `n` elements, and there are no others;
* `EvenlyGrouped.append`: two such lists behind each other;
* `evenlyGrouped_flatMap`: a block of `n` elements for every key;
* `EvenlyGrouped.fewest`: the size of the smallest group.
-/
import Networker.Data.Grouped

namespace Data

section EvenGroups

variable {α τ κ : Type} [LinearOrder κ] {key : α → κ} {ks ks' : List κ} {n m : ℕ}
variable {xs ys : List α}

/-- Every one of the keys has `n` elements, and no other key has any. -/
def EvenlyGrouped (key : α → κ) (ks : List κ) (n : ℕ) (xs : List α) : Prop :=
  ∀ k, (group key k xs).length = if k ∈ ks then n else 0

variable (key ks) in
lemma evenlyGrouped_nil : EvenlyGrouped key ks 0 [] := by
  intro k
  simp [group]

lemma EvenlyGrouped.append (hx : EvenlyGrouped key ks n xs) (hy : EvenlyGrouped key ks m ys) :
    EvenlyGrouped key ks (n + m) (xs ++ ys) := by
  intro k
  rw [group_append, List.length_append, hx k, hy k]
  split_ifs <;> rfl

/-- The order of the keys does not matter. -/
lemma EvenlyGrouped.perm (h : EvenlyGrouped key ks n xs) (hks : ks.Perm ks') :
    EvenlyGrouped key ks' n xs := by
  intro k
  rw [h k]
  simp only [hks.mem_iff]

/-- Blocks of `n` elements, each of a key of its own. -/
lemma evenlyGrouped_flatMap {f : τ → List α} {name : τ → κ} {ts : List τ}
    (hts : (ts.map name).Nodup) (hlen : ∀ t ∈ ts, (f t).length = n)
    (hkey : ∀ t ∈ ts, ∀ x ∈ f t, key x = name t) :
    EvenlyGrouped key (ts.map name) n (ts.flatMap f) := by
  induction ts with
  | nil =>
      intro k
      simp [group]
  | cons t ts ih =>
      rw [List.map_cons, List.nodup_cons] at hts
      have hrest := ih hts.2 (fun u hu => hlen u (List.mem_cons_of_mem t hu))
        fun u hu => hkey u (List.mem_cons_of_mem t hu)
      intro k
      rw [List.flatMap_cons, group_append, List.length_append, hrest k]
      by_cases hk : k = name t
      · -- The block of this key, and nothing of it in the rest.
        have hall : group key k (f t) = f t := by
          rw [group, List.filter_eq_self]
          intro x hx
          simp [hkey t List.mem_cons_self x hx, hk]
        have hnot : k ∉ ts.map name := fun h => hts.1 (hk ▸ h)
        rw [hall, hlen t List.mem_cons_self, if_neg hnot]
        simp [hk]
      · have hnone : group key k (f t) = [] := by
          rw [group, List.filter_eq_nil_iff]
          intro x hx
          simp [hkey t List.mem_cons_self x hx, Ne.symm hk]
        rw [hnone]
        simp [hk]

lemma EvenlyGrouped.mem_keysOf (h : EvenlyGrouped key ks n xs) (hn : 0 < n) {k : κ} :
    k ∈ keysOf key xs ↔ k ∈ ks := by
  have hlen := h k
  rw [Data.mem_keysOf]
  constructor
  · rintro ⟨x, hx, rfl⟩
    by_contra hk
    rw [if_neg hk, List.length_eq_zero_iff] at hlen
    exact List.ne_nil_of_mem (mem_group.mpr ⟨hx, rfl⟩) hlen
  · intro hk
    rw [if_pos hk] at hlen
    obtain ⟨x, hx⟩ := List.exists_mem_of_length_pos (by omega : 0 < (group key k xs).length)
    exact ⟨x, mem_group.mp hx⟩

/-- The smallest group has `n` elements. -/
lemma EvenlyGrouped.fewest (h : EvenlyGrouped key ks n xs) (hks : ks ≠ []) :
    (((keysOf key xs).map fun k => (group key k xs).length).min?).getD 0 = n := by
  rcases n.eq_zero_or_pos with rfl | hn
  · have hnil : xs = [] := by
      rw [List.eq_nil_iff_forall_not_mem]
      intro x hx
      have hlen := h (key x)
      rw [ite_self, List.length_eq_zero_iff] at hlen
      exact List.ne_nil_of_mem (mem_group.mpr ⟨hx, rfl⟩) hlen
    rw [hnil]
    rfl
  · have hconst : ((keysOf key xs).map fun k => (group key k xs).length) =
        List.replicate (keysOf key xs).length n := by
      rw [← List.map_const']
      refine List.map_congr_left fun k hk => ?_
      rw [h k, if_pos ((h.mem_keysOf hn).mp hk)]
    obtain ⟨k, hk⟩ := List.exists_mem_of_ne_nil ks hks
    have hlen : (keysOf key xs).length ≠ 0 :=
      (List.length_pos_of_mem ((h.mem_keysOf hn).mpr hk)).ne'
    rw [hconst, List.min?_replicate, if_neg hlen, Option.getD_some]

end EvenGroups

end Data
