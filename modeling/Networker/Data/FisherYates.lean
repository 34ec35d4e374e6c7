/-
Shuffling a list by swaps from its end.

* `swapAt`: two places of a list change their values;
* `shuffle choose n l`: the places `n, n - 1, …, 1` are swapped with the chosen ones, in that
  order;
* `shuffle_perm`: the result is a permutation of the list;
* `shuffle_injective`: a list without repetitions is put in the same order by the same choices
  only;
* `exists_shuffle_eq`: every order of it is the result of some choices.
-/
import Mathlib.Data.List.Nodup
import Mathlib.Data.List.Perm.Basic
import Mathlib.Logic.Equiv.Basic
import Mathlib.Tactic.Common

namespace Data

variable {α : Type*} {i j k n : ℕ} {l : List α} {choose : ℕ → ℕ}

/-- The values at two places of a list, changed. -/
def swapAt (l : List α) (i j : ℕ) : List α :=
  match l[i]?, l[j]? with
  | some a, some b => (l.set i b).set j a
  | _, _ => l

/-- A choice for every place is one that is not behind it. -/
def Chooses (choose : ℕ → ℕ) (n : ℕ) : Prop := ∀ i, 0 < i → i ≤ n → choose i ≤ i

/-- Every place from `n` down to `1` is swapped with the chosen one. -/
def shuffle (choose : ℕ → ℕ) : ℕ → List α → List α
  | 0, l => l
  | i + 1, l => shuffle choose i (swapAt l (i + 1) (choose (i + 1)))

/-! ### One swap -/

@[simp] lemma length_swapAt : (swapAt l i j).length = l.length := by
  rw [swapAt]
  split
  · rw [List.length_set, List.length_set]
  · rfl

lemma getElem?_swapAt (hi : i < l.length) (hj : j < l.length) :
    (swapAt l i j)[k]? = l[Equiv.swap i j k]? := by
  rw [swapAt, List.getElem?_eq_getElem hi, List.getElem?_eq_getElem hj]
  dsimp only
  rw [List.getElem?_set, List.getElem?_set, List.length_set, if_pos hi, if_pos hj]
  rcases eq_or_ne j k with rfl | hjk
  · rw [if_pos rfl, Equiv.swap_apply_right, List.getElem?_eq_getElem hi]
  · rw [if_neg hjk]
    rcases eq_or_ne i k with rfl | hik
    · rw [if_pos rfl, Equiv.swap_apply_left, List.getElem?_eq_getElem hj]
    · rw [if_neg hik, Equiv.swap_apply_of_ne_of_ne hik.symm hjk.symm]

lemma getElem?_swapAt_left (hi : i < l.length) (hj : j < l.length) :
    (swapAt l i j)[i]? = l[j]? := by
  rw [getElem?_swapAt hi hj, Equiv.swap_apply_left]

lemma getElem?_swapAt_of_ne (hi : i < l.length) (hj : j < l.length) (hki : k ≠ i) (hkj : k ≠ j) :
    (swapAt l i j)[k]? = l[k]? := by
  rw [getElem?_swapAt hi hj, Equiv.swap_apply_of_ne_of_ne hki hkj]

lemma swapAt_perm (hi : i < l.length) (hj : j < l.length) : (swapAt l i j).Perm l := by
  rw [swapAt, List.getElem?_eq_getElem hi, List.getElem?_eq_getElem hj]
  exact List.set_set_perm hi hj

/-! ### The shuffle -/

lemma Chooses.pred (h : Chooses choose (n + 1)) : Chooses choose n :=
  fun i hpos hi => h i hpos (by omega)

lemma Chooses.last (h : Chooses choose (n + 1)) : choose (n + 1) ≤ n + 1 :=
  h (n + 1) n.succ_pos (Nat.le_refl _)

lemma shuffle_perm (h : Chooses choose n) (hn : n < l.length) : (shuffle choose n l).Perm l := by
  induction n generalizing l with
  | zero => exact List.Perm.refl l
  | succ n ih =>
      have hlast := h.last
      have hlen : n < (swapAt l (n + 1) (choose (n + 1))).length := by
        rw [length_swapAt]
        omega
      exact (ih h.pred hlen).trans (swapAt_perm hn (by omega))

/-- The places behind the ones that are swapped keep their values. -/
lemma getElem?_shuffle_of_lt (h : Chooses choose n) (hn : n < l.length) (hk : n < k) :
    (shuffle choose n l)[k]? = l[k]? := by
  induction n generalizing l with
  | zero => rfl
  | succ n ih =>
      have hlast := h.last
      have hlen : n < (swapAt l (n + 1) (choose (n + 1))).length := by
        rw [length_swapAt]
        omega
      rw [shuffle, ih h.pred hlen (by omega),
        getElem?_swapAt_of_ne hn (by omega) (by omega) (by omega)]

/-- The last place gets the value chosen for it. -/
lemma getElem?_shuffle_last (h : Chooses choose (n + 1)) (hn : n + 1 < l.length) :
    (shuffle choose (n + 1) l)[n + 1]? = l[choose (n + 1)]? := by
  have hlast := h.last
  have hlen : n < (swapAt l (n + 1) (choose (n + 1))).length := by
    rw [length_swapAt]
    omega
  rw [shuffle, getElem?_shuffle_of_lt h.pred hlen (Nat.lt_succ_self n),
    getElem?_swapAt_left hn (by omega)]

lemma nodup_swapAt (hl : l.Nodup) (hi : i < l.length) (hj : j < l.length) : (swapAt l i j).Nodup :=
  (swapAt_perm hi hj).nodup_iff.mpr hl

/-- **Different choices give different orders** of a list without repetitions. -/
theorem shuffle_injective {choose' : ℕ → ℕ} (hl : l.Nodup) (hn : n < l.length)
    (h : Chooses choose n) (h' : Chooses choose' n)
    (heq : shuffle choose n l = shuffle choose' n l) :
    ∀ i, 0 < i → i ≤ n → choose i = choose' i := by
  induction n generalizing l with
  | zero => exact fun i hpos hi => absurd hpos (by omega)
  | succ n ih =>
      have hlast := h.last
      have hlast' := h'.last
      have hsame : choose (n + 1) = choose' (n + 1) := by
        have hat : l[choose (n + 1)]? = l[choose' (n + 1)]? := by
          rw [← getElem?_shuffle_last h hn, ← getElem?_shuffle_last h' hn, heq]
        exact (List.getElem?_inj (by omega) hl).mp hat
      have hlen : n < (swapAt l (n + 1) (choose (n + 1))).length := by
        rw [length_swapAt]
        omega
      rw [shuffle, shuffle, ← hsame] at heq
      intro i hpos hi
      rcases Nat.lt_or_ge n i with hni | hin
      · obtain rfl : i = n + 1 := by omega
        exact hsame
      · exact ih (nodup_swapAt hl hn (by omega)) hlen h.pred h'.pred heq i hpos hin

/-- The shuffle reads the choices for its places only. -/
lemma shuffle_congr {choose' : ℕ → ℕ} (h : ∀ i, 0 < i → i ≤ n → choose i = choose' i) (l : List α) :
    shuffle choose n l = shuffle choose' n l := by
  induction n generalizing l with
  | zero => rfl
  | succ n ih =>
      rw [shuffle, shuffle, h (n + 1) n.succ_pos (Nat.le_refl _),
        ih fun i hpos hi => h i hpos (by omega)]

lemma Chooses.update (h : Chooses choose n) (hj : j ≤ n + 1) :
    Chooses (Function.update choose (n + 1) j) (n + 1) := by
  intro i hpos hi
  rcases eq_or_ne i (n + 1) with rfl | hne
  · rw [Function.update_self]
    exact hj
  · rw [Function.update_of_ne hne]
    exact h i hpos (by omega)

/-- An order of a list without repetitions that differs from it at most in the first place. -/
lemma eq_of_perm_of_tail {order : List α} (hl : l.Nodup) (hperm : order.Perm l)
    (hrest : ∀ k, 0 < k → order[k]? = l[k]?) : order = l := by
  cases l with
  | nil => exact List.Perm.eq_nil hperm
  | cons a l =>
      cases order with
      | nil => exact absurd hperm.length_eq (by simp)
      | cons b order =>
          have htail : order = l := List.ext_getElem? fun k => by
            have h := hrest (k + 1) k.succ_pos
            rwa [List.getElem?_cons_succ, List.getElem?_cons_succ] at h
          subst htail
          have hmem : b ∈ a :: order := hperm.mem_iff.mp List.mem_cons_self
          rcases List.mem_cons.mp hmem with rfl | hb
          · rfl
          · exact absurd hb (List.nodup_cons.mp (hperm.nodup_iff.mpr hl)).1

/-- A place up to which the order may differ: its value stands there or before. -/
lemma exists_choice {order : List α} (hl : l.Nodup) (hperm : order.Perm l)
    (hn : n < l.length) (hrest : ∀ k, n < k → order[k]? = l[k]?) :
    ∃ j ≤ n, order[n]? = l[j]? := by
  have hlen := hperm.length_eq
  have horder : order.Nodup := hperm.nodup_iff.mpr hl
  obtain ⟨j, hj, hat⟩ := List.getElem_of_mem
    (hperm.mem_iff.mp (List.getElem_mem (l := order) (n := n) (by omega)))
  have hvalue : order[n]? = l[j]? := by
    rw [List.getElem?_eq_getElem hj, hat, List.getElem?_eq_getElem]
  refine ⟨j, ?_, hvalue⟩
  by_contra hgt
  rw [← hrest j (by omega)] at hvalue
  have hsame := (List.getElem?_inj (by omega) horder).mp hvalue
  omega

/-- **Some choices give every order** of a list without repetitions. -/
theorem exists_shuffle_eq {order : List α} (hl : l.Nodup) (hperm : order.Perm l)
    (hn : n < l.length) (hrest : ∀ k, n < k → order[k]? = l[k]?) :
    ∃ choose, Chooses choose n ∧ shuffle choose n l = order := by
  induction n generalizing l with
  | zero => exact ⟨id, fun i _ _ => Nat.le_refl i, (eq_of_perm_of_tail hl hperm hrest).symm⟩
  | succ n ih =>
      obtain ⟨j, hjn, hvalue⟩ := exists_choice hl hperm hn hrest
      have hj : j < l.length := by omega
      have hswap : (swapAt l (n + 1) j).Perm l := swapAt_perm hn hj
      obtain ⟨choose, hchooses, heq⟩ := ih (nodup_swapAt hl hn hj) (hperm.trans hswap.symm)
        (by rw [length_swapAt]; omega) (by
          intro k hk
          rcases eq_or_ne k (n + 1) with rfl | hne
          · rw [getElem?_swapAt_left hn hj, hvalue]
          · rw [getElem?_swapAt_of_ne hn hj hne (by omega)]
            exact hrest k (by omega))
      refine ⟨Function.update choose (n + 1) j, hchooses.update hjn, ?_⟩
      have hsame : ∀ i, 0 < i → i ≤ n → Function.update choose (n + 1) j i = choose i :=
        fun i _ hi => Function.update_of_ne (by omega) j choose
      rw [shuffle, Function.update_self, shuffle_congr hsame, heq]

end Data
