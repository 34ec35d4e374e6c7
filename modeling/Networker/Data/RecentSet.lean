/-
A bounded set of the elements added last, with first-in first-out eviction.

* `RecentSet`: a queue without repetitions and the set of its elements, of bounded
  length, so that a queue and a set that disagree cannot be built;
* `RecentSet.add`: an element that is there keeps its slot, a new one is queued and the
  oldest ones beyond the capacity are evicted;
* `RecentSet.Remembers`: the queue holds the last elements of a history;
  `Remembers.add` keeps it for an element that is not in the set.
-/
import Mathlib.Tactic

namespace Data

variable {α : Type} [DecidableEq α]

/-- The last elements added, oldest first, with the set of them. -/
structure RecentSet (α : Type) [DecidableEq α] (capacity : ℕ) where
  order : List α
  members : Finset α
  nodup : order.Nodup
  agree : ∀ a, a ∈ members ↔ a ∈ order
  bounded : order.length ≤ capacity

namespace RecentSet

variable {capacity : ℕ} {a b : α} {order : List α} {members : Finset α}

/-- Evict from the front until at most `capacity` elements are left. -/
def evict (capacity : ℕ) : List α → Finset α → List α × Finset α
  | [], members => ([], members)
  | a :: order, members =>
      if capacity < (a :: order).length then evict capacity order (members.erase a)
      else (a :: order, members)

lemma evict_fst (order : List α) (members : Finset α) :
    (evict capacity order members).1 = order.drop (order.length - capacity) := by
  induction order generalizing members with
  | nil => rw [evict, List.drop_nil]
  | cons a order ih =>
      rw [evict]
      split_ifs with h
      · have hlen : (a :: order).length - capacity = order.length - capacity + 1 := by
          rw [List.length_cons] at h ⊢
          omega
        rw [ih, hlen, List.drop_succ_cons]
      · have hlen : (a :: order).length - capacity = 0 := by omega
        rw [hlen, List.drop_zero]

lemma evict_agree (hnodup : order.Nodup) (hagree : ∀ a, a ∈ members ↔ a ∈ order) :
    ∀ b, b ∈ (evict capacity order members).2 ↔ b ∈ (evict capacity order members).1 := by
  induction order generalizing members with
  | nil => exact hagree
  | cons a order ih =>
      obtain ⟨ha, hnodup⟩ := List.nodup_cons.mp hnodup
      rw [evict]
      split_ifs with h
      · refine ih hnodup fun b => ?_
        rw [Finset.mem_erase, hagree, List.mem_cons]
        constructor
        · rintro ⟨hne, rfl | hb⟩
          · exact absurd rfl hne
          · exact hb
        · intro hb
          exact ⟨fun hba => ha (hba ▸ hb), Or.inr hb⟩
      · exact hagree

/-- The empty set. -/
def empty (capacity : ℕ) : RecentSet α capacity :=
  ⟨[], ∅, List.nodup_nil, by simp, Nat.zero_le _⟩

instance : Membership α (RecentSet α capacity) := ⟨fun s a => a ∈ s.members⟩

instance (s : RecentSet α capacity) (a : α) : Decidable (a ∈ s) :=
  inferInstanceAs (Decidable (a ∈ s.members))

lemma mem_iff {s : RecentSet α capacity} : a ∈ s ↔ a ∈ s.order := s.agree a

/-- The queue and the set after a new element is queued. -/
def push (s : RecentSet α capacity) (a : α) : List α × Finset α :=
  evict capacity (s.order ++ [a]) (insert a s.members)

lemma push_fst (s : RecentSet α capacity) (a : α) :
    (s.push a).1 = (s.order ++ [a]).drop (s.order.length + 1 - capacity) := by
  rw [push, evict_fst, List.length_append, List.length_singleton]

/-- Add an element. -/
def add (s : RecentSet α capacity) (a : α) : RecentSet α capacity :=
  if h : a ∈ s.members then s
  else
    have hnodup : (s.order ++ [a]).Nodup := by
      refine List.Nodup.append s.nodup (List.nodup_singleton a) ?_
      rw [List.disjoint_singleton]
      exact fun ha => h ((s.agree a).mpr ha)
    { order := (s.push a).1
      members := (s.push a).2
      nodup := by
        rw [push_fst]
        exact hnodup.sublist (List.drop_sublist _ _)
      agree := evict_agree hnodup fun b => by
        rw [Finset.mem_insert, s.agree, List.mem_append, List.mem_singleton, or_comm]
      bounded := by
        rw [push_fst, List.length_drop, List.length_append, List.length_singleton]
        omega }

lemma add_of_mem {s : RecentSet α capacity} (h : a ∈ s) : s.add a = s := dif_pos h

lemma order_add {s : RecentSet α capacity} (h : a ∉ s) :
    (s.add a).order = (s.order ++ [a]).drop (s.order.length + 1 - capacity) := by
  have h' : a ∉ s.members := h
  rw [add, dif_neg h', ← push_fst]

lemma members_add {s : RecentSet α capacity} (h : a ∉ s) : (s.add a).members = (s.push a).2 := by
  have h' : a ∉ s.members := h
  rw [add, dif_neg h']

/-- Adding an element brings no other one in. -/
lemma mem_of_mem_add {s : RecentSet α capacity} (h : b ∈ s.add a) : b = a ∨ b ∈ s := by
  by_cases ha : a ∈ s
  · rw [add_of_mem ha] at h
    exact Or.inr h
  · rw [mem_iff, order_add ha] at h
    rcases List.mem_append.mp (List.mem_of_mem_drop h) with hb | hb
    · exact Or.inr (mem_iff.mpr hb)
    · exact Or.inl (List.mem_singleton.mp hb)

/-- The set holds the last elements of a history, the newest one first. -/
def Remembers (s : RecentSet α capacity) (history : List α) : Prop :=
  s.order.reverse = history.take capacity

lemma remembers_empty : (empty capacity : RecentSet α capacity).Remembers [] := by
  simp [Remembers, empty]

lemma Remembers.mem_iff {s : RecentSet α capacity} {history : List α} (h : s.Remembers history) :
    a ∈ s ↔ a ∈ history.take capacity := by
  rw [RecentSet.mem_iff, ← h, List.mem_reverse]

/-- A new element is remembered in front of the others. -/
lemma Remembers.add {s : RecentSet α capacity} {history : List α} (h : s.Remembers history)
    (ha : a ∉ s) : (s.add a).Remembers (a :: history) := by
  have hlen : s.order.length ≤ capacity := s.bounded
  rw [Remembers, order_add ha]
  have hrev : ((s.order ++ [a]).drop (s.order.length + 1 - capacity)).reverse =
      (a :: s.order.reverse).take capacity := by
    rw [List.reverse_drop, List.reverse_append, List.reverse_singleton, List.singleton_append,
      List.length_append, List.length_singleton]
    by_cases hfull : s.order.length + 1 ≤ capacity
    · have hall : (a :: s.order.reverse).length ≤ capacity := by simpa using hfull
      rw [List.take_of_length_le hall, List.take_of_length_le]
      rw [List.length_cons, List.length_reverse]
      omega
    · congr 1
      omega
  rw [hrev, h]
  cases capacity with
  | zero => rfl
  | succ n =>
      have hmin : min n (n + 1) = n := by omega
      rw [List.take_succ_cons, List.take_succ_cons, List.take_take, hmin]

end RecentSet

end Data
