/-
Tables keyed by a surrogate id, with the statements a program sends to them.

* `Table`: rows whose keys are distinct and below the next free key, so that a
  table with a duplicate or a reused key cannot be built;
* `Table.find?`, `Table.insert`, `Table.update`, `Table.delete`: read, insert
  under a fresh key, guarded update and guarded delete of one row;
* `Table.hits`: whether a guarded statement affects its row;
* `find?_update_self`, `find?_insert_of_find?`, … : what a later read sees;
* `oldest`: a stable sort by a time stamp.
-/
import Mathlib.Tactic

namespace Data

/-- A type of rows with a natural number as key. -/
class Keyed (α : Type) where
  key : α → ℕ

/-- The rows of a table and the next key it hands out. -/
structure Table (α : Type) [Keyed α] where
  rows : List α
  next : ℕ
  nodup : (rows.map Keyed.key).Nodup
  bound : ∀ r ∈ rows, Keyed.key r < next

namespace Table

variable {α : Type} [Keyed α]

/-- The table without rows. -/
def empty : Table α := ⟨[], 0, by simp, by simp⟩

/-- The row under a key. -/
def find? (t : Table α) (k : ℕ) : Option α := t.rows.find? fun r => Keyed.key r == k

/-- The rows that satisfy a condition, in table order. -/
def select (t : Table α) (p : α → Bool) : List α := t.rows.filter p

/-- Whether the statement guarded by `p` affects the row under `k`. -/
def hits (t : Table α) (k : ℕ) (p : α → Bool) : Bool := (t.find? k).any p

/-- Insert a row under the next key. -/
def insert (t : Table α) (mk : ℕ → α) (hmk : ∀ n, Keyed.key (mk n) = n) : Table α where
  rows := t.rows ++ [mk t.next]
  next := t.next + 1
  nodup := by
    rw [List.map_append, List.map_singleton, List.nodup_append]
    refine ⟨t.nodup, by simp, fun a ha b hb => ?_⟩
    obtain ⟨r, hr, rfl⟩ := List.mem_map.mp ha
    have hlt := t.bound r hr
    rw [List.mem_singleton, hmk] at hb
    omega
  bound := by
    intro r hr
    rcases List.mem_append.mp hr with hr | hr
    · exact Nat.lt_succ_of_lt (t.bound r hr)
    · rw [List.mem_singleton] at hr
      subst hr
      rw [hmk]
      exact Nat.lt_succ_self _

/-- What a guarded update does to one row. -/
def touch (k : ℕ) (p : α → Bool) (f : α → α) (r : α) : α :=
  if Keyed.key r == k && p r then f r else r

lemma key_touch {k : ℕ} {p : α → Bool} {f : α → α} (hf : ∀ r, Keyed.key (f r) = Keyed.key r)
    (r : α) : Keyed.key (touch k p f r) = Keyed.key r := by
  rw [touch]
  split_ifs
  · exact hf r
  · rfl

/-- Update the row under `k` if it satisfies the guard. -/
def update (t : Table α) (k : ℕ) (p : α → Bool) (f : α → α)
    (hf : ∀ r, Keyed.key (f r) = Keyed.key r) : Table α where
  rows := t.rows.map (touch k p f)
  next := t.next
  nodup := by
    have h : (t.rows.map (touch k p f)).map Keyed.key = t.rows.map Keyed.key := by
      rw [List.map_map]
      exact List.map_congr_left fun r _ => key_touch hf r
    rw [h]
    exact t.nodup
  bound := by
    intro r hr
    obtain ⟨r', hr', rfl⟩ := List.mem_map.mp hr
    rw [key_touch hf]
    exact t.bound r' hr'

/-- Delete the row under `k` if it satisfies the guard. -/
def delete (t : Table α) (k : ℕ) (p : α → Bool) : Table α where
  rows := t.rows.filter fun r => !(Keyed.key r == k && p r)
  next := t.next
  nodup := t.nodup.sublist (List.filter_sublist.map _)
  bound := fun r hr => t.bound r (List.mem_of_mem_filter hr)

/-! ### Reads -/

variable {t : Table α} {k : ℕ} {r : α}

lemma find?_eq_some : t.find? k = some r ↔ r ∈ t.rows ∧ Keyed.key r = k := by
  constructor
  · intro h
    refine ⟨List.mem_of_find?_eq_some h, ?_⟩
    simpa using List.find?_some h
  · rintro ⟨hmem, hkey⟩
    have hnd := t.nodup
    rw [find?]
    revert hmem hnd
    generalize t.rows = rows
    intro hmem hnd
    induction rows with
    | nil => exact absurd hmem (by simp)
    | cons a rows ih =>
        rw [List.map_cons, List.nodup_cons] at hnd
        rcases List.mem_cons.mp hmem with rfl | hmem
        · rw [List.find?_cons_of_pos (by simpa using hkey)]
        · have hne : Keyed.key a ≠ k := by
            rintro rfl
            exact hnd.1 (List.mem_map.mpr ⟨r, hmem, hkey⟩)
          rw [List.find?_cons_of_neg (by simpa using hne)]
          exact ih hmem hnd.2

lemma find?_key (hr : r ∈ t.rows) : t.find? (Keyed.key r) = some r := by
  rw [find?_eq_some]
  exact ⟨hr, rfl⟩

lemma key_of_find? (h : t.find? k = some r) : Keyed.key r = k := by
  rw [find?_eq_some] at h
  exact h.2

lemma mem_of_find? (h : t.find? k = some r) : r ∈ t.rows := by
  rw [find?_eq_some] at h
  exact h.1

lemma lt_of_find? (h : t.find? k = some r) : k < t.next := by
  rw [← key_of_find? h]
  exact t.bound r (mem_of_find? h)

@[simp] lemma find?_empty : (empty : Table α).find? k = none := rfl

lemma mem_select {p : α → Bool} : r ∈ t.select p ↔ r ∈ t.rows ∧ p r = true := List.mem_filter

/-! ### Reads after a write -/

section Update

variable {p : α → Bool} {f : α → α} {hf : ∀ r, Keyed.key (f r) = Keyed.key r} {j : ℕ}

/-- An update makes no row. -/
lemma find?_update_of_none (h : t.find? j = none) : (t.update k p f hf).find? j = none := by
  rw [Option.eq_none_iff_forall_ne_some]
  intro r hr
  obtain ⟨r', hr', rfl⟩ := List.mem_map.mp (mem_of_find? hr)
  have hkey : Keyed.key r' = j := by
    rw [← key_of_find? hr, key_touch hf]
  rw [← hkey, find?_key hr'] at h
  exact absurd h (by simp)

/-- A read of the updated row. -/
lemma find?_update_self :
    (t.update k p f hf).find? k = (t.find? k).map fun r => if p r then f r else r := by
  cases h : t.find? k with
  | none => rw [Option.map_none, find?_update_of_none h]
  | some r =>
      have hkey := key_of_find? h
      rw [Option.map_some, find?_eq_some]
      have ht : touch k p f r = if p r then f r else r := by
        simp [touch, hkey]
      exact ⟨List.mem_map.mpr ⟨r, mem_of_find? h, ht⟩, by rw [← ht, key_touch hf, hkey]⟩

/-- A read of another row. -/
lemma find?_update_ne (hne : j ≠ k) : (t.update k p f hf).find? j = t.find? j := by
  have key : ∀ r : α, Keyed.key r = j → touch k p f r = r := by
    intro r hr
    have hr' : Keyed.key r ≠ k := hr ▸ hne
    simp [touch, hr']
  cases h : t.find? j with
  | none => exact find?_update_of_none h
  | some r =>
      have hkey := key_of_find? h
      rw [find?_eq_some]
      exact ⟨List.mem_map.mpr ⟨r, mem_of_find? h, key r hkey⟩, hkey⟩

/-- A read of any row after an update. -/
lemma find?_update :
    (t.update k p f hf).find? j =
      (t.find? j).map fun r => if j = k ∧ p r = true then f r else r := by
  by_cases h : j = k
  · subst h
    simp [find?_update_self]
  · rw [find?_update_ne h]
    simp [h]

@[simp] lemma next_update : (t.update k p f hf).next = t.next := rfl

end Update

section Insert

variable {mk : ℕ → α} {hmk : ∀ n, Keyed.key (mk n) = n} {j : ℕ}

@[simp] lemma next_insert : (t.insert mk hmk).next = t.next + 1 := rfl

/-- A read of the inserted row. -/
lemma find?_insert_self : (t.insert mk hmk).find? t.next = some (mk t.next) := by
  rw [find?_eq_some]
  exact ⟨List.mem_append_right _ (by simp), hmk _⟩

/-- An insert leaves the other reads as they were. -/
lemma find?_insert_ne (hne : j ≠ t.next) : (t.insert mk hmk).find? j = t.find? j := by
  rw [find?, insert, List.find?_append]
  have : ([mk t.next].find? fun r => Keyed.key r == j) = none := by
    simp [hmk, Ne.symm hne]
  rw [this, Option.or_none]
  rfl

/-- A row that is there before an insert is there afterwards. -/
lemma find?_insert_of_find? (h : t.find? j = some r) : (t.insert mk hmk).find? j = some r := by
  rw [find?_insert_ne (Nat.ne_of_lt (lt_of_find? h)), h]

end Insert

section Delete

variable {p : α → Bool} {j : ℕ}

@[simp] lemma next_delete : (t.delete k p).next = t.next := rfl

/-- What a read sees after a delete. -/
lemma find?_delete_eq_some :
    (t.delete k p).find? j = some r ↔ t.find? j = some r ∧ ¬ (j = k ∧ p r = true) := by
  rw [find?_eq_some, find?_eq_some, delete]
  simp only [List.mem_filter, Bool.not_eq_true', Bool.and_eq_false_iff, beq_eq_false_iff_ne, ne_eq]
  constructor
  · rintro ⟨⟨hmem, h⟩, rfl⟩
    refine ⟨⟨hmem, rfl⟩, ?_⟩
    rintro ⟨hk, hp⟩
    rcases h with h | h
    · exact h hk
    · rw [hp] at h
      exact absurd h (by simp)
  · rintro ⟨⟨hmem, rfl⟩, h⟩
    refine ⟨⟨hmem, ?_⟩, rfl⟩
    by_cases hk : Keyed.key r = k
    · exact Or.inr (by simpa using fun hp => h ⟨hk, hp⟩)
    · exact Or.inl hk

end Delete

lemma hits_iff {p : α → Bool} : t.hits k p = true ↔ ∃ r, t.find? k = some r ∧ p r = true := by
  rw [hits]
  cases t.find? k <;> simp

lemma hits_eq_false_iff {p : α → Bool} :
    t.hits k p = false ↔ ∀ r, t.find? k = some r → p r = false := by
  rw [hits]
  cases t.find? k <;> simp

end Table

/-! ### Ordering by a time stamp -/

/-- The elements ordered by a time stamp, equal stamps in the given order. -/
def oldest {α : Type} (stamp : α → ℤ) (xs : List α) : List α :=
  xs.insertionSort fun a b => stamp a ≤ stamp b

@[simp] lemma mem_oldest {α : Type} {stamp : α → ℤ} {xs : List α} {a : α} :
    a ∈ oldest stamp xs ↔ a ∈ xs :=
  (List.perm_insertionSort _ xs).mem_iff

@[simp] lemma length_oldest {α : Type} {stamp : α → ℤ} {xs : List α} :
    (oldest stamp xs).length = xs.length :=
  (List.perm_insertionSort _ xs).length_eq

end Data
