/-
Lanes: entries that pass a queue and leave in batches.

Producers push entries into a queue; one consumer takes them, in order, into a batch and
lets go of the batch with some outcome.

* `Lane`: the queue, the batch and what has become of the batches before it;
* `Lane.content`: every entry that was ever pushed, in order;
* `Lane.rows`, `Lane.total`: what the batches have left behind, where a batch of an outcome
  leaves a number of copies, and the entries that came to outcomes of a kind;
* `Lane.length_content`, `Lane.rows_sublist`, `Lane.length_rows`: every entry is in one place,
  rows keep the order, and one copy each is counted.
-/
import Mathlib.Tactic

namespace Concurrency

/-- A queue, the batch taken from it, and the batches that are done. -/
structure Lane (α β : Type) where
  queue : List α
  batch : List α
  done : List (β × List α)

namespace Lane

variable {α β : Type}

def empty : Lane α β := ⟨[], [], []⟩

def push (s : Lane α β) (a : α) : Lane α β := { s with queue := s.queue ++ [a] }

/-- The next entry joins the batch. -/
def take (s : Lane α β) : Lane α β :=
  { s with queue := s.queue.tail, batch := s.batch ++ s.queue.take 1 }

/-- The batch is done. -/
def finish (s : Lane α β) (b : β) : Lane α β :=
  { s with batch := [], done := s.done ++ [(b, s.batch)] }

/-- Everything that was ever pushed. -/
def content (s : Lane α β) : List α := s.done.flatMap Prod.snd ++ s.batch ++ s.queue

/-- The entries of the batches that are done with an outcome of a kind. -/
def total (s : Lane α β) (p : β → Bool) : ℕ :=
  ((s.done.filter fun d => p d.1).map fun d => d.2.length).sum

/-- What the batches that are done have left behind. -/
def rows (s : Lane α β) (copies : β → ℕ) : List α :=
  s.done.flatMap fun d => (List.replicate (copies d.1) d.2).flatten

variable {s : Lane α β} {a : α} {b : β} {p : β → Bool} {copies : β → ℕ}

@[simp] lemma content_push : (s.push a).content = s.content ++ [a] := by
  simp [content, push]

@[simp] lemma content_take : s.take.content = s.content := by
  rcases s with ⟨_ | ⟨a, queue⟩, batch, done⟩ <;> simp [content, take]

@[simp] lemma content_finish : (s.finish b).content = s.content := by
  simp [content, finish]

@[simp] lemma total_push : (s.push a).total p = s.total p := rfl

@[simp] lemma total_take : s.take.total p = s.total p := rfl

@[simp] lemma total_finish :
    (s.finish b).total p = s.total p + if p b then s.batch.length else 0 := by
  by_cases h : p b <;> simp [total, finish, h]

@[simp] lemma rows_push : (s.push a).rows copies = s.rows copies := rfl

@[simp] lemma rows_take : s.take.rows copies = s.rows copies := rfl

@[simp] lemma rows_finish : (s.finish b).rows copies =
    s.rows copies ++ (List.replicate (copies b) s.batch).flatten := by
  simp [rows, finish]

lemma length_queue_take (h : s.queue ≠ []) : s.take.queue.length + 1 = s.queue.length := by
  rcases s with ⟨_ | ⟨a, queue⟩, batch, done⟩
  · exact absurd rfl h
  · simp [take]

lemma length_batch_take (h : s.queue ≠ []) : s.take.batch.length = s.batch.length + 1 := by
  rcases s with ⟨_ | ⟨a, queue⟩, batch, done⟩
  · exact absurd rfl h
  · simp [take]

/-- Every entry is in the queue, in the batch, or came to an outcome of one of two kinds. -/
lemma length_content (p : β → Bool) (s : Lane α β) : s.content.length =
    s.total p + s.total (fun b => !p b) + s.batch.length + s.queue.length := by
  have hdone : ∀ done : List (β × List α), (done.flatMap Prod.snd).length =
      ((done.filter fun d => p d.1).map fun d => d.2.length).sum +
        ((done.filter fun d => !p d.1).map fun d => d.2.length).sum := by
    intro done
    induction done with
    | nil => rfl
    | cons d done ih =>
        rw [List.flatMap_cons, List.length_append, ih]
        by_cases h : p d.1 <;> simp [h] <;> omega
  rw [content, List.length_append, List.length_append, hdone, total, total]

/-- Where no batch has left two copies, the rows keep the order of the entries. -/
lemma rows_sublist (h : ∀ d ∈ s.done, copies d.1 ≤ 1) : (s.rows copies).Sublist s.content := by
  have hdone : ∀ done : List (β × List α), (∀ d ∈ done, copies d.1 ≤ 1) →
      (done.flatMap fun d => (List.replicate (copies d.1) d.2).flatten).Sublist
        (done.flatMap Prod.snd) := by
    intro done
    induction done with
    | nil => exact fun _ => List.Sublist.refl _
    | cons d done ih =>
        intro h
        rw [List.forall_mem_cons] at h
        rw [List.flatMap_cons, List.flatMap_cons]
        refine List.Sublist.append ?_ (ih h.2)
        rcases Nat.le_one_iff_eq_zero_or_eq_one.mp h.1 with h0 | h1
        · simp [h0]
        · simp [h1]
  rw [content, List.append_assoc]
  exact (hdone s.done h).trans (List.sublist_append_left _ _)

/-- Where the batches of a kind have left one copy each, the rows count them. -/
lemma length_rows (h : ∀ d ∈ s.done, copies d.1 = (p d.1).toNat) :
    (s.rows copies).length = s.total p := by
  have hdone : ∀ done : List (β × List α), (∀ d ∈ done, copies d.1 = (p d.1).toNat) →
      (done.flatMap fun d => (List.replicate (copies d.1) d.2).flatten).length =
        ((done.filter fun d => p d.1).map fun d => d.2.length).sum := by
    intro done
    induction done with
    | nil => exact fun _ => rfl
    | cons d done ih =>
        intro h
        rw [List.forall_mem_cons] at h
        rw [List.flatMap_cons, List.length_append, ih h.2, h.1]
        by_cases hp : p d.1 <;> simp [hp]
  exact hdone s.done h

/-- Where the batches of a kind have left a copy, the rows are at least as many. -/
lemma total_le_length_rows (h : ∀ d ∈ s.done, p d.1 = true → 1 ≤ copies d.1) :
    s.total p ≤ (s.rows copies).length := by
  have hdone : ∀ done : List (β × List α), (∀ d ∈ done, p d.1 = true → 1 ≤ copies d.1) →
      ((done.filter fun d => p d.1).map fun d => d.2.length).sum ≤
        (done.flatMap fun d => (List.replicate (copies d.1) d.2).flatten).length := by
    intro done
    induction done with
    | nil => exact fun _ => Nat.le_refl _
    | cons d done ih =>
        intro h
        rw [List.forall_mem_cons] at h
        rw [List.flatMap_cons, List.length_append, List.filter_cons]
        have hih := ih h.2
        split_ifs with hp
        · have hcopy : d.2.length ≤ (List.replicate (copies d.1) d.2).flatten.length := by
            rw [List.length_flatten, List.map_replicate, List.sum_replicate]
            exact Nat.le_mul_of_pos_left _ (h.1 hp)
          rw [List.map_cons, List.sum_cons]
          omega
        · omega
  exact hdone s.done h

end Lane

end Concurrency
