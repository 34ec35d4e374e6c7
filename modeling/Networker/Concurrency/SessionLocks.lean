/-
Locks that belong to sessions.

A session takes a lock without waiting and may take one it holds again; the lock is free
when it has been given back as often as it was taken, or when the session ends.

* `SessionLocks`: the session that holds each lock and how often it has taken it;
* `SessionLocks.tryLock`, `unlock`, `release`: the operations of one session;
* `tryLock_granted`: a lock is granted exactly if no other session holds it.
-/
import Mathlib.Logic.Function.Basic
import Mathlib.Tactic

namespace Concurrency

/-- For each lock the session that holds it and how often the session has taken it. -/
structure SessionLocks (S K : Type) where
  holder : K → Option (S × ℕ)

namespace SessionLocks

variable {S K : Type} [DecidableEq S] [DecidableEq K]

/-- No session holds a lock. -/
def empty : SessionLocks S K := ⟨fun _ => none⟩

/-- A session tries to take a lock. -/
def tryLock (L : SessionLocks S K) (s : S) (k : K) : Bool × SessionLocks S K :=
  match L.holder k with
  | none => (true, ⟨Function.update L.holder k (some (s, 1))⟩)
  | some (t, n) =>
      if t = s then (true, ⟨Function.update L.holder k (some (s, n + 1))⟩) else (false, L)

/-- A session gives a lock back once; a lock of another session stays where it is. -/
def unlock (L : SessionLocks S K) (s : S) (k : K) : SessionLocks S K :=
  match L.holder k with
  | none => L
  | some (t, n) =>
      if t = s then ⟨Function.update L.holder k (if n ≤ 1 then none else some (s, n - 1))⟩ else L

/-- All locks of a session are given back. -/
def release (L : SessionLocks S K) (s : S) : SessionLocks S K :=
  ⟨fun k => (L.holder k).filter fun h => h.1 ≠ s⟩

variable {L : SessionLocks S K} {s t : S} {k j : K} {n : ℕ}

omit [DecidableEq S] [DecidableEq K] in
@[simp] lemma holder_empty : (empty : SessionLocks S K).holder k = none := rfl

/-- A lock is granted exactly if no other session holds it. -/
lemma tryLock_granted : (L.tryLock s k).1 = true ↔ ∀ t n, L.holder k = some (t, n) → t = s := by
  rw [tryLock]
  rcases hk : L.holder k with _ | ⟨t, n⟩
  · simp
  · by_cases ht : t = s <;> simp [ht]

lemma tryLock_refused (h : (L.tryLock s k).1 = false) : (L.tryLock s k).2 = L := by
  rw [tryLock] at h ⊢
  rcases hk : L.holder k with _ | ⟨t, n⟩
  · simp [hk] at h
  · by_cases ht : t = s <;> simp [hk, ht] at h ⊢

lemma holder_tryLock_of_ne (h : j ≠ k) : (L.tryLock s k).2.holder j = L.holder j := by
  rw [tryLock]
  rcases L.holder k with _ | ⟨t, n⟩
  · exact Function.update_of_ne h _ _
  · by_cases ht : t = s
    · simp only [ht, if_true]
      exact Function.update_of_ne h _ _
    · simp only [ht, if_false]

/-- A free lock is held once after it has been taken. -/
lemma holder_tryLock_of_free (h : L.holder k = none) :
    (L.tryLock s k).2.holder k = some (s, 1) := by
  simp [tryLock, h]

lemma holder_unlock_of_ne (h : j ≠ k) : (L.unlock s k).holder j = L.holder j := by
  rw [unlock]
  rcases L.holder k with _ | ⟨t, n⟩
  · rfl
  · by_cases ht : t = s
    · simp only [ht, if_true]
      exact Function.update_of_ne h _ _
    · simp only [ht, if_false]

/-- A lock that was taken once is free when it has been given back. -/
lemma holder_unlock_of_once (h : L.holder k = some (s, 1)) : (L.unlock s k).holder k = none := by
  simp [unlock, h]

omit [DecidableEq K] in
/-- After the end of a session the locks of the other sessions are left. -/
lemma holder_release : (L.release s).holder k = some (t, n) ↔ L.holder k = some (t, n) ∧ t ≠ s := by
  rw [release, Option.filter_eq_some_iff]
  simp

end SessionLocks

end Concurrency
