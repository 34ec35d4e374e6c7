/-
The set of recently finished runs (`RecentRunSet` in `Networker.Agent/AgentWorker.cs`).

* `RecentRunSet`, `evict`, `add`: the queue and the set as `Add` changes them, with the exception
  of a dequeue from an empty queue;
* `recentSet_add`: the queue and the set are those of a bounded set of the elements added last;
* `History`, `addAll`: the ids that were new when they were added, over any calls of `Add`;
* `Tracks`: what the set has to do with the history; `Tracks.add` is its step lemma;
* `addAll_exact`: which ids the set contains, and how many.
-/
import Mathlib.Data.Set.Card
import Networker.ControlPlane.Entities
import Networker.Data.RecentSet

namespace Networker

open Data

/-- `RecentRunSet`. -/
structure RecentRunSet where
  capacity : ℤ
  order : List Guid
  members : Finset Guid

namespace RecentRunSet

/-! ### The code -/

/-- The exception of a dequeue from an empty queue. -/
inductive Fault
  | emptyQueue
  deriving DecidableEq

/-- `new RecentRunSet(capacity)`. -/
def new (capacity : ℤ) : RecentRunSet := ⟨capacity, [], ∅⟩

/-- `Contains`. -/
def contains (s : RecentRunSet) (id : Guid) : Bool := decide (id ∈ s.members)

/-- The loop of `Add`. -/
def evict (capacity : ℤ) : List Guid → Finset Guid → Except Fault Unit × List Guid × Finset Guid
  | [], members => (if capacity < 0 then .error .emptyQueue else .ok (), [], members)
  | id :: order, members =>
      if capacity < (id :: order).length then evict capacity order (members.erase id)
      else (.ok (), id :: order, members)

/-- `Add`, with what it raises. -/
def add (s : RecentRunSet) (id : Guid) : Except Fault Unit × RecentRunSet :=
  if id ∈ s.members then (.ok (), s)
  else
    let (result, order, members) := evict s.capacity (s.order ++ [id]) (insert id s.members)
    (result, { s with order, members })

/-! ### The bounded set -/

section Bounded

variable {capacity : ℤ}

/-- The queue and the set of a bounded set of the elements added last. -/
def ofRecent (capacity : ℤ) (s : RecentSet Guid capacity.toNat) : RecentRunSet :=
  ⟨capacity, s.order, s.members⟩

lemma evict_eq (order : List Guid) (members : Finset Guid) :
    (evict capacity order members).2 = RecentSet.evict capacity.toNat order members := by
  induction order generalizing members with
  | nil => rfl
  | cons id order ih =>
      have hfull : capacity < (id :: order).length ↔ capacity.toNat < (id :: order).length := by
        rw [List.length_cons]
        omega
      rw [evict, RecentSet.evict]
      by_cases h : capacity.toNat < (id :: order).length
      · rw [if_pos h, if_pos (hfull.mpr h), ih]
      · rw [if_neg h, if_neg fun hlt => h (hfull.mp hlt)]

/-- **`Add` adds to the bounded set.** -/
lemma recentSet_add (s : RecentSet Guid capacity.toNat) (id : Guid) :
    ((ofRecent capacity s).add id).2 = ofRecent capacity (s.add id) := by
  rw [add]
  by_cases h : id ∈ s
  · have hold : id ∈ (ofRecent capacity s).members := h
    rw [if_pos hold, RecentSet.add_of_mem h]
  · have hnew : id ∉ (ofRecent capacity s).members := h
    have hpush : (evict capacity (s.order ++ [id]) (insert id s.members)).2 = s.push id :=
      evict_eq _ _
    rw [if_neg hnew, ofRecent, ofRecent, RecentSet.order_add h, RecentSet.members_add h,
      ← RecentSet.push_fst, ← hpush]

/-- A set with room for some ids raises nothing. -/
lemma evict_ok (hcapacity : 0 ≤ capacity) (order : List Guid) (members : Finset Guid) :
    (evict capacity order members).1 = .ok () := by
  induction order generalizing members with
  | nil => rw [evict, if_neg (by omega)]
  | cons id order ih =>
      rw [evict]
      split_ifs
      · exact ih _
      · rfl

lemma add_ok {s : RecentRunSet} (hcapacity : 0 ≤ s.capacity) (id : Guid) :
    (s.add id).1 = .ok () := by
  rw [add]
  split_ifs
  · rfl
  · exact evict_ok hcapacity _ _

end Bounded

/-! ### Sequences of calls -/

/-- A set, and the ids that were new when they were added, the newest one first. -/
structure History where
  set : RecentRunSet
  inserted : List Guid

/-- One call of `Add`. -/
def History.add (h : History) (id : Guid) : History where
  set := (h.set.add id).2
  inserted := if h.set.contains id then h.inserted else id :: h.inserted

/-- Any calls of `Add`. -/
def addAll (capacity : ℤ) (ids : List Guid) : History :=
  ids.foldl History.add ⟨new capacity, []⟩

section Tracks

variable {capacity : ℤ} {ids : List Guid} {id : Guid} {h : History}

/-- The set holds the newest ids of the history, which are those that were added. -/
structure Tracks (capacity : ℤ) (ids : List Guid) (h : History) : Prop where
  recent : ∃ s : RecentSet Guid capacity.toNat, h.set = ofRecent capacity s ∧
    s.Remembers h.inserted
  added : ∀ id, id ∈ h.inserted ↔ id ∈ ids

lemma tracks_new (capacity : ℤ) : Tracks capacity [] ⟨new capacity, []⟩ where
  recent := ⟨.empty _, rfl, RecentSet.remembers_empty⟩
  added _ := Iff.rfl

/-- One call keeps it so. -/
lemma Tracks.add (ht : Tracks capacity ids h) (id : Guid) :
    Tracks capacity (ids ++ [id]) (h.add id) := by
  obtain ⟨s, hset, hrecent⟩ := ht.recent
  have hcontains : h.set.contains id = true ↔ id ∈ s := by
    rw [hset, contains, decide_eq_true_iff]
    rfl
  have hadd : (h.add id).set = ofRecent capacity (s.add id) := by
    rw [History.add, hset, recentSet_add]
  by_cases hmem : id ∈ s
  · have hsame : (h.add id).inserted = h.inserted := if_pos (hcontains.mpr hmem)
    have hold : id ∈ h.inserted := List.mem_of_mem_take (hrecent.mem_iff.mp hmem)
    refine ⟨⟨s.add id, hadd, ?_⟩, fun b => ?_⟩
    · rw [hsame, RecentSet.add_of_mem hmem]
      exact hrecent
    · rw [hsame, ht.added, List.mem_append, List.mem_singleton]
      constructor
      · exact Or.inl
      · rintro (hb | rfl)
        · exact hb
        · exact (ht.added b).mp hold
  · have hnew : (h.add id).inserted = id :: h.inserted :=
      if_neg fun hc => hmem (hcontains.mp hc)
    refine ⟨⟨s.add id, hadd, ?_⟩, fun b => ?_⟩
    · rw [hnew]
      exact hrecent.add hmem
    · rw [hnew, List.mem_cons, ht.added, List.mem_append, List.mem_singleton, or_comm]

lemma tracks_addAll (capacity : ℤ) (ids : List Guid) :
    Tracks capacity ids (addAll capacity ids) := by
  induction ids using List.reverseRecOn with
  | nil => exact tracks_new capacity
  | append_singleton ids id ih =>
      rw [addAll, List.foldl_append]
      exact ih.add id

/-- The set has the size of the queue. -/
lemma Tracks.card_members (ht : Tracks capacity ids h) :
    h.set.members.card = h.set.order.length := by
  obtain ⟨s, hset, -⟩ := ht.recent
  have hmembers : h.set.members = h.set.order.toFinset := by
    ext id
    rw [List.mem_toFinset, hset]
    exact s.agree id
  rw [hmembers, List.toFinset_card_of_nodup]
  rw [hset]
  exact s.nodup

/-- The queue has the ids that were new, up to the capacity. -/
lemma Tracks.length_order (ht : Tracks capacity ids h) :
    h.set.order.length = min capacity.toNat h.inserted.length := by
  obtain ⟨s, hset, hrecent⟩ := ht.recent
  rw [hset, ← List.length_take, ← hrecent, List.length_reverse]
  rfl

/-- **The size is the number of different ids that were added, up to the capacity.** -/
lemma Tracks.length_order_eq (ht : Tracks capacity ids h) :
    h.set.order.length = min capacity.toNat ids.toFinset.card := by
  have hinserted : h.inserted.toFinset = ids.toFinset := by
    ext id
    rw [List.mem_toFinset, List.mem_toFinset, ht.added]
  have hlength := ht.length_order
  obtain ⟨s, hset, hrecent⟩ := ht.recent
  rcases le_or_gt h.inserted.length capacity.toNat with hle | hgt
  · -- nothing has been evicted
    have hnodup : h.inserted.Nodup := by
      rw [← List.take_of_length_le hle, ← hrecent, List.nodup_reverse]
      exact s.nodup
    rw [hlength, ← hinserted, List.toFinset_card_of_nodup hnodup]
  · have hsub : h.set.members ⊆ ids.toFinset := by
      intro id hid
      rw [hset] at hid
      rw [← hinserted, List.mem_toFinset]
      exact List.mem_of_mem_take (hrecent.mem_iff.mp hid)
    have hcard := Finset.card_le_card hsub
    rw [ht.card_members] at hcard
    omega

/-- **The set contains an id exactly if fewer ids than the capacity were new behind it.** -/
lemma Tracks.contains_iff (ht : Tracks capacity ids h) (id : Guid) :
    h.set.contains id = true ↔ id ∈ h.inserted ∧ (h.inserted.idxOf id : ℤ) < capacity := by
  obtain ⟨s, hset, hrecent⟩ := ht.recent
  have hmem : h.set.contains id = true ↔ id ∈ h.inserted.take capacity.toNat := by
    rw [hset, contains, decide_eq_true_iff]
    exact hrecent.mem_iff
  rw [hmem]
  constructor
  · intro htake
    have hid := List.mem_of_mem_take htake
    have hlt := (List.mem_take_iff_idxOf_lt hid).mp htake
    exact ⟨hid, by omega⟩
  · rintro ⟨hid, hlt⟩
    exact (List.mem_take_iff_idxOf_lt hid).mpr (by omega)

lemma Tracks.ncard_contains (ht : Tracks capacity ids h) :
    {id | h.set.contains id = true}.ncard = h.set.order.length := by
  have hset : {id | h.set.contains id = true} = ↑h.set.members := by
    ext id
    exact decide_eq_true_iff
  rw [hset, Set.ncard_coe_finset, ht.card_members]

end Tracks

/-- **The set of recent runs is a bounded queue of different ids.**  Behind any calls of `Add` the
set and the queue have the same ids, each once; there are as many as there are different ids that
were added, up to the capacity; and an id is contained exactly if fewer ids than the capacity were
new since it was new last. -/
theorem addAll_exact (capacity : ℤ) (ids : List Guid) :
    (∀ id, id ∈ (addAll capacity ids).set.members ↔ id ∈ (addAll capacity ids).set.order) ∧
      (addAll capacity ids).set.order.Nodup ∧
      (addAll capacity ids).set.members.card = (addAll capacity ids).set.order.length ∧
      (addAll capacity ids).set.order.length =
        min capacity.toNat {id | (addAll capacity ids).set.contains id = true}.ncard ∧
      (addAll capacity ids).set.order.length = min capacity.toNat ids.toFinset.card ∧
      ∀ id, (addAll capacity ids).set.contains id = true ↔
        id ∈ (addAll capacity ids).inserted ∧
          ((addAll capacity ids).inserted.idxOf id : ℤ) < capacity := by
  have ht := tracks_addAll capacity ids
  obtain ⟨s, hset, -⟩ := ht.recent
  refine ⟨fun id => ?_, ?_, ht.card_members, ?_, ht.length_order_eq, ht.contains_iff⟩
  · rw [hset]
    exact s.agree id
  · rw [hset]
    exact s.nodup
  · have hlength := ht.length_order
    rw [ht.ncard_contains]
    omega

end RecentRunSet

end Networker
