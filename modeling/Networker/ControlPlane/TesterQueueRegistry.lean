/-
The registry of the tester-queue hub (`TesterQueueRegistry`).

* `TesterQueueRegistry`: the subscribers of every `(project, tester)` pair, the number of
  pairs of every project, the last sequence number of every pair and the lock objects;
* `trySubscribe`, `unsubscribe`, `removeConnectionFromTester`, `removeConnection`,
  `hasSubscribers`, `nextSeq`: its methods;
* `Op`, `step`, `run`: the calls of the hub and of the broadcaster, one after the other, with
  the numbers they issue;
* `Consistent`: what the dictionaries have to do with each other; `Consistent.step` is its
  step lemma;
* `issued_run`: the numbers issued for a pair, in order;
* `registry_accounts`: the accounting along every run.
-/
import Networker.Data.Text
import Mathlib.Data.List.AList
import Mathlib.Data.Set.Card

namespace Networker

open Data

/-- A project and one of its testers. -/
abbrev TesterPair : Type := String × String

/-- `DefaultMaxSubsPerProject`. -/
def defaultMaxSubsPerProject : ℕ := 50

/-- The cap that `DASHBOARD_MAX_SUBS_PER_PROJECT` sets. -/
def maxSubsPerProject (raw : Option String) : ℕ :=
  match raw.bind fun r => Text.parseInt r.toList with
  | some v => if 0 < v then v.toNat else defaultMaxSubsPerProject
  | none => defaultMaxSubsPerProject

lemma maxSubsPerProject_pos (raw : Option String) : 0 < maxSubsPerProject raw := by
  unfold maxSubsPerProject
  split
  · split_ifs with hv
    · omega
    · simp [defaultMaxSubsPerProject]
  · simp [defaultMaxSubsPerProject]

/-- The state of the registry. -/
structure TesterQueueRegistry where
  subs : AList fun _ : TesterPair => Finset String
  projectSubCounts : AList fun _ : String => ℤ
  seqs : AList fun _ : TesterPair => Int64
  projectLocks : Finset String

namespace TesterQueueRegistry

/-- A new registry. -/
def new : TesterQueueRegistry := ⟨∅, ∅, ∅, ∅⟩

variable (r : TesterQueueRegistry) (cap : ℕ) (projectId testerId connectionId : String)

/-- `NextSeq`: the number as it is returned, and the registry. -/
def nextSeq : UInt64 × TesterQueueRegistry :=
  let next := match r.seqs.lookup (projectId, testerId) with
    | some cur => cur + 1
    | none => 1
  (next.toUInt64, { r with seqs := r.seqs.insert (projectId, testerId) next })

/-- `ProjectSubCount`. -/
def projectSubCount : ℤ := (r.projectSubCounts.lookup projectId).getD 0

/-- `HasSubscribers`. -/
def hasSubscribers : Bool :=
  match r.subs.lookup (projectId, testerId) with
  | some set => !(set = ∅ : Bool)
  | none => false

/-- `ProjectLock`: the lock object of the project is there. -/
def lock : TesterQueueRegistry :=
  { r with projectLocks := insert projectId r.projectLocks }

/-- Enter a set of subscribers under a pair. -/
def putSubs (set : Finset String) : TesterQueueRegistry :=
  { r with subs := r.subs.insert (projectId, testerId) set }

/-- `TrySubscribe`. -/
def trySubscribe : Bool × TesterQueueRegistry :=
  match r.subs.lookup (projectId, testerId) with
  | some existing => (true, r.putSubs projectId testerId (insert connectionId existing))
  | none =>
      let r := r.lock projectId
      match r.subs.lookup (projectId, testerId) with
      | some existing => (true, r.putSubs projectId testerId (insert connectionId existing))
      | none =>
          let current := r.projectSubCount projectId
          if (cap : ℤ) ≤ current then (false, r)
          else
            let r := r.putSubs projectId testerId {connectionId}
            (true, { r with
              projectSubCounts := r.projectSubCounts.insert projectId (current + 1) })

/-- The locked part of `Unsubscribe`: retire a pair without subscribers. -/
def retire : TesterQueueRegistry :=
  let r := r.lock projectId
  match r.subs.lookup (projectId, testerId) with
  | some set =>
      if set = ∅ then
        let current := r.projectSubCount projectId - 1
        { r with
          subs := r.subs.erase (projectId, testerId)
          projectSubCounts :=
            if current ≤ 0 then r.projectSubCounts.erase projectId
            else r.projectSubCounts.insert projectId current }
      else r
  | none => r

/-- `Unsubscribe`. -/
def unsubscribe : TesterQueueRegistry :=
  match r.subs.lookup (projectId, testerId) with
  | none => r
  | some set =>
      let set := set.erase connectionId
      let r := r.putSubs projectId testerId set
      if set = ∅ then r.retire projectId testerId else r

/-- The pair under a key has this subscriber. -/
def contains (key : TesterPair) : Bool :=
  (r.subs.lookup key).any (connectionId ∈ ·)

/-- The body of the loops over the pairs: unsubscribe from a pair that has the connection. -/
def drop (connectionId : String) (r : TesterQueueRegistry) (key : TesterPair) :
    TesterQueueRegistry :=
  if r.contains connectionId key then r.unsubscribe key.1 key.2 connectionId else r

/-- `RemoveConnectionFromTester`: the registry, and the pairs whose group is left. -/
def removeConnectionFromTester : TesterQueueRegistry × List TesterPair :=
  (r.subs.keys.filter fun key => key.2 = testerId).foldl
    (fun acc key =>
      if acc.1.contains connectionId key then
        (acc.1.unsubscribe key.1 key.2 connectionId, acc.2 ++ [key])
      else acc)
    (r, [])

/-- `RemoveConnection`. -/
def removeConnection : TesterQueueRegistry := r.subs.keys.foldl (drop connectionId) r

end TesterQueueRegistry

open TesterQueueRegistry

/-- The calls of the registry: a snapshot numbers itself, an update of the broadcaster is
dropped when nobody is subscribed. -/
inductive TesterQueueOp where
  | subscribe (projectId testerId connectionId : String)
  | snapshot (projectId testerId : String)
  | publish (projectId testerId : String)
  | unsubscribe (projectId testerId connectionId : String)
  | unsubscribeTester (testerId connectionId : String)
  | removeConnection (connectionId : String)

/-- The number a call sends out, with its pair. -/
abbrev Issue : Type := TesterPair × UInt64

namespace TesterQueueRegistry

/-- One call, with the numbers it issues. -/
def step (cap : ℕ) (r : TesterQueueRegistry) : TesterQueueOp → TesterQueueRegistry × List Issue
  | .subscribe p t c => ((r.trySubscribe cap p t c).2, [])
  | .snapshot p t => ((r.nextSeq p t).2, [((p, t), (r.nextSeq p t).1)])
  | .publish p t =>
      if r.hasSubscribers p t then ((r.nextSeq p t).2, [((p, t), (r.nextSeq p t).1)])
      else (r, [])
  | .unsubscribe p t c => (r.unsubscribe p t c, [])
  | .unsubscribeTester t c => ((r.removeConnectionFromTester t c).1, [])
  | .removeConnection c => (r.removeConnection c, [])

/-- Calls one after the other, with the numbers they issue. -/
def run (cap : ℕ) : TesterQueueRegistry → List TesterQueueOp → TesterQueueRegistry × List Issue
  | r, [] => (r, [])
  | r, op :: ops =>
      let (r, log) := r.step cap op
      ((run cap r ops).1, log ++ (run cap r ops).2)

/-- The numbers issued for a pair, in order. -/
def issued (key : TesterPair) (log : List Issue) : List ℕ :=
  (log.filter fun i => i.1 = key).map fun i => i.2.toNat

/-- The testers of a project that have a subscriber. -/
def watched (r : TesterQueueRegistry) (projectId : String) : Set String :=
  {testerId | r.hasSubscribers projectId testerId = true}

/-- The pairs of a project that are kept. -/
def pairsOf (r : TesterQueueRegistry) (projectId : String) : Finset TesterPair :=
  {key ∈ r.subs.keys.toFinset | key.1 = projectId}

/-- What the dictionaries have to do with each other between two calls. -/
structure Consistent (cap : ℕ) (r : TesterQueueRegistry) : Prop where
  nonempty : ∀ {key set}, r.subs.lookup key = some set → set ≠ ∅
  counted : ∀ p, r.projectSubCount p = (r.pairsOf p).card
  capped : ∀ p, (r.pairsOf p).card ≤ cap
  locked : ∀ {key}, key ∈ r.subs → key.1 ∈ r.projectLocks

/-! ### What the methods do -/

variable {r : TesterQueueRegistry} {cap : ℕ} {p t c : String} {key : TesterPair}

lemma mem_pairsOf : key ∈ r.pairsOf p ↔ key ∈ r.subs ∧ key.1 = p := by
  simp [pairsOf, AList.mem_keys]

/-- The registry after the first subscription of a pair. -/
def opened (r : TesterQueueRegistry) (p t c : String) : TesterQueueRegistry :=
  { subs := r.subs.insert (p, t) {c}
    projectSubCounts := r.projectSubCounts.insert p (r.projectSubCount p + 1)
    seqs := r.seqs
    projectLocks := insert p r.projectLocks }

/-- The registry after the last subscriber of a pair has left. -/
def closed (r : TesterQueueRegistry) (p t : String) : TesterQueueRegistry :=
  { subs := (r.subs.insert (p, t) ∅).erase (p, t)
    projectSubCounts :=
      if r.projectSubCount p - 1 ≤ 0 then r.projectSubCounts.erase p
      else r.projectSubCounts.insert p (r.projectSubCount p - 1)
    seqs := r.seqs
    projectLocks := insert p r.projectLocks }

lemma closed_subs (r : TesterQueueRegistry) (p t : String) :
    (r.closed p t).subs = (r.subs.insert (p, t) ∅).erase (p, t) := rfl

/-- What a subscribe does: it joins a pair, is rejected, or opens the pair. -/
lemma trySubscribe_cases (r : TesterQueueRegistry) (cap : ℕ) (p t c : String) :
    (∃ set, r.subs.lookup (p, t) = some set ∧
      r.trySubscribe cap p t c = (true, r.putSubs p t (insert c set))) ∨
    (r.subs.lookup (p, t) = none ∧ (cap : ℤ) ≤ r.projectSubCount p ∧
      r.trySubscribe cap p t c = (false, r.lock p)) ∨
    (r.subs.lookup (p, t) = none ∧ r.projectSubCount p < cap ∧
      r.trySubscribe cap p t c = (true, r.opened p t c)) := by
  have hlock : (r.lock p).subs = r.subs := rfl
  have hcount : (r.lock p).projectSubCount p = r.projectSubCount p := rfl
  cases hl : r.subs.lookup (p, t) with
  | some set => exact .inl ⟨set, rfl, by simp only [trySubscribe, hl]⟩
  | none =>
      rcases le_or_gt (cap : ℤ) (r.projectSubCount p) with hcap | hcap
      · refine .inr (.inl ⟨rfl, hcap, ?_⟩)
        simp only [trySubscribe, hl, hlock, hcount, if_pos hcap]
      · refine .inr (.inr ⟨rfl, hcap, ?_⟩)
        simp only [trySubscribe, hl, hlock, hcount, if_neg (not_le.mpr hcap)]
        rfl

/-- What an unsubscribe does: nothing for an unknown pair, else the subscriber goes, and the
pair with it when nobody is left. -/
lemma unsubscribe_cases (r : TesterQueueRegistry) (p t c : String) :
    (r.subs.lookup (p, t) = none ∧ r.unsubscribe p t c = r) ∨
    (∃ set, r.subs.lookup (p, t) = some set ∧ set.erase c ≠ ∅ ∧
      r.unsubscribe p t c = r.putSubs p t (set.erase c)) ∨
    (∃ set, r.subs.lookup (p, t) = some set ∧ set.erase c = ∅ ∧
      r.unsubscribe p t c = r.closed p t) := by
  cases hl : r.subs.lookup (p, t) with
  | none => exact .inl ⟨rfl, by simp only [unsubscribe, hl]⟩
  | some set =>
      by_cases hset : set.erase c = ∅
      · refine .inr (.inr ⟨set, rfl, hset, ?_⟩)
        have hlookup : (((r.putSubs p t ∅).lock p).subs).lookup (p, t) = some ∅ :=
          AList.lookup_insert r.subs
        simp only [unsubscribe, hl, hset, if_pos, retire, hlookup]
        rfl
      · exact .inr (.inl ⟨set, rfl, hset, by simp only [unsubscribe, hl, if_neg hset]⟩)

/-- The subscribers of a pair once a connection has left it. -/
def leave (c : String) (subs : Option (Finset String)) : Option (Finset String) :=
  subs.bind fun set => if set.erase c = ∅ then none else some (set.erase c)

lemma leave_leave (c : String) (subs : Option (Finset String)) :
    leave c (leave c subs) = leave c subs := by
  cases subs with
  | none => rfl
  | some set =>
      by_cases hset : set.erase c = ∅
      · simp [leave, hset]
      · simp [leave, hset]

lemma notMem_of_leave {subs : Option (Finset String)} {set : Finset String}
    (h : leave c subs = some set) : c ∉ set := by
  cases subs with
  | none => simp [leave] at h
  | some set' =>
      rw [leave, Option.bind_some] at h
      split_ifs at h
      rw [← Option.some.inj h]
      exact Finset.notMem_erase c set'

/-- Whoever is not subscribed leaves nothing. -/
lemma leave_of_notMem {set : Finset String} (hset : set ≠ ∅) (hc : c ∉ set) :
    leave c (some set) = some set := by
  rw [leave, Option.bind_some, Finset.erase_eq_of_notMem hc, if_neg hset]

/-- An unsubscribe changes the one pair. -/
lemma lookup_unsubscribe (r : TesterQueueRegistry) (p t c : String) (key : TesterPair) :
    (r.unsubscribe p t c).subs.lookup key =
      if key = (p, t) then leave c (r.subs.lookup key) else r.subs.lookup key := by
  rcases unsubscribe_cases r p t c with ⟨hl, hu⟩ | ⟨set, hl, hset, hu⟩ | ⟨set, hl, hset, hu⟩
  · rw [hu]
    split_ifs with hkey
    · rw [hkey, hl]
      rfl
    · rfl
  · rw [hu, putSubs]
    split_ifs with hkey
    · rw [hkey, hl, AList.lookup_insert, leave, Option.bind_some, if_neg hset]
    · exact AList.lookup_insert_ne hkey
  · rw [hu, closed_subs]
    split_ifs with hkey
    · rw [hkey, hl, AList.lookup_erase, leave, Option.bind_some, if_pos hset]
    · rw [AList.lookup_erase_ne hkey, AList.lookup_insert_ne hkey]

/-! ### The pairs of a project -/

lemma pairsOf_putSubs (h : (p, t) ∈ r.subs) (set : Finset String) (q : String) :
    (r.putSubs p t set).pairsOf q = r.pairsOf q := by
  ext key
  rw [mem_pairsOf, mem_pairsOf, putSubs, AList.mem_insert]
  constructor
  · rintro ⟨rfl | hmem, hq⟩
    · exact ⟨h, hq⟩
    · exact ⟨hmem, hq⟩
  · exact fun ⟨hmem, hq⟩ => ⟨.inr hmem, hq⟩

lemma pairsOf_opened (r : TesterQueueRegistry) (p t c q : String) :
    (r.opened p t c).pairsOf q = if q = p then insert (p, t) (r.pairsOf q) else r.pairsOf q := by
  ext key
  rw [mem_pairsOf, opened, AList.mem_insert]
  split_ifs with hq
  · rw [Finset.mem_insert, mem_pairsOf]
    constructor
    · rintro ⟨rfl | hmem, hkey⟩
      · exact .inl rfl
      · exact .inr ⟨hmem, hkey⟩
    · rintro (rfl | ⟨hmem, hkey⟩)
      · exact ⟨.inl rfl, hq.symm⟩
      · exact ⟨.inr hmem, hkey⟩
  · rw [mem_pairsOf]
    constructor
    · rintro ⟨rfl | hmem, hkey⟩
      · exact absurd hkey.symm hq
      · exact ⟨hmem, hkey⟩
    · exact fun ⟨hmem, hkey⟩ => ⟨.inr hmem, hkey⟩

lemma pairsOf_closed (r : TesterQueueRegistry) (p t q : String) :
    (r.closed p t).pairsOf q = (r.pairsOf q).erase (p, t) := by
  ext key
  rw [mem_pairsOf, closed_subs, AList.mem_erase, AList.mem_insert, Finset.mem_erase, mem_pairsOf]
  constructor
  · rintro ⟨⟨hne, heq | hmem⟩, hkey⟩
    · exact absurd heq hne
    · exact ⟨hne, hmem, hkey⟩
  · exact fun ⟨hne, hmem, hkey⟩ => ⟨⟨hne, .inr hmem⟩, hkey⟩

lemma projectSubCount_opened (r : TesterQueueRegistry) (p t c q : String) :
    (r.opened p t c).projectSubCount q =
      if q = p then r.projectSubCount p + 1 else r.projectSubCount q := by
  rw [projectSubCount, opened]
  split_ifs with hq
  · rw [hq, AList.lookup_insert, Option.getD_some]
  · rw [AList.lookup_insert_ne hq]
    rfl

/-- The count of a closed pair's project goes down by one; at zero its entry goes. -/
lemma projectSubCount_closed (hpos : 0 < r.projectSubCount p) (t q : String) :
    (r.closed p t).projectSubCount q =
      if q = p then r.projectSubCount p - 1 else r.projectSubCount q := by
  rw [projectSubCount, closed]
  by_cases hq : q = p
  · rw [if_pos hq, hq]
    by_cases hzero : r.projectSubCount p - 1 ≤ 0
    · rw [if_pos hzero, AList.lookup_erase, Option.getD_none]
      omega
    · rw [if_neg hzero, AList.lookup_insert, Option.getD_some]
  · rw [if_neg hq]
    by_cases hzero : r.projectSubCount p - 1 ≤ 0
    · rw [if_pos hzero, AList.lookup_erase_ne hq]
      rfl
    · rw [if_neg hzero, AList.lookup_insert_ne hq]
      rfl

/-! ### The dictionaries stay consistent -/

lemma mem_subs_of_lookup {set : Finset String} (h : r.subs.lookup key = some set) :
    key ∈ r.subs := by
  rw [← AList.lookup_isSome, h]
  rfl

lemma consistent_new (cap : ℕ) : new.Consistent cap where
  nonempty h := by simp [new] at h
  counted p := by simp [projectSubCount, pairsOf, new]
  capped p := by simp [pairsOf, new]
  locked h := absurd h (AList.notMem_empty _)

namespace Consistent

/-- The count of the project of a kept pair is positive. -/
lemma count_pos (h : r.Consistent cap) (hmem : (p, t) ∈ r.subs) : 0 < r.projectSubCount p := by
  rw [h.counted]
  have hpos : 0 < (r.pairsOf p).card := Finset.card_pos.mpr ⟨(p, t), mem_pairsOf.mpr ⟨hmem, rfl⟩⟩
  omega

/-- A set that is not empty can be put under a kept pair. -/
lemma putSubs (h : r.Consistent cap) (hmem : (p, t) ∈ r.subs) {set : Finset String}
    (hset : set ≠ ∅) : (r.putSubs p t set).Consistent cap where
  nonempty {key set'} hl := by
    by_cases hkey : key = (p, t)
    · rw [hkey, TesterQueueRegistry.putSubs, AList.lookup_insert] at hl
      rwa [← Option.some.inj hl]
    · rw [TesterQueueRegistry.putSubs, AList.lookup_insert_ne hkey] at hl
      exact h.nonempty hl
  counted q := by
    rw [pairsOf_putSubs hmem]
    exact h.counted q
  capped q := by
    rw [pairsOf_putSubs hmem]
    exact h.capped q
  locked {key} hkey := by
    rw [TesterQueueRegistry.putSubs, AList.mem_insert] at hkey
    rcases hkey with rfl | hkey
    · exact h.locked hmem
    · exact h.locked hkey

/-- A pair can be opened below the cap. -/
lemma opened (h : r.Consistent cap) (hl : r.subs.lookup (p, t) = none)
    (hcap : r.projectSubCount p < cap) (c : String) : (r.opened p t c).Consistent cap where
  nonempty {key set} hs := by
    by_cases hkey : key = (p, t)
    · rw [hkey, TesterQueueRegistry.opened, AList.lookup_insert] at hs
      rw [← Option.some.inj hs]
      exact Finset.singleton_ne_empty c
    · rw [TesterQueueRegistry.opened, AList.lookup_insert_ne hkey] at hs
      exact h.nonempty hs
  counted q := by
    have hnot : (p, t) ∉ r.pairsOf q := fun hmem =>
      AList.lookup_eq_none.mp hl (mem_pairsOf.mp hmem).1
    rw [projectSubCount_opened, pairsOf_opened]
    split_ifs with hq
    · rw [Finset.card_insert_of_notMem hnot, hq, h.counted p, Nat.cast_add_one]
    · exact h.counted q
  capped q := by
    rw [pairsOf_opened]
    split_ifs with hq
    · have hcard := Finset.card_insert_le (p, t) (r.pairsOf q)
      have hcount := h.counted p
      rw [hq] at hcard ⊢
      omega
    · exact h.capped q
  locked {key} hkey := by
    rw [TesterQueueRegistry.opened, AList.mem_insert] at hkey
    rcases hkey with rfl | hkey
    · exact Finset.mem_insert_self _ _
    · exact Finset.mem_insert_of_mem (h.locked hkey)

/-- A kept pair can be closed. -/
lemma closed (h : r.Consistent cap) (hmem : (p, t) ∈ r.subs) : (r.closed p t).Consistent cap where
  nonempty {key set} hl := by
    have hkey : key ≠ (p, t) := by
      rintro rfl
      rw [closed_subs, AList.lookup_erase] at hl
      exact absurd hl (by simp)
    rw [closed_subs, AList.lookup_erase_ne hkey, AList.lookup_insert_ne hkey] at hl
    exact h.nonempty hl
  counted q := by
    rw [projectSubCount_closed (h.count_pos hmem), pairsOf_closed]
    split_ifs with hq
    · have hin : (p, t) ∈ r.pairsOf q := mem_pairsOf.mpr ⟨hmem, hq.symm⟩
      have hcard := Finset.card_erase_add_one hin
      have hcount := h.counted p
      rw [hq] at hcard ⊢
      omega
    · have hout : (p, t) ∉ r.pairsOf q := fun hin => hq (mem_pairsOf.mp hin).2.symm
      rw [Finset.erase_eq_of_notMem hout]
      exact h.counted q
  capped q := by
    rw [pairsOf_closed]
    exact (Finset.card_erase_le).trans (h.capped q)
  locked {key} hkey := by
    rw [closed_subs, AList.mem_erase, AList.mem_insert] at hkey
    rcases hkey.2 with heq | hkey'
    · exact absurd heq hkey.1
    · exact Finset.mem_insert_of_mem (h.locked hkey')

/-- The lock object of a project at the cap is already there. -/
lemma lock_of_full (h : r.Consistent cap) (hcap : 0 < cap)
    (hfull : (cap : ℤ) ≤ r.projectSubCount p) : r.lock p = r := by
  rw [h.counted] at hfull
  obtain ⟨key, hkey⟩ := Finset.card_pos.mp (show 0 < (r.pairsOf p).card by omega)
  obtain ⟨hmem, rfl⟩ := mem_pairsOf.mp hkey
  rw [lock, Finset.insert_eq_of_mem (h.locked hmem)]

lemma trySubscribe (h : r.Consistent cap) (p t c : String) :
    (r.trySubscribe cap p t c).2.Consistent cap := by
  rcases trySubscribe_cases r cap p t c with ⟨set, hl, hs⟩ | ⟨-, -, hs⟩ | ⟨hl, hcap, hs⟩
  · rw [hs]
    exact h.putSubs (mem_subs_of_lookup hl) (Finset.insert_ne_empty c set)
  · rw [hs]
    exact ⟨h.nonempty, h.counted, h.capped, fun hmem => Finset.mem_insert_of_mem (h.locked hmem)⟩
  · rw [hs]
    exact h.opened hl hcap c

lemma unsubscribe (h : r.Consistent cap) (p t c : String) :
    (r.unsubscribe p t c).Consistent cap := by
  rcases unsubscribe_cases r p t c with ⟨-, hu⟩ | ⟨set, hl, hset, hu⟩ | ⟨set, hl, -, hu⟩
  · rwa [hu]
  · rw [hu]
    exact h.putSubs (mem_subs_of_lookup hl) hset
  · rw [hu]
    exact h.closed (mem_subs_of_lookup hl)

lemma drop (h : r.Consistent cap) (c : String) (key : TesterPair) :
    (r.drop c key).Consistent cap := by
  rw [TesterQueueRegistry.drop]
  split_ifs
  · exact h.unsubscribe _ _ _
  · exact h

lemma foldl_drop (c : String) (keys : List TesterPair) (h : r.Consistent cap) :
    (keys.foldl (TesterQueueRegistry.drop c) r).Consistent cap := by
  induction keys generalizing r with
  | nil => exact h
  | cons key keys ih => exact ih (h.drop c key)

lemma nextSeq (h : r.Consistent cap) (p t : String) : (r.nextSeq p t).2.Consistent cap :=
  ⟨h.nonempty, h.counted, h.capped, h.locked⟩

end Consistent

/-- The pairs that the loop of `removeConnectionFromTester` visits are dropped. -/
lemma removeConnectionFromTester_fst (r : TesterQueueRegistry) (t c : String) :
    (r.removeConnectionFromTester t c).1 =
      (r.subs.keys.filter fun key => key.2 = t).foldl (drop c) r := by
  rw [removeConnectionFromTester]
  generalize r.subs.keys.filter (fun key => key.2 = t) = keys
  suffices hfold : ∀ (acc : TesterQueueRegistry × List TesterPair),
      (keys.foldl (fun acc key =>
        if acc.1.contains c key then (acc.1.unsubscribe key.1 key.2 c, acc.2 ++ [key])
        else acc) acc).1 = keys.foldl (drop c) acc.1 from hfold (r, [])
  induction keys with
  | nil => exact fun _ => rfl
  | cons key keys ih =>
      intro acc
      rw [List.foldl_cons, List.foldl_cons, ih, drop]
      split_ifs <;> rfl

/-- One call keeps the dictionaries consistent. -/
lemma Consistent.step (h : r.Consistent cap) (op : TesterQueueOp) :
    (r.step cap op).1.Consistent cap := by
  cases op with
  | subscribe p t c => exact h.trySubscribe p t c
  | snapshot p t => exact h.nextSeq p t
  | publish p t =>
      rw [TesterQueueRegistry.step]
      split_ifs
      · exact h.nextSeq p t
      · exact h
  | unsubscribe p t c => exact h.unsubscribe p t c
  | unsubscribeTester t c =>
      rw [TesterQueueRegistry.step, removeConnectionFromTester_fst]
      exact h.foldl_drop c _
  | removeConnection c => exact h.foldl_drop c _

lemma Consistent.run (h : r.Consistent cap) (ops : List TesterQueueOp) :
    (r.run cap ops).1.Consistent cap := by
  induction ops generalizing r with
  | nil => exact h
  | cons op ops ih => exact ih (h.step op)

/-! ### A connection leaves -/

lemma lookup_drop (h : r.Consistent cap) (c : String) (key k : TesterPair) :
    (r.drop c key).subs.lookup k =
      if k = key then leave c (r.subs.lookup k) else r.subs.lookup k := by
  rw [drop]
  by_cases hc : r.contains c key = true
  · rw [if_pos hc]
    exact lookup_unsubscribe r key.1 key.2 c k
  · rw [if_neg hc]
    split_ifs with hk
    · rw [hk]
      cases hl : r.subs.lookup key with
      | none => rfl
      | some set =>
          have hnot : c ∉ set := by simpa [contains, hl] using hc
          rw [leave_of_notMem (h.nonempty hl) hnot]
    · rfl

/-- Every pair of the list is left once, whatever the order. -/
lemma lookup_foldl_drop (h : r.Consistent cap) (c : String) (keys : List TesterPair)
    (k : TesterPair) : (keys.foldl (drop c) r).subs.lookup k =
      if k ∈ keys then leave c (r.subs.lookup k) else r.subs.lookup k := by
  induction keys generalizing r with
  | nil => rw [List.foldl_nil, if_neg List.not_mem_nil]
  | cons key keys ih =>
      rw [List.foldl_cons, ih (h.drop c key), lookup_drop h]
      by_cases hkey : k = key
      · rw [if_pos hkey, if_pos (List.mem_cons.mpr (.inl hkey)), leave_leave, ite_self]
      · rw [if_neg hkey]
        simp only [List.mem_cons, hkey, false_or]

/-- A removed connection leaves every pair, and every other subscriber stays. -/
lemma lookup_removeConnection (h : r.Consistent cap) (c : String) (key : TesterPair) :
    (r.removeConnection c).subs.lookup key = leave c (r.subs.lookup key) := by
  rw [removeConnection, lookup_foldl_drop h]
  split_ifs with hkey
  · rfl
  · rw [AList.lookup_eq_none.mpr fun hmem => hkey (AList.mem_keys.mp hmem)]
    rfl

/-- The watched testers are the pairs that are kept. -/
lemma watched_eq (h : r.Consistent cap) (p : String) :
    r.watched p = ((r.pairsOf p).image Prod.snd : Finset String) := by
  ext t
  rw [Finset.mem_coe, Finset.mem_image, watched, Set.mem_ofPred_eq, hasSubscribers]
  constructor
  · intro hsubs
    cases hl : r.subs.lookup (p, t) with
    | none => simp [hl] at hsubs
    | some set => exact ⟨(p, t), mem_pairsOf.mpr ⟨mem_subs_of_lookup hl, rfl⟩, rfl⟩
  · rintro ⟨⟨p', t'⟩, hkey, rfl⟩
    obtain ⟨hmem, rfl⟩ := mem_pairsOf.mp hkey
    obtain ⟨set, hl⟩ := Option.isSome_iff_exists.mp (AList.lookup_isSome.mpr hmem)
    simpa [hl] using h.nonempty hl

/-- The pairs of a project differ in their testers. -/
lemma card_testers (r : TesterQueueRegistry) (p : String) :
    ((r.pairsOf p).image Prod.snd).card = (r.pairsOf p).card := by
  refine Finset.card_image_of_injOn fun a ha b hb hab => ?_
  have ha' := (mem_pairsOf.mp (Finset.mem_coe.mp ha)).2
  have hb' := (mem_pairsOf.mp (Finset.mem_coe.mp hb)).2
  exact Prod.ext (ha'.trans hb'.symm) hab

/-! ### The numbers of a pair -/

/-- The last number of a pair. -/
def lastSeq (r : TesterQueueRegistry) (key : TesterPair) : ℕ :=
  ((r.seqs.lookup key).map fun cur => cur.toUInt64.toNat).getD 0

/-- The `n` numbers that follow `s`. -/
def numbers (s n : ℕ) : List ℕ := (List.range n).map fun i => (s + i + 1) % 2 ^ 64

lemma numbers_succ (s n : ℕ) :
    numbers s (n + 1) = (s + 1) % 2 ^ 64 :: numbers ((s + 1) % 2 ^ 64) n := by
  rw [numbers, List.range_succ_eq_map, List.map_cons, List.map_map, numbers]
  congr 1
  refine List.map_congr_left fun i _ => ?_
  rw [Function.comp_apply]
  omega

lemma seqs_trySubscribe (r : TesterQueueRegistry) (cap : ℕ) (p t c : String) :
    (r.trySubscribe cap p t c).2.seqs = r.seqs := by
  rcases trySubscribe_cases r cap p t c with ⟨set, -, hs⟩ | ⟨-, -, hs⟩ | ⟨-, -, hs⟩ <;>
    rw [hs] <;> rfl

lemma seqs_unsubscribe (r : TesterQueueRegistry) (p t c : String) :
    (r.unsubscribe p t c).seqs = r.seqs := by
  rcases unsubscribe_cases r p t c with ⟨-, hu⟩ | ⟨set, -, -, hu⟩ | ⟨set, -, -, hu⟩ <;>
    rw [hu] <;> rfl

lemma seqs_foldl_drop (r : TesterQueueRegistry) (c : String) (keys : List TesterPair) :
    (keys.foldl (drop c) r).seqs = r.seqs := by
  induction keys generalizing r with
  | nil => rfl
  | cons key keys ih =>
      rw [List.foldl_cons, ih, drop]
      split_ifs
      · exact seqs_unsubscribe r key.1 key.2 c
      · rfl

lemma nextSeq_fst (r : TesterQueueRegistry) (p t : String) :
    (r.nextSeq p t).1.toNat = (r.lastSeq (p, t) + 1) % 2 ^ 64 := by
  rw [nextSeq, lastSeq]
  cases r.seqs.lookup (p, t) with
  | none => rfl
  | some cur =>
      show (cur.toUInt64 + 1).toNat = _
      rw [UInt64.toNat_add]
      rfl

lemma lastSeq_nextSeq (r : TesterQueueRegistry) (p t : String) (key : TesterPair) :
    (r.nextSeq p t).2.lastSeq key =
      if key = (p, t) then (r.lastSeq (p, t) + 1) % 2 ^ 64 else r.lastSeq key := by
  rw [lastSeq, nextSeq]
  split_ifs with hkey
  · rw [hkey, AList.lookup_insert, ← nextSeq_fst]
    rfl
  · rw [AList.lookup_insert_ne hkey]
    rfl

/-- A call issues no number for a pair, or the one after its last. -/
lemma issued_step (r : TesterQueueRegistry) (cap : ℕ) (op : TesterQueueOp) (key : TesterPair) :
    (issued key (r.step cap op).2 = [] ∧ (r.step cap op).1.lastSeq key = r.lastSeq key) ∨
    (issued key (r.step cap op).2 = [(r.lastSeq key + 1) % 2 ^ 64] ∧
      (r.step cap op).1.lastSeq key = (r.lastSeq key + 1) % 2 ^ 64) := by
  have hnext : ∀ p t, (issued key [((p, t), (r.nextSeq p t).1)] = [] ∧
        (r.nextSeq p t).2.lastSeq key = r.lastSeq key) ∨
      (issued key [((p, t), (r.nextSeq p t).1)] = [(r.lastSeq key + 1) % 2 ^ 64] ∧
        (r.nextSeq p t).2.lastSeq key = (r.lastSeq key + 1) % 2 ^ 64) := by
    intro p t
    by_cases hkey : key = (p, t)
    · refine .inr ⟨?_, by rw [lastSeq_nextSeq, if_pos hkey, hkey]⟩
      simp [issued, hkey, nextSeq_fst]
    · refine .inl ⟨?_, by rw [lastSeq_nextSeq, if_neg hkey]⟩
      simp [issued, Ne.symm hkey]
  have hquiet : ∀ r' : TesterQueueRegistry, r'.seqs = r.seqs → r'.lastSeq key = r.lastSeq key :=
    fun r' hseqs => by rw [lastSeq, lastSeq, hseqs]
  cases op with
  | subscribe p t c => exact .inl ⟨rfl, hquiet _ (seqs_trySubscribe r cap p t c)⟩
  | snapshot p t => exact hnext p t
  | publish p t =>
      rw [step]
      split_ifs
      · exact hnext p t
      · exact .inl ⟨rfl, rfl⟩
  | unsubscribe p t c => exact .inl ⟨rfl, hquiet _ (seqs_unsubscribe r p t c)⟩
  | unsubscribeTester t c =>
      refine .inl ⟨rfl, hquiet _ ?_⟩
      rw [step, removeConnectionFromTester_fst]
      exact seqs_foldl_drop r c _
  | removeConnection c => exact .inl ⟨rfl, hquiet _ (seqs_foldl_drop r c _)⟩

lemma issued_append (key : TesterPair) (log log' : List Issue) :
    issued key (log ++ log') = issued key log ++ issued key log' := by
  rw [issued, List.filter_append, List.map_append]
  rfl

/-- The numbers issued for a pair follow its last one without a gap. -/
lemma issued_run (r : TesterQueueRegistry) (cap : ℕ) (ops : List TesterQueueOp)
    (key : TesterPair) : ∃ n, issued key (r.run cap ops).2 = numbers (r.lastSeq key) n := by
  induction ops generalizing r with
  | nil => exact ⟨0, rfl⟩
  | cons op ops ih =>
      obtain ⟨n, hn⟩ := ih (r.step cap op).1
      have hrun : issued key (r.run cap (op :: ops)).2 =
          issued key (r.step cap op).2 ++ issued key ((r.step cap op).1.run cap ops).2 :=
        issued_append key _ _
      rcases issued_step r cap op key with ⟨hnil, hlast⟩ | ⟨hone, hlast⟩
      · exact ⟨n, by rw [hrun, hnil, hn, hlast, List.nil_append]⟩
      · exact ⟨n + 1, by rw [hrun, hone, hn, hlast, numbers_succ, List.singleton_append]⟩

/-- The numbers from one on increase until they wrap. -/
lemma pairwise_numbers_iff (n : ℕ) : (numbers 0 n).Pairwise (· < ·) ↔ n < 2 ^ 64 := by
  constructor
  · intro hpair
    by_contra hge
    -- the first number is one, and the number at the wrap is zero
    have hlen : (numbers 0 n).length = n := by simp [numbers]
    have hlt := List.pairwise_iff_getElem.mp hpair 0 (2 ^ 64 - 1) (by omega) (by omega) (by omega)
    simp [numbers] at hlt
  · intro hlt
    refine List.pairwise_map.mpr (List.pairwise_lt_range.imp_of_mem ?_)
    intro i j hi hj hij
    rw [List.mem_range] at hi hj
    rw [Nat.mod_eq_of_lt (by omega), Nat.mod_eq_of_lt (by omega)]
    omega

/-- The numbers issued for a pair since the start. -/
lemma pairwise_issued_iff (cap : ℕ) (ops : List TesterQueueOp) (key : TesterPair) :
    (issued key (new.run cap ops).2).Pairwise (· < ·) ↔
      (issued key (new.run cap ops).2).length < 2 ^ 64 := by
  obtain ⟨n, hn⟩ := issued_run new cap ops key
  have hzero : new.lastSeq key = 0 := rfl
  rw [hn, hzero, pairwise_numbers_iff, numbers, List.length_map, List.length_range]

/-! ### The accounting -/

/-- The accounting of a registry and of the numbers it has issued. -/
structure Accounts (cap : ℕ) (r : TesterQueueRegistry) (log : List Issue) : Prop where
  counted : ∀ p, (r.watched p).Finite ∧ r.projectSubCount p = (r.watched p).ncard
  capped : ∀ p, r.projectSubCount p ≤ cap
  increasing : ∀ key, (issued key log).Pairwise (· < ·) ↔ (issued key log).length < 2 ^ 64
  rejected : ∀ p t c, (r.trySubscribe cap p t c).1 = false → (r.trySubscribe cap p t c).2 = r
  removed : ∀ c key set, (r.removeConnection c).subs.lookup key = some set → c ∉ set

/-- The accounting holds after every sequence of calls. -/
theorem accounts_run (raw : Option String) (ops : List TesterQueueOp) :
    Accounts (maxSubsPerProject raw) (new.run (maxSubsPerProject raw) ops).1
      (new.run (maxSubsPerProject raw) ops).2 := by
  have h := (consistent_new (maxSubsPerProject raw)).run ops
  refine ⟨fun p => ⟨?_, ?_⟩, fun p => ?_, pairwise_issued_iff _ ops, fun p t c hfalse => ?_,
    fun c key set hl => ?_⟩
  · rw [watched_eq h]
    exact Finset.finite_toSet _
  · rw [watched_eq h, Set.ncard_coe_finset, card_testers]
    exact h.counted p
  · rw [h.counted]
    exact Nat.cast_le.mpr (h.capped p)
  · rcases trySubscribe_cases (new.run (maxSubsPerProject raw) ops).1 (maxSubsPerProject raw) p t c
      with ⟨set, -, hs⟩ | ⟨-, hfull, hs⟩ | ⟨-, -, hs⟩
    · simp [hs] at hfalse
    · rw [hs]
      exact h.lock_of_full (maxSubsPerProject_pos raw) hfull
    · simp [hs] at hfalse
  · rw [lookup_removeConnection h] at hl
    exact notMem_of_leave hl

/-- A watched pair gets a number with every update. -/
lemma length_issued_publish (r : TesterQueueRegistry) (cap n : ℕ) (p t : String)
    (h : r.hasSubscribers p t = true) :
    (issued (p, t) (r.run cap (List.replicate n (.publish p t))).2).length = n := by
  induction n generalizing r with
  | zero => rfl
  | succ n ih =>
      have hstep : r.step cap (.publish p t) =
          ((r.nextSeq p t).2, [((p, t), (r.nextSeq p t).1)]) := by rw [step, if_pos h]
      have hkeep : (r.nextSeq p t).2.hasSubscribers p t = true := h
      rw [List.replicate_succ, run, hstep, issued_append, List.length_append, ih _ hkeep]
      simp [issued]
      omega

/-- After `2 ^ 64` updates the numbers of a tester have started over. -/
theorem numbers_wrap :
    ¬ (issued ("p", "t") (new.run (maxSubsPerProject none)
      (.subscribe "p" "t" "c" :: List.replicate (2 ^ 64) (.publish "p" "t"))).2).Pairwise
        (· < ·) := by
  rw [pairwise_issued_iff]
  have hlen := length_issued_publish (new.step (maxSubsPerProject none) (.subscribe "p" "t" "c")).1
    (maxSubsPerProject none) (2 ^ 64) "p" "t" (by decide)
  have hrun : ∀ ops, (new.run (maxSubsPerProject none) (.subscribe "p" "t" "c" :: ops)).2 =
      ((new.step (maxSubsPerProject none) (.subscribe "p" "t" "c")).1.run
        (maxSubsPerProject none) ops).2 := fun ops => rfl
  rw [hrun, hlen]
  exact lt_irrefl _

end TesterQueueRegistry

end Networker
