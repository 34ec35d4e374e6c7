/-
The limiters of the embeddable endpoint (`sdk/rust/src/limits.rs`).

* `AcquireCall`, `Counters`, `AcquireStep`, `concurrencyCaps`: `Concurrency::acquire` and the
  drop of a `Permit` as a machine whose steps are the atomic operations of all calls;
* `caps_hold`: the caps hold in every interleaving, and the counters say who holds a slot;
* `ByteBudget`, `BudgetInner`, `reserve`: `ByteBudgetTracker::reserve`;
* `granted_le`: what the tracker grants within a number of windows.
-/
import Networker.Concurrency.Machine

namespace Networker

open Concurrency

namespace Sdk

/-! ### The concurrency caps -/

/-- Where a call of `acquire`, or the permit it returned, has got to. -/
inductive AcquireCall
  /-- In front of the load of the overall counter. -/
  | reserving (isTransfer : Bool)
  | comparing (isTransfer : Bool) (cur : UInt32)
  /-- In front of the load of the transfer counter. -/
  | reservingTransfer
  | comparingTransfer (cur : UInt32)
  | rollingBack
  | refused
  /-- The permit is alive. -/
  | permit (transfer : Bool)
  /-- The drop of a transfer permit has given back the overall slot. -/
  | dropping
  | dropped
  deriving DecidableEq

namespace AcquireCall

/-- The call or its permit has an overall slot. -/
def holdsSlot : AcquireCall → Bool
  | reservingTransfer | comparingTransfer _ | rollingBack | permit _ => true
  | _ => false

/-- The permit has a transfer slot. -/
def holdsTransfer : AcquireCall → Bool
  | permit true | dropping => true
  | _ => false

def isPermit : AcquireCall → Bool
  | permit _ => true
  | _ => false

/-- The call is over, and so is its permit. -/
def isOver : AcquireCall → Bool
  | refused | dropped => true
  | _ => false

end AcquireCall

/-- `Counters`, with the calls that share them. -/
structure Counters where
  inFlight : UInt32
  transfers : UInt32
  calls : List AcquireCall

/-- The next atomic operation of some call. -/
inductive AcquireStep
  | acquire (isTransfer : Bool)
  /-- The next operation of a call; a load returns `observed`, which need not be current. -/
  | advance (i : ℕ) (observed : UInt32)

namespace Counters

def start : Counters := ⟨0, 0, []⟩

def move (st : Counters) (i : ℕ) (call : AcquireCall) : Counters :=
  { st with calls := st.calls.set i call }

/-- The two loops of `acquire`, and `drop`. -/
def advance (max maxTransfers : UInt32) (st : Counters) (i : ℕ) (observed : UInt32) :
    AcquireCall → Counters
  | .reserving isTransfer =>
      if max ≤ observed then st.move i .refused else st.move i (.comparing isTransfer observed)
  | .comparing isTransfer cur =>
      if st.inFlight = cur then
        { st.move i (if isTransfer then .reservingTransfer else .permit false) with
          inFlight := cur + 1 }
      else st.move i (.reserving isTransfer)
  | .reservingTransfer =>
      if maxTransfers ≤ observed then st.move i .rollingBack
      else st.move i (.comparingTransfer observed)
  | .comparingTransfer cur =>
      if st.transfers = cur then { st.move i (.permit true) with transfers := cur + 1 }
      else st.move i .reservingTransfer
  | .rollingBack => { st.move i .refused with inFlight := st.inFlight - 1 }
  | .permit transfer =>
      { st.move i (if transfer then .dropping else .dropped) with inFlight := st.inFlight - 1 }
  | .dropping => { st.move i .dropped with transfers := st.transfers - 1 }
  | .refused | .dropped => st

def exec (max maxTransfers : UInt32) : AcquireStep → Counters → Counters
  | .acquire isTransfer, st => { st with calls := st.calls ++ [.reserving isTransfer] }
  | .advance i observed, st =>
      match st.calls[i]? with
      | none => st
      | some call => st.advance max maxTransfers i observed call

def can (_ : AcquireStep) (_ : Counters) : Bool := true

end Counters

/-- Any number of calls under the caps. -/
def concurrencyCaps (max maxTransfers : UInt32) : Machine AcquireStep Counters :=
  .of (Counters.exec max maxTransfers) Counters.can

namespace Counters

open AcquireCall

variable {max maxTransfers : UInt32} {st : Counters} {i : ℕ}

/-- The counters count the slots that are held, the caps hold, and what a call compares with is
below its cap. -/
structure Counted (max maxTransfers : UInt32) (st : Counters) : Prop where
  slots : st.inFlight.toNat = st.calls.countP holdsSlot
  transferSlots : st.transfers.toNat = st.calls.countP holdsTransfer
  le : st.inFlight ≤ max
  transfers_le : st.transfers ≤ maxTransfers
  below : ∀ isTransfer cur, .comparing isTransfer cur ∈ st.calls → cur < max
  transfers_below : ∀ cur, .comparingTransfer cur ∈ st.calls → cur < maxTransfers

/-- One call of a list goes from `a` to `b`. -/
lemma countP_set_add {p : AcquireCall → Bool} {calls : List AcquireCall} {a : AcquireCall}
    (h : calls[i]? = some a) (b : AcquireCall) :
    (calls.set i b).countP p + (if p a then 1 else 0) =
      calls.countP p + if p b then 1 else 0 := by
  obtain ⟨hlt, rfl⟩ := List.getElem?_eq_some_iff.mp h
  have hpos : (if p calls[i] then 1 else 0) ≤ calls.countP p := by
    split_ifs with hp
    · exact List.countP_pos_iff.mpr ⟨calls[i], List.getElem_mem hlt, hp⟩
    · exact Nat.zero_le _
  rw [List.countP_set hlt]
  omega

/-- The rule of a step: a call goes from `a` to `b`, and the counters follow. -/
lemma Counted.set (h : Counted max maxTransfers st) {a : AcquireCall}
    (ha : st.calls[i]? = some a) (b : AcquireCall) (f t : UInt32)
    (hf : f.toNat + (if holdsSlot a then 1 else 0) =
      st.inFlight.toNat + if holdsSlot b then 1 else 0)
    (ht : t.toNat + (if holdsTransfer a then 1 else 0) =
      st.transfers.toNat + if holdsTransfer b then 1 else 0)
    (hle : f ≤ max) (htle : t ≤ maxTransfers)
    (hb : ∀ isTransfer cur, b = .comparing isTransfer cur → cur < max)
    (hbt : ∀ cur, b = .comparingTransfer cur → cur < maxTransfers) :
    Counted max maxTransfers ⟨f, t, st.calls.set i b⟩ := by
  have hslots := countP_set_add (p := holdsSlot) ha b
  have htransfers := countP_set_add (p := holdsTransfer) ha b
  refine ⟨?_, ?_, hle, htle, ?_, ?_⟩
  · have hold := h.slots
    dsimp only
    omega
  · have hold := h.transferSlots
    dsimp only
    omega
  · intro isTransfer cur hmem
    rcases List.mem_or_eq_of_mem_set hmem with hmem | heq
    · exact h.below isTransfer cur hmem
    · exact hb isTransfer cur heq.symm
  · intro cur hmem
    rcases List.mem_or_eq_of_mem_set hmem with hmem | heq
    · exact h.transfers_below cur hmem
    · exact hbt cur heq.symm

/-- A counter below its cap can be raised. -/
lemma toNat_succ {cur cap : UInt32} (h : cur < cap) :
    (cur + 1).toNat = cur.toNat + 1 ∧ cur + 1 ≤ cap := by
  have hlt : cur.toNat < cap.toNat := UInt32.lt_iff_toNat_lt.mp h
  have hcap : cap.toNat < 2 ^ 32 := cap.toNat_lt
  have hsucc : (cur + 1).toNat = cur.toNat + 1 := by
    rw [UInt32.toNat_add]
    exact Nat.mod_eq_of_lt (by simp; omega)
  refine ⟨hsucc, UInt32.le_iff_toNat_le.mpr ?_⟩
  rw [hsucc]
  exact hlt

/-- A counter that counts something can be lowered. -/
lemma toNat_pred {n cap : UInt32} (h : 0 < n.toNat) (hn : n ≤ cap) :
    (n - 1).toNat + 1 = n.toNat ∧ n - 1 ≤ cap := by
  have hone : (1 : UInt32) ≤ n := UInt32.le_iff_toNat_le.mpr h
  have hpred : (n - 1).toNat = n.toNat - 1 := UInt32.toNat_sub_of_le n 1 hone
  refine ⟨by omega, UInt32.le_iff_toNat_le.mpr ?_⟩
  have hle := UInt32.le_iff_toNat_le.mp hn
  omega

lemma Counted.pos_slots (h : Counted max maxTransfers st) {a : AcquireCall}
    (ha : st.calls[i]? = some a) (hp : holdsSlot a = true) : 0 < st.inFlight.toNat := by
  rw [h.slots]
  exact List.countP_pos_iff.mpr ⟨a, List.mem_of_getElem? ha, hp⟩

lemma Counted.pos_transfers (h : Counted max maxTransfers st) {a : AcquireCall}
    (ha : st.calls[i]? = some a) (hp : holdsTransfer a = true) : 0 < st.transfers.toNat := by
  rw [h.transferSlots]
  exact List.countP_pos_iff.mpr ⟨a, List.mem_of_getElem? ha, hp⟩

/-- Every operation of a call keeps the count. -/
lemma Counted.advance (h : Counted max maxTransfers st) {call : AcquireCall}
    (hcall : st.calls[i]? = some call) (observed : UInt32) :
    Counted max maxTransfers (st.advance max maxTransfers i observed call) := by
  cases call with
  | reserving isTransfer =>
      rw [Counters.advance]
      split_ifs with hcap
      · exact h.set hcall .refused st.inFlight st.transfers rfl rfl h.le h.transfers_le (by simp)
          (by simp)
      · refine h.set hcall (.comparing isTransfer observed) st.inFlight st.transfers rfl rfl h.le
          h.transfers_le ?_ (by simp)
        rintro t cur heq
        cases heq
        exact UInt32.not_le.mp hcap
  | comparing isTransfer cur =>
      by_cases hcur : st.inFlight = cur
      · obtain ⟨hsucc, hle⟩ := toNat_succ (h.below _ _ (List.mem_of_getElem? hcall))
        rw [Counters.advance, if_pos hcur]
        have hslots : (cur + 1).toNat + 0 = st.inFlight.toNat + 1 := by rw [hsucc, hcur]
        cases isTransfer with
        | false =>
            exact h.set hcall (.permit false) (cur + 1) st.transfers hslots rfl hle
              h.transfers_le (by simp) (by simp)
        | true =>
            exact h.set hcall .reservingTransfer (cur + 1) st.transfers hslots rfl hle
              h.transfers_le (by simp) (by simp)
      · rw [Counters.advance, if_neg hcur]
        exact h.set hcall (.reserving isTransfer) st.inFlight st.transfers rfl rfl h.le
          h.transfers_le (by simp) (by simp)
  | reservingTransfer =>
      rw [Counters.advance]
      split_ifs with hcap
      · exact h.set hcall .rollingBack st.inFlight st.transfers rfl rfl h.le h.transfers_le
          (by simp) (by simp)
      · refine h.set hcall (.comparingTransfer observed) st.inFlight st.transfers rfl rfl h.le
          h.transfers_le (by simp) ?_
        rintro cur heq
        cases heq
        exact UInt32.not_le.mp hcap
  | comparingTransfer cur =>
      rw [Counters.advance]
      split_ifs with hcur
      · obtain ⟨hsucc, hle⟩ := toNat_succ (h.transfers_below _ (List.mem_of_getElem? hcall))
        have hslots : (cur + 1).toNat + 0 = st.transfers.toNat + 1 := by rw [hsucc, hcur]
        exact h.set hcall (.permit true) st.inFlight (cur + 1) rfl hslots h.le hle (by simp)
          (by simp)
      · exact h.set hcall .reservingTransfer st.inFlight st.transfers rfl rfl h.le h.transfers_le
          (by simp) (by simp)
  | rollingBack =>
      obtain ⟨hpred, hle⟩ := toNat_pred (h.pos_slots hcall rfl) h.le
      exact h.set hcall .refused (st.inFlight - 1) st.transfers hpred rfl hle h.transfers_le
        (by simp) (by simp)
  | permit transfer =>
      obtain ⟨hpred, hle⟩ := toNat_pred (h.pos_slots hcall rfl) h.le
      cases transfer with
      | false =>
          exact h.set hcall .dropped (st.inFlight - 1) st.transfers hpred rfl hle
            h.transfers_le (by simp) (by simp)
      | true =>
          exact h.set hcall .dropping (st.inFlight - 1) st.transfers hpred rfl hle
            h.transfers_le (by simp) (by simp)
  | dropping =>
      obtain ⟨hpred, hle⟩ := toNat_pred (h.pos_transfers hcall rfl) h.transfers_le
      exact h.set hcall .dropped st.inFlight (st.transfers - 1) rfl hpred h.le hle (by simp)
        (by simp)
  | refused => exact h
  | dropped => exact h

lemma Counted.exec (h : Counted max maxTransfers st) (l : AcquireStep) :
    Counted max maxTransfers (Counters.exec max maxTransfers l st) := by
  cases l with
  | acquire isTransfer =>
      refine ⟨?_, ?_, h.le, h.transfers_le, ?_, ?_⟩
      · rw [Counters.exec, List.countP_append]
        exact h.slots
      · rw [Counters.exec, List.countP_append]
        exact h.transferSlots
      · intro t cur hmem
        exact h.below t cur (by simpa [Counters.exec] using hmem)
      · intro cur hmem
        exact h.transfers_below cur (by simpa [Counters.exec] using hmem)
  | advance i observed =>
      simp only [Counters.exec]
      split
      · exact h
      · rename_i call hcall
        exact h.advance hcall observed

lemma Counted.start : Counted max maxTransfers Counters.start where
  slots := rfl
  transferSlots := rfl
  le := UInt32.le_iff_toNat_le.mpr (Nat.zero_le _)
  transfers_le := UInt32.le_iff_toNat_le.mpr (Nat.zero_le _)
  below := by simp [Counters.start]
  transfers_below := by simp [Counters.start]

lemma Counted.run (steps : List AcquireStep) :
    Counted max maxTransfers ((concurrencyCaps max maxTransfers).run Counters.start steps) :=
  Machine.run_inv_all (I := Counted max maxTransfers) (fun l _ _ h => h.exec l) .start steps

/-- **The caps hold.**  However the operations of the calls and drops interleave, and whatever
stale values their loads return: there are never more permits than the cap allows, nor transfer
permits than theirs, and the counters count exactly the slots that are held. -/
theorem caps_hold (max maxTransfers : UInt32) (steps : List AcquireStep) :
    let st := (concurrencyCaps max maxTransfers).run Counters.start steps
    st.calls.countP isPermit ≤ max.toNat ∧
      st.calls.countP (fun c => c == .permit true) ≤ maxTransfers.toNat ∧
      st.inFlight.toNat = st.calls.countP holdsSlot ∧
      st.transfers.toNat = st.calls.countP holdsTransfer := by
  intro st
  have h : Counted max maxTransfers st := Counted.run steps
  have hpermits : st.calls.countP isPermit ≤ st.calls.countP holdsSlot := by
    refine List.countP_mono_left fun c _ hc => ?_
    cases c <;> first | rfl | exact hc
  have htransfers : st.calls.countP (fun c => c == .permit true) ≤
      st.calls.countP holdsTransfer := by
    refine List.countP_mono_left fun c _ hc => ?_
    rw [beq_iff_eq.mp hc]
    rfl
  refine ⟨?_, ?_, h.slots, h.transferSlots⟩
  · have hle := UInt32.le_iff_toNat_le.mp h.le
    rw [h.slots] at hle
    exact hpermits.trans hle
  · have hle := UInt32.le_iff_toNat_le.mp h.transfers_le
    rw [h.transferSlots] at hle
    exact htransfers.trans hle

end Counters

/-! ### The byte budget -/

/-- `u64::MAX`. -/
def u64Max : ℕ := 2 ^ 64 - 1

/-- `u64::saturating_add`. -/
def saturatingAdd (m n : ℕ) : ℕ := min (m + n) u64Max

/-- `ByteBudget`. -/
structure ByteBudget where
  bytes : ℕ
  windowS : ℕ

/-- `BudgetInner`; instants and durations are in nanoseconds. -/
structure BudgetInner where
  windowStart : ℕ
  used : ℕ

namespace ByteBudget

/-- `Duration::from_secs(self.budget.window_s.max(1))`. -/
def window (budget : ByteBudget) : ℕ := max budget.windowS 1 * 1000000000

/-- A new window if the last one is over. -/
def roll (budget : ByteBudget) (now : ℕ) (inner : BudgetInner) : BudgetInner :=
  if budget.window ≤ now - inner.windowStart then ⟨now, 0⟩ else inner

/-- `ByteBudgetTracker::reserve`, with the reading of the clock. -/
def reserve (budget : ByteBudget) (now bytes : ℕ) (inner : BudgetInner) :
    Except ℕ Unit × BudgetInner :=
  let inner := budget.roll now inner
  if budget.bytes < saturatingAdd inner.used bytes then
    (.error (budget.window - (now - inner.windowStart)), inner)
  else (.ok (), { inner with used := saturatingAdd inner.used bytes })

/-- What a list of reservations leaves, in the order in which they get the lock. -/
def reserveAll (budget : ByteBudget) (inner : BudgetInner) (calls : List (ℕ × ℕ)) : BudgetInner :=
  calls.foldl (fun inner c => (budget.reserve c.1 c.2 inner).2) inner

/-- The bytes that a list of reservations is granted. -/
def granted (budget : ByteBudget) : BudgetInner → List (ℕ × ℕ) → ℕ
  | _, [] => 0
  | inner, (now, bytes) :: calls =>
      (if (budget.reserve now bytes inner).1.isOk then bytes else 0) +
        budget.granted (budget.reserve now bytes inner).2 calls

variable {budget : ByteBudget} {inner : BudgetInner} {now bytes : ℕ} {calls : List (ℕ × ℕ)}

/-- The window of a reservation: the one that is open, or a new one that starts with it. -/
lemma roll_cases (budget : ByteBudget) (now : ℕ) (inner : BudgetInner) :
    budget.roll now inner = inner ∧ now < inner.windowStart + budget.window ∨
    budget.roll now inner = ⟨now, 0⟩ ∧ inner.windowStart + budget.window ≤ now := by
  have hpos : 0 < budget.window := by
    rw [window]
    have hmax : 1 ≤ max budget.windowS 1 := le_max_right _ _
    omega
  by_cases h : budget.window ≤ now - inner.windowStart
  · exact .inr ⟨if_pos h, by omega⟩
  · exact .inl ⟨if_neg h, by omega⟩

/-- Where nothing saturates, a reservation is granted exactly if it fits, and is counted. -/
lemma reserve_spec (hb : budget.bytes < u64Max) (now bytes : ℕ) (inner : BudgetInner) :
    (budget.reserve now bytes inner).1.isOk =
        decide ((budget.roll now inner).used + bytes ≤ budget.bytes) ∧
      (budget.reserve now bytes inner).2 =
        if (budget.roll now inner).used + bytes ≤ budget.bytes then
          ⟨(budget.roll now inner).windowStart, (budget.roll now inner).used + bytes⟩
        else budget.roll now inner := by
  rw [reserve]
  by_cases hle : (budget.roll now inner).used + bytes ≤ budget.bytes
  · have hsat : saturatingAdd (budget.roll now inner).used bytes =
        (budget.roll now inner).used + bytes := by
      rw [saturatingAdd]
      exact min_eq_left (hle.trans hb.le)
    rw [hsat, if_neg (not_lt.mpr hle), if_pos hle, decide_eq_true hle]
    exact ⟨rfl, rfl⟩
  · have hsat : budget.bytes < saturatingAdd (budget.roll now inner).used bytes := by
      rw [saturatingAdd]
      exact lt_min (not_le.mp hle) hb
    rw [if_pos hsat, if_neg hle, decide_eq_false hle]
    exact ⟨rfl, rfl⟩

lemma granted_cons (hb : budget.bytes < u64Max) :
    budget.granted inner ((now, bytes) :: calls) =
      if (budget.roll now inner).used + bytes ≤ budget.bytes then
        bytes + budget.granted
          ⟨(budget.roll now inner).windowStart, (budget.roll now inner).used + bytes⟩ calls
      else budget.granted (budget.roll now inner) calls := by
  obtain ⟨hok, hinner⟩ := reserve_spec hb now bytes inner
  rw [granted, hok, hinner]
  by_cases hle : (budget.roll now inner).used + bytes ≤ budget.bytes <;> simp [hle]

/-- Within `k` more windows after the open one, the open window has room for what is left in
it and each of the others for the whole budget. -/
lemma granted_add_used_le (hb : budget.bytes < u64Max) (calls : List (ℕ × ℕ)) :
    ∀ (k : ℕ) (inner : BudgetInner), inner.used ≤ budget.bytes →
      (∀ c ∈ calls, c.1 < inner.windowStart + (k + 1) * budget.window) →
      budget.granted inner calls + inner.used ≤ (k + 1) * budget.bytes := by
  induction calls with
  | nil =>
      intro k inner hused _
      have hle : budget.bytes ≤ (k + 1) * budget.bytes := Nat.le_mul_of_pos_left _ (by omega)
      have hzero : budget.granted inner [] = 0 := rfl
      omega
  | cons c calls ih =>
      obtain ⟨now, bytes⟩ := c
      intro k inner hused hcalls
      rw [List.forall_mem_cons] at hcalls
      obtain ⟨hnow, hrest⟩ := hcalls
      rw [granted_cons hb]
      rcases roll_cases budget now inner with
        ⟨hroll, -⟩ | ⟨hroll, hover⟩
      · -- the open window goes on
        rw [hroll]
        split_ifs with hfit
        · have hih := ih k ⟨inner.windowStart, inner.used + bytes⟩ hfit hrest
          dsimp only at hih
          omega
        · exact ih k inner hused hrest
      · -- a new window starts, so there is one less to come
        rw [hroll]
        rcases k with _ | k
        · omega
        have hlater : ∀ c ∈ calls, c.1 < now + (k + 1) * budget.window := by
          intro c hc
          have hlt := hrest c hc
          rw [Nat.succ_mul] at hlt
          omega
        have hsplit : (k + 1 + 1) * budget.bytes = (k + 1) * budget.bytes + budget.bytes :=
          Nat.succ_mul _ _
        dsimp only
        split_ifs with hfit
        · have hih := ih k ⟨now, 0 + bytes⟩ hfit hlater
          dsimp only at hih
          omega
        · have hih := ih k ⟨now, 0⟩ (Nat.zero_le _) hlater
          dsimp only at hih
          omega

/-- What is used of the open window never exceeds the budget. -/
lemma used_le (hb : budget.bytes < u64Max) (calls : List (ℕ × ℕ)) :
    ∀ inner : BudgetInner, inner.used ≤ budget.bytes →
      (budget.reserveAll inner calls).used ≤ budget.bytes := by
  induction calls with
  | nil => exact fun _ h => h
  | cons c calls ih =>
      obtain ⟨now, bytes⟩ := c
      intro inner hused
      refine ih (budget.reserve now bytes inner).2 ?_
      rw [(reserve_spec hb now bytes inner).2]
      split_ifs with hle
      · exact hle
      · rcases roll_cases budget now inner with ⟨h, -⟩ | ⟨h, -⟩
        · rw [h]
          exact hused
        · rw [h]
          exact Nat.zero_le _

/-- **The budget bounds every span of windows.**  Whatever was reserved before, and even if the
reservations get the lock in another order than that of their clocks: reservations that are made
within `k` windows' time are granted `k + 1` budgets at most. -/
theorem granted_le (hb : budget.bytes < u64Max) (origin since k : ℕ)
    (before calls : List (ℕ × ℕ))
    (hspan : ∀ c ∈ calls, since ≤ c.1 ∧ c.1 < since + k * budget.window) :
    budget.granted (budget.reserveAll ⟨origin, 0⟩ before) calls ≤ (k + 1) * budget.bytes := by
  have hused := used_le hb before ⟨origin, 0⟩ (Nat.zero_le _)
  suffices hmain : ∀ inner : BudgetInner, inner.used ≤ budget.bytes →
      budget.granted inner calls + inner.used ≤ (k + 1) * budget.bytes from
    (Nat.le_add_right _ _).trans (hmain _ hused)
  induction calls with
  | nil =>
      intro inner hused
      have hle : budget.bytes ≤ (k + 1) * budget.bytes := Nat.le_mul_of_pos_left _ (by omega)
      have hzero : budget.granted inner [] = 0 := rfl
      omega
  | cons c calls ih =>
      obtain ⟨now, bytes⟩ := c
      rw [List.forall_mem_cons] at hspan
      obtain ⟨⟨hfrom, hto⟩, hrest⟩ := hspan
      intro inner hused
      rw [granted_cons hb]
      rcases roll_cases budget now inner with
        ⟨hroll, -⟩ | ⟨hroll, -⟩
      · rw [hroll]
        split_ifs with hfit
        · have hih := ih hrest ⟨inner.windowStart, inner.used + bytes⟩ hfit
          dsimp only at hih
          omega
        · exact ih hrest inner hused
      · -- from the first window that starts in the span, the span has at most `k` of them
        rw [hroll]
        rcases k with _ | k
        · omega
        have hlater : ∀ c ∈ calls, c.1 < now + (k + 1) * budget.window := fun c hc =>
          (hrest c hc).2.trans_le (Nat.add_le_add_right hfrom _)
        have hsplit : (k + 1 + 1) * budget.bytes = (k + 1) * budget.bytes + budget.bytes :=
          Nat.succ_mul _ _
        dsimp only
        split_ifs with hfit
        · have hih := granted_add_used_le hb calls k ⟨now, 0 + bytes⟩ hfit hlater
          dsimp only at hih
          omega
        · have hih := granted_add_used_le hb calls k ⟨now, 0⟩ (Nat.zero_le _) hlater
          dsimp only at hih
          omega

theorem granted_le_of_one_window :
    granted ⟨100, 600⟩ ⟨0, 0⟩ [(0, 60), (1, 41), (2, 40)] = 100 ∧
      granted ⟨100, 600⟩ (reserveAll ⟨100, 600⟩ ⟨0, 0⟩ []) [(0, 60), (1, 41), (2, 40)] ≤
        (1 + 1) * 100 :=
  ⟨by decide +kernel, granted_le (by decide) 0 0 1 [] _ (by decide)⟩

end ByteBudget

end Sdk

end Networker
