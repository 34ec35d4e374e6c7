/-
Amounts that accumulate over time, and timers that are armed again when they fire.

* `AtMost`: growth of at most a given rate, over every window;
* `spliced`: a curve up to a moment, then a steady rate; `AtMost.spliced` says that the rate
  bounds it when it bounds the curve, and `exists_whole_rate` that the rate may be chosen to
  reach whole amounts at given moments;
* `Timer`: a periodic timer whose tick is awaited by a caller that may be away, and whose next
  tick is counted from a tick that came too late and from the deadline otherwise;
* `Timer.span_eq`, `Timer.span_le_iff`: how long some periods of it really last, and when that
  is no more than they should.
-/
import Mathlib.Algebra.BigOperators.Intervals
import Mathlib.Algebra.BigOperators.Ring.Finset
import Mathlib.Algebra.Order.BigOperators.Group.Finset
import Mathlib.Algebra.Order.Field.Basic
import Mathlib.Algebra.Order.Floor.Semiring
import Mathlib.Data.Rat.Floor
import Mathlib.Order.Interval.Finset.Nat
import Mathlib.Tactic.Linarith
import Mathlib.Tactic.Ring

namespace Data

variable {K : Type*} [Field K] [LinearOrder K]

/-! ### Curves -/

/-- Over every window, `f` grows by at most `r` per unit of time. -/
def AtMost (r : K) (f : K → K) : Prop := ∀ ⦃s t⦄, s ≤ t → f t - f s ≤ r * (t - s)

/-- The curve `f` up to `a`, then a steady growth at the rate `r` up to `b`, and none after. -/
def spliced (f : K → K) (a b r : K) (t : K) : K := f (min t a) + r * (max a (min t b) - a)

section Curve

variable {f : K → K} {a b r s t : K}

lemma spliced_of_le (h : t ≤ a) : spliced f a b r t = f t := by
  have hmin : min t b ≤ a := (min_le_left t b).trans h
  rw [spliced, min_eq_left h, max_eq_left hmin]
  ring

lemma spliced_of_mem (ha : a ≤ t) (hb : t ≤ b) : spliced f a b r t = f a + r * (t - a) := by
  rw [spliced, min_eq_right ha, min_eq_left hb, max_eq_right ha]

lemma spliced_of_ge (hab : a ≤ b) (hb : b ≤ t) : spliced f a b r t = f a + r * (b - a) := by
  rw [spliced, min_eq_right (hab.trans hb), min_eq_right hb, max_eq_right hab]

/-- Curves may be spliced one by one. -/
lemma sum_spliced {ι : Type*} (s : Finset ι) (f : ι → K → K) (r : ι → K) :
    ∑ i ∈ s, spliced (f i) a b (r i) t = spliced (fun t => ∑ i ∈ s, f i t) a b (∑ i ∈ s, r i) t := by
  simp only [spliced, Finset.sum_add_distrib, Finset.sum_mul]

variable [IsStrictOrderedRing K]

lemma AtMost.mono {q : K} (h : AtMost r f) (hrq : r ≤ q) : AtMost q f := fun _ _ hst =>
  (h hst).trans (mul_le_mul_of_nonneg_right hrq (sub_nonneg.mpr hst))

/-- What grows in a window is bounded by the rate over any longer one. -/
lemma AtMost.growth_le {w : K} (h : AtMost r f) (hst : s ≤ t) (hw : t - s ≤ w)
    (hpos : 0 < f t - f s) : f t - f s ≤ r * w := by
  have hgrowth := h hst
  have hrate : 0 ≤ r := by
    by_contra hneg
    have hzero : r * (t - s) ≤ 0 :=
      mul_nonpos_of_nonpos_of_nonneg (le_of_not_ge hneg) (sub_nonneg.mpr hst)
    linarith
  calc f t - f s ≤ r * (t - s) := hgrowth
    _ ≤ r * w := mul_le_mul_of_nonneg_left hw hrate

lemma monotone_spliced (hf : Monotone f) (hr : 0 ≤ r) : Monotone (spliced f a b r) := by
  intro s t hst
  have hleft : f (min s a) ≤ f (min t a) := hf (min_le_min_right a hst)
  have hright : max a (min s b) ≤ max a (min t b) :=
    max_le_max_left a (min_le_min_right b hst)
  have hgrowth := mul_le_mul_of_nonneg_left hright hr
  rw [spliced, spliced]
  linarith

/-- A window is no shorter than its parts before and after the splice. -/
lemma parts_le (hst : s ≤ t) :
    (min t a - min s a) + (max a (min t b) - max a (min s b)) ≤ t - s := by
  rcases le_total t a with hta | hta
  · have hmax : max a (min t b) = a := max_eq_left ((min_le_left t b).trans hta)
    have hmax' : max a (min s b) = a :=
      max_eq_left ((min_le_left s b).trans (hst.trans hta))
    rw [hmax, hmax', min_eq_left hta, min_eq_left (hst.trans hta)]
    linarith
  · have hupper : max a (min t b) ≤ t := max_le hta (min_le_left t b)
    rcases le_total s a with hsa | hsa
    · have hmax : a ≤ max a (min s b) := le_max_left a _
      rw [min_eq_right hta, min_eq_left hsa]
      linarith
    · rw [min_eq_right hta, min_eq_right hsa]
      rcases le_total t b with htb | htb
      · rw [min_eq_left htb, min_eq_left (hst.trans htb), max_eq_right hta, max_eq_right hsa]
        linarith
      · rcases le_total s b with hsb | hsb
        · rw [min_eq_right htb, min_eq_left hsb, max_eq_right hsa,
            max_eq_right (hsa.trans hsb)]
          linarith
        · rw [min_eq_right htb, min_eq_right hsb]
          linarith

/-- A rate that bounds the curve and the splice bounds them together. -/
lemma AtMost.spliced {q : K} (h : AtMost q f) (hr : 0 ≤ r) (hrq : r ≤ q) :
    AtMost q (spliced f a b r) := by
  intro s t hst
  have hbefore := h (min_le_min_right a hst)
  have hgrowth : 0 ≤ max a (min t b) - max a (min s b) :=
    sub_nonneg.mpr (max_le_max_left a (min_le_min_right b hst))
  have hafter := mul_le_mul_of_nonneg_right hrq hgrowth
  have hparts := mul_le_mul_of_nonneg_left (parts_le (a := a) (b := b) hst) (hr.trans hrq)
  calc Data.spliced f a b r t - Data.spliced f a b r s
      = (f (min t a) - f (min s a)) + r * (max a (min t b) - max a (min s b)) := by
        rw [Data.spliced, Data.spliced]
        ring
    _ ≤ q * (min t a - min s a) + q * (max a (min t b) - max a (min s b)) := by linarith
    _ ≤ q * (t - s) := by linarith

/-- A curve that has whole amounts at the times `ts` has them after a splice up to one of them,
where the splice adds whole amounts. -/
lemma exists_natCast_spliced {ts : ℕ → K} (hts : Monotone ts) {n : ℕ} (ha : a ≤ ts n)
    (hf : ∀ k, ∃ m : ℕ, f (ts k) = m) (hfa : ∃ m : ℕ, f a = m)
    (hr : ∀ k ≤ n, ∃ m : ℕ, r * max 0 (ts k - a) = m) (k : ℕ) :
    ∃ m : ℕ, spliced f a (ts n) r (ts k) = m := by
  obtain ⟨m, hm⟩ := hfa
  rcases le_total (ts k) a with hbefore | hwithin
  · rw [spliced_of_le hbefore]
    exact hf k
  · rcases le_total k n with hkn | hnk
    · obtain ⟨m', hm'⟩ := hr k hkn
      rw [max_eq_right (sub_nonneg.mpr hwithin)] at hm'
      exact ⟨m + m', by rw [spliced_of_mem hwithin (hts hkn), hm, hm', Nat.cast_add]⟩
    · obtain ⟨m', hm'⟩ := hr n le_rfl
      rw [max_eq_right (sub_nonneg.mpr ha)] at hm'
      exact ⟨m + m', by rw [spliced_of_ge ha (hts hnk), hm, hm', Nat.cast_add]⟩

end Curve

/-- Some rate above `r` reaches whole amounts after each of the times `ts` before `n`. -/
lemma exists_whole_rate (r : ℚ) {ts : ℕ → ℚ} (hts : ∀ k, 0 ≤ ts k) (n : ℕ) :
    ∃ q, r ≤ q ∧ 0 < q ∧ ∀ k < n, ∃ m : ℕ, q * ts k = m := by
  induction n with
  | zero =>
      refine ⟨max r 1, le_max_left r 1, lt_of_lt_of_le one_pos (le_max_right r 1), ?_⟩
      intro k hk
      exact absurd hk k.not_lt_zero
  | succ n ih =>
      obtain ⟨q, hrq, hq, hwhole⟩ := ih
      -- another factor, to clear the denominator of the product with the new time
      have hn : 0 ≤ q * ts n := mul_nonneg hq.le (hts n)
      have hden : (1 : ℚ) ≤ (q * ts n).den := by exact_mod_cast (q * ts n).den_pos
      refine ⟨q * (q * ts n).den, hrq.trans (le_mul_of_one_le_right hq.le hden),
        mul_pos hq (lt_of_lt_of_le one_pos hden), ?_⟩
      intro k hk
      rcases Nat.lt_succ_iff_lt_or_eq.mp hk with hlt | rfl
      · obtain ⟨m, hm⟩ := hwhole k hlt
        refine ⟨m * (q * ts n).den, ?_⟩
        calc q * (q * ts n).den * ts k = q * ts k * (q * ts n).den := by ring
          _ = m * (q * ts n).den := by rw [hm]
          _ = ((m * (q * ts n).den : ℕ) : ℚ) := by push_cast; ring
      · refine ⟨(q * ts k).num.toNat, ?_⟩
        have hnum : ((q * ts k).num.toNat : ℤ) = (q * ts k).num :=
          Int.toNat_of_nonneg (Rat.num_nonneg.mpr hn)
        calc q * (q * ts k).den * ts k = (q * ts k) * (q * ts k).den := by ring
          _ = (q * ts k).num := Rat.mul_den_eq_num _
          _ = ((q * ts k).num.toNat : ℤ) := by rw [hnum]
          _ = ((q * ts k).num.toNat : ℚ) := by norm_cast

/-! ### Timers -/

/-- A periodic timer with the delays of one run.  `hold k` is how long the caller is away after
the tick `k`, and `wake k` how long the tick comes after it is due and awaited. -/
structure Timer (K : Type*) [Field K] [LinearOrder K] where
  period : K
  tolerance : K
  hold : ℕ → K
  wake : ℕ → K
  period_pos : 0 < period
  tolerance_nonneg : 0 ≤ tolerance
  hold_nonneg : ∀ k, 0 ≤ hold k
  wake_nonneg : ∀ k, 0 ≤ wake k

namespace Timer

variable (τ : Timer K)

/-- When the tick `k` is due, and when it comes: a tick that comes late by more than the
tolerance moves the ones after it. -/
def tick : ℕ → K × K
  | 0 => (0, τ.wake 0)
  | k + 1 =>
      let (due, came) := tick k
      let next := if came - due ≤ τ.tolerance then due + τ.period else came + τ.period
      (next, max next (came + τ.hold k) + τ.wake (k + 1))

/-- When the tick `k` is due. -/
def deadline (k : ℕ) : K := (τ.tick k).1

/-- When the tick `k` comes. -/
def fires (k : ℕ) : K := (τ.tick k).2

/-- How late the tick `k` comes. -/
def late (k : ℕ) : K := τ.fires k - τ.deadline k

/-- What the next tick catches up of the lateness of the tick `k`. -/
def forgiven (k : ℕ) : K := if τ.late k ≤ τ.tolerance then τ.late k else 0

/-- What it does not. -/
def overdue (k : ℕ) : K := if τ.late k ≤ τ.tolerance then 0 else τ.late k

/-- From the tick `a` to the tick `n`: none in between is late beyond the tolerance, and the
last is late by no more than what the first has to its credit. -/
def OnTime (a n : ℕ) : Prop :=
  (∀ k, a < k → k < n → τ.late k ≤ τ.tolerance) ∧ τ.late n ≤ τ.forgiven a

variable {τ} {a k n : ℕ}

lemma fires_zero : τ.fires 0 = τ.late 0 := by simp [fires, late, deadline, tick]

lemma deadline_succ : τ.deadline (k + 1) = τ.fires k - τ.forgiven k + τ.period := by
  change (if τ.fires k - τ.deadline k ≤ τ.tolerance then τ.deadline k + τ.period
    else τ.fires k + τ.period) = _
  rw [forgiven, late]
  split_ifs <;> ring

lemma fires_succ : τ.fires (k + 1) =
    max (τ.deadline (k + 1)) (τ.fires k + τ.hold k) + τ.wake (k + 1) := rfl

lemma late_eq (k : ℕ) : τ.late k = τ.forgiven k + τ.overdue k := by
  rw [forgiven, overdue]
  split_ifs <;> simp

lemma forgiven_le_tolerance (k : ℕ) : τ.forgiven k ≤ τ.tolerance := by
  rw [forgiven]
  split_ifs with h
  · exact h
  · exact τ.tolerance_nonneg

/-- From one tick to the next there is a period, less what is caught up. -/
lemma fires_succ_sub (k : ℕ) :
    τ.fires (k + 1) - τ.fires k = τ.period + τ.late (k + 1) - τ.forgiven k := by
  rw [late, deadline_succ]
  ring

variable [IsStrictOrderedRing K]

lemma late_nonneg (k : ℕ) : 0 ≤ τ.late k := by
  cases k with
  | zero => simpa [late, fires, deadline, tick] using τ.wake_nonneg 0
  | succ k =>
      have hdue := le_max_left (τ.deadline (k + 1)) (τ.fires k + τ.hold k)
      have hwake := τ.wake_nonneg (k + 1)
      rw [late, fires_succ]
      linarith

lemma overdue_nonneg (k : ℕ) : 0 ≤ τ.overdue k := by
  rw [overdue]
  split_ifs
  · exact le_rfl
  · exact late_nonneg k

/-- A tick is due no earlier than after as many periods. -/
lemma mul_period_le_deadline (k : ℕ) : k * τ.period ≤ τ.deadline k := by
  induction k with
  | zero => simp [deadline, tick]
  | succ k ih =>
      have hoverdue := overdue_nonneg (τ := τ) k
      have hlate := late_eq (τ := τ) k
      rw [late] at hlate
      rw [deadline_succ]
      push_cast
      linarith

lemma mul_period_le_fires (k : ℕ) : k * τ.period ≤ τ.fires k := by
  have hdue := mul_period_le_deadline (τ := τ) k
  have hlate := late_nonneg (τ := τ) k
  rw [late] at hlate
  linarith

/-- The caller is back before the next tick comes. -/
lemma fires_add_hold_le (k : ℕ) : τ.fires k + τ.hold k ≤ τ.fires (k + 1) := by
  have hmax := le_max_right (τ.deadline (k + 1)) (τ.fires k + τ.hold k)
  have hwake := τ.wake_nonneg (k + 1)
  rw [fires_succ]
  linarith

lemma fires_monotone : Monotone τ.fires := monotone_nat_of_le_succ fun k => by
  have hback := fires_add_hold_le (τ := τ) k
  have hhold := τ.hold_nonneg k
  linarith

/-- How long the periods between two ticks last. -/
lemma span_eq (a d : ℕ) : τ.fires (a + d + 1) - τ.fires a =
    (d + 1) * τ.period + τ.late (a + d + 1) + ∑ k ∈ Finset.Ioc a (a + d), τ.overdue k
      - τ.forgiven a := by
  induction d with
  | zero =>
      have hstep := fires_succ_sub (τ := τ) a
      simp only [Nat.add_zero, Finset.Ioc_self, Finset.sum_empty, Nat.cast_zero]
      linarith
  | succ d ih =>
      have hstep := fires_succ_sub (τ := τ) (a + d + 1)
      have hlate := late_eq (τ := τ) (a + d + 1)
      rw [← Nat.add_assoc, Finset.sum_Ioc_succ_top (Nat.le_add_right a d)]
      push_cast
      linarith

/-- **On time.**  The periods between two ticks last no longer than they should exactly when the
ticks are on time. -/
lemma span_le_iff (h : a < n) :
    τ.fires n - τ.fires a ≤ ((n - a : ℕ) : K) * τ.period ↔ τ.OnTime a n := by
  obtain ⟨d, rfl⟩ : ∃ d, n = a + d + 1 := ⟨n - a - 1, by omega⟩
  have hspan := span_eq (τ := τ) a d
  have hcount : ((a + d + 1 - a : ℕ) : K) = d + 1 := by
    rw [show a + d + 1 - a = d + 1 by omega]
    push_cast
    ring
  have hlate := late_nonneg (τ := τ) (a + d + 1)
  have hsum : ∀ k ∈ Finset.Ioc a (a + d), 0 ≤ τ.overdue k := fun k _ => overdue_nonneg k
  rw [hcount]
  constructor
  · intro hle
    -- one tick overdue is more than the first one can have to its credit
    have htotal : ∑ k ∈ Finset.Ioc a (a + d), τ.overdue k ≤ τ.forgiven a := by linarith
    refine ⟨fun k hak hkn => ?_, ?_⟩
    · by_contra hlong
      have hover : τ.overdue k = τ.late k := if_neg hlong
      have hone := Finset.single_le_sum hsum (Finset.mem_Ioc.mpr ⟨hak, by omega⟩)
      have hcredit := forgiven_le_tolerance (τ := τ) a
      rw [hover] at hone
      linarith
    · have hzero := Finset.sum_nonneg hsum
      linarith
  · rintro ⟨hshort, hlast⟩
    have hzero : ∑ k ∈ Finset.Ioc a (a + d), τ.overdue k = 0 :=
      Finset.sum_eq_zero fun k hk => by
        obtain ⟨hak, hkn⟩ := Finset.mem_Ioc.mp hk
        exact if_pos (hshort k hak (by omega))
    rw [hzero] at hspan
    linarith

/-- From the start of the timer. -/
lemma fires_eq (n : ℕ) : τ.fires n =
    n * τ.period + τ.late n + ∑ k ∈ Finset.range n, τ.overdue k := by
  induction n with
  | zero => simp [fires_zero]
  | succ n ih =>
      have hstep := fires_succ_sub (τ := τ) n
      have hlate := late_eq (τ := τ) n
      rw [Finset.sum_range_succ]
      push_cast
      linarith

lemma fires_le_iff (n : ℕ) : τ.fires n ≤ n * τ.period ↔
    (∀ k < n, τ.late k ≤ τ.tolerance) ∧ τ.late n = 0 := by
  have heq := fires_eq (τ := τ) n
  have hlate := late_nonneg (τ := τ) n
  have hsum : ∀ k ∈ Finset.range n, 0 ≤ τ.overdue k := fun k _ => overdue_nonneg k
  constructor
  · intro hle
    have htotal : ∑ k ∈ Finset.range n, τ.overdue k ≤ 0 := by linarith
    have hzero := Finset.sum_nonneg hsum
    refine ⟨fun k hk => ?_, by linarith⟩
    by_contra hlong
    have hover : τ.overdue k = τ.late k := if_neg hlong
    have hone := Finset.single_le_sum hsum (Finset.mem_range.mpr hk)
    have htol := τ.tolerance_nonneg
    rw [hover] at hone
    linarith
  · rintro ⟨hshort, hlast⟩
    have hzero : ∑ k ∈ Finset.range n, τ.overdue k = 0 :=
      Finset.sum_eq_zero fun k hk => if_pos (hshort k (Finset.mem_range.mp hk))
    rw [heq, hzero, hlast]
    linarith

end Timer

end Data
