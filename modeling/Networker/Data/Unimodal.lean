/-
How far a sequence of heights goes up and down.

* `pathLength a l`: the length of the path from `a` through the heights and back to zero;
* `Unimodal`: heights that rise to a peak and fall from it;
* `pathLength_eq_iff_falls`, `pathLength_eq_iff_rises`: the shortest paths down from a height and
  up to one;
* `two_mul_le_pathLength`: a path through a height is at least twice as long as it is high;
* `pathLength_eq_iff_unimodal`: the path through the largest height is no longer than that
  exactly when the heights are unimodal.
-/
import Mathlib.Algebra.Order.Ring.Abs
import Mathlib.Data.List.Chain
import Mathlib.Tactic.Linarith
import Mathlib.Tactic.Ring

namespace Data

section Path

variable {K : Type*} [CommRing K] [LinearOrder K] [IsStrictOrderedRing K] {a m : K} {l u v : List K}

/-- The length of the path from a height through others and back to zero. -/
def pathLength (a : K) : List K → K
  | [] => |a|
  | b :: l => |b - a| + pathLength b l

lemma abs_le_pathLength : |a| ≤ pathLength a l := by
  induction l generalizing a with
  | nil => exact le_rfl
  | cons b l ih =>
      have htriangle : |a| ≤ |b - a| + |b| := by
        have h := abs_sub_abs_le_abs_sub a b
        rw [abs_sub_comm a b] at h
        linarith
      rw [pathLength]
      linarith [ih (a := b)]

/-- The way over a height is no shorter than the way straight to it. -/
lemma le_pathLength_append : |m - a| + pathLength m v ≤ pathLength a (u ++ m :: v) := by
  induction u generalizing a with
  | nil => exact le_rfl
  | cons b u ih =>
      have htriangle : |m - a| ≤ |m - b| + |b - a| := abs_sub_le m b a
      rw [List.cons_append, pathLength]
      linarith [ih (a := b)]

/-- The shortest path from a height down to zero only falls. -/
lemma pathLength_eq_iff_falls (ha : 0 ≤ a) (hl : ∀ b ∈ l, 0 ≤ b) :
    pathLength a l = a ↔ List.IsChain (· ≥ ·) (a :: l) := by
  induction l generalizing a with
  | nil => exact iff_of_true (abs_of_nonneg ha) (List.isChain_singleton a)
  | cons b l ih =>
      have hb : 0 ≤ b := hl b List.mem_cons_self
      have hrest : b ≤ pathLength b l := (le_abs_self b).trans abs_le_pathLength
      rw [pathLength, List.isChain_cons_cons, ← ih hb fun c hc => hl c (List.mem_cons_of_mem b hc)]
      refine ⟨fun h => ?_, fun h => ?_⟩
      · have hfall : |b - a| ≤ a - b := by linarith
        have hab : b ≤ a := by linarith [abs_nonneg (b - a)]
        have hlen : a - b ≤ |b - a| := by
          rw [abs_sub_comm]
          exact le_abs_self (a - b)
        exact ⟨hab, by linarith⟩
      · rw [h.2, abs_sub_comm, abs_of_nonneg (sub_nonneg.mpr h.1)]
        exact sub_add_cancel a b

/-- The shortest path up to a height only rises. -/
lemma pathLength_eq_iff_rises (ham : a ≤ m) :
    pathLength a (u ++ m :: v) = m - a + pathLength m v ↔
      List.IsChain (· ≤ ·) (a :: (u ++ [m])) := by
  induction u generalizing a with
  | nil =>
      rw [List.nil_append, List.nil_append, pathLength, List.isChain_cons_cons,
        abs_of_nonneg (sub_nonneg.mpr ham)]
      exact iff_of_true rfl ⟨ham, List.isChain_singleton m⟩
  | cons b u ih =>
      have hrest : |m - b| + pathLength m v ≤ pathLength b (u ++ m :: v) := le_pathLength_append
      have hmb : m - b ≤ |m - b| := le_abs_self (m - b)
      have hba : b - a ≤ |b - a| := le_abs_self (b - a)
      rw [List.cons_append, List.cons_append, pathLength, List.isChain_cons_cons]
      refine ⟨fun h => ?_, fun h => ?_⟩
      · have hup : |b - a| ≤ b - a := by linarith
        have hab : a ≤ b := by linarith [abs_nonneg (b - a)]
        have hdown : |m - b| ≤ m - b := by linarith
        have hbm : b ≤ m := by linarith [abs_nonneg (m - b)]
        exact ⟨hab, (ih hbm).mp (by linarith)⟩
      · have hpair : List.Pairwise (· ≤ ·) (b :: (u ++ [m])) := List.isChain_iff_pairwise.mp h.2
        have hbm : b ≤ m :=
          (List.pairwise_cons.mp hpair).1 m (List.mem_append_right u (List.mem_singleton_self m))
        rw [(ih hbm).mpr h.2, abs_of_nonneg (sub_nonneg.mpr h.1)]
        ring

end Path

/-! ### Unimodal heights -/

section Peak

variable {ι : Type*} [LinearOrder ι] {m : ι} {l : List ι}

/-- The heights rise to a peak and fall from it. -/
def Unimodal (l : List ι) : Prop :=
  ∃ u p v, l = u ++ p :: v ∧ List.IsChain (· ≤ ·) (u ++ [p]) ∧ List.IsChain (· ≥ ·) (p :: v)

/-- The peak is the largest height. -/
lemma le_peak {u v : List ι} {p b : ι} (hrise : List.IsChain (· ≤ ·) (u ++ [p]))
    (hfall : List.IsChain (· ≥ ·) (p :: v)) (hb : b ∈ u ++ p :: v) : b ≤ p := by
  rcases List.mem_append.mp hb with hb | hb
  · have hpair := List.isChain_iff_pairwise.mp hrise
    exact (List.pairwise_append.mp hpair).2.2 b hb p (List.mem_singleton_self p)
  · rcases List.mem_cons.mp hb with rfl | hb
    · exact le_rfl
    · exact (List.pairwise_cons.mp (List.isChain_iff_pairwise.mp hfall)).1 b hb

/-- A strictly monotone image rises and falls alike. -/
lemma unimodal_map {κ : Type*} [LinearOrder κ] {f : ι → κ} (hf : StrictMono f) :
    Unimodal (l.map f) ↔ Unimodal l := by
  have hrises : ∀ k : List ι, (k.map f).IsChain (· ≤ ·) ↔ k.IsChain (· ≤ ·) := fun k => by
    rw [List.isChain_map]
    simp only [hf.le_iff_le]
  have hfalls : ∀ k : List ι, (k.map f).IsChain (· ≥ ·) ↔ k.IsChain (· ≥ ·) := fun k => by
    rw [List.isChain_map]
    simp only [ge_iff_le, hf.le_iff_le]
  refine ⟨?_, ?_⟩
  · rintro ⟨u', p', v', hl, hrise, hfall⟩
    obtain ⟨u, w, rfl, rfl, hw⟩ := List.map_eq_append_iff.mp hl
    obtain ⟨p, v, rfl, rfl, rfl⟩ := List.map_eq_cons_iff.mp hw
    refine ⟨u, p, v, rfl, (hrises _).mp ?_, (hfalls _).mp hfall⟩
    rw [List.map_append]
    exact hrise
  · rintro ⟨u, p, v, rfl, hrise, hfall⟩
    refine ⟨u.map f, f p, v.map f, ?_, ?_, (hfalls _).mpr hfall⟩
    · rw [List.map_append, List.map_cons]
    · have h := (hrises _).mpr hrise
      rw [List.map_append] at h
      exact h

end Peak

section Modality

variable {K : Type*} [CommRing K] [LinearOrder K] [IsStrictOrderedRing K] {m : K} {l : List K}

lemma two_mul_le_pathLength (hm : m ∈ l) : 2 * m ≤ pathLength 0 l := by
  obtain ⟨u, v, rfl⟩ := List.append_of_mem hm
  have hup : |m - 0| + pathLength m v ≤ pathLength 0 (u ++ m :: v) := le_pathLength_append
  have hdown : |m| ≤ pathLength m v := abs_le_pathLength
  rw [sub_zero] at hup
  linarith [le_abs_self m]

/-- **The path is twice the largest height exactly when the heights are unimodal.** -/
theorem pathLength_eq_iff_unimodal (hpos : ∀ b ∈ l, 0 ≤ b) (hm : m ∈ l) (hmax : ∀ b ∈ l, b ≤ m) :
    pathLength 0 l = 2 * m ↔ Unimodal l := by
  have hsplit : ∀ u p v, l = u ++ p :: v →
      (pathLength 0 l = 2 * p ↔
        List.IsChain (· ≤ ·) (0 :: (u ++ [p])) ∧ List.IsChain (· ≥ ·) (p :: v)) := by
    rintro u p v rfl
    have hp : 0 ≤ p := hpos p (List.mem_append_right u List.mem_cons_self)
    have hv : ∀ b ∈ v, 0 ≤ b := fun b hb =>
      hpos b (List.mem_append_right u (List.mem_cons_of_mem p hb))
    have hup : |p - 0| + pathLength p v ≤ pathLength 0 (u ++ p :: v) := le_pathLength_append
    have hdown : |p| ≤ pathLength p v := abs_le_pathLength
    rw [sub_zero] at hup
    rw [← pathLength_eq_iff_rises (v := v) hp, ← pathLength_eq_iff_falls hp hv, sub_zero]
    refine ⟨fun h => ?_, fun h => ?_⟩
    · have hle := le_abs_self p
      exact ⟨by linarith, by linarith⟩
    · linarith [h.1, h.2]
  refine ⟨fun h => ?_, ?_⟩
  · obtain ⟨u, v, hl⟩ := List.append_of_mem hm
    obtain ⟨hrise, hfall⟩ := (hsplit u m v hl).mp h
    exact ⟨u, m, v, hl, hrise.tail, hfall⟩
  · rintro ⟨u, p, v, hl, hrise, hfall⟩
    have hp : p ∈ l := hl ▸ List.mem_append_right u List.mem_cons_self
    have hpm : p = m := le_antisymm (hmax p hp) (le_peak hrise hfall (hl ▸ hm))
    rw [← hpm, hsplit u p v hl]
    refine ⟨List.isChain_cons.mpr ⟨fun b hb => hpos b ?_, hrise⟩, hfall⟩
    have hmem : b ∈ u ++ [p] := List.mem_of_mem_head? hb
    rw [hl]
    rcases List.mem_append.mp hmem with hb | hb
    · exact List.mem_append_left _ hb
    · obtain rfl := List.mem_singleton.mp hb
      exact List.mem_append_right _ List.mem_cons_self

end Modality

end Data
