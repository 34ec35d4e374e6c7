/-
Removing every match of a pattern from a text in one pass from left to right.

* `Matcher`: a language of matches with the length that a matcher takes at the front of a text,
  the longest there; two matches that overlap are nested;
* `Matcher.remove`: the pass;
* `Matcher.Outside`: the positions that no match covers; `remove_eq_outside`: what the pass
  keeps;
* `Matcher.Reads`: the words at the front of a text once the matches in between are skipped;
* `Matcher.Torn`: a match whose two parts stand on both sides of another match;
* `no_match_remove_iff`, `remove_remove_iff`: one pass is enough exactly when no match is torn.
-/
import Mathlib.Tactic

namespace Data

/-- A language of matches and the length of the one at the front of a text. -/
structure Matcher (α : Type) where
  IsMatch : List α → Prop
  len : List α → Option ℕ
  ne_nil : ∀ {w}, IsMatch w → w ≠ []
  sound : ∀ {s n}, len s = some n → n ≤ s.length ∧ IsMatch (s.take n)
  longest : ∀ {w s}, IsMatch w → w <+: s → ∃ n, len s = some n ∧ w.length ≤ n
  nested : ∀ {s n j w}, len s = some n → 0 < j → j < n → IsMatch w → w <+: s.drop j →
    j + w.length ≤ n

namespace Matcher

variable {α : Type} (m : Matcher α)

/-- The pass, with the number of characters of a match that are still to be dropped. -/
def removeFrom : ℕ → List α → List α
  | _, [] => []
  | k + 1, _ :: s => removeFrom k s
  | 0, c :: s =>
      match m.len (c :: s) with
      | some n => removeFrom (n - 1) s
      | none => c :: removeFrom 0 s

/-- The text without the matches that one pass finds. -/
def remove (s : List α) : List α := m.removeFrom 0 s

/-- No match covers the position: one that begins up to it ends up to it. -/
def Outside (s : List α) (i : ℕ) : Prop :=
  ∀ j w, m.IsMatch w → w <+: s.drop j → j ≤ i → j + w.length ≤ i

open Classical in
/-- The characters that no match covers, in order. -/
noncomputable def outside (s : List α) : List α :=
  ((List.range s.length).filter fun i => m.Outside s i).filterMap fun i => s[i]?

/-- The words at the front of a text once the matches in between are skipped. -/
inductive Reads : List α → List α → Prop
  | done (s) : Reads [] s
  | char {c w s} (hnone : m.len (c :: s) = none) (rest : Reads w s) : Reads (c :: w) (c :: s)
  | skip {w s n} (hmatch : m.len s = some n) (rest : Reads w (s.drop n)) : Reads w s

/-- A match whose first part stands outside every match, with another match behind it and its
second part read behind that one. -/
def Torn (s : List α) : Prop :=
  ∃ p front inner back tail, s = p ++ (front ++ (inner ++ back)) ∧ front ≠ [] ∧ tail ≠ [] ∧
    m.IsMatch (front ++ tail) ∧ (∀ k < front.length, m.Outside s (p.length + k)) ∧
    m.len (inner ++ back) = some inner.length ∧ m.Reads tail back

/-! ### The pass -/

variable {m} {s t w : List α} {c : α} {i n : ℕ}

lemma removeFrom_eq (k : ℕ) (s : List α) : m.removeFrom k s = m.remove (s.drop k) := by
  induction s generalizing k with
  | nil => cases k <;> rfl
  | cons c s ih =>
      cases k with
      | zero => rfl
      | succ k => exact ih k

lemma len_nil : m.len [] = none := by
  cases h : m.len [] with
  | none => rfl
  | some n =>
      have hmatch := (m.sound h).2
      rw [List.take_nil] at hmatch
      exact absurd rfl (m.ne_nil hmatch)

lemma pos_of_len (h : m.len s = some n) : 0 < n := by
  by_contra hn
  have hmatch := (m.sound h).2
  rw [Nat.eq_zero_of_not_pos hn, List.take_zero] at hmatch
  exact m.ne_nil hmatch rfl

@[simp] lemma remove_nil : m.remove [] = [] := rfl

lemma remove_of_match (h : m.len s = some n) : m.remove s = m.remove (s.drop n) := by
  have hpos := pos_of_len h
  cases s with
  | nil => rw [len_nil] at h; exact absurd h (by simp)
  | cons c s =>
      obtain ⟨k, rfl⟩ := Nat.exists_eq_add_of_lt hpos
      rw [remove, removeFrom, h]
      simp [removeFrom_eq]

lemma remove_of_none (h : m.len (c :: s) = none) : m.remove (c :: s) = c :: m.remove s := by
  rw [remove, removeFrom, h]
  rfl

/-- Induction along the pass. -/
lemma scan_induction {P : List α → Prop} (nil : P [])
    (skip : ∀ s n, m.len s = some n → P (s.drop n) → P s)
    (keep : ∀ c s, m.len (c :: s) = none → P s → P (c :: s)) (s : List α) : P s := by
  induction hlen : s.length using Nat.strong_induction_on generalizing s with
  | _ k ih =>
      cases h : m.len s with
      | some n =>
          have hpos := pos_of_len h
          have hle := (m.sound h).1
          exact skip s n h (ih _ (by rw [List.length_drop]; omega) _ rfl)
      | none =>
          cases s with
          | nil => exact nil
          | cons c s =>
              rw [List.length_cons] at hlen
              exact keep c s h (ih _ (by omega) s rfl)

/-- The pass keeps some of the characters, in order. -/
lemma remove_sublist (s : List α) : (m.remove s).Sublist s := by
  induction s using m.scan_induction with
  | nil => exact .slnil
  | skip s n h ih =>
      rw [remove_of_match h]
      exact ih.trans (List.drop_sublist n s)
  | keep c s h ih =>
      rw [remove_of_none h]
      exact ih.cons_cons c

/-! ### Positions outside the matches -/

lemma not_outside_of_match (h : m.len s = some n) (hi : i < n) : ¬ m.Outside s i := by
  intro hout
  obtain ⟨hle, hmatch⟩ := m.sound h
  have hend := hout 0 (s.take n) hmatch (by rw [List.drop_zero]; exact List.take_prefix n s)
    (Nat.zero_le i)
  rw [List.length_take] at hend
  omega

lemma len_of_outside (h : m.Outside s i) : m.len (s.drop i) = none := by
  cases hlen : m.len (s.drop i) with
  | none => rfl
  | some n =>
      obtain ⟨hle, hmatch⟩ := m.sound hlen
      have hpos := pos_of_len hlen
      have hend := h i _ hmatch (List.take_prefix n _) le_rfl
      rw [List.length_take] at hend
      omega

/-- Behind a match the positions are outside as they are in the rest alone. -/
lemma outside_skip (h : m.len s = some n) (i : ℕ) :
    m.Outside s (n + i) ↔ m.Outside (s.drop n) i := by
  constructor
  · intro hout j w hw hpre hj
    rw [List.drop_drop] at hpre
    have hend := hout (n + j) w hw hpre (by omega)
    omega
  · intro hout j w hw hpre hj
    rcases Nat.lt_or_ge j n with hjn | hjn
    · -- a match that begins in the removed one ends in it
      have hend : j + w.length ≤ n := by
        rcases Nat.eq_zero_or_pos j with rfl | hpos
        · obtain ⟨n', hn', hle⟩ := m.longest hw hpre
          rw [List.drop_zero, h] at hn'
          rw [← Option.some.inj hn'] at hle
          omega
        · exact m.nested h hpos hjn hw hpre
      omega
    · obtain ⟨j', rfl⟩ := Nat.exists_eq_add_of_le hjn
      rw [← List.drop_drop] at hpre
      have hend := hout j' w hw hpre (by omega)
      omega

lemma outside_zero (h : m.len s = none) : m.Outside s 0 := by
  intro j w hw hpre hj
  obtain rfl : j = 0 := by omega
  obtain ⟨n, hn, -⟩ := m.longest hw hpre
  rw [List.drop_zero, h] at hn
  exact absurd hn (by simp)

/-- Behind a kept character the positions are outside as they are in the rest alone. -/
lemma outside_keep (h : m.len (c :: s) = none) (i : ℕ) :
    m.Outside (c :: s) (i + 1) ↔ m.Outside s i := by
  constructor
  · intro hout j w hw hpre hj
    have hend := hout (j + 1) w hw hpre (by omega)
    omega
  · intro hout j w hw hpre hj
    cases j with
    | zero =>
        obtain ⟨n, hn, -⟩ := m.longest hw hpre
        rw [List.drop_zero, h] at hn
        exact absurd hn (by simp)
    | succ j =>
        have hend := hout j w hw hpre (by omega)
        omega

/-- Behind a position outside the matches. -/
lemma outside_add (h : m.Outside s i) (k : ℕ) :
    m.Outside s (i + k) ↔ m.Outside (s.drop i) k := by
  constructor
  · intro hout j w hw hpre hj
    rw [List.drop_drop] at hpre
    have hend := hout (i + j) w hw hpre (by omega)
    omega
  · intro hout j w hw hpre hj
    rcases Nat.lt_or_ge j i with hji | hji
    · have hend := h j w hw hpre hji.le
      omega
    · obtain ⟨j', rfl⟩ := Nat.exists_eq_add_of_le hji
      rw [← List.drop_drop] at hpre
      have hend := hout j' w hw hpre (by omega)
      omega

/-- The pass keeps the characters that no match covers. -/
theorem remove_eq_outside (s : List α) : m.remove s = m.outside s := by
  classical
  induction s using m.scan_induction with
  | nil => simp [outside]
  | skip s n h ih =>
      obtain ⟨hle, -⟩ := m.sound h
      have hcovered : (List.range n).filter (fun i => m.Outside s i) = [] := by
        refine List.filter_eq_nil_iff.mpr fun i hi => ?_
        simpa using not_outside_of_match h (List.mem_range.mp hi)
      have hlen : s.length = n + (s.length - n) := by omega
      rw [remove_of_match h, ih, outside, outside, hlen, List.range_add, List.filter_append,
        hcovered, List.nil_append, List.filter_map, List.filterMap_map, List.length_drop]
      simp [Function.comp_def, outside_skip h]
  | keep c s h ih =>
      have hfirst : (c :: s)[0]? = some c := rfl
      rw [remove_of_none h, ih, outside, outside, List.length_cons, List.range_succ_eq_map,
        List.filter_cons_of_pos (by simpa using outside_zero h), List.filter_map,
        List.filterMap_cons_some hfirst, List.filterMap_map]
      simp [Function.comp_def, outside_keep h]

/-! ### A text without matches -/

lemma length_remove_lt (h : m.IsMatch w) (hin : w <:+: s) :
    (m.remove s).length < s.length := by
  induction s using m.scan_induction with
  | nil => exact absurd (List.infix_nil.mp hin) (m.ne_nil h)
  | skip s n hn ih =>
      have hle := (remove_sublist (m := m) (s.drop n)).length_le
      have hpos := pos_of_len hn
      have hlen := (m.sound hn).1
      rw [List.length_drop] at hle
      rw [remove_of_match hn]
      omega
  | keep c s hn ih =>
      rcases List.infix_cons_iff.mp hin with hpre | hin
      · obtain ⟨n, hsome, -⟩ := m.longest h hpre
        rw [hn] at hsome
        exact absurd hsome (by simp)
      · rw [remove_of_none hn, List.length_cons, List.length_cons]
        exact Nat.succ_lt_succ (ih hin)

/-- The pass changes a text exactly when it has a match. -/
lemma remove_eq_self_iff (s : List α) :
    m.remove s = s ↔ ∀ w, m.IsMatch w → ¬ w <:+: s := by
  constructor
  · intro hself w hw hin
    have hlt := length_remove_lt hw hin
    rw [hself] at hlt
    exact lt_irrefl _ hlt
  · intro hfree
    induction s using m.scan_induction with
    | nil => rfl
    | skip s n h ih => exact absurd (List.take_prefix n s).isInfix (hfree _ (m.sound h).2)
    | keep c s h ih =>
        have hrest : ∀ w, m.IsMatch w → ¬ w <:+: s := fun w hw hin =>
          hfree w hw (hin.trans (List.suffix_cons c s).isInfix)
        rw [remove_of_none h, ih hrest]

/-- A second pass changes nothing exactly when the first one left no match. -/
theorem remove_remove_iff (s : List α) :
    m.remove (m.remove s) = m.remove s ↔ ∀ w, m.IsMatch w → ¬ w <:+: m.remove s :=
  remove_eq_self_iff _

/-! ### Torn matches -/

/-- What is read is at the front of what the pass keeps. -/
lemma prefix_remove_iff : w <+: m.remove s ↔ m.Reads w s := by
  constructor
  · intro hpre
    induction s using m.scan_induction generalizing w with
    | nil =>
        rw [List.prefix_nil.mp hpre]
        exact .done []
    | skip s n h ih =>
        rw [remove_of_match h] at hpre
        exact .skip h (ih hpre)
    | keep c s h ih =>
        rw [remove_of_none h] at hpre
        rcases List.prefix_cons_iff.mp hpre with rfl | ⟨w', rfl, hpre'⟩
        · exact .done _
        · exact .char h (ih hpre')
  · intro hreads
    induction hreads with
    | done s => exact List.nil_prefix
    | char hnone _ ih =>
        rw [remove_of_none hnone]
        exact List.cons_prefix_cons.mpr ⟨rfl, ih⟩
    | skip hmatch _ ih => rwa [remove_of_match hmatch]

/-- What the pass keeps from some position on is read at a position outside the matches. -/
lemma exists_reads_of_infix (hne : w ≠ []) (h : w <:+: m.remove s) :
    ∃ i, i ≤ s.length ∧ m.Outside s i ∧ m.Reads w (s.drop i) := by
  induction s using m.scan_induction with
  | nil => exact absurd (List.infix_nil.mp h) hne
  | skip s n hn ih =>
      rw [remove_of_match hn] at h
      obtain ⟨i, hle, hout, hreads⟩ := ih h
      have hlen := (m.sound hn).1
      rw [List.length_drop] at hle
      refine ⟨n + i, by omega, (outside_skip hn i).mpr hout, ?_⟩
      rwa [← List.drop_drop]
  | keep c s hn ih =>
      rw [remove_of_none hn] at h
      rcases List.infix_cons_iff.mp h with hpre | hin
      · refine ⟨0, Nat.zero_le _, outside_zero hn, ?_⟩
        rw [List.drop_zero, ← prefix_remove_iff, remove_of_none hn]
        exact hpre
      · obtain ⟨i, hle, hout, hreads⟩ := ih hin
        exact ⟨i + 1, Nat.succ_le_succ hle, (outside_keep hn i).mpr hout, hreads⟩

/-- What is read stands there as it is, or a match interrupts it. -/
lemma Reads.prefix_or_torn (h : m.Reads w s) : w <+: s ∨
    ∃ front inner back tail, s = front ++ (inner ++ back) ∧ w = front ++ tail ∧ tail ≠ [] ∧
      (∀ k < front.length, m.Outside s k) ∧ m.len (inner ++ back) = some inner.length ∧
      m.Reads tail back := by
  induction h with
  | done s => exact .inl List.nil_prefix
  | @char c w s hnone _ ih =>
      rcases ih with hpre | ⟨front, inner, back, tail, rfl, rfl, htail, hout, hinner, hreads⟩
      · exact .inl (List.cons_prefix_cons.mpr ⟨rfl, hpre⟩)
      · refine .inr ⟨c :: front, inner, back, tail, rfl, rfl, htail, fun k hk => ?_, hinner, hreads⟩
        cases k with
        | zero => exact outside_zero hnone
        | succ k => exact (outside_keep hnone k).mpr (hout k (Nat.lt_of_succ_lt_succ hk))
  | @skip w s n hmatch hrest _ =>
      by_cases hw : w = []
      · rw [hw]
        exact .inl List.nil_prefix
      · refine .inr ⟨[], s.take n, s.drop n, w, ?_, rfl, hw, fun k hk => absurd hk (by simp), ?_,
          hrest⟩
        · rw [List.nil_append, List.take_append_drop]
        · rw [List.take_append_drop, hmatch, List.length_take, min_eq_left (m.sound hmatch).1]

/-- A part of the text outside the matches is kept in front of the rest. -/
lemma remove_append_of_outside (front back : List α)
    (h : ∀ k < front.length, m.Outside (front ++ back) k) :
    m.remove (front ++ back) = front ++ m.remove back := by
  induction front with
  | nil => rfl
  | cons c front ih =>
      have hnone : m.len (c :: (front ++ back)) = none := len_of_outside (h 0 (by simp))
      rw [List.cons_append, remove_of_none hnone, List.cons_append,
        ih fun k hk => (outside_keep hnone k).mp (h (k + 1) (Nat.succ_lt_succ hk))]

/-- From a position outside the matches on, the pass does what it does on the rest alone. -/
lemma suffix_remove_of_outside (hi : i ≤ s.length) (h : m.Outside s i) :
    m.remove (s.drop i) <:+ m.remove s := by
  induction s using m.scan_induction generalizing i with
  | nil => rw [List.drop_nil]
  | skip s n hn ih =>
      have hni : n ≤ i := by
        by_contra hlt
        exact not_outside_of_match hn (by omega) h
      obtain ⟨i', rfl⟩ := Nat.exists_eq_add_of_le hni
      rw [remove_of_match hn, ← List.drop_drop]
      exact ih (by rw [List.length_drop]; omega) ((outside_skip hn i').mp h)
  | keep c s hn ih =>
      cases i with
      | zero => rw [List.drop_zero]
      | succ i =>
          rw [remove_of_none hn, List.drop_succ_cons]
          exact (ih (Nat.le_of_succ_le_succ hi) ((outside_keep hn i).mp h)).trans
            (List.suffix_cons _ _)

/-- One pass leaves no match exactly when no match is torn. -/
theorem no_match_remove_iff (s : List α) :
    (∀ w, m.IsMatch w → ¬ w <:+: m.remove s) ↔ ¬ m.Torn s := by
  constructor
  · rintro hfree ⟨p, front, inner, back, tail, rfl, hne, -, hmatch, hout, hinner, htail⟩
    have hfront : m.Outside (p ++ (front ++ (inner ++ back))) p.length :=
      hout 0 (List.length_pos_iff.mpr hne)
    have hdrop : (p ++ (front ++ (inner ++ back))).drop p.length = front ++ (inner ++ back) :=
      List.drop_left
    have hkept : ∀ k < front.length, m.Outside (front ++ (inner ++ back)) k := by
      intro k hk
      rw [← hdrop]
      exact (outside_add hfront k).mp (hout k hk)
    have hsuffix := suffix_remove_of_outside (by simp) hfront
    rw [hdrop, remove_append_of_outside _ _ hkept, remove_of_match hinner, List.drop_left]
      at hsuffix
    have hfront : front ++ tail <+: front ++ m.remove back :=
      (List.prefix_append_right_inj front).mpr (prefix_remove_iff.mpr htail)
    exact hfree _ hmatch (hfront.isInfix.trans hsuffix.isInfix)
  · intro htorn w hw hin
    obtain ⟨i, hle, hout, hreads⟩ := exists_reads_of_infix (m.ne_nil hw) hin
    have hnone := len_of_outside hout
    rcases hreads.prefix_or_torn with hpre | ⟨front, inner, back, tail, hs, rfl, htail, hk, hinner,
      hback⟩
    · obtain ⟨n, hn, -⟩ := m.longest hw hpre
      rw [hnone] at hn
      exact absurd hn (by simp)
    · refine htorn ⟨s.take i, front, inner, back, tail, ?_, ?_, htail, hw, fun k hlt => ?_, hinner,
        hback⟩
      · rw [← hs, List.take_append_drop]
      · rintro rfl
        rw [hs, List.nil_append, hinner] at hnone
        exact absurd hnone (by simp)
      · rw [List.length_take, min_eq_left hle]
        exact (outside_add hout k).mpr (hk k hlt)

end Matcher

end Data
