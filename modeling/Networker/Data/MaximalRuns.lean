/-
The maximal runs of a list of flags.

* `IsRun xs start len`: the flags from `start` on are set, `len` of them, and no flag next to them;
* `runs`: the runs in their order; `mem_runs`: these are all of them;
* `sum_runs`: every flag that is set is in one run;
* `IsRun.reverse`: the runs of the reversed list, and `lengths_reverse_perm`: there are as many,
  of the same lengths.
-/
import Mathlib.Data.List.Perm.Basic
import Mathlib.Tactic

namespace Data

variable {xs : List Bool} {s l : ℕ} {b : Bool}

/-! ### Runs -/

/-- A run of flags that are set, as long as possible. -/
structure IsRun (xs : List Bool) (s l : ℕ) : Prop where
  pos : 0 < l
  set : ∀ i < l, xs[s + i]? = some true
  before : ∀ i, i + 1 = s → xs[i]? ≠ some true
  behind : xs[s + l]? ≠ some true

lemma IsRun.le_length (h : IsRun xs s l) : s + l ≤ xs.length := by
  have hpos := h.pos
  have hlast := h.set (l - 1) (by omega)
  have hlt := (List.getElem?_eq_some_iff.mp hlast).1
  omega

lemma not_isRun_nil : ¬ IsRun [] s l := by
  intro h
  have hlen := h.le_length
  have hpos := h.pos
  rw [List.length_nil] at hlen
  omega

/-- A run behind the first flag is a run of the rest, but for a run that the first flag extends. -/
lemma isRun_cons_succ : IsRun (b :: xs) (s + 1) l ↔ IsRun xs s l ∧ (s = 0 → b = false) := by
  have hset (i : ℕ) : (b :: xs)[s + 1 + i]? = xs[s + i]? := by
    rw [show s + 1 + i = s + i + 1 by omega, List.getElem?_cons_succ]
  constructor
  · intro h
    refine ⟨⟨h.pos, fun i hi => by rw [← hset]; exact h.set i hi, fun i hi => ?_, ?_⟩, ?_⟩
    · rw [← List.getElem?_cons_succ (a := b)]
      exact h.before (i + 1) (by omega)
    · rw [← hset]
      exact h.behind
    · rintro rfl
      have hfirst := h.before 0 rfl
      rw [List.getElem?_cons_zero] at hfirst
      simpa using hfirst
  · rintro ⟨h, hb⟩
    refine ⟨h.pos, fun i hi => by rw [hset]; exact h.set i hi, fun i hi => ?_, ?_⟩
    · cases i with
      | zero =>
          rw [List.getElem?_cons_zero, hb (by omega)]
          simp
      | succ i =>
          rw [List.getElem?_cons_succ]
          exact h.before i (by omega)
    · rw [hset]
      exact h.behind

/-- A run at the front is the first flag with a run behind it, if there is one. -/
lemma isRun_cons_zero : IsRun (b :: xs) 0 (l + 1) ↔
    b = true ∧ ((l = 0 ∧ xs[0]? ≠ some true) ∨ IsRun xs 0 l) := by
  have hset (i : ℕ) : (b :: xs)[0 + (i + 1)]? = xs[0 + i]? := by
    rw [Nat.zero_add, List.getElem?_cons_succ, Nat.zero_add]
  constructor
  · intro h
    have hb := h.set 0 l.succ_pos
    refine ⟨by simpa using hb, ?_⟩
    have hbehind := h.behind
    rw [hset] at hbehind
    rcases l.eq_zero_or_pos with rfl | hl
    · exact Or.inl ⟨rfl, hbehind⟩
    · refine Or.inr ⟨hl, fun i hi => ?_, fun i hi => absurd hi i.succ_ne_zero, hbehind⟩
      rw [← hset]
      exact h.set (i + 1) (by omega)
  · rintro ⟨rfl, hrest⟩
    have hbehind : xs[0 + l]? ≠ some true := by
      rcases hrest with ⟨rfl, hnext⟩ | h
      · exact hnext
      · exact h.behind
    refine ⟨l.succ_pos, fun i hi => ?_, fun i hi => absurd hi i.succ_ne_zero, ?_⟩
    · cases i with
      | zero => rfl
      | succ i =>
          rw [hset]
          rcases hrest with ⟨rfl, -⟩ | h
          · exact absurd hi (by omega)
          · exact h.set i (by omega)
    · rw [hset]
      exact hbehind

/-! ### The list of the runs -/

/-- A run behind `n` more flags. -/
def shift (n : ℕ) (r : ℕ × ℕ) : ℕ × ℕ := (r.1 + n, r.2)

lemma map_shift_map_shift (m n : ℕ) (rs : List (ℕ × ℕ)) :
    (rs.map (shift m)).map (shift n) = rs.map (shift (m + n)) := by
  rw [List.map_map]
  refine List.map_congr_left fun r _ => ?_
  simp only [Function.comp_apply, shift]
  rw [Nat.add_assoc]

/-- A flag that is set, in front of runs. -/
def extend : List (ℕ × ℕ) → List (ℕ × ℕ)
  | (0, l) :: rest => (0, l + 1) :: rest.map (shift 1)
  | rest => (0, 1) :: rest.map (shift 1)

/-- The starts and the lengths of the runs. -/
def runs : List Bool → List (ℕ × ℕ)
  | [] => []
  | true :: xs => extend (runs xs)
  | false :: xs => (runs xs).map (shift 1)

/-- Runs in their order, with a gap behind each. -/
def Separated (rs : List (ℕ × ℕ)) : Prop := rs.Pairwise fun r r' => r.1 + r.2 < r'.1

lemma Separated.map_shift {rs : List (ℕ × ℕ)} (h : Separated rs) : Separated (rs.map (shift 1)) :=
  List.pairwise_map.mpr (h.imp fun {r r'} hlt => by
    simp only [shift]
    omega)

/-- What the extended runs are. -/
lemma extend_cases (rs : List (ℕ × ℕ)) :
    (∃ l rest, rs = (0, l) :: rest ∧ extend rs = (0, l + 1) :: rest.map (shift 1)) ∨
      ((∀ l, rs.head? ≠ some (0, l)) ∧ extend rs = (0, 1) :: rs.map (shift 1)) := by
  cases rs with
  | nil => exact Or.inr ⟨by simp, rfl⟩
  | cons r rest =>
      obtain ⟨s, l⟩ := r
      cases s with
      | zero => exact Or.inl ⟨l, rest, rfl, rfl⟩
      | succ s => exact Or.inr ⟨by simp, rfl⟩

/-- A run starts where the first flag is set. -/
lemma exists_isRun_zero (h : xs[0]? = some true) : ∃ l, IsRun xs 0 l := by
  induction xs with
  | nil => simp at h
  | cons b xs ih =>
      obtain rfl : b = true := by simpa using h
      by_cases hnext : xs[0]? = some true
      · obtain ⟨l, hl⟩ := ih hnext
        exact ⟨l + 1, isRun_cons_zero.mpr ⟨rfl, Or.inr hl⟩⟩
      · exact ⟨1, isRun_cons_zero.mpr ⟨rfl, Or.inl ⟨rfl, hnext⟩⟩⟩

/-- Only the first of separated runs starts at the front. -/
lemma Separated.head?_eq {rs : List (ℕ × ℕ)} (h : Separated rs) (hl : (0, l) ∈ rs) :
    rs.head? = some (0, l) := by
  cases rs with
  | nil => exact absurd hl List.not_mem_nil
  | cons r rest =>
      rcases List.mem_cons.mp hl with hr | hrest
      · rw [hr]
        rfl
      · have hlt := (List.pairwise_cons.mp h).1 _ hrest
        exact absurd hlt (Nat.not_lt_zero _)

lemma succ_mem_map_shift {rs : List (ℕ × ℕ)} : (s + 1, l) ∈ rs.map (shift 1) ↔ (s, l) ∈ rs := by
  simp [shift]

lemma zero_notMem_map_shift {rs : List (ℕ × ℕ)} : (0, l) ∉ rs.map (shift 1) := by
  simp [shift]

/-- A flag that is set lengthens the run behind it, or is a run of its own. -/
lemma extend_spec (hsep : Separated (runs xs)) (hmem : ∀ s l, (s, l) ∈ runs xs ↔ IsRun xs s l) :
    Separated (extend (runs xs)) ∧
      ∀ s l, (s, l) ∈ extend (runs xs) ↔ IsRun (true :: xs) s l := by
  rcases extend_cases (runs xs) with ⟨k, rest, hruns, hext⟩ | ⟨hhead, hext⟩
  · rw [hext]
    rw [hruns] at hsep hmem
    obtain ⟨hgap, hrest⟩ := List.pairwise_cons.mp hsep
    have hfirst : xs[0]? = some true := by
      have hk := (hmem 0 k).mp List.mem_cons_self
      exact hk.set 0 hk.pos
    have honly (l : ℕ) : (0, l) ∉ rest := fun h => absurd (hgap _ h) (Nat.not_lt_zero _)
    refine ⟨List.pairwise_cons.mpr ⟨?_, Separated.map_shift hrest⟩, fun s l => ?_⟩
    · intro r hr
      obtain ⟨r', hr', rfl⟩ := List.mem_map.mp hr
      have hlt := hgap r' hr'
      simp only [shift] at hlt ⊢
      omega
    · rw [List.mem_cons]
      cases s with
      | zero =>
          rw [or_iff_left zero_notMem_map_shift]
          cases l with
          | zero => exact iff_of_false (by simp) fun h => absurd h.pos (lt_irrefl 0)
          | succ l =>
              rw [isRun_cons_zero, and_iff_right rfl, or_iff_right fun h => h.2 hfirst, ← hmem,
                List.mem_cons, or_iff_left (honly l)]
              simp
      | succ s =>
          rw [or_iff_right (by simp), succ_mem_map_shift, isRun_cons_succ, ← hmem, List.mem_cons]
          constructor
          · intro h
            refine ⟨Or.inr h, ?_⟩
            rintro rfl
            exact absurd h (honly l)
          · rintro ⟨heq | h, hs⟩
            · exact absurd (hs (Prod.ext_iff.mp heq).1) Bool.noConfusion
            · exact h
  · rw [hext]
    have honly (l : ℕ) : (0, l) ∉ runs xs := fun h => hhead l (hsep.head?_eq h)
    have hfirst : xs[0]? ≠ some true := by
      intro h
      obtain ⟨l, hl⟩ := exists_isRun_zero h
      exact honly l ((hmem 0 l).mpr hl)
    refine ⟨List.pairwise_cons.mpr ⟨?_, hsep.map_shift⟩, fun s l => ?_⟩
    · intro r hr
      obtain ⟨⟨s, l⟩, hmem', rfl⟩ := List.mem_map.mp hr
      have hs : s ≠ 0 := fun hs => honly l (hs ▸ hmem')
      simp only [shift]
      omega
    · rw [List.mem_cons]
      cases s with
      | zero =>
          rw [or_iff_left zero_notMem_map_shift]
          cases l with
          | zero => exact iff_of_false (by simp) fun h => absurd h.pos (lt_irrefl 0)
          | succ l =>
              rw [isRun_cons_zero, and_iff_right rfl, ← hmem, or_iff_left (honly l),
                and_iff_left hfirst]
              simp
      | succ s =>
          rw [or_iff_right (by simp), succ_mem_map_shift, isRun_cons_succ, ← hmem]
          constructor
          · intro h
            refine ⟨h, ?_⟩
            rintro rfl
            exact absurd h (honly l)
          · exact And.left

/-- **The list has exactly the runs**, in their order. -/
lemma runs_spec (xs : List Bool) :
    Separated (runs xs) ∧ ∀ s l, (s, l) ∈ runs xs ↔ IsRun xs s l := by
  induction xs with
  | nil => exact ⟨List.Pairwise.nil, fun s l => iff_of_false List.not_mem_nil not_isRun_nil⟩
  | cons b xs ih =>
      obtain ⟨hsep, hmem⟩ := ih
      cases b with
      | false =>
          refine ⟨hsep.map_shift, fun s l => ?_⟩
          cases s with
          | zero =>
              refine iff_of_false zero_notMem_map_shift fun h => ?_
              have hfirst := h.set 0 h.pos
              simp at hfirst
          | succ s =>
              rw [runs, succ_mem_map_shift, hmem, isRun_cons_succ, and_iff_left fun _ => rfl]
      | true => exact extend_spec hsep hmem

lemma separated_runs (xs : List Bool) : Separated (runs xs) := (runs_spec xs).1

lemma mem_runs : (s, l) ∈ runs xs ↔ IsRun xs s l := (runs_spec xs).2 s l

lemma nodup_runs (xs : List Bool) : (runs xs).Nodup :=
  (separated_runs xs).imp fun {r r'} hlt => by
    rintro rfl
    omega

/-- The flags in front of the first run end are one run. -/
lemma runs_replicate_append (k : ℕ) (h : xs[0]? ≠ some true) :
    runs (List.replicate (k + 1) true ++ xs) = (0, k + 1) :: (runs xs).map (shift (k + 1)) := by
  induction k with
  | zero =>
      have hhead (l : ℕ) : (runs xs).head? ≠ some (0, l) := by
        intro hl
        have hrun := mem_runs.mp (List.mem_of_head? hl)
        exact h (hrun.set 0 hrun.pos)
      rw [List.replicate_succ, List.replicate_zero, List.singleton_append, runs]
      rcases extend_cases (runs xs) with ⟨l, rest, hruns, -⟩ | ⟨-, hext⟩
      · exact absurd (by rw [hruns, List.head?_cons]) (hhead l)
      · exact hext
  | succ k ih =>
      rw [List.replicate_succ, List.cons_append, runs, ih, extend, map_shift_map_shift]

lemma map_snd_map_shift (n : ℕ) (rs : List (ℕ × ℕ)) :
    (rs.map (shift n)).map Prod.snd = rs.map Prod.snd := by
  rw [List.map_map]
  rfl

/-- Every flag that is set is in one run. -/
lemma sum_runs (xs : List Bool) : ((runs xs).map Prod.snd).sum = xs.count true := by
  induction xs with
  | nil => rfl
  | cons b xs ih =>
      cases b with
      | false => rw [runs, map_snd_map_shift, ih, List.count_cons_of_ne (by decide)]
      | true =>
          rw [runs, List.count_cons_self, ← ih]
          rcases extend_cases (runs xs) with ⟨l, rest, hruns, hext⟩ | ⟨-, hext⟩
          · rw [hext, hruns, List.map_cons, List.map_cons, map_snd_map_shift, List.sum_cons,
              List.sum_cons]
            exact Nat.add_right_comm l 1 _
          · rw [hext, List.map_cons, map_snd_map_shift, List.sum_cons]
            exact Nat.add_comm 1 _

/-- There are finitely many runs, as many as in the list. -/
lemma ncard_isRun (xs : List Bool) :
    {r : ℕ × ℕ | IsRun xs r.1 r.2}.ncard = (runs xs).length := by
  have hset : {r : ℕ × ℕ | IsRun xs r.1 r.2} = ↑(runs xs).toFinset := by
    ext r
    rw [Set.mem_ofPred_eq, List.coe_toFinset, ← mem_runs]
    rfl
  rw [hset, Set.ncard_coe_finset, List.toFinset_card_of_nodup (nodup_runs xs)]

/-! ### The starts -/

/-- The gaps between neighbours. -/
def gaps (starts : List ℕ) : List ℕ := starts.zipWith (fun a b => b - a) starts.tail

lemma length_gaps (starts : List ℕ) : (gaps starts).length = starts.length - 1 := by
  rw [gaps, List.length_zipWith, List.length_tail]
  omega

/-- The gaps add up to the distance of the ends. -/
lemma sum_gaps {a : ℕ} {starts : List ℕ} (h : (a :: starts).Pairwise (· < ·)) :
    a + (gaps (a :: starts)).sum = (a :: starts).getLast (List.cons_ne_nil _ _) := by
  induction starts generalizing a with
  | nil => rfl
  | cons b starts ih =>
      obtain ⟨hlt, hrest⟩ := List.pairwise_cons.mp h
      have hab : a < b := hlt b List.mem_cons_self
      have hstep : gaps (a :: b :: starts) = (b - a) :: gaps (b :: starts) := rfl
      rw [hstep, List.sum_cons, List.getLast_cons (List.cons_ne_nil _ _), ← ih hrest]
      omega

/-- The starts of the runs, in their order. -/
def starts (xs : List Bool) : List ℕ := (runs xs).map Prod.fst

lemma mem_starts : s ∈ starts xs ↔ ∃ l, IsRun xs s l := by
  rw [starts, List.mem_map]
  constructor
  · rintro ⟨r, hr, rfl⟩
    exact ⟨r.2, mem_runs.mp hr⟩
  · rintro ⟨l, hl⟩
    exact ⟨(s, l), mem_runs.mpr hl, rfl⟩

lemma starts_lt (xs : List Bool) : (starts xs).Pairwise (· < ·) :=
  List.pairwise_map.mpr ((separated_runs xs).imp fun h => (Nat.le_add_right _ _).trans_lt h)

/-- The starts of the first and of the last run are the sum of the gaps apart. -/
lemma exists_first_last (h : starts xs ≠ []) :
    ∃ first last, IsLeast {s | ∃ l, IsRun xs s l} first ∧
      IsGreatest {s | ∃ l, IsRun xs s l} last ∧ (gaps (starts xs)).sum = last - first := by
  have hset : {s | ∃ l, IsRun xs s l} = {s | s ∈ starts xs} := Set.ext fun s => mem_starts.symm
  rw [hset]
  have hlt := starts_lt xs
  cases hstarts : starts xs with
  | nil => exact absurd hstarts h
  | cons a rest =>
      rw [hstarts] at hlt
      have hsum := sum_gaps hlt
      refine ⟨a, (a :: rest).getLast (List.cons_ne_nil _ _), ⟨List.mem_cons_self, ?_⟩,
        ⟨List.getLast_mem _, ?_⟩, by omega⟩
      · rintro s hs
        rcases List.mem_cons.mp hs with rfl | hs
        · exact le_rfl
        · exact ((List.pairwise_cons.mp hlt).1 s hs).le
      · intro s hs
        exact (hlt.imp Nat.le_of_lt).rel_getLast hs

/-! ### The reversed list -/

/-- Where a run is from the other end. -/
def mirror (n : ℕ) (r : ℕ × ℕ) : ℕ × ℕ := (n - (r.1 + r.2), r.2)

lemma IsRun.reverse (h : IsRun xs s l) : IsRun xs.reverse (xs.length - (s + l)) l := by
  have hlen := h.le_length
  have hpos := h.pos
  have hflag {i : ℕ} (hi : i < xs.length) : xs.reverse[i]? = xs[xs.length - 1 - i]? :=
    List.getElem?_reverse hi
  refine ⟨h.pos, fun i hi => ?_, fun i hi => ?_, ?_⟩
  · rw [hflag (by omega),
      show xs.length - 1 - (xs.length - (s + l) + i) = s + (l - 1 - i) by omega]
    exact h.set (l - 1 - i) (by omega)
  · rw [hflag (by omega), show xs.length - 1 - i = s + l by omega]
    exact h.behind
  · rcases s.eq_zero_or_pos with rfl | hs
    · rw [List.getElem?_eq_none (by rw [List.length_reverse]; omega)]
      exact nofun
    · rw [hflag (by omega)]
      exact h.before _ (by omega)

/-- The runs of the reversed list are the runs, seen from the other end. -/
lemma runs_reverse_perm (xs : List Bool) :
    (runs xs.reverse).Perm ((runs xs).map (mirror xs.length)) := by
  have hinj : ∀ r ∈ runs xs, mirror xs.length (mirror xs.length r) = r := by
    rintro ⟨s, l⟩ hr
    have hlen := (mem_runs.mp hr).le_length
    rw [mirror, mirror]
    exact Prod.ext (by omega) rfl
  have hnodup : ((runs xs).map (mirror xs.length)).Nodup := by
    refine List.Nodup.map_on (fun r hr r' hr' heq => ?_) (nodup_runs xs)
    rw [← hinj r hr, heq, hinj r' hr']
  refine (List.perm_ext_iff_of_nodup (nodup_runs _) hnodup).mpr fun r => ?_
  rw [List.mem_map]
  constructor
  · intro hr
    have hrun := mem_runs.mp hr
    have hlen := hrun.le_length
    rw [List.length_reverse] at hlen
    refine ⟨mirror xs.length r, ?_, ?_⟩
    · have hback := hrun.reverse
      rw [List.reverse_reverse, List.length_reverse] at hback
      exact mem_runs.mpr hback
    · rw [mirror, mirror]
      exact Prod.ext (by omega) rfl
  · rintro ⟨r, hr, rfl⟩
    exact mem_runs.mpr (mem_runs.mp hr).reverse

/-- The lengths of the runs do not depend on the direction. -/
lemma lengths_reverse_perm (xs : List Bool) :
    ((runs xs.reverse).map Prod.snd).Perm ((runs xs).map Prod.snd) := by
  have hperm := (runs_reverse_perm xs).map Prod.snd
  rw [List.map_map] at hperm
  exact hperm

end Data
