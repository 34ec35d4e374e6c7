/-
What the search of the path-MTU probe settles on.

* `Oracle`: an answer for every size, which may depend on what was asked before; the search
  keeps the sizes it asked with their answers (`Asked`);
* `Bisects`, `Searches`: the loop and the search as the source runs them, with no bound on the
  rounds; `searches` says that they end, and that the model returns what they end with;
* `Kept`: the sizes asked are in range, the reported next-hop MTU is the least one that came
  off the wire, and the lower end was accepted;
* `Oracle.Threshold`, `Bisects.eq_min`: for a path with a threshold the loop ends at it;
* `search_settles`: both for the whole search;
* `local_hint_unreported`: a limit of the local interface is not reported.
-/
import Networker.Tester.Pmtud

namespace Networker

namespace Pmtud

/-! ### Oracles -/

/-- An answer for every size. -/
abbrev Oracle (σ : Type) : Type := ℕ → σ → SizeClass × σ

/-- The sizes asked so far, each with its answer. -/
abbrev Asked : Type := List (ℕ × SizeClass)

/-- The next-hop MTU of an answer. -/
def SizeClass.hint : SizeClass → Option ℕ
  | .tooBig mtu _ => mtu
  | _ => none

/-- The next-hop MTU of an answer that came off the wire. -/
def SizeClass.wireHint : SizeClass → Option ℕ
  | .tooBig mtu true => mtu
  | _ => none

/-- The next-hop MTUs that were answered. -/
def Asked.hints (asked : Asked) : List ℕ := asked.filterMap fun p => p.2.hint

/-- The next-hop MTUs that came off the wire. -/
def Asked.wireHints (asked : Asked) : List ℕ := asked.filterMap fun p => p.2.wireHint

section

variable {σ : Type}

/-- Ask for a size. -/
def Oracle.ask (o : Oracle σ) (size : ℕ) (s : σ × Asked) : SizeClass × σ × Asked :=
  ((o size s.1).1, (o size s.1).2, s.2 ++ [(size, (o size s.1).1)])

/-- The oracle as the classifier of a search. -/
def Oracle.classifier (o : Oracle σ) (size : ℕ) (s : σ × Asked) :
    Except String (SizeClass × σ × Asked) := .ok (o.ask size s)

/-- A payload up to `t` is delivered; a larger one is too big, and a next-hop MTU that is
answered leaves room for `t`. -/
structure Oracle.Threshold (o : Oracle σ) (header t : ℕ) : Prop where
  delivers : ∀ size s, size ≤ t → (o size s).1.accepted = true
  refuses : ∀ size s, t < size →
    ∃ mtu wire, (o size s).1 = .tooBig mtu wire ∧ ∀ m ∈ mtu, t + header ≤ m

/-! ### The search without a bound on its rounds -/

/-- The size that is asked between the two ends. -/
def mid (lo hi : ℕ) : ℕ := lo + (hi - lo + 1) / 2

/-- The loop of `search_largest_fit`. -/
inductive Bisects (header : ℕ) (o : Oracle σ) :
    ℕ → ℕ → Evidence → σ × Asked → ℕ × Evidence × σ × Asked → Prop
  | done {lo hi e s} (hend : ¬ lo < hi) : Bisects header o lo hi e s (lo, e, s)
  | lowered {lo hi e s mtu wire s' r} (hlt : lo < hi)
      (hask : o.ask (mid lo hi) s = (.tooBig mtu wire, s'))
      (rest : Bisects header o lo (bound header hi (mid lo hi) mtu) (e.note (.tooBig mtu wire))
        s' r) : Bisects header o lo hi e s r
  | raised {lo hi e s c s' r} (hlt : lo < hi) (hask : o.ask (mid lo hi) s = (c, s'))
      (hc : c.accepted = true) (rest : Bisects header o (mid lo hi) hi (e.note c) s' r) :
      Bisects header o lo hi e s r

/-- What is kept before the first size is asked. -/
def noEvidence : Evidence := ⟨false, false, false, none⟩

/-- `search_largest_fit`: the floor is asked first, then the minimal datagram. -/
inductive Searches (header : ℕ) (o : Oracle σ) (floor ceil : ℕ) (s : σ × Asked) :
    SearchOutcome × σ × Asked → Prop
  | atFloor {c s' lo e r} (hask : o.ask floor s = (c, s')) (hc : c.accepted = true)
      (loop : Bisects header o floor ceil (noEvidence.note c) s' (lo, e, r)) :
      Searches header o floor ceil s (⟨some lo, e⟩, r)
  | atMinimum {mtu wire s' c s'' lo e r} (hfloor : o.ask floor s = (.tooBig mtu wire, s'))
      (hask : o.ask 32 s' = (c, s'')) (hc : c.accepted = true)
      (loop : Bisects header o 32 (bound header ceil floor mtu)
        ((noEvidence.note (.tooBig mtu wire)).note c) s'' (lo, e, r)) :
      Searches header o floor ceil s (⟨some lo, e⟩, r)
  | refused {mtu wire s' mtu' wire' s''} (hfloor : o.ask floor s = (.tooBig mtu wire, s'))
      (hask : o.ask 32 s' = (.tooBig mtu' wire', s'')) :
      Searches header o floor ceil s
        (⟨none, (noEvidence.note (.tooBig mtu wire)).note (.tooBig mtu' wire')⟩, s'')

variable {header lo hi floor ceil t : ℕ} {o : Oracle σ} {e : Evidence} {s : σ × Asked}

/-- An answer that is too big, or is accepted. -/
lemma tooBig_or_accepted (c : SizeClass) :
    (∃ mtu wire, c = .tooBig mtu wire) ∨ c.accepted = true := by
  cases c with
  | tooBig mtu wire => exact .inl ⟨mtu, wire, rfl⟩
  | fit => exact .inr rfl
  | silent => exact .inr rfl

lemma mid_mem (h : lo < hi) : lo < mid lo hi ∧ mid lo hi ≤ hi := by
  rw [mid]
  omega

/-- A refused size leaves less above the lower end. -/
lemma bound_le (header hi size : ℕ) (mtu : Option ℕ) :
    bound header hi size mtu ≤ min hi (size - 1) := by
  cases mtu with
  | none => exact le_rfl
  | some m => exact min_le_left _ _

/-- The loop ends, within as many rounds as there are sizes between its ends. -/
lemma bisects (header : ℕ) (o : Oracle σ) (n : ℕ) : ∀ lo hi e s, hi - lo ≤ n →
    ∃ r, bisect header o.classifier n lo hi e s = .ok r ∧ Bisects header o lo hi e s r := by
  induction n with
  | zero =>
      intro lo hi e s hn
      exact ⟨_, rfl, .done (by omega)⟩
  | succ n ih =>
      intro lo hi e s hn
      by_cases hlt : lo < hi
      · obtain ⟨hlo, hhi⟩ := mid_mem hlt
        obtain ⟨c, s', hask⟩ : ∃ c s', o.ask (mid lo hi) s = (c, s') := ⟨_, _, rfl⟩
        have hclassify : o.classifier (lo + (hi - lo + 1) / 2) s = .ok (c, s') :=
          congrArg Except.ok hask
        rw [bisect, if_pos hlt]
        dsimp only
        rw [hclassify]
        cases c with
        | tooBig mtu wire =>
            have hbound := bound_le header hi (mid lo hi) mtu
            obtain ⟨r, hr, hloop⟩ := ih lo (bound header hi (mid lo hi) mtu)
              (e.note (.tooBig mtu wire)) s' (by omega)
            exact ⟨r, hr, .lowered hlt hask hloop⟩
        | fit =>
            obtain ⟨r, hr, hloop⟩ := ih (mid lo hi) hi (e.note .fit) s' (by omega)
            exact ⟨r, hr, .raised hlt hask rfl hloop⟩
        | silent =>
            obtain ⟨r, hr, hloop⟩ := ih (mid lo hi) hi (e.note .silent) s' (by omega)
            exact ⟨r, hr, .raised hlt hask rfl hloop⟩
      · rw [bisect, if_neg hlt]
        exact ⟨_, rfl, .done hlt⟩

/-- The search ends, and the model returns what it ends with. -/
theorem searches (header : ℕ) (o : Oracle σ) (floor ceil : ℕ) (s : σ × Asked) :
    ∃ r, searchLargestFit header o.classifier floor ceil s = .ok r ∧
      Searches header o floor ceil s r := by
  obtain ⟨c, s', hfloor⟩ : ∃ c s', o.ask floor s = (c, s') := ⟨_, _, rfl⟩
  have hasked : o.classifier floor s = .ok (c, s') := congrArg Except.ok hfloor
  rw [searchLargestFit, workingFloor, hasked]
  rcases tooBig_or_accepted c with ⟨mtu, wire, rfl⟩ | hc
  · obtain ⟨c', s'', hmin⟩ : ∃ c s'', o.ask 32 s' = (c, s'') := ⟨_, _, rfl⟩
    have hasked' : o.classifier 32 s' = .ok (c', s'') := congrArg Except.ok hmin
    dsimp only
    rw [workingFloor, hasked']
    rcases tooBig_or_accepted c' with ⟨mtu', wire', rfl⟩ | hc'
    · exact ⟨_, rfl, .refused hfloor hmin⟩
    · obtain ⟨⟨lo, e, r⟩, hr, hloop⟩ := bisects header o (bound header ceil floor mtu - 32)
        32 (bound header ceil floor mtu) ((noEvidence.note (.tooBig mtu wire)).note c') s'' le_rfl
      refine ⟨(⟨some lo, e⟩, r), ?_, .atMinimum hfloor hmin hc' hloop⟩
      rw [noEvidence] at hr
      cases c' with
      | tooBig mtu' wire' => exact absurd hc' (by simp [SizeClass.accepted])
      | fit => dsimp only; rw [hr]
      | silent => dsimp only; rw [hr]
  · obtain ⟨⟨lo, e, r⟩, hr, hloop⟩ := bisects header o (ceil - floor) floor ceil
      (noEvidence.note c) s' le_rfl
    refine ⟨(⟨some lo, e⟩, r), ?_, .atFloor hfloor hc hloop⟩
    rw [noEvidence] at hr
    cases c with
    | tooBig mtu wire => exact absurd hc (by simp [SizeClass.accepted])
    | fit => dsimp only; rw [hr]
    | silent => dsimp only; rw [hr]

/-! ### What every answer keeps -/

/-- The sizes asked are in range, the reported next-hop MTU is the least one that came off the
wire, and the lower end was accepted. -/
structure Kept (ceil : ℕ) (lo : Option ℕ) (e : Evidence) (asked : Asked) : Prop where
  within : ∀ p ∈ asked, 32 ≤ p.1 ∧ p.1 ≤ ceil
  least : e.icmpMtu = asked.wireHints.min?
  accepted : ∀ size ∈ lo, ∃ c, (size, c) ∈ asked ∧ c.accepted = true

lemma kept_nil (ceil : ℕ) : Kept ceil none noEvidence [] where
  within _ h := absurd h List.not_mem_nil
  least := rfl
  accepted _ h := absurd h (Option.not_mem_none _)

/-- One more next-hop MTU. -/
lemma min?_concat (l : List ℕ) (m : ℕ) : (l ++ [m]).min? = some (l.min?.elim m (min m)) := by
  cases l with
  | nil => rfl
  | cons x xs =>
      rw [List.cons_append, List.min?_cons', List.min?_cons', List.foldl_append, Option.elim_some]
      exact congrArg some (min_comm _ m)

/-- An answer is noted. -/
lemma Kept.note {size : ℕ} {c : SizeClass} {lo : Option ℕ} {asked : Asked}
    (h : Kept ceil lo e asked) (hsize : 32 ≤ size ∧ size ≤ ceil) :
    Kept ceil (if c.accepted then some size else lo) (e.note c) (asked ++ [(size, c)]) where
  within p hp := by
    rcases List.mem_append.mp hp with hp | hp
    · exact h.within p hp
    · rw [List.mem_singleton.mp hp]
      exact hsize
  least := by
    have hleast := h.least
    have hhints : Asked.wireHints (asked ++ [(size, c)]) =
        asked.wireHints ++ [(size, c)].filterMap fun p => p.2.wireHint := List.filterMap_append
    cases c with
    | tooBig mtu wire =>
        cases wire with
        | true =>
            cases mtu with
            | none =>
                rw [hhints]
                simpa [Evidence.note, SizeClass.wireHint] using hleast
            | some m =>
                rw [hhints]
                simp only [Evidence.note, SizeClass.wireHint, List.filterMap_cons,
                  List.filterMap_nil, Option.elim_some]
                rw [min?_concat, hleast]
        | false =>
            rw [hhints]
            simpa [Evidence.note, SizeClass.wireHint] using hleast
    | fit =>
        rw [hhints]
        simpa [Evidence.note, SizeClass.wireHint] using hleast
    | silent =>
        rw [hhints]
        simpa [Evidence.note, SizeClass.wireHint] using hleast
  accepted n hn := by
    by_cases hc : c.accepted = true
    · rw [if_pos hc, Option.mem_some_iff] at hn
      subst hn
      exact ⟨c, List.mem_append_right _ (List.mem_singleton_self _), hc⟩
    · rw [if_neg hc] at hn
      obtain ⟨c', hmem, hc'⟩ := h.accepted n hn
      exact ⟨c', List.mem_append_left _ hmem, hc'⟩

/-- The answer to a size is noted. -/
lemma Kept.ask {size : ℕ} {c : SizeClass} {s' : σ × Asked} {end' : Option ℕ}
    (h : Kept ceil end' e s.2) (hsize : 32 ≤ size ∧ size ≤ ceil) (hask : o.ask size s = (c, s')) :
    Kept ceil (if c.accepted then some size else end') (e.note c) s'.2 := by
  obtain ⟨rfl, rfl⟩ := Prod.mk.inj hask
  exact h.note hsize

/-- What the loop keeps. -/
lemma Bisects.kept {r : ℕ × Evidence × σ × Asked} (h : Bisects header o lo hi e s r)
    (hceil : hi ≤ ceil) (hlo : 32 ≤ lo) (hkept : Kept ceil (some lo) e s.2) :
    Kept ceil (some r.1) r.2.1 r.2.2.2 := by
  induction h with
  | done hend => exact hkept
  | @lowered lo hi e s mtu wire s' r hlt hask rest ih =>
      have hmid := mid_mem hlt
      have hbound := bound_le header hi (mid lo hi) mtu
      exact ih (by omega) hlo (hkept.ask ⟨by omega, by omega⟩ hask)
  | @raised lo hi e s c s' r hlt hask hc rest ih =>
      have hmid := mid_mem hlt
      have hnoted := hkept.ask ⟨by omega, by omega⟩ hask
      rw [if_pos hc] at hnoted
      exact ih hceil (by omega) hnoted

/-! ### A path with a threshold -/

/-- What a refusal says of the threshold. -/
lemma Oracle.Threshold.le_bound (hi : ℕ) {size : ℕ} {mtu : Option ℕ} {wire : Bool} {s' : σ × Asked}
    (h : o.Threshold header t) (hask : o.ask size s = (.tooBig mtu wire, s')) :
    t < size ∧ min t hi ≤ bound header hi size mtu := by
  have hanswer : (o size s.1).1 = .tooBig mtu wire := congrArg Prod.fst hask
  have hlt : t < size := by
    by_contra hle
    have haccepted := h.delivers size s.1 (by omega)
    rw [hanswer] at haccepted
    cases haccepted
  obtain ⟨mtu', wire', hanswer', hhint⟩ := h.refuses size s.1 hlt
  rw [hanswer] at hanswer'
  obtain ⟨rfl, rfl⟩ := SizeClass.tooBig.inj hanswer'
  refine ⟨hlt, ?_⟩
  cases mtu with
  | none => rw [bound, Option.elim_none]; omega
  | some m =>
      have hm := hhint m rfl
      rw [bound, Option.elim_some]
      omega

/-- An accepted size is not above the threshold. -/
lemma Oracle.Threshold.le_of_accepted {size : ℕ} {c : SizeClass} {s' : σ × Asked}
    (h : o.Threshold header t) (hask : o.ask size s = (c, s')) (hc : c.accepted = true) :
    size ≤ t := by
  by_contra hlt
  obtain ⟨mtu, wire, hanswer, -⟩ := h.refuses size s.1 (by omega)
  have hanswer' : (o size s.1).1 = c := congrArg Prod.fst hask
  rw [← hanswer', hanswer] at hc
  cases hc

/-- The loop ends at the threshold, or at the ceiling below it. -/
lemma Bisects.eq_min {r : ℕ × Evidence × σ × Asked} (h : Bisects header o lo hi e s r)
    (ht : o.Threshold header t) (hceil : hi ≤ ceil) (hlo : lo ≤ min t ceil)
    (hhi : min t ceil ≤ hi) : r.1 = min t ceil := by
  induction h with
  | done hend => omega
  | @lowered lo hi e s mtu wire s' r hlt hask rest ih =>
      obtain ⟨-, hbound⟩ := ht.le_bound hi hask
      have hupper := bound_le header hi (mid lo hi) mtu
      exact ih (by omega) hlo (by omega)
  | @raised lo hi e s c s' r hlt hask hc rest ih =>
      have hmid := mid_mem hlt
      have hle := ht.le_of_accepted hask hc
      exact ih hceil (by omega) hhi

/-! ### The search -/

/-- What the search keeps. -/
lemma Searches.kept {a : σ} {r : SearchOutcome × σ × Asked}
    (h : Searches header o floor ceil (a, []) r) (hfloor : 32 ≤ floor) (hceil : floor ≤ ceil) :
    Kept ceil r.1.largestFit r.1.evidence r.2.2 := by
  have hstart : Kept ceil none noEvidence (a, ([] : Asked)).2 := kept_nil ceil
  cases h with
  | @atFloor c s' lo e r hask hc loop =>
      have hnoted := hstart.ask ⟨hfloor, hceil⟩ hask
      rw [if_pos hc] at hnoted
      exact loop.kept le_rfl hfloor hnoted
  | @atMinimum mtu wire s' c s'' lo e r hask hask' hc loop =>
      have hnoted := (hstart.ask ⟨hfloor, hceil⟩ hask).ask ⟨le_rfl, by omega⟩ hask'
      have hbound := bound_le header ceil floor mtu
      rw [if_pos hc] at hnoted
      exact loop.kept (by omega) le_rfl hnoted
  | @refused mtu wire s' mtu' wire' s'' hask hask' =>
      exact (hstart.ask ⟨hfloor, hceil⟩ hask).ask ⟨le_rfl, by omega⟩ hask'

/-- Where a path has a threshold, the search finds it. -/
lemma Searches.eq_threshold {r : SearchOutcome × σ × Asked}
    (h : Searches header o floor ceil s r) (ht : o.Threshold header t) (hfloor : 32 ≤ floor)
    (hceil : floor ≤ ceil) :
    r.1.largestFit = if 32 ≤ t then some (min t ceil) else none := by
  cases h with
  | @atFloor c s' lo e r hask hc loop =>
      have hle := ht.le_of_accepted hask hc
      have hmin := loop.eq_min ht le_rfl (by omega) (min_le_right _ _)
      rw [if_pos (by omega)]
      exact congrArg some hmin
  | @atMinimum mtu wire s' c s'' lo e r hask hask' hc loop =>
      obtain ⟨-, hbound⟩ := ht.le_bound ceil hask
      have hle := ht.le_of_accepted hask' hc
      have hupper := bound_le header ceil floor mtu
      have hmin := loop.eq_min ht (hupper.trans (min_le_left _ _)) (by omega) (by omega)
      rw [if_pos hle]
      exact congrArg some hmin
  | @refused mtu wire s' mtu' wire' s'' hask hask' =>
      obtain ⟨hlt, -⟩ := ht.le_bound ceil hask'
      exact (if_neg (by omega)).symm

/-- **What the search settles on.**  The search ends; it asks only for sizes from the minimal
datagram to the ceiling, what it returns is a size that was accepted, and the reported next-hop
MTU is the least one that came off the wire.  Where the path has a threshold, it returns the
threshold or the ceiling, whichever is less, and nothing below the minimal datagram. -/
theorem search_settles (header floor ceil : ℕ) (o : Oracle σ) (a : σ) (hfloor : 32 ≤ floor)
    (hceil : floor ≤ ceil) :
    ∃ out a' asked, searchLargestFit header o.classifier floor ceil (a, []) = .ok (out, a', asked) ∧
      Searches header o floor ceil (a, []) (out, a', asked) ∧
      (∀ p ∈ asked, 32 ≤ p.1 ∧ p.1 ≤ ceil) ∧
      out.evidence.icmpMtu = asked.wireHints.min? ∧
      (∀ size ∈ out.largestFit, ∃ c, (size, c) ∈ asked ∧ c.accepted = true) ∧
      ∀ t, o.Threshold header t →
        out.largestFit = if 32 ≤ t then some (min t ceil) else none := by
  obtain ⟨⟨out, a', asked⟩, hsearch, hsearches⟩ := searches header o floor ceil (a, [])
  have hkept := hsearches.kept hfloor hceil
  exact ⟨out, a', asked, hsearch, hsearches, hkept.within, hkept.least, hkept.accepted,
    fun t ht => hsearches.eq_threshold ht hfloor hceil⟩

end

/-! ### A path of 1400 bytes -/

/-- A path of 1400 bytes behind headers of 28, whose refusals name its MTU, off the wire or
from the local interface. -/
def path1400 (wire : Bool) : Oracle Unit :=
  fun size a => (if size ≤ 1372 then .fit else .tooBig (some 1400) wire, a)

lemma threshold_path1400 (wire : Bool) : (path1400 wire).Threshold 28 1372 where
  delivers size a h := by simp only [path1400, if_pos h, SizeClass.accepted]
  refuses size a h := ⟨some 1400, wire, by simp only [path1400, if_neg (Nat.not_le.mpr h)],
    fun m hm => by rw [← Option.mem_some_iff.mp hm]⟩

theorem search_settles_path1400 :
    ∃ out a' asked, searchLargestFit 28 (path1400 true).classifier 548 9188 ((), []) =
        .ok (out, a', asked) ∧ out.largestFit = some 1372 := by
  obtain ⟨out, a', asked, hsearch, -, -, -, -, hthreshold⟩ :=
    search_settles 28 548 9188 (path1400 true) () (by decide) (by decide)
  exact ⟨out, a', asked, hsearch, hthreshold 1372 (threshold_path1400 true)⟩

/-- A limit of the local interface is answered, and not reported. -/
theorem local_hint_unreported :
    (path1400 false).Threshold 28 1372 ∧
      ∃ out a' asked, searchLargestFit 28 (path1400 false).classifier 548 1472 ((), []) =
          .ok (out, a', asked) ∧ asked.hints.min? = some 1400 ∧ out.evidence.icmpMtu = none := by
  exact ⟨threshold_path1400 false, _, _, _, rfl, rfl, rfl⟩

end Pmtud

end Networker
