/-
Texts that arrive in chunks and are cut at a separator.

* `cut`: the pieces in front of the separators, found from the left, and the rest behind the
  last one;
* `cut_append`: a text may be cut in two steps, the second on what the first has left over;
* `Reader`, `Reader.feed`, `read_chunks`: a reader that keeps the rest in a buffer finds the
  pieces of the whole text, however it is divided into chunks;
* `cut_join`: the pieces put together again are the text;
* `Closed`, `cut_flatMap`: the pieces of a text that is put together from closed ones;
* `closed_line`, `closed_block`, `closed_lines`: what a newline closes, and an empty line;
* `lines`, `intercalate_lines`: the lines of a text, and that they make it up.
-/
import Mathlib.Tactic

namespace Data

namespace Text

variable {α : Type}

/-- The pieces with a symbol in front of the first one. -/
def push (a : α) : List (List α) × List α → List (List α) × List α
  | ([], rest) => ([], a :: rest)
  | (p :: ps, rest) => ((a :: p) :: ps, rest)

lemma push_append (a : α) {ps : List (List α)} (hps : ps ≠ []) (rest : List α)
    (r : List (List α) × List α) :
    push a (ps ++ r.1, r.2) = ((push a (ps, rest)).1 ++ r.1, r.2) := by
  cases ps with
  | nil => exact absurd rfl hps
  | cons p ps => rfl

variable [DecidableEq α]

/-- The pieces of a text, behind a number of symbols that belong to a separator. -/
def cutFrom (sep : List α) : ℕ → List α → List (List α) × List α
  | _, [] => ([], [])
  | k + 1, _ :: as => cutFrom sep k as
  | 0, a :: as =>
      if sep.isPrefixOf (a :: as) then
        ([] :: (cutFrom sep (sep.length - 1) as).1, (cutFrom sep (sep.length - 1) as).2)
      else push a (cutFrom sep 0 as)

/-- The pieces of a text and the rest. -/
def cut (sep as : List α) : List (List α) × List α := cutFrom sep 0 as

variable {sep as bs : List α}

@[simp] lemma cut_nil : cut sep [] = ([], []) := rfl

/-- Where there is no piece, the rest is the whole text. -/
lemma cutFrom_rest (h : (cutFrom sep 0 as).1 = []) : (cutFrom sep 0 as).2 = as := by
  induction as with
  | nil => rfl
  | cons a as ih =>
      rw [cutFrom] at h ⊢
      split_ifs at h ⊢
      rcases hcut : cutFrom sep 0 as with ⟨_ | ⟨p, ps⟩, rest⟩
      · rw [hcut] at ih
        exact congrArg (a :: ·) (ih rfl)
      · rw [hcut] at h
        cases h

/-- The separator that begins in the first text either ends in it or is longer. -/
lemma isPrefixOf_append (h : ¬ sep.isPrefixOf as = true) (h' : sep.isPrefixOf (as ++ bs) = true) :
    as.length < sep.length := by
  rw [List.isPrefixOf_iff_prefix] at h h'
  by_contra hlt
  exact h (List.prefix_of_prefix_length_le h' (List.prefix_append as bs) (Nat.not_lt.mp hlt))

/-- A text that is shorter than the separator has no piece. -/
lemma cutFrom_of_short (h : as.length < sep.length) : cutFrom sep 0 as = ([], as) := by
  induction as with
  | nil => rfl
  | cons a as ih =>
      have hnot : ¬ sep.isPrefixOf (a :: as) = true := fun hp =>
        absurd (List.isPrefixOf_iff_prefix.mp hp).length_le (Nat.not_le.mpr h)
      rw [List.length_cons] at h
      rw [cutFrom, if_neg hnot, ih (by omega)]
      rfl

lemma cutFrom_append (k : ℕ) (hk : k ≤ as.length) :
    cutFrom sep k (as ++ bs) = ((cutFrom sep k as).1 ++ (cut sep ((cutFrom sep k as).2 ++ bs)).1,
      (cut sep ((cutFrom sep k as).2 ++ bs)).2) := by
  induction as generalizing k with
  | nil =>
      obtain rfl : k = 0 := Nat.le_zero.mp hk
      rfl
  | cons a as ih =>
      cases k with
      | succ k => exact ih k (Nat.le_of_succ_le_succ hk)
      | zero =>
          by_cases hpre : sep.isPrefixOf (a :: as) = true
          · have hpre' : sep.isPrefixOf (a :: (as ++ bs)) = true := by
              rw [List.isPrefixOf_iff_prefix] at hpre ⊢
              exact hpre.trans (List.prefix_append (a :: as) bs)
            have hlen : sep.length - 1 ≤ as.length := by
              have hle := (List.isPrefixOf_iff_prefix.mp hpre).length_le
              rw [List.length_cons] at hle
              omega
            rw [List.cons_append, cutFrom, if_pos hpre', cutFrom, if_pos hpre, ih _ hlen]
            rfl
          · by_cases hpre' : sep.isPrefixOf ((a :: as) ++ bs) = true
            · -- the separator lies across the two texts
              rw [cutFrom_of_short (isPrefixOf_append hpre hpre')]
              rfl
            · by_cases hnone : (cutFrom sep 0 (a :: as)).1 = []
              · rw [hnone, cutFrom_rest hnone]
                rfl
              · have hcut : cutFrom sep 0 (a :: as) = push a (cutFrom sep 0 as) := by
                  rw [cutFrom, if_neg hpre]
                have hcut' : cutFrom sep 0 (a :: as ++ bs) = push a (cutFrom sep 0 (as ++ bs)) := by
                  rw [List.cons_append] at hpre' ⊢
                  rw [cutFrom, if_neg hpre']
                rw [hcut', hcut, ih 0 (Nat.zero_le _)]
                rw [hcut] at hnone
                rcases h0 : cutFrom sep 0 as with ⟨_ | ⟨p, ps⟩, rest⟩
                · rw [h0] at hnone
                  exact absurd rfl hnone
                · rfl

/-- **A text may be cut in two steps**, the second on what the first has left over. -/
theorem cut_append : cut sep (as ++ bs) = ((cut sep as).1 ++ (cut sep ((cut sep as).2 ++ bs)).1,
    (cut sep ((cut sep as).2 ++ bs)).2) :=
  cutFrom_append 0 (Nat.zero_le _)

/-! ### Readers -/

/-- A reader with what it has found so far. -/
structure Reader (α : Type) where
  buffer : List α
  pieces : List (List α)

/-- A chunk arrives. -/
def Reader.feed (sep : List α) (r : Reader α) (chunk : List α) : Reader α :=
  ⟨(cut sep (r.buffer ++ chunk)).2, r.pieces ++ (cut sep (r.buffer ++ chunk)).1⟩

/-- A text is cut as far as it has come. -/
def Reader.at (sep as : List α) : Reader α := ⟨(cut sep as).2, (cut sep as).1⟩

lemma Reader.feed_at : (Reader.at sep as).feed sep bs = Reader.at sep (as ++ bs) := by
  rw [Reader.at, Reader.at, cut_append]
  rfl

/-- **The chunks do not matter.** -/
theorem read_chunks (chunks : List (List α)) :
    chunks.foldl (Reader.feed sep) ⟨[], []⟩ = Reader.at sep chunks.flatten := by
  have hfrom : ∀ as : List α,
      chunks.foldl (Reader.feed sep) (Reader.at sep as) = Reader.at sep (as ++ chunks.flatten) := by
    induction chunks with
    | nil => exact fun as => by rw [List.foldl_nil, List.flatten_nil, List.append_nil]
    | cons chunk chunks ih =>
        intro as
        rw [List.foldl_cons, Reader.feed_at, ih, List.flatten_cons, List.append_assoc]
  exact hfrom []

/-! ### Texts that are put together -/

/-- The pieces put together again are the text. -/
lemma cutFrom_join (hsep : sep ≠ []) (k : ℕ) :
    (cutFrom sep k as).1.flatMap (· ++ sep) ++ (cutFrom sep k as).2 = as.drop k := by
  induction as generalizing k with
  | nil => rw [cutFrom, List.drop_nil]; rfl
  | cons a as ih =>
      cases k with
      | succ k => exact ih k
      | zero =>
          rw [cutFrom]
          split_ifs with hpre
          · obtain ⟨rest, hrest⟩ := List.isPrefixOf_iff_prefix.mp hpre
            have hdrop : as.drop (sep.length - 1) = rest := by
              cases sep with
              | nil => exact absurd rfl hsep
              | cons b sep =>
                  rw [List.cons_append, List.cons.injEq] at hrest
                  rw [← hrest.2, List.length_cons, Nat.add_sub_cancel, List.drop_left]
            rw [List.flatMap_cons, List.nil_append, List.append_assoc, ih, hdrop]
            exact hrest
          · have hrest := ih 0
            rcases hcut : cutFrom sep 0 as with ⟨_ | ⟨p, ps⟩, rest⟩ <;> rw [hcut] at hrest <;>
              exact congrArg (a :: ·) hrest

theorem cut_join (hsep : sep ≠ []) : (cut sep as).1.flatMap (· ++ sep) ++ (cut sep as).2 = as :=
  cutFrom_join hsep 0

/-- A text in front of a separator that is found where it is. -/
def Closed (sep p : List α) : Prop := cut sep (p ++ sep) = ([p], [])

lemma cut_closed {p : List α} (hp : Closed sep p) :
    cut sep (p ++ sep ++ bs) = (p :: (cut sep bs).1, (cut sep bs).2) := by
  rw [cut_append, hp]
  rfl

/-- The pieces of a text that is put together from closed ones are those. -/
theorem cut_flatMap {ps : List (List α)} (hps : ∀ p ∈ ps, Closed sep p) :
    cut sep (ps.flatMap (· ++ sep) ++ bs) = (ps ++ (cut sep bs).1, (cut sep bs).2) := by
  induction ps with
  | nil => rfl
  | cons p ps ih =>
      rw [List.forall_mem_cons] at hps
      rw [List.flatMap_cons, List.append_assoc, cut_closed hps.1, ih hps.2]
      rfl

/-- A line is closed. -/
lemma closed_line {c : α} {p : List α} (hp : c ∉ p) : Closed [c] p := by
  induction p with
  | nil => simp [Closed, cut, cutFrom]
  | cons a p ih =>
      rw [List.mem_cons, not_or] at hp
      have hnot : ¬ [c].isPrefixOf (a :: (p ++ [c])) = true := by
        simpa using hp.1
      have hrest : cutFrom [c] 0 (p ++ [c]) = ([p], []) := ih hp.2
      rw [Closed, List.cons_append, cut, cutFrom, if_neg hnot, hrest]
      rfl

/-- A text without an empty line is closed by one. -/
lemma closed_block {c : α} {p : List α}
    (hp : (p ++ [c]).IsChain fun a b => ¬ (a = c ∧ b = c)) : Closed [c, c] p := by
  induction p with
  | nil => simp [Closed, cut, cutFrom]
  | cons a p ih =>
      have hnot : ¬ [c, c].isPrefixOf (a :: (p ++ [c, c])) = true := by
        rw [List.isPrefixOf_iff_prefix, List.cons_prefix_cons]
        rintro ⟨rfl, hc⟩
        cases p with
        | nil => exact (List.isChain_cons_cons.mp hp).1 ⟨rfl, rfl⟩
        | cons b p =>
            have hb : c = b := (List.cons_prefix_cons.mp hc).1
            exact (List.isChain_cons_cons.mp hp).1 ⟨rfl, hb.symm⟩
      have hrest : cutFrom [c, c] 0 (p ++ [c, c]) = ([p], []) := ih hp.tail
      rw [Closed, List.cons_append, cut, cutFrom, if_neg hnot, hrest]
      rfl

/-- The pieces in front of a symbol do not contain it, and neither does the rest. -/
lemma notMem_cut {c : α} {p : List α} (hp : p ∈ (cut [c] as).1 ∨ p = (cut [c] as).2) : c ∉ p := by
  induction as generalizing p with
  | nil => simp_all
  | cons a as ih =>
      have hcut : cut [c] (a :: as) = if [c].isPrefixOf (a :: as) then
          ([] :: (cut [c] as).1, (cut [c] as).2) else push a (cut [c] as) := rfl
      rw [hcut] at hp
      split_ifs at hp with hpre
      · rw [List.mem_cons, or_assoc] at hp
        obtain rfl | hp := hp
        · exact List.not_mem_nil
        · exact ih hp
      · have hne : c ≠ a := fun h => hpre (by simp [h])
        have hcons : ∀ q, q ∈ (cut [c] as).1 ∨ q = (cut [c] as).2 → c ∉ a :: q := fun q hq hmem =>
          (List.mem_cons.mp hmem).elim hne (ih hq)
        rcases hps : cut [c] as with ⟨_ | ⟨q, ps⟩, rest⟩ <;> rw [hps] at hp hcons ih
        · obtain hp | rfl := hp
          · cases hp
          · exact hcons rest (.inr rfl)
        · obtain hp | rfl := hp
          · obtain rfl | hp := List.mem_cons.mp hp
            · exact hcons q (.inl List.mem_cons_self)
            · exact ih (.inl (List.mem_cons_of_mem q hp))
          · exact ih (.inr rfl)

/-- The lines of a text: the pieces and the rest. -/
def lines (c : α) (as : List α) : List (List α) := (cut [c] as).1 ++ [(cut [c] as).2]

lemma notMem_lines {c : α} {l : List α} (hl : l ∈ lines c as) : c ∉ l := by
  rw [lines, List.mem_append, List.mem_singleton] at hl
  exact notMem_cut hl

/-- A newline at the end makes the last line a piece. -/
lemma lines_eq {c : α} : lines c as = (cut [c] (as ++ [c])).1 := by
  have hrest : cut [c] ((cut [c] as).2 ++ [c]) = ([(cut [c] as).2], []) :=
    closed_line (notMem_cut (.inr rfl))
  rw [cut_append, hrest, lines]

omit [DecidableEq α] in
lemma intercalate_concat (sep last : List α) (ps : List (List α)) :
    sep.intercalate (ps ++ [last]) = ps.flatMap (· ++ sep) ++ last := by
  induction ps with
  | nil => simp
  | cons p ps ih =>
      obtain ⟨q, qs, hq⟩ := List.exists_cons_of_ne_nil (List.concat_ne_nil last ps)
      rw [List.cons_append, hq, List.intercalate_cons_cons, ← hq, ih, List.flatMap_cons]
      simp only [List.append_assoc]

/-- The lines of a text put together again are the text. -/
theorem intercalate_lines (c : α) (as : List α) : [c].intercalate (lines c as) = as := by
  rw [lines, intercalate_concat]
  exact cut_join (List.cons_ne_nil c [])

omit [DecidableEq α] in
/-- Lines with something in them have no empty line between them. -/
lemma isChain_lines {c : α} {ls : List (List α)} (hls : ∀ l ∈ ls, l ≠ [] ∧ c ∉ l) :
    (ls.flatMap (· ++ [c])).IsChain fun a b => ¬ (a = c ∧ b = c) := by
  induction ls with
  | nil => exact .nil
  | cons l ls ih =>
      rw [List.forall_mem_cons] at hls
      have hline : ∀ m : List α, c ∉ m → (m ++ [c]).IsChain fun a b => ¬ (a = c ∧ b = c) := by
        intro m hm
        induction m with
        | nil => exact .singleton c
        | cons a m ihm =>
            rw [List.mem_cons, not_or] at hm
            refine List.isChain_cons.mpr ⟨fun b _ hb => hm.1 hb.1.symm, ihm hm.2⟩
      rw [List.flatMap_cons]
      refine List.isChain_append.mpr ⟨hline l hls.1.2, ih hls.2, ?_⟩
      rintro a - b hb ⟨-, rfl⟩
      -- the next line begins with another symbol
      cases ls with
      | nil => cases hb
      | cons m ls =>
          obtain ⟨hne, hnot⟩ := hls.2 m List.mem_cons_self
          obtain ⟨x, xs, rfl⟩ := List.exists_cons_of_ne_nil hne
          obtain rfl : x = b := by simpa using hb
          exact hnot List.mem_cons_self

/-- Lines with something in them are closed by an empty line. -/
lemma closed_lines {c : α} {ls : List (List α)} (hls : ∀ l ∈ ls, l ≠ [] ∧ c ∉ l) {p : List α}
    (hp : ls.flatMap (· ++ [c]) = p ++ [c]) : Closed [c, c] p :=
  closed_block (hp ▸ isChain_lines hls)

end Text

end Data
