/-
Patterns with two wildcards and an escape character, as in SQL.

* `Wildcards`: the three characters with a meaning;
* `Wildcards.likeFrom`, `Wildcards.like`: whether a text matches a pattern;
* `Wildcards.escapeText`: a text as a pattern for itself; `replace_thrice`: it is the result of
  three replacements, the escape character first;
* `like_contains`: a text between two wildcards matches what contains it;
* `Wildcards.ilike_contains`: the same up to a folding of the characters.
-/
import Mathlib.Tactic

namespace Data

/-- The characters with a meaning: any text, any one character, and the escape character. -/
structure Wildcards (α : Type) where
  any : α
  one : α
  escape : α
  any_ne_one : any ≠ one
  any_ne_escape : any ≠ escape
  one_ne_escape : one ≠ escape

namespace Wildcards

variable {α : Type} [DecidableEq α] (W : Wildcards α)

/-- The character has a meaning. -/
def special (c : α) : Bool := c == W.any || c == W.one || c == W.escape

/-- The rest of a text matches the rest of a pattern, behind an escape character or not; a
pattern that ends with one matches nothing. -/
def likeFrom : Bool → List α → List α → Bool
  | false, [], t => t.isEmpty
  | true, [], _ => false
  | true, c :: p, t => t.head? == some c && likeFrom false p t.tail
  | false, c :: p, t =>
      if c = W.any then t.tails.any fun s => likeFrom false p s
      else if c = W.one then !t.isEmpty && likeFrom false p t.tail
      else if c = W.escape then likeFrom true p t
      else t.head? == some c && likeFrom false p t.tail

/-- A text matches a pattern. -/
def like (p t : List α) : Bool := W.likeFrom false p t

/-- `s` with every `c` replaced. -/
def replace (c : α) (r s : List α) : List α := s.flatMap fun d => if d = c then r else [d]

/-- A text as a pattern for itself. -/
def escapeText (s : List α) : List α :=
  s.flatMap fun c => if W.special c then [W.escape, c] else [c]

variable {W}

lemma special_iff {c : α} : W.special c = true ↔ c = W.any ∨ c = W.one ∨ c = W.escape := by
  simp [special, or_assoc]

lemma escapeText_cons (c : α) (s : List α) : W.escapeText (c :: s) =
    (if W.special c then [W.escape, c] else [c]) ++ W.escapeText s := List.flatMap_cons

lemma replace_append (c : α) (r s t : List α) :
    replace c r (s ++ t) = replace c r s ++ replace c r t := List.flatMap_append

/-- The escape character is replaced first, so that no replacement is itself replaced. -/
theorem replace_thrice (s : List α) :
    replace W.one [W.escape, W.one]
      (replace W.any [W.escape, W.any] (replace W.escape [W.escape, W.escape] s)) =
        W.escapeText s := by
  have hae := W.any_ne_escape
  have hoe := W.one_ne_escape
  have hao := W.any_ne_one
  induction s with
  | nil => rfl
  | cons c s ih =>
      have hcons : ∀ (d : α) (r : List α), replace d r (c :: s) =
          (if c = d then r else [c]) ++ replace d r s := fun d r => List.flatMap_cons
      rw [hcons, replace_append, replace_append, ih, escapeText_cons]
      congr 1
      by_cases he : c = W.escape
      · subst he
        simp [replace, special, hae.symm, hoe.symm]
      · by_cases ha : c = W.any
        · subst ha
          simp [replace, special, hae, hoe.symm, hao]
        · by_cases ho : c = W.one
          · subst ho
            simp [replace, special, hoe, hao.symm]
          · simp [replace, special, he, ha, ho]

/-- The pattern of a text matches that text at the front. -/
lemma like_escapeText_append (s p : List α) :
    ∀ t, W.like (W.escapeText s ++ p) t = true ↔ ∃ u, t = s ++ u ∧ W.like p u = true := by
  induction s with
  | nil =>
      intro t
      constructor
      · exact fun h => ⟨t, rfl, h⟩
      · rintro ⟨u, rfl, h⟩
        exact h
  | cons c s ih =>
      intro t
      have hstep : W.like (W.escapeText (c :: s) ++ p) t =
          (t.head? == some c && W.like (W.escapeText s ++ p) t.tail) := by
        rw [escapeText_cons]
        by_cases hc : W.special c = true
        · rw [if_pos hc]
          have hea := W.any_ne_escape.symm
          have heo := W.one_ne_escape.symm
          simp [like, likeFrom, hea, heo]
        · rw [if_neg hc]
          rw [special_iff, not_or, not_or] at hc
          simp [like, likeFrom, hc]
      rw [hstep, Bool.and_eq_true, beq_iff_eq]
      cases t with
      | nil => simp
      | cons d t =>
          rw [List.head?_cons, List.tail_cons, ih, Option.some.injEq]
          constructor
          · rintro ⟨rfl, u, rfl, h⟩
            exact ⟨u, rfl, h⟩
          · rintro ⟨u, heq, h⟩
            obtain ⟨rfl, rfl⟩ := List.cons.inj heq
            exact ⟨rfl, u, rfl, h⟩

/-- **A text between two wildcards matches what contains it.** -/
theorem like_contains (s t : List α) :
    W.like (W.any :: W.escapeText s ++ [W.any]) t = true ↔ s <:+: t := by
  have hany : ∀ p u : List α, W.like (W.any :: p) u = true ↔ ∃ r, r <:+ u ∧ W.like p r = true := by
    intro p u
    rw [like, likeFrom, if_pos rfl, List.any_eq_true]
    exact exists_congr fun r => and_congr_left fun _ => List.mem_tails r u
  have hlast : ∀ u : List α, W.like [W.any] u = true := fun u =>
    (hany [] u).mpr ⟨[], List.nil_suffix, rfl⟩
  rw [List.cons_append, hany]
  constructor
  · rintro ⟨r, ⟨v, hv⟩, h⟩
    obtain ⟨u, rfl, -⟩ := (like_escapeText_append s [W.any] r).mp h
    exact ⟨v, u, by rw [List.append_assoc, hv]⟩
  · rintro ⟨v, u, rfl⟩
    refine ⟨s ++ u, ⟨v, (List.append_assoc v s u).symm⟩, ?_⟩
    exact (like_escapeText_append s [W.any] (s ++ u)).mpr ⟨u, rfl, hlast u⟩

/-! ### Up to a folding -/

/-- A folding leaves the characters with a meaning alone and gives no other one a meaning. -/
structure Folds (W : Wildcards α) (fold : α → α) : Prop where
  fixed : ∀ c, W.special c = true → fold c = c
  special : ∀ c, W.special (fold c) = true → W.special c = true

/-- A text matches a pattern up to a folding. -/
def ilike (W : Wildcards α) (fold : α → α) (p t : List α) : Bool :=
  W.like (p.map fold) (t.map fold)

variable {fold : α → α}

lemma Folds.escapeText (h : W.Folds fold) (s : List α) :
    (W.escapeText s).map fold = W.escapeText (s.map fold) := by
  induction s with
  | nil => rfl
  | cons c s ih =>
      rw [escapeText_cons, List.map_append, ih, List.map_cons, escapeText_cons]
      congr 1
      by_cases hc : W.special c = true
      · have hesc : fold W.escape = W.escape := h.fixed _ (special_iff.mpr (.inr (.inr rfl)))
        rw [h.fixed c hc, if_pos hc]
        simp [hesc, h.fixed c hc]
      · rw [if_neg hc, if_neg fun hf => hc (h.special c hf)]
        rfl

/-- **A text between two wildcards matches, up to a folding, what contains it up to it.** -/
theorem ilike_contains (h : W.Folds fold) (s t : List α) :
    W.ilike fold (W.any :: W.escapeText s ++ [W.any]) t = true ↔ s.map fold <:+: t.map fold := by
  have hany : fold W.any = W.any := h.fixed _ (special_iff.mpr (.inl rfl))
  rw [ilike, List.map_append, List.map_cons, List.map_singleton, h.escapeText, hany]
  exact like_contains (s.map fold) (t.map fold)

end Wildcards

end Data
