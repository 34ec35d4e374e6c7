/-
Patterns with captures, matched by backtracking.

* `Pattern`: single characters, sequences, alternatives, greedy repetition, captures and tests
  of the characters on both sides of a position;
* `Pattern.run`: every way to match at a position, in the order in which they are tried;
* `Pattern.search`, `Pattern.searchAll`: the first match of a text, and all that do not overlap;
* `Pattern.Matches`: the text of a match with its captures, without the order;
  `matches_of_search`: what is found matches.
-/
import Mathlib.Tactic

namespace Data

/-- A pattern over characters. -/
inductive Pattern (α : Type) where
  | empty
  | one (p : α → Bool)
  | seq (a b : Pattern α)
  | alt (a b : Pattern α)
  | star (a : Pattern α)
  | capture (a : Pattern α)
  | between (test : Option α → Option α → Bool)

namespace Pattern

variable {α : Type}

/-- A position in a text: the characters in front of it, the last one first, and the rest. -/
structure Cursor (α : Type) where
  before : List α
  after : List α

/-- The captured texts, in the order of the groups. -/
abbrev Captures (α : Type) : Type := List (List α)

/-- Greedy repetition of a step; every round has to take a character. -/
def iterate (step : Cursor α → List (Cursor α × Captures α)) :
    ℕ → Cursor α → List (Cursor α × Captures α)
  | 0, x => [(x, [])]
  | n + 1, x =>
      ((step x).flatMap fun y =>
        if y.1.after.length < x.after.length then
          (iterate step n y.1).map fun z => (z.1, y.2 ++ z.2)
        else []) ++ [(x, [])]

/-- The ways to match at a position. -/
def run : Pattern α → Cursor α → List (Cursor α × Captures α)
  | .empty, x => [(x, [])]
  | .one p, x =>
      match x.after with
      | [] => []
      | c :: s => if p c then [(⟨c :: x.before, s⟩, [])] else []
  | .seq a b, x => (a.run x).flatMap fun y => (b.run y.1).map fun z => (z.1, y.2 ++ z.2)
  | .alt a b, x => a.run x ++ b.run x
  | .star a, x => iterate a.run x.after.length x
  | .capture a, x =>
      (a.run x).map fun y => (y.1, x.after.take (x.after.length - y.1.after.length) :: y.2)
  | .between test, x => if test x.before.head? x.after.head? then [(x, [])] else []

/-- The first match from a position on: where it ends, and its captures. -/
def searchFrom (a : Pattern α) (before : List α) : List α → Option (Cursor α × Captures α)
  | [] => (a.run ⟨before, []⟩).head?
  | c :: s => (a.run ⟨before, c :: s⟩).head?.or (searchFrom a (c :: before) s)

/-- The captures of the first match of a text. -/
def search (a : Pattern α) (s : List α) : Option (Captures α) := (a.searchFrom [] s).map Prod.snd

/-- Whether a text has a match. -/
def isMatch (a : Pattern α) (s : List α) : Bool := (a.search s).isSome

/-- The captures of the matches of a text, each behind the one before it. -/
def searchAllFrom (a : Pattern α) : ℕ → List α → List α → List (Captures α)
  | 0, _, _ => []
  | n + 1, before, s =>
      match a.searchFrom before s with
      | none => []
      | some (x, caps) => caps :: searchAllFrom a n x.before x.after

/-- The captures of all matches of a text. -/
def searchAll (a : Pattern α) (s : List α) : List (Captures α) :=
  a.searchAllFrom (s.length + 1) [] s

/-! ### Patterns in terms of others -/

/-- The characters of a text. -/
def literal (eq : α → α → Bool) : List α → Pattern α
  | [] => .empty
  | c :: s => .seq (.one (eq c)) (literal eq s)

/-- One repetition or more. -/
def plus (a : Pattern α) : Pattern α := .seq a (.star a)

/-- One repetition or none. -/
def opt (a : Pattern α) : Pattern α := .alt a .empty

/-- The first of some alternatives. -/
def anyOf : List (Pattern α) → Pattern α
  | [] => .between fun _ _ => false
  | [a] => a
  | a :: as => .alt a (anyOf as)

/-- Only at the start of a text. -/
def atStart : Pattern α := .between fun before _ => before.isNone

/-! ### What a match consists of -/

/-- The text of a match and its captures. -/
inductive Matches : Pattern α → List α → Captures α → Prop
  | empty : Matches .empty [] []
  | one {p c} (h : p c = true) : Matches (.one p) [c] []
  | seq {a b u v cs ds} (hu : Matches a u cs) (hv : Matches b v ds) :
      Matches (.seq a b) (u ++ v) (cs ++ ds)
  | left {a b u cs} (h : Matches a u cs) : Matches (.alt a b) u cs
  | right {a b u cs} (h : Matches b u cs) : Matches (.alt a b) u cs
  | stop {a} : Matches (.star a) [] []
  | again {a u v cs ds} (hu : Matches a u cs) (hv : Matches (.star a) v ds) :
      Matches (.star a) (u ++ v) (cs ++ ds)
  | capture {a u cs} (h : Matches a u cs) : Matches (.capture a) u (u :: cs)
  | between {test} : Matches (.between test) [] []

section Inversion

variable {a b : Pattern α} {w : List α} {caps : Captures α} {p : α → Bool}

lemma matches_seq (h : (Pattern.seq a b).Matches w caps) : ∃ u v cs ds, w = u ++ v ∧
    caps = cs ++ ds ∧ a.Matches u cs ∧ b.Matches v ds := by
  cases h with
  | seq hu hv => exact ⟨_, _, _, _, rfl, rfl, hu, hv⟩

lemma matches_one (h : (Pattern.one p).Matches w caps) :
    ∃ c, p c = true ∧ w = [c] ∧ caps = [] := by
  cases h with
  | one h => exact ⟨_, h, rfl, rfl⟩

lemma matches_alt (h : (Pattern.alt a b).Matches w caps) :
    a.Matches w caps ∨ b.Matches w caps := by
  cases h with
  | left h => exact .inl h
  | right h => exact .inr h

lemma matches_capture (h : (Pattern.capture a).Matches w caps) :
    ∃ cs, caps = w :: cs ∧ a.Matches w cs := by
  cases h with
  | capture h => exact ⟨_, rfl, h⟩

/-- A pattern without groups. -/
def plain : Pattern α → Bool
  | .seq a b | .alt a b => a.plain && b.plain
  | .star a => a.plain
  | .capture _ => false
  | _ => true

/-- A pattern without groups captures nothing. -/
lemma captures_of_plain (hplain : a.plain = true) (h : a.Matches w caps) : caps = [] := by
  induction h with
  | seq _ _ ihu ihv =>
      obtain ⟨ha, hb⟩ := Bool.and_eq_true_iff.mp hplain
      rw [ihu ha, ihv hb, List.nil_append]
  | left _ ih => exact ih (Bool.and_eq_true_iff.mp hplain).1
  | right _ ih => exact ih (Bool.and_eq_true_iff.mp hplain).2
  | again _ _ ihu ihv => rw [ihu hplain, ihv hplain, List.nil_append]
  | capture _ _ => exact absurd hplain (by simp [plain])
  | _ => rfl

lemma plain_literal (eq : α → α → Bool) (s : List α) : (literal eq s).plain = true := by
  induction s with
  | nil => rfl
  | cons c s ih => exact ih

lemma matches_literal {eq : α → α → Bool} {s : List α} (h : (literal eq s).Matches w caps) :
    List.Forall₂ (fun c d => eq c d = true) s w := by
  induction s generalizing w caps with
  | nil =>
      cases h with
      | empty => exact .nil
  | cons c s ih =>
      obtain ⟨u, v, cs, ds, rfl, -, hu, hv⟩ := matches_seq h
      obtain ⟨d, hd, rfl, -⟩ := matches_one hu
      exact .cons hd (ih hv)

end Inversion

/-- A match takes its text from the position on. -/
def Takes (a : Pattern α) (x : Cursor α) (y : Cursor α × Captures α) : Prop :=
  ∃ u, x.after = u ++ y.1.after ∧ a.Matches u y.2

lemma takes_iterate {a : Pattern α} (ha : ∀ x, ∀ y ∈ a.run x, a.Takes x y) (n : ℕ)
    (x : Cursor α) : ∀ y ∈ iterate a.run n x, (Pattern.star a).Takes x y := by
  induction n generalizing x with
  | zero =>
      intro y hy
      obtain rfl := List.mem_singleton.mp hy
      exact ⟨[], rfl, .stop⟩
  | succ n ih =>
      intro y hy
      rcases List.mem_append.mp hy with hy | hy
      · obtain ⟨z, hz, hy⟩ := List.mem_flatMap.mp hy
        split_ifs at hy
        · obtain ⟨t, ht, rfl⟩ := List.mem_map.mp hy
          obtain ⟨u, hu, hmu⟩ := ha x z hz
          obtain ⟨v, hv, hmv⟩ := ih z.1 t ht
          exact ⟨u ++ v, by rw [hu, hv, List.append_assoc], .again hmu hmv⟩
        · exact absurd hy List.not_mem_nil
      · obtain rfl := List.mem_singleton.mp hy
        exact ⟨[], rfl, .stop⟩

/-- Every way to match is a match. -/
lemma takes_of_mem_run (a : Pattern α) (x : Cursor α) : ∀ y ∈ a.run x, a.Takes x y := by
  induction a generalizing x with
  | empty =>
      intro y hy
      obtain rfl := List.mem_singleton.mp hy
      exact ⟨[], rfl, .empty⟩
  | one p =>
      intro y hy
      rw [run] at hy
      cases hx : x.after with
      | nil => simp [hx] at hy
      | cons c s =>
          simp only [hx] at hy
          split_ifs at hy with hc
          · obtain rfl := List.mem_singleton.mp hy
            exact ⟨[c], hx, .one hc⟩
          · exact absurd hy List.not_mem_nil
  | seq a b iha ihb =>
      intro y hy
      obtain ⟨z, hz, hy⟩ := List.mem_flatMap.mp hy
      obtain ⟨t, ht, rfl⟩ := List.mem_map.mp hy
      obtain ⟨u, hu, hmu⟩ := iha x z hz
      obtain ⟨v, hv, hmv⟩ := ihb z.1 t ht
      exact ⟨u ++ v, by rw [hu, hv, List.append_assoc], .seq hmu hmv⟩
  | alt a b iha ihb =>
      intro y hy
      rcases List.mem_append.mp hy with hy | hy
      · obtain ⟨u, hu, hm⟩ := iha x y hy
        exact ⟨u, hu, .left hm⟩
      · obtain ⟨u, hu, hm⟩ := ihb x y hy
        exact ⟨u, hu, .right hm⟩
  | star a ih => exact takes_iterate ih _ x
  | capture a ih =>
      intro y hy
      obtain ⟨z, hz, rfl⟩ := List.mem_map.mp hy
      obtain ⟨u, hu, hm⟩ := ih x z hz
      refine ⟨u, hu, ?_⟩
      have htake : x.after.take (x.after.length - z.1.after.length) = u := by
        rw [hu, List.length_append, Nat.add_sub_cancel]
        exact List.take_left
      rw [htake]
      exact .capture hm
  | between test =>
      intro y hy
      rw [run] at hy
      split_ifs at hy
      · obtain rfl := List.mem_singleton.mp hy
        exact ⟨[], rfl, .between⟩
      · exact absurd hy List.not_mem_nil

lemma matches_of_searchFrom {a : Pattern α} {before s : List α} {y : Cursor α × Captures α}
    (h : a.searchFrom before s = some y) : ∃ u, a.Matches u y.2 := by
  induction s generalizing before with
  | nil =>
      obtain ⟨u, -, hm⟩ := takes_of_mem_run a _ y (List.mem_of_mem_head? h)
      exact ⟨u, hm⟩
  | cons c s ih =>
      rcases Option.or_eq_some_iff.mp h with h | ⟨-, h⟩
      · obtain ⟨u, -, hm⟩ := takes_of_mem_run a _ y (List.mem_of_mem_head? h)
        exact ⟨u, hm⟩
      · exact ih h

/-- What is found in a text matches. -/
theorem matches_of_search {a : Pattern α} {s : List α} {caps : Captures α}
    (h : a.search s = some caps) : ∃ u, a.Matches u caps := by
  obtain ⟨y, hy, rfl⟩ := Option.map_eq_some_iff.mp h
  exact matches_of_searchFrom hy

/-- All that is found in a text matches. -/
theorem matches_of_mem_searchAll {a : Pattern α} {s : List α} {caps : Captures α}
    (h : caps ∈ a.searchAll s) : ∃ u, a.Matches u caps := by
  rw [searchAll] at h
  generalize s.length + 1 = n at h
  generalize ([] : List α) = before at h
  induction n generalizing before s with
  | zero => exact absurd h List.not_mem_nil
  | succ n ih =>
      rw [searchAllFrom] at h
      cases hfound : a.searchFrom before s with
      | none => simp [hfound] at h
      | some y =>
          simp only [hfound] at h
          rcases List.mem_cons.mp h with rfl | h
          · exact matches_of_searchFrom hfound
          · exact ih _ h

end Pattern

end Data
