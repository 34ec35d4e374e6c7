/-
Walks along a partial function.

* `Walk next a l`: `l` is what `next` gives from `a` on, value after value, and no value is in it
  twice;
* `lastOf a l`: where such a walk stands;
* `Walk.snoc`: one more value; `Walk.sources_nodup`: the values the walk stepped from differ, also
  when it comes back to where it started;
* `Walk.length_le`: it is no longer than any list of the values it may step from;
* `Walk.mem_of_full`: once it is that long, whatever comes next is in it.
-/
import Mathlib.Data.List.Chain
import Mathlib.Data.List.Induction
import Mathlib.Data.List.Nodup
import Mathlib.Data.List.Perm.Subperm
import Mathlib.Tactic.Common

namespace Data

variable {α : Type*} {next : α → Option α} {a b : α} {l s : List α}

/-- The values that `next` gives from `a` on, none of them twice. -/
structure Walk (next : α → Option α) (a : α) (l : List α) : Prop where
  steps : List.IsChain (fun b c => next b = some c) (a :: l)
  nodup : l.Nodup

/-- The last value of a walk, or where it started. -/
def lastOf (a : α) (l : List α) : α := l.getLast?.getD a

lemma lastOf_nil : lastOf a [] = a := rfl

lemma lastOf_concat : lastOf a (l ++ [b]) = b := by
  rw [lastOf, List.getLast?_concat, Option.getD_some]

/-- What the values of a walk are stepped to from. -/
def sourcesOf (a : α) (l : List α) : List α := (a :: l).dropLast

lemma sourcesOf_concat : sourcesOf a (l ++ [b]) = a :: l := by
  rw [sourcesOf, ← List.cons_append, List.dropLast_concat]

lemma length_sourcesOf : (sourcesOf a l).length = l.length := by
  rw [sourcesOf, List.length_dropLast, List.length_cons, Nat.add_sub_cancel]

lemma walk_nil : Walk next a [] := ⟨List.isChain_singleton a, List.nodup_nil⟩

/-- One more value. -/
lemma Walk.snoc (h : Walk next a l) (hb : next (lastOf a l) = some b) (hnew : b ∉ l) :
    Walk next a (l ++ [b]) := by
  refine ⟨?_, ?_⟩
  · rw [← List.cons_append]
    refine List.isChain_append.mpr ⟨h.steps, List.isChain_singleton b, ?_⟩
    intro x hx y hy
    obtain rfl : b = y := by simpa using hy
    have hlast : lastOf a l = x := by
      rw [List.getLast?_cons, Option.mem_some_iff] at hx
      exact hx
    rw [← hlast]
    exact hb
  · exact List.nodup_append.mpr ⟨h.nodup, List.nodup_singleton b, fun x hx y hy => by
      obtain rfl := List.mem_singleton.mp hy
      exact fun hxy => hnew (hxy ▸ hx)⟩

/-- A walk less its last value. -/
lemma Walk.init (h : Walk next a (l ++ [b])) : Walk next a l := by
  refine ⟨?_, (List.nodup_append.mp h.nodup).1⟩
  have hsteps := h.steps
  rw [← List.cons_append] at hsteps
  exact (List.isChain_append.mp hsteps).1

lemma Walk.next_last (h : Walk next a (l ++ [b])) : next (lastOf a l) = some b := by
  have hsteps := h.steps
  rw [← List.cons_append] at hsteps
  have hjoin := (List.isChain_append.mp hsteps).2.2
  refine hjoin (lastOf a l) ?_ b rfl
  rw [List.getLast?_cons, Option.mem_some_iff]
  rfl

/-- A value the walk steps from leads into the walk. -/
lemma Walk.next_source (h : Walk next a l) (hb : b ∈ sourcesOf a l) : ∃ c ∈ l, next b = some c := by
  induction l using List.reverseRecOn with
  | nil => exact absurd hb (List.not_mem_nil)
  | append_singleton l c ih =>
      rw [sourcesOf_concat] at hb
      rcases List.eq_nil_or_concat' l with rfl | ⟨m, d, rfl⟩
      · obtain rfl := List.mem_singleton.mp hb
        exact ⟨c, List.mem_append_right _ (List.mem_singleton_self c), h.next_last⟩
      · rw [← List.cons_append, List.mem_append, List.mem_singleton] at hb
        rcases hb with hb | rfl
        · rw [← sourcesOf_concat (b := d)] at hb
          obtain ⟨e, he, hnext⟩ := ih h.init hb
          exact ⟨e, List.mem_append_left _ he, hnext⟩
        · have hlast := h.next_last
          rw [lastOf_concat] at hlast
          exact ⟨c, List.mem_append_right _ (List.mem_singleton_self c), hlast⟩

/-- The values a walk stepped from are all different: from the start the function gives the first
value of the walk, which comes again after no later one. -/
lemma Walk.sources_nodup (h : Walk next a l) : (sourcesOf a l).Nodup := by
  induction l using List.reverseRecOn with
  | nil => exact List.nodup_nil
  | append_singleton l c ih =>
      rw [sourcesOf_concat]
      rcases List.eq_nil_or_concat' l with rfl | ⟨m, d, rfl⟩
      · exact List.nodup_singleton a
      · have hsources := ih h.init
        rw [sourcesOf_concat] at hsources
        have hlast := h.next_last
        rw [lastOf_concat] at hlast
        rw [← List.cons_append]
        refine List.nodup_append.mpr ⟨hsources, List.nodup_singleton d, ?_⟩
        intro x hx y hy hxy
        obtain rfl := List.mem_singleton.mp hy
        subst hxy
        rw [← sourcesOf_concat (b := x)] at hx
        obtain ⟨e, he, hnext⟩ := h.init.next_source hx
        rw [hlast, Option.some_inj] at hnext
        subst hnext
        exact (List.nodup_append.mp h.nodup).2.2 c he c (List.mem_singleton_self c) rfl

/-- A walk is no longer than a list of the values the function is defined at. -/
lemma Walk.length_le (h : Walk next a l) (hs : ∀ b c, next b = some c → b ∈ s) :
    l.length ≤ s.length := by
  rw [← length_sourcesOf (a := a)]
  refine (List.subperm_of_subset h.sources_nodup fun b hb => ?_).length_le
  obtain ⟨c, -, hnext⟩ := h.next_source hb
  exact hs b c hnext

/-- A walk as long as the list of the values the function is defined at goes nowhere new: its last
value, if the function is defined there, is the one it started from. -/
lemma Walk.mem_of_full (h : Walk next a l) (hs : ∀ b c, next b = some c → b ∈ s)
    (hfull : s.length ≤ l.length) (hb : next (lastOf a l) = some b) : b ∈ l := by
  have hsub : (sourcesOf a l).Subperm s :=
    List.subperm_of_subset h.sources_nodup fun c hc => by
      obtain ⟨d, -, hnext⟩ := h.next_source hc
      exact hs c d hnext
  have hperm : (sourcesOf a l).Perm s := by
    refine hsub.perm_of_length_le ?_
    rw [length_sourcesOf]
    exact hfull
  obtain ⟨c, hc, hnext⟩ := h.next_source (hperm.mem_iff.mpr (hs _ _ hb))
  rw [hb, Option.some_inj] at hnext
  exact hnext ▸ hc

end Data
