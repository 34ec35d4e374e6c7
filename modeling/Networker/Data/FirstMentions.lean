/-
The members of a list, each once, in the order in which they are mentioned first.

* `eraseDups_filter`, `nodup_eraseDups`, `eraseDups_of_nodup`: the operation `eraseDups`;
* `eraseDups_eq_singleton`: lists with one member;
* `eraseDups_append_eq_iff`: members may be named in front of a list without a difference
  exactly if the list names them first.
-/
import Mathlib.Tactic

namespace Data

section FirstMentions

variable {α : Type} [DecidableEq α] {l front back rest : List α} {a : α}

/-- Members may be dropped before or after the repetitions. -/
lemma eraseDups_filter (p : α → Bool) : (l.filter p).eraseDups = l.eraseDups.filter p := by
  induction hn : l.length using Nat.strong_induction_on generalizing l with
  | _ n ih =>
      cases l with
      | nil => rfl
      | cons a l =>
          have hlt : (l.filter fun b => !b == a).length < n := by
            rw [← hn, List.length_cons]
            exact Nat.lt_succ_of_le (List.length_filter_le _ _)
          have hrest := ih _ hlt rfl
          rw [List.eraseDups_cons, List.filter_cons]
          by_cases ha : p a = true
          · rw [if_pos ha, List.filter_cons_of_pos ha, List.eraseDups_cons, ← hrest,
              List.filter_comm]
          · rw [if_neg ha, List.filter_cons_of_neg ha, ← hrest, List.filter_filter]
            -- what is dropped already is not the first member
            congr 1
            refine List.filter_congr fun b _ => ?_
            by_cases hb : b = a
            · rw [hb]
              simpa using ha
            · simp [hb]

lemma nodup_eraseDups (l : List α) : l.eraseDups.Nodup := by
  induction hn : l.length using Nat.strong_induction_on generalizing l with
  | _ n ih =>
      cases l with
      | nil => exact List.nodup_nil
      | cons a l =>
          have hlt : (l.filter fun b => !b == a).length < n := by
            rw [← hn, List.length_cons]
            exact Nat.lt_succ_of_le (List.length_filter_le _ _)
          rw [List.eraseDups_cons, List.nodup_cons]
          exact ⟨by simp [List.mem_eraseDups], ih _ hlt _ rfl⟩

lemma eraseDups_of_nodup (h : l.Nodup) : l.eraseDups = l := by
  induction l with
  | nil => rfl
  | cons a l ih =>
      obtain ⟨ha, hl⟩ := List.nodup_cons.mp h
      have hfilter : (l.filter fun b => !b == a) = l := by
        rw [List.filter_eq_self]
        intro b hb
        have hne : b ≠ a := fun hba => ha (hba ▸ hb)
        simp [hne]
      rw [List.eraseDups_cons, hfilter, ih hl]

lemma eraseDups_eq_singleton : l.eraseDups = [a] ↔ l ≠ [] ∧ ∀ x ∈ l, x = a := by
  constructor
  · intro h
    refine ⟨by rintro rfl; simp at h, fun x hx => ?_⟩
    rw [← List.mem_eraseDups, h] at hx
    exact List.mem_singleton.mp hx
  · rintro ⟨hne, hall⟩
    obtain ⟨x, xs, rfl⟩ := List.exists_cons_of_ne_nil hne
    obtain rfl := hall x List.mem_cons_self
    have hfilter : (xs.filter fun y => !y == x) = [] := by
      rw [List.filter_eq_nil_iff]
      intro y hy
      simp [hall y (List.mem_cons_of_mem x hy)]
    rw [List.eraseDups_cons, hfilter, List.eraseDups_nil]

/-- What is removed is all that stands in front of the rest. -/
lemma removeAll_append_left (h : (front ++ back).Nodup) : (front ++ back).removeAll front = back := by
  obtain ⟨-, -, hdisjoint⟩ := List.nodup_append.mp h
  rw [List.removeAll, List.filter_append]
  have hfront : front.filter (fun x => !front.elem x) = [] := by
    rw [List.filter_eq_nil_iff]
    simp
  have hback : back.filter (fun x => !front.elem x) = back := by
    rw [List.filter_eq_self]
    intro b hb
    have hnot : b ∉ front := fun hf => hdisjoint b hf b hb rfl
    simpa using hnot
  rw [hfront, hback, List.nil_append]

/-- **Members may be named in front of a list without a difference exactly if the list names
them first.** -/
theorem eraseDups_append_eq_iff (hfront : front.Nodup)
    (hrest : rest.removeAll front = l.removeAll front) :
    (front ++ rest).eraseDups = l.eraseDups ↔ front <+: l.eraseDups := by
  have hremove : (l.removeAll front).eraseDups = l.eraseDups.removeAll front := by
    rw [List.removeAll, List.removeAll, eraseDups_filter]
  rw [List.eraseDups_append, eraseDups_of_nodup hfront, hrest, hremove]
  constructor
  · intro h
    exact ⟨_, h⟩
  · rintro ⟨back, hback⟩
    have hnodup : (front ++ back).Nodup := hback ▸ nodup_eraseDups l
    rw [← hback, removeAll_append_left hnodup]

end FirstMentions

end Data
