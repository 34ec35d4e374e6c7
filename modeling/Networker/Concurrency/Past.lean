/-
Past conditions of a run.

What a component has read may have changed by the time it acts on it.  These conditions say
what held in an earlier state of a run, and since when something has held.

* `Machine.Once`: a condition of some part of a run that starts where the run starts;
* `Machine.Since`: a condition that has held in every state since a step of a kind;
* `Machine.since_of_entered`: what holds has held since a step that made it hold;
* `Machine.once_of_recorded`: what the state records was so when it was recorded.
-/
import Networker.Concurrency.Machine

namespace Concurrency

namespace Machine

variable {ι σ δ : Type} {M : Machine ι σ} {s : σ}

lemma run_concat (ls : List ι) (l : ι) : M.run s (ls ++ [l]) = M.next l (M.run s ls) := by
  rw [run_append, run_cons, run_nil]

/-! ### What was once so -/

/-- The condition held of some beginning of the run. -/
def Once (P : List ι → Prop) (ls : List ι) : Prop := ∃ pre, pre <+: ls ∧ P pre

lemma Once.now {P : List ι → Prop} {ls : List ι} (h : P ls) : Once P ls :=
  ⟨ls, List.prefix_rfl, h⟩

lemma Once.trans {P : List ι → Prop} {ls ks : List ι} (h : Once P ls) (hls : ls <+: ks) :
    Once P ks := by
  obtain ⟨pre, hpre, hP⟩ := h
  exact ⟨pre, hpre.trans hls, hP⟩

lemma Once.concat {P : List ι → Prop} {ls : List ι} (h : Once P ls) (l : ι) :
    Once P (ls ++ [l]) :=
  h.trans (List.prefix_append ls [l])

lemma Once.mono {P Q : List ι → Prop} {ls : List ι} (h : Once P ls) (hPQ : ∀ pre, P pre → Q pre) :
    Once Q ls := by
  obtain ⟨pre, hpre, hP⟩ := h
  exact ⟨pre, hpre, hPQ pre hP⟩

/-- What the state records was so in the state in which it was recorded. -/
theorem once_of_recorded {records : σ → δ → Prop} {R : δ → σ → Prop}
    (h0 : ∀ d, ¬ records s d)
    (step : ∀ l st d, M.moves l st = true → records (M.exec l st) d → records st d ∨ R d st)
    (ls : List ι) (d : δ) (hd : records (M.run s ls) d) :
    Once (fun pre => R d (M.run s pre)) ls := by
  induction ls using List.reverseRecOn generalizing d with
  | nil => exact absurd hd (h0 d)
  | append_singleton ls l ih =>
      rw [run_concat, next] at hd
      split_ifs at hd with hl
      · rcases step l _ d hl hd with hd | hR
        · exact (ih d hd).concat l
        · exact (Once.now hR).concat l
      · exact (ih d hd).concat l

/-! ### Since when something is so -/

variable (M s) in
/-- `P` has held in every state since a step of the kind `Q`. -/
def Since (P : σ → Prop) (Q : ι → σ → Prop) (ls : List ι) : Prop :=
  ∃ pre l, pre ++ [l] <+: ls ∧ M.moves l (M.run s pre) = true ∧ Q l (M.run s pre) ∧
    ∀ mid, pre ++ [l] <+: mid → mid <+: ls → P (M.run s mid)

/-- The condition holds right behind its step. -/
lemma Since.of_step {P : σ → Prop} {Q : ι → σ → Prop} {ls : List ι} {l : ι}
    (hl : M.moves l (M.run s ls) = true) (hQ : Q l (M.run s ls)) (hP : P (M.run s (ls ++ [l]))) :
    M.Since s P Q (ls ++ [l]) := by
  refine ⟨ls, l, List.prefix_rfl, hl, hQ, fun mid hpre hmid => ?_⟩
  rw [hmid.eq_of_length_le hpre.length_le]
  exact hP

/-- A condition that has held since a step and still holds. -/
lemma Since.concat {P : σ → Prop} {Q : ι → σ → Prop} {ls : List ι} (h : M.Since s P Q ls) {l : ι}
    (hP : P (M.run s (ls ++ [l]))) : M.Since s P Q (ls ++ [l]) := by
  obtain ⟨pre, k, hpre, hk, hQ, hall⟩ := h
  refine ⟨pre, k, hpre.trans (List.prefix_append ls [l]), hk, hQ, fun mid hmid hle => ?_⟩
  rcases List.prefix_concat_iff.mp hle with rfl | hle
  · exact hP
  · exact hall mid hmid hle

/-- What holds at the end of a run has held since a step that made it hold. -/
theorem since_of_entered {P : σ → Prop} {Q : ι → σ → Prop} (h0 : ¬ P s)
    (step : ∀ l st, M.moves l st = true → P (M.exec l st) → P st ∨ Q l st) (ls : List ι)
    (hP : P (M.run s ls)) : M.Since s P Q ls := by
  induction ls using List.reverseRecOn with
  | nil => exact absurd hP h0
  | append_singleton ls l ih =>
      by_cases hl : M.moves l (M.run s ls) = true
      · have hexec : P (M.exec l (M.run s ls)) := by rwa [run_concat, next, if_pos hl] at hP
        rcases step l _ hl hexec with hbefore | hQ
        · exact (ih hbefore).concat hP
        · exact .of_step hl hQ hP
      · have hbefore : P (M.run s ls) := by rwa [run_concat, next, if_neg hl] at hP
        exact (ih hbefore).concat hP

end Machine

end Concurrency
