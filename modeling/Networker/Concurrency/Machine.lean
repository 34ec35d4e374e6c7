/-
Machines: systems in which every step is a move of the environment.

Where a component is a set of handlers whose control points are part of the state,
a schedule is a list of steps.  A machine is a `System` without tasks, so that its
runs and the conditions along them are those of the system.

* `Machine`, `Machine.of`: a machine from its steps and when each is possible;
* `Machine.next`, `Machine.run`: one step and a list of steps; a step that is not
  possible leaves the state as it is;
* `Machine.Along`: a condition on every step taken;
* `Machine.run_inv`, `Machine.run_inv_mem`: the invariant rule of the system, read off the
  states, and the rule for runs whose steps are of a kind.
-/
import Networker.Concurrency.Interleave

namespace Concurrency

/-- A system without tasks. -/
abbrev Machine (ι σ : Type) : Type := System ι Empty σ Empty

namespace Machine

variable {ι σ : Type}

/-- The machine with the given steps, each possible where `can` says so. -/
def of (exec : ι → σ → σ) (can : ι → σ → Bool) : Machine ι σ where
  exec := exec
  code := Empty.elim
  entry := Empty.elim
  admits _ t _ := t.elim
  moves := can

variable (M : Machine ι σ)

/-- The state after one step. -/
def next (l : ι) (s : σ) : σ := if M.moves l s then M.exec l s else s

/-- The state after a list of steps. -/
def run (s : σ) (ls : List ι) : σ := (M.after (.fresh s) (ls.map .env)).state

/-- A condition on every step taken and the state it is taken in. -/
def Along (ok : ι → σ → Prop) (s : σ) (ls : List ι) : Prop :=
  System.Along M (System.Meets M ok) (.fresh s) (ls.map .env)

instance {ok : ι → σ → Prop} [∀ l s, Decidable (ok l s)] (s : σ) (ls : List ι) :
    Decidable (M.Along ok s ls) :=
  inferInstanceAs (Decidable (System.Along M _ _ _))

variable {M}

/-- A step of the machine is a move of the environment of its system. -/
lemma next_fresh (l : ι) (s : σ) :
    System.next M (.fresh s) (.env l) = System.Config.fresh (M.next l s) := by
  by_cases h : M.moves l s = true
  · have h' : M.moves l (System.Config.fresh s : System.Config ι Empty σ Empty).state = true := h
    simp only [System.next, next, if_pos h, if_pos h']
    rfl
  · have h' : ¬ M.moves l (System.Config.fresh s : System.Config ι Empty σ Empty).state = true := h
    simp only [System.next, next, if_neg h, if_neg h']

@[simp] lemma run_nil (s : σ) : M.run s [] = s := rfl

@[simp] lemma run_cons (s : σ) (l : ι) (ls : List ι) :
    M.run s (l :: ls) = M.run (M.next l s) ls := by
  rw [run, List.map_cons, System.after_cons, next_fresh]
  rfl

lemma run_append (s : σ) (ls ks : List ι) : M.run s (ls ++ ks) = M.run (M.run s ls) ks := by
  induction ls generalizing s with
  | nil => rfl
  | cons l ls ih => rw [List.cons_append, run_cons, run_cons, ih]

lemma after_fresh (s : σ) (ls : List ι) :
    System.after M (.fresh s) (ls.map .env) = .fresh (M.run s ls) := by
  induction ls generalizing s with
  | nil => rfl
  | cons l ls ih => rw [List.map_cons, System.after_cons, next_fresh, ih, run_cons]

/-- A condition along a run and at the step behind it. -/
lemma along_concat {ok : ι → σ → Prop} {s : σ} {ls : List ι} {l : ι} :
    M.Along ok s (ls ++ [l]) ↔
      M.Along ok s ls ∧ (M.moves l (M.run s ls) = true → ok l (M.run s ls)) := by
  rw [Along, List.map_append, System.along_append, after_fresh, List.map_singleton]
  simp only [System.Along, and_true, Along, System.Meets, System.label, System.Config.fresh]
  split_ifs with hcan <;> simp [hcan]

/-- What every admissible step preserves holds after every run of admissible steps. -/
theorem run_inv {ok : ι → σ → Prop} {I : σ → Prop} {s : σ}
    (keep : ∀ l s, M.moves l s = true → I s → ok l s → I (M.exec l s)) (h0 : I s) :
    ∀ ls, M.Along ok s ls → I (M.run s ls) := by
  intro ls
  induction ls generalizing s with
  | nil => exact fun _ => h0
  | cons l ls ih =>
      rintro ⟨hl, hls⟩
      rw [next_fresh] at hls
      rw [run_cons]
      refine ih ?_ hls
      by_cases hcan : M.moves l s = true
      · have hok : ok l s := hl l (by simp [System.label, System.Config.fresh, hcan])
        rw [next, if_pos hcan]
        exact keep l s hcan h0 hok
      · rw [next, if_neg hcan]
        exact h0

/-- What every admissible step does under an invariant is done by every step of a run. -/
theorem along_of_inv {ok Q : ι → σ → Prop} {I : σ → Prop} {s : σ}
    (keep : ∀ l s, M.moves l s = true → I s → ok l s → I (M.exec l s))
    (step : ∀ l s, M.moves l s = true → I s → ok l s → Q l s) (h0 : I s) :
    ∀ ls, M.Along ok s ls → M.Along Q s ls := by
  intro ls
  induction ls generalizing s with
  | nil => exact fun _ => trivial
  | cons l ls ih =>
      rintro ⟨hl, hls⟩
      rw [next_fresh] at hls
      by_cases hcan : M.moves l s = true
      · have hok : ok l s := hl l (by simp [System.label, System.Config.fresh, hcan])
        rw [next, if_pos hcan] at hls
        refine ⟨fun l' hl' => ?_, ?_⟩
        · simp only [System.label, System.Config.fresh, hcan, if_true, Option.mem_def,
            Option.some.injEq] at hl'
          exact hl' ▸ step l s hcan h0 hok
        · rw [next_fresh, next, if_pos hcan]
          exact ih (keep l s hcan h0 hok) hls
      · rw [next, if_neg hcan] at hls
        refine ⟨fun l' hl' => ?_, ?_⟩
        · exact absurd hl' (by simp [System.label, System.Config.fresh, hcan])
        · rw [next_fresh, next, if_neg hcan]
          exact ih h0 hls

/-- An invariant of every run. -/
theorem run_inv_all {I : σ → Prop} {s : σ}
    (keep : ∀ l s, M.moves l s = true → I s → I (M.exec l s)) (h0 : I s) (ls : List ι) :
    I (M.run s ls) := by
  have hall : M.Along (fun _ _ => True) s ls := System.along_iff.mpr fun _ _ _ _ _ _ => trivial
  exact run_inv (fun l s hcan hs _ => keep l s hcan hs) h0 ls hall

/-- An invariant of every run whose steps are of a kind. -/
theorem run_inv_mem {K : ι → Prop} {I : σ → Prop} {s : σ}
    (keep : ∀ l s, M.moves l s = true → I s → K l → I (M.exec l s)) (h0 : I s) :
    ∀ ls : List ι, (∀ l ∈ ls, K l) → I (M.run s ls) := by
  intro ls
  induction ls generalizing s with
  | nil => exact fun _ => h0
  | cons l ls ih =>
      intro hls
      rw [List.forall_mem_cons] at hls
      rw [run_cons]
      refine ih ?_ hls.2
      rw [next]
      split_ifs with hcan
      · exact keep l s hcan h0 hls.1
      · exact h0

end Machine

end Concurrency
