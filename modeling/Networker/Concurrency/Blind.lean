/-
Processes that do not see a change of the state.

A process is blind to a map of states when its statements commute with the map and
when it continues in the same way from a state and from its image.  It then takes the
same course from both, which is what a two-run property of a process comes down to.

* `Proc.Blind`: the judgement, with one rule for each way to build a process;
* `Blind.run`: the two runs return the same result, in states the map still relates.
-/
import Networker.Concurrency.Process

namespace Concurrency.Proc

variable {ι ε σ α β : Type} (exec : ι → σ → σ) (f : σ → σ)

/-- The process takes the same course from a state and from its image under `f`. -/
def Blind : Proc ι ε σ α → Prop
  | .ret _ => True
  | .raise _ => True
  | .act l k => (∀ s, exec l (f s) = f (exec l s)) ∧ ∀ s, k (f s) = k s ∧ Blind (k s)

variable {exec f}

/-- The results of the two runs agree and the map relates their final states. -/
lemma Blind.run {p : Proc ι ε σ α} (hp : p.Blind exec f) (s : σ) :
    Proc.run exec p (f s) = ((Proc.run exec p s).1, f (Proc.run exec p s).2) := by
  induction p generalizing s with
  | ret a => rfl
  | raise e => rfl
  | act l k ih =>
      obtain ⟨hexec, hk⟩ := hp
      rw [run_act, run_act, hexec, (hk s).1]
      exact ih s (hk s).2 (exec l s)

lemma Blind.bind {p : Proc ι ε σ α} {k : α → Proc ι ε σ β} (hp : p.Blind exec f)
    (hk : ∀ a, (k a).Blind exec f) : (p >>= k).Blind exec f := by
  induction p with
  | ret a => exact hk a
  | raise e => trivial
  | act l next ih =>
      refine ⟨hp.1, fun s => ⟨?_, ih s (hp.2 s).2⟩⟩
      simp only [(hp.2 s).1]

lemma blind_issue {l : ι} {g : σ → α} (hexec : ∀ s, exec l (f s) = f (exec l s))
    (hg : ∀ s, g (f s) = g s) : (issue l g : Proc ι ε σ α).Blind exec f :=
  ⟨hexec, fun s => ⟨congrArg Proc.ret (hg s), trivial⟩⟩

lemma Blind.count {b : β → Proc ι ε σ Bool} (xs : List β) (hb : ∀ x ∈ xs, (b x).Blind exec f) :
    (Proc.count b xs).Blind exec f := by
  induction xs with
  | nil => trivial
  | cons x xs ih =>
      refine (hb x (by simp)).bind fun r => ?_
      exact (ih fun y hy => hb y (by simp [hy])).bind fun _ => trivial

end Concurrency.Proc
