/-
What a process issues before it gets somewhere.

* `Proc.Until P Q`: whatever the others do, the process issues a statement of `Q` before it
  ends, and only statements of `P` before that one;
* the rules for a statement, for a loop of statements and for what follows them.
-/
import Networker.Concurrency.Process

namespace Concurrency

namespace Proc

variable {ι ε σ α β γ : Type} {P P' Q : ι → Prop}

/-- Every path of the process issues a statement of `Q`, and statements of `P` before. -/
def Until (P Q : ι → Prop) : Proc ι ε σ α → Prop
  | .ret _ => False
  | .raise _ => False
  | .act l k => Q l ∨ (P l ∧ ∀ s, Until P Q (k s))

@[simp] lemma until_issue_bind (l : ι) (g : σ → α) (f : α → Proc ι ε σ β) :
    Until P Q (issue l g >>= f) ↔ Q l ∨ (P l ∧ ∀ s, Until P Q (f (g s))) := Iff.rfl

/-- A loop of single statements on the way. -/
lemma until_each_bind {l : β → ι} {f : Unit → Proc ι ε σ γ} {bs : List β} (hl : ∀ b ∈ bs, P (l b))
    (hf : Until P Q (f ())) :
    Until P Q (Proc.each (fun b => (issue (l b) fun _ => () : Proc ι ε σ Unit)) bs >>= f) := by
  induction bs with
  | nil => exact hf
  | cons b bs ih =>
      refine Or.inr ⟨hl b List.mem_cons_self, fun s => ?_⟩
      exact ih fun c hc => hl c (List.mem_cons_of_mem b hc)

end Proc

end Concurrency
