/-
Schedules with restarts in between, and how often they execute a statement.

* `System.tally`: the number of the statements of a kind that a schedule executes;
* `System.survive`, `System.AlongLives`, `System.tallyLives`: one schedule after another,
  each from a fresh start over what the restart leaves of the state;
* `System.tally_le_iff`, `System.tallyLives_le_iff`: a state that keeps count stays within
  a bound exactly when every counted statement finds room.
-/
import Networker.Concurrency.Interleave

namespace Concurrency

namespace System

variable {ι ε σ τ : Type} (S : System ι ε σ τ) (hit : ι → σ → Bool)

/-- How many statements of a kind a schedule executes. -/
def tally (c : Config ι ε σ τ) : List (Action ι τ) → ℕ
  | [] => 0
  | a :: as => ((S.label c a).elim 0 fun l => (hit l c.state).toNat) + tally (S.next c a) as

section Lives

variable (restart : σ → σ)

/-- The configuration a life starts in. -/
def reborn (s : σ) : Config ι ε σ τ := .fresh (restart s)

/-- The state behind a list of lives. -/
def survive (s : σ) : List (List (Action ι τ)) → σ
  | [] => s
  | as :: lives => survive (S.after (reborn restart s) as).state lives

/-- A condition on every decision of every life. -/
def AlongLives (P : Config ι ε σ τ → Action ι τ → Prop) (s : σ) :
    List (List (Action ι τ)) → Prop
  | [] => True
  | as :: lives => S.Along P (reborn restart s) as ∧
      AlongLives P (S.after (reborn restart s) as).state lives

/-- How many statements of a kind are executed in all lives. -/
def tallyLives (s : σ) : List (List (Action ι τ)) → ℕ
  | [] => 0
  | as :: lives => S.tally hit (reborn restart s) as +
      tallyLives (S.after (reborn restart s) as).state lives

instance decidableAlongLives {P : Config ι ε σ τ → Action ι τ → Prop}
    [∀ c a, Decidable (P c a)] : ∀ s lives, Decidable (S.AlongLives restart P s lives)
  | _, [] => isTrue trivial
  | s, as :: lives =>
      have := decidableAlongLives (P := P) (S.after (reborn restart s) as).state lives
      inferInstanceAs (Decidable (_ ∧ _))

end Lives

variable {S hit} {restart : σ → σ} {ok : ι → σ → Prop} {I : ℕ → σ → Prop} {room : σ → Prop}
  {bound : ℕ}

/-- An invariant with the number of counted statements in it. -/
theorem after_tally (keep : ∀ l n s, I n s → ok l s → I (n + (hit l s).toNat) (S.exec l s))
    {c : Config ι ε σ τ} {n : ℕ} (h0 : I n c.state) :
    ∀ as, S.Along (S.Meets ok) c as → I (n + S.tally hit c as) (S.after c as).state := by
  intro as
  induction as generalizing c n with
  | nil => exact fun _ => h0
  | cons a as ih =>
      rintro ⟨ha, has⟩
      rw [tally, ← Nat.add_assoc]
      refine ih ?_ has
      rw [S.state_next]
      cases hl : S.label c a with
      | none => exact h0
      | some l => exact keep l n c.state h0 (ha l (by simp [hl]))

/-- **Counting within a bound.**  When the state tells how often a statement has been
executed, the number stays within the bound exactly when there is room at each time. -/
theorem tally_le_iff (keep : ∀ l n s, I n s → ok l s → I (n + (hit l s).toNat) (S.exec l s))
    (full : ∀ l n s, I n s → hit l s = true → (room s ↔ n < bound)) {c : Config ι ε σ τ} {n : ℕ}
    (h0 : I n c.state) (hn : n ≤ bound) : ∀ as, S.Along (S.Meets ok) c as →
      (n + S.tally hit c as ≤ bound ↔
        S.Along (S.Meets fun l s => hit l s = true → room s) c as) := by
  intro as
  induction as generalizing c n with
  | nil => exact fun _ => iff_of_true hn trivial
  | cons a as ih =>
      rintro ⟨ha, has⟩
      have hstate := S.state_next c a
      rw [tally, Along]
      cases hl : S.label c a with
      | none =>
          rw [hl] at hstate
          have hmeets : S.Meets (fun l s => hit l s = true → room s) c a := by
            intro l hlabel
            rw [hl] at hlabel
            exact absurd hlabel (by simp)
          rw [Option.elim_none, Nat.zero_add, ih (hstate ▸ h0) hn has]
          exact (and_iff_right hmeets).symm
      | some l =>
          have hlabel : l ∈ S.label c a := by simp [hl]
          have hnext : I (n + (hit l c.state).toNat) (S.next c a).state := by
            rw [hstate, hl]
            exact keep l n c.state h0 (ha l hlabel)
          have hmeets : S.Meets (fun l s => hit l s = true → room s) c a ↔
              (hit l c.state = true → room c.state) := by simp [Meets, hl]
          rw [Option.elim_some, hmeets, ← Nat.add_assoc]
          cases hhit : hit l c.state with
          | false =>
              rw [hhit] at hnext
              rw [ih hnext hn has]
              simp
          | true =>
              rw [hhit] at hnext
              have hfull := full l n c.state h0 hhit
              by_cases hlt : n < bound
              · rw [ih hnext hlt has]
                simp [hfull.mpr hlt]
              · have hroom : ¬ room c.state := fun h => hlt (hfull.mp h)
                rw [Bool.toNat_true]
                exact iff_of_false (by omega) fun h => hroom (h.1 rfl)

/-- The same over lives, when the count survives a restart. -/
theorem tallyLives_le_iff
    (keep : ∀ l n s, I n s → ok l s → I (n + (hit l s).toNat) (S.exec l s))
    (full : ∀ l n s, I n s → hit l s = true → (room s ↔ n < bound))
    (crash : ∀ n s, I n s → I n (restart s)) {s : σ} {n : ℕ} (h0 : I n s) (hn : n ≤ bound) :
    ∀ lives, S.AlongLives restart (S.Meets ok) s lives →
      (n + S.tallyLives hit restart s lives ≤ bound ↔
        S.AlongLives restart (S.Meets fun l s => hit l s = true → room s) s lives) := by
  intro lives
  induction lives generalizing s n with
  | nil => exact fun _ => iff_of_true hn trivial
  | cons as lives ih =>
      rintro ⟨has, hlives⟩
      have hstart : I n (reborn restart s : Config ι ε σ τ).state := crash n s h0
      have hlife := tally_le_iff keep full hstart hn as has
      have hafter := after_tally keep hstart as has
      rw [tallyLives, AlongLives, ← hlife, ← Nat.add_assoc]
      by_cases hle : n + S.tally hit (reborn restart s) as ≤ bound
      · rw [ih hafter hle hlives]
        exact (and_iff_right hle).symm
      · exact iff_of_false (by omega) fun h => hle h.1

/-- An invariant with the number of counted statements in it, over lives. -/
theorem survive_tally (keep : ∀ l n s, I n s → ok l s → I (n + (hit l s).toNat) (S.exec l s))
    (crash : ∀ n s, I n s → I n (restart s)) {s : σ} {n : ℕ} (h0 : I n s) :
    ∀ lives, S.AlongLives restart (S.Meets ok) s lives →
      I (n + S.tallyLives hit restart s lives) (S.survive restart s lives) := by
  intro lives
  induction lives generalizing s n with
  | nil => exact fun _ => h0
  | cons as lives ih =>
      rintro ⟨has, hlives⟩
      have hafter := after_tally keep (crash n s h0 : I n (reborn restart s :
        Config ι ε σ τ).state) as has
      rw [tallyLives, survive, ← Nat.add_assoc]
      exact ih hafter hlives

/-- What holds along every schedule from a fresh start holds along lives. -/
lemma alongLives_of_fresh {P : Config ι ε σ τ → Action ι τ → Prop}
    (h : ∀ s as, S.Along P (.fresh s) as) (s : σ) (lives : List (List (Action ι τ))) :
    S.AlongLives restart P s lives := by
  induction lives generalizing s with
  | nil => trivial
  | cons as lives ih => exact ⟨h (restart s) as, ih _⟩

end System

end Concurrency
