/-
Lists whose members have different keys.

* `Distinct`: no two members have the same key;
* `Once`: a member, and the only one under its key;
* `distinct_append`, `Distinct.concat`: when two such lists may be joined.
-/
import Mathlib.Data.List.Nodup
import Mathlib.Data.List.Count

namespace Data

variable {α κ : Type} {key : α → κ} {a : α} {k l : List α}

/-- No two members of the list have the same key. -/
def Distinct (key : α → κ) (l : List α) : Prop := (l.map key).Nodup

/-- The value is in the list, and no other one there has its key. -/
def Once [DecidableEq κ] (key : α → κ) (a : α) (l : List α) : Prop :=
  a ∈ l ∧ (l.map key).count (key a) = 1

instance decidableOnce [DecidableEq α] [DecidableEq κ] : Decidable (Once key a l) :=
  inferInstanceAs (Decidable (_ ∧ _))

lemma distinct_nil : Distinct key [] := List.nodup_nil

lemma Distinct.once [DecidableEq κ] (h : Distinct key l) (ha : a ∈ l) : Once key a l :=
  ⟨ha, List.count_eq_one_of_mem h (List.mem_map_of_mem ha)⟩

lemma Distinct.sublist (h : Distinct key l) (hkl : k.Sublist l) : Distinct key k :=
  List.Nodup.sublist (hkl.map _) h

lemma distinct_append : Distinct key (k ++ l) ↔
    Distinct key k ∧ Distinct key l ∧ ∀ a ∈ k, ∀ b ∈ l, key a ≠ key b := by
  rw [Distinct, List.map_append, List.nodup_append]
  refine and_congr Iff.rfl (and_congr Iff.rfl ?_)
  simp only [List.mem_map, forall_exists_index, and_imp, forall_apply_eq_imp_iff₂]

/-- What stands in front of a member has other keys. -/
lemma Distinct.front_ne (h : Distinct key (k ++ a :: l)) {b : α} (hb : b ∈ k) : key b ≠ key a :=
  (distinct_append.mp h).2.2 b hb a List.mem_cons_self

/-- One more member, under a key no member has. -/
lemma Distinct.concat (h : Distinct key l) (ha : ∀ b ∈ l, key b ≠ key a) :
    Distinct key (l ++ [a]) :=
  distinct_append.mpr ⟨h, List.nodup_singleton _, fun b hb c hc => by
    obtain rfl := List.mem_singleton.mp hc
    exact ha b hb⟩

end Data
