/-
Texts of fields with a separator between them.

* `append_cons_inj`: the part in front of the first separator is recovered, and the rest;
* `splitOn_join`: the pieces of joined texts are the pieces of each of them;
* `ofNat_injective`, `notMem_ofNat`: decimal digits are recovered, and there is nothing else
  among them;
* `parseDigits_ofNat`: decimal digits are read as the number that they stand for.
-/
import Networker.Data.Text

namespace Data

namespace Text

section Separator

variable {α : Type} {sep : α} {as bs cs ds : List α}

/-- Two texts are equal if and only if the parts in front of their first separators are, and
the rests behind them. -/
lemma append_cons_inj (ha : sep ∉ as) (hb : sep ∉ bs) :
    as ++ sep :: cs = bs ++ sep :: ds ↔ as = bs ∧ cs = ds := by
  induction as generalizing bs with
  | nil =>
      cases bs with
      | nil => simp
      | cons b bs =>
          have hne : sep ≠ b := fun h => hb (h ▸ List.mem_cons_self)
          simp [hne]
  | cons a as ih =>
      have ha' : sep ∉ as := fun h => ha (List.mem_cons_of_mem a h)
      cases bs with
      | nil =>
          have hne : a ≠ sep := fun h => ha (h ▸ List.mem_cons_self)
          simp [hne]
      | cons b bs =>
          have hb' : sep ∉ bs := fun h => hb (List.mem_cons_of_mem b h)
          simp [ih ha' hb', and_assoc]

/-- The same of strings. -/
lemma append_inj_of_sep {s t u v : String} {c : Char} (hs : c ∉ s.toList) (ht : c ∉ t.toList) :
    s ++ String.singleton c ++ u = t ++ String.singleton c ++ v ↔ s = t ∧ u = v := by
  rw [← String.toList_inj, ← @String.toList_inj s t, ← @String.toList_inj u v]
  simpa using append_cons_inj hs ht

/-- The pieces of joined texts are the pieces of each of them. -/
lemma splitOn_join {c : Char} (s : String) (ss : List String) :
    (join (String.singleton c) (s :: ss)).toList.splitOn c =
      (s :: ss).flatMap fun s => s.toList.splitOn c := by
  induction ss generalizing s with
  | nil => simp [join]
  | cons t ss ih =>
      have hjoin : (join (String.singleton c) (s :: t :: ss)).toList =
          s.toList ++ c :: (join (String.singleton c) (t :: ss)).toList := by simp [join]
      rw [hjoin, List.splitOn_append_cons_self, ih]
      simp only [List.flatMap_cons]

end Separator

section Digits

variable {m n : ℕ} {c : Char}

lemma ofNat_injective : Function.Injective ofNat := by
  intro m n h
  have hdigits : Nat.toDigits 10 m = Nat.toDigits 10 n := by
    simpa [ofNat] using congrArg String.toList h
  calc m = Nat.ofDigitChars 10 (Nat.toDigits 10 m) 0 := Nat.ofDigitChars_ten_toDigits.symm
    _ = Nat.ofDigitChars 10 (Nat.toDigits 10 n) 0 := by rw [hdigits]
    _ = n := Nat.ofDigitChars_ten_toDigits

lemma val_of_isDigit (h : c.isDigit = true) : 48 ≤ c.toNat ∧ c.toNat ≤ 57 := by
  simpa [Char.isDigit, UInt32.le_iff_toNat_le] using h

lemma isSpace_of_isDigit (h : c.isDigit = true) : isSpace c = false := by
  have hval := val_of_isDigit h
  rw [← Bool.not_eq_true, isSpace]
  simp only [Bool.or_eq_true, beq_iff_eq, Bool.and_eq_true, decide_eq_true_eq,
    UInt32.le_iff_toNat_le, ← UInt32.toNat_inj]
  change ¬ (c.toNat = 32 ∨ 9 ≤ c.toNat ∧ c.toNat ≤ 13)
  omega

lemma isDigit_of_mem_ofNat (h : c ∈ (ofNat n).toList) : c.isDigit = true := by
  rw [ofNat, String.toList_ofList] at h
  exact Nat.isDigit_of_mem_toDigits (by decide) (by decide) h

/-- Nothing but digits stands in a number. -/
lemma notMem_ofNat (h : c.isDigit = false) : c ∉ (ofNat n).toList := by
  intro hc
  rw [isDigit_of_mem_ofNat hc] at h
  exact absurd h (by decide)

/-- Decimal digits are read as the number that they stand for. -/
lemma parseDigits_ofNat (n : ℕ) : parseDigits (ofNat n).toList = some n := by
  have hall : (ofNat n).toList.all Char.isDigit = true :=
    List.all_eq_true.mpr fun c hc => isDigit_of_mem_ofNat hc
  have hvalue : (ofNat n).toList.foldl (fun n c => 10 * n + (c.toNat - 48)) 0 = n := by
    rw [ofNat, String.toList_ofList]
    exact Nat.ofDigitChars_ten_toDigits
  cases hdigits : (ofNat n).toList with
  | nil => simp [ofNat] at hdigits
  | cons c cs =>
      rw [hdigits] at hall hvalue
      rw [parseDigits, if_pos hall, hvalue]
      exact List.cons_ne_nil c cs

/-- There is nothing to trim where there is no white space. -/
lemma trimChars_of_forall {cs : List Char} (h : ∀ c ∈ cs, isSpace c = false) :
    trimChars cs = cs := by
  have hdrop : ∀ {ds : List Char}, (∀ c ∈ ds, isSpace c = false) →
      ds.dropWhile isSpace = ds := by
    intro ds hds
    cases ds with
    | nil => rfl
    | cons d ds => exact List.dropWhile_cons_of_neg (by simp [hds])
  rw [trimChars, hdrop h, hdrop fun c hc => h c (List.mem_reverse.mp hc), List.reverse_reverse]

end Digits

end Text

end Data
