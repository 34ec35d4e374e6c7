/-
Fixed-width integers in packets.

* `le`, `ofLe`: a natural number in a number of bytes, the least significant first, and
  back; `be`, `ofBe`: the most significant first;
* `ofLe_le`, `ofBe_be`: what is read is what was written, up to the width, and `le_mod`: only
  that is written;
* `le_injective`: different numbers within the width look different;
* `slice`: the bytes of a field, and how it is found in a packet that is put together from
  its fields.
-/
import Mathlib.Tactic

namespace Data

/-- A datagram as it is on the wire. -/
abbrev Packet : Type := List UInt8

/-- A number in `w` bytes, the least significant byte first. -/
def le : ℕ → ℕ → Packet
  | 0, _ => []
  | w + 1, n => UInt8.ofNat (n % 256) :: le w (n / 256)

/-- The number in a list of bytes, the least significant byte first. -/
def ofLe : Packet → ℕ
  | [] => 0
  | b :: bs => b.toNat + 256 * ofLe bs

/-- A number in `w` bytes, the most significant byte first. -/
def be (w n : ℕ) : Packet := (le w n).reverse

/-- The number in a list of bytes, the most significant byte first. -/
def ofBe (bs : Packet) : ℕ := ofLe bs.reverse

@[simp] lemma length_le (w n : ℕ) : (le w n).length = w := by
  induction w generalizing n with
  | zero => rfl
  | succ w ih => rw [le, List.length_cons, ih]

@[simp] lemma length_be (w n : ℕ) : (be w n).length = w := by
  rw [be, List.length_reverse, length_le]

/-- What is read is what was written, up to the width. -/
lemma ofLe_le (w n : ℕ) : ofLe (le w n) = n % 256 ^ w := by
  induction w generalizing n with
  | zero => rw [le, ofLe, pow_zero, Nat.mod_one]
  | succ w ih =>
      have hbyte : (UInt8.ofNat (n % 256)).toNat = n % 256 :=
        UInt8.toNat_ofNat_of_lt' (Nat.mod_lt _ (by decide))
      rw [le, ofLe, ih, hbyte, pow_succ', Nat.mod_mul]

lemma ofLe_le_of_lt {w n : ℕ} (h : n < 256 ^ w) : ofLe (le w n) = n := by
  rw [ofLe_le, Nat.mod_eq_of_lt h]

/-- Only the part within the width is written. -/
lemma le_mod (w n : ℕ) : le w (n % 256 ^ w) = le w n := by
  induction w generalizing n with
  | zero => rfl
  | succ w ih =>
      have hbyte : n % 256 ^ (w + 1) % 256 = n % 256 :=
        Nat.mod_mod_of_dvd n (Dvd.intro_left (256 ^ w) rfl)
      have hrest : n % 256 ^ (w + 1) / 256 = n / 256 % 256 ^ w := by
        rw [pow_succ', Nat.mod_mul_right_div_self]
      rw [le, le, hbyte, hrest, ih]

/-- What is read is below the width. -/
lemma ofLe_lt (bs : Packet) : ofLe bs < 256 ^ bs.length := by
  induction bs with
  | nil => exact Nat.one_pos
  | cons b bs ih =>
      have hb : b.toNat < 256 := UInt8.toNat_lt b
      rw [ofLe, List.length_cons, pow_succ']
      omega

lemma ofBe_be (w n : ℕ) : ofBe (be w n) = n % 256 ^ w := by
  rw [ofBe, be, List.reverse_reverse, ofLe_le]

lemma ofBe_be_of_lt {w n : ℕ} (h : n < 256 ^ w) : ofBe (be w n) = n := by
  rw [ofBe_be, Nat.mod_eq_of_lt h]

/-- Numbers within the width have different bytes. -/
lemma le_injective {w m n : ℕ} (hm : m < 256 ^ w) (hn : n < 256 ^ w) (h : le w m = le w n) :
    m = n := by
  rw [← ofLe_le_of_lt hm, h, ofLe_le_of_lt hn]

/-! ### Fields of a packet -/

/-- The `w` bytes at an offset. -/
def slice (off w : ℕ) (p : Packet) : Packet := (p.drop off).take w

/-- The field in front. -/
lemma slice_zero {w : ℕ} {f rest : Packet} (hf : f.length = w) : slice 0 w (f ++ rest) = f := by
  rw [slice, List.drop_zero, List.take_left' hf]

/-- A field behind the first one. -/
lemma slice_append {off w : ℕ} {f rest : Packet} (hf : f.length ≤ off) :
    slice off w (f ++ rest) = slice (off - f.length) w rest := by
  rw [slice, slice, List.drop_append, List.drop_of_length_le hf, List.nil_append]

end Data
