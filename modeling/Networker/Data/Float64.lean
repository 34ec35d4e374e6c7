/-
What programs do with 64-bit floating-point numbers beyond the basic operations.

* `powi`: an integer power by repeated squaring;
* `sum`: the sum of a list from the left, from negative zero;
* `ascending`: a stable sort by the numeric order;
* `floorIndex`, `ceilIndex`: the integers next to a number, as an index;
* `fmax`, `fmin`: the extrema that leave out NaN;
* `toFixed`: a number in decimal notation, rounded to a number of digits.
-/
import Mathlib.Tactic
import Networker.Data.Text

namespace Data

namespace Float64

/-- The machine epsilon, `2⁻⁵²`. -/
def epsilon : Float := Float.ofBits 0x3CB0000000000000

/-- The loop of an integer power by repeated squaring. -/
def powiFrom (acc base : Float) : ℕ → ℕ → Float
  | 0, _ => acc
  | fuel + 1, n =>
      let acc := if n % 2 = 1 then acc * base else acc
      if n / 2 = 0 then acc else powiFrom acc (base * base) fuel (n / 2)

/-- The power `xⁿ`. -/
def powi (x : Float) (n : ℕ) : Float := powiFrom 1 x (n + 1) n

/-- The sum of a list, from the left. -/
def sum (xs : List Float) : Float := xs.foldl (· + ·) (-0.0)

/-- Sorted by the numeric order; incomparable and equal numbers stay in place. -/
def ascending (xs : List Float) : List Float := xs.insertionSort fun a b => ¬ b < a

/-- The floor as an index, `0` below zero. -/
def floorIndex (x : Float) : ℕ := x.toUInt64.toNat

/-- The ceiling as an index, `0` below zero. -/
def ceilIndex (x : Float) : ℕ :=
  if Float.ofNat (floorIndex x) < x then floorIndex x + 1 else floorIndex x

/-- The larger number, where NaN loses. -/
def fmax (a b : Float) : Float := if a.isNaN || a < b then b else a

/-- The smaller number, where NaN loses. -/
def fmin (a b : Float) : Float := if a.isNaN || b < a then b else a

/-! ### Order -/

/-- How two numbers compare, if neither is NaN. -/
def order (a b : Float) : Option Ordering := a.toModel.unpack.compare b.toModel.unpack

lemma lt_iff {a b : Float} : a < b ↔ order a b = some .lt := by
  show decide ((order a b == some .lt) = true) = true ↔ _
  rw [decide_eq_true_iff, beq_iff_eq]

lemma le_iff {a b : Float} : a ≤ b ↔ order a b = some .lt ∨ order a b = some .eq := by
  show decide ((order a b).any (·.isLE) = true) = true ↔ _
  rw [decide_eq_true_iff]
  rcases order a b with _ | (_ | _ | _) <;> simp

/-- A number is not below itself. -/
lemma lt_irrefl (a : Float) : ¬ a < a := by
  rw [lt_iff, order]
  cases a.toModel.unpack with
  | notANumber => exact nofun
  | infinity s => cases s <;> exact nofun
  | zero s => exact nofun
  | finite s m e h =>
      have hself : ((compare e e).then (compare m m)) = .eq := by
        rw [compare_eq_iff_eq.mpr rfl, compare_eq_iff_eq.mpr rfl]
        rfl
      cases s
      · show ¬ some ((compare e e).then (compare m m)).swap = some .lt
        rw [hself]
        simp
      · show ¬ some ((compare e e).then (compare m m)) = some .lt
        rw [hself]
        simp

/-- Equal numbers are sorted. -/
lemma ascending_replicate (n : ℕ) (v : Float) :
    ascending (List.replicate n v) = List.replicate n v :=
  List.Pairwise.insertionSort_eq (List.pairwise_replicate.mpr (Or.inr (lt_irrefl v)))

/-- A number below another is at most the other. -/
lemma le_of_lt {a b : Float} (h : a < b) : a ≤ b := le_iff.mpr (Or.inl (lt_iff.mp h))

/-! ### Decimal notation -/

/-- The quotient of two natural numbers, to the nearest, ties to even. -/
def divNearest (a b : ℕ) : ℕ :=
  let q := a / b
  match compare (2 * (a % b)) b with
  | .lt => q
  | .eq => q + q % 2
  | .gt => q + 1

/-- A scaled number with `digits` decimals. -/
def fixedText (digits scaled : ℕ) : String :=
  let whole := Text.ofNat (scaled / 10 ^ digits)
  if digits = 0 then whole
  else
    let frac := Nat.toDigits 10 (scaled % 10 ^ digits)
    whole ++ "." ++ String.ofList (List.replicate (digits - frac.length) '0' ++ frac)

/-- `mantissa * 2 ^ exponent` with `digits` decimals. -/
def fixedMagnitude (digits mantissa : ℕ) (exponent : ℤ) : String :=
  fixedText digits <|
    if 0 ≤ exponent then mantissa * 2 ^ exponent.toNat * 10 ^ digits
    else divNearest (mantissa * 10 ^ digits) (2 ^ (-exponent).toNat)

/-- The sign in front of a number. -/
def signText : Float.Model.UnpackedFloat.Sign → String
  | .negative => "-"
  | .positive => ""

/-- A number in decimal notation, rounded to a number of digits. -/
def toFixed (digits : ℕ) (x : Float) : String :=
  match x.toModel.unpack with
  | .notANumber => "NaN"
  | .infinity s => signText s ++ "inf"
  | .zero s => signText s ++ fixedText digits 0
  | .finite s m e _ => signText s ++ fixedMagnitude digits m e

example : toFixed 1 0.25 = "0.2" := by decide +kernel

end Float64

end Data
