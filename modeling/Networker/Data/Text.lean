/-
Strings compared the way a host platform compares them.

* `Casing`: the platform's upper-case and lower-case maps on characters, with
  `Casing.ascii` for comparisons against ASCII constants;
* `eqIgnoreCase`, `startsWithIgnoreCase`, `containsIgnoreCase`: comparisons after
  upper-casing both sides;
* `startsWith`, `trim`, `isBlank`, `parseInt`, `splitOn`: the small parsers the
  programs use.
-/
import Mathlib.Tactic

namespace Data

namespace Text

/-- The character maps behind comparisons that ignore case. -/
structure Casing where
  upper : Char → Char
  lower : Char → Char

/-- Casing of the ASCII letters alone. -/
def Casing.ascii : Casing := ⟨Char.toUpper, Char.toLower⟩

/-- The characters of a string, upper-cased. -/
def upper (cs : Casing) (s : String) : List Char := s.toList.map cs.upper

/-- The characters of a string, lower-cased. -/
def lower (cs : Casing) (s : String) : List Char := s.toList.map cs.lower

/-- Equality that ignores case. -/
def eqIgnoreCase (a b : String) : Bool := upper .ascii a == upper .ascii b

/-- Prefix test that ignores case. -/
def startsWithIgnoreCase (cs : Casing) (s pre : String) : Bool :=
  (upper cs pre).isPrefixOf (upper cs s)

/-- Prefix test on the characters as they are. -/
def startsWith (s pre : String) : Bool := pre.toList.isPrefixOf s.toList

/-- Infix test that ignores case. -/
def containsIgnoreCase (s sub : String) : Bool :=
  (upper .ascii s).tails.any fun t => (upper .ascii sub).isPrefixOf t

/-- White space as the platform trims it, the ASCII part. -/
def isSpace (c : Char) : Bool := c.val == 32 || (9 ≤ c.val && c.val ≤ 13)

/-- Drop leading and trailing white space. -/
def trimChars (cs : List Char) : List Char :=
  ((cs.dropWhile isSpace).reverse.dropWhile isSpace).reverse

def trim (s : String) : String := String.ofList (trimChars s.toList)

/-- Empty or only white space. -/
def isBlank (s : String) : Bool := s.toList.all isSpace

/-- The value of a list of decimal digits, if it is one and is not empty. -/
def parseDigits : List Char → Option ℕ
  | [] => none
  | cs => if cs.all Char.isDigit then some (cs.foldl (fun n c => 10 * n + (c.toNat - 48)) 0) else none

/-- A decimal integer with an optional sign, between blanks, within 32 bits. -/
def parseInt (cs : List Char) : Option ℤ :=
  let inRange : ℤ → Option ℤ := fun n => if -2147483648 ≤ n ∧ n ≤ 2147483647 then some n else none
  match trimChars cs with
  | '-' :: ds => (parseDigits ds).bind fun n => inRange (-(n : ℤ))
  | '+' :: ds => (parseDigits ds).bind fun n => inRange n
  | ds => (parseDigits ds).bind fun n => inRange n

/-- The pieces of a text between the occurrences of a separator. -/
def splitOn (sep : Char) (cs : List Char) : List (List Char) := cs.splitOn sep

/-- A natural number in decimal digits. -/
def ofNat (n : ℕ) : String := String.ofList (Nat.toDigits 10 n)

/-- An integer in decimal digits. -/
def ofInt : ℤ → String
  | .ofNat n => ofNat n
  | .negSucc n => "-" ++ ofNat (n + 1)

/-- Join pieces with a separator. -/
def join (sep : String) : List String → String
  | [] => ""
  | [s] => s
  | s :: ss => s ++ sep ++ join sep ss

/-! ### Prefixes that ignore case -/

lemma startsWithIgnoreCase_iff {cs : Casing} {s pre : String} :
    startsWithIgnoreCase cs s pre = true ↔ upper cs pre <+: upper cs s := by
  rw [startsWithIgnoreCase, List.isPrefixOf_iff_prefix]

/-- A prefix of a prefix, ignoring case. -/
lemma startsWithIgnoreCase_trans {cs : Casing} {a b c : String}
    (hab : startsWithIgnoreCase cs b a = true) (hbc : startsWithIgnoreCase cs c b = true) :
    startsWithIgnoreCase cs c a = true := by
  rw [startsWithIgnoreCase_iff] at *
  exact hab.trans hbc

end Text

end Data
