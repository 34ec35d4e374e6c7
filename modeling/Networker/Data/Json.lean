/-
JSON values, and the accessors of a document model whose members raise when a
value is read as the wrong kind.

* `Json`, `Json.depth`, `Json.render`: values, their nesting depth and their text;
* `Json.get?`, `Json.set`: members of an object;
* `Json.tryGetProperty`, `Json.getString`, `Json.enumerateArray`: accessors that
  raise on a value of another kind, as `Fault`;
* `Json.parse`, `Json.write`: the depth limits of the reader and of the writer.
-/
import Networker.Data.Text

namespace Data

/-- A JSON value.  Integers are kept apart from decimals, because only an
integer literal is readable as an integer. -/
inductive Json where
  | null
  | bool (b : Bool)
  | int (n : ℤ)
  | dec (mantissa : ℤ) (scale : ℕ)
  | str (s : String)
  | arr (items : List Json)
  | obj (fields : List (String × Json))

/-- What the accessors and the codecs raise. -/
inductive Fault where
  /-- A value is read as a kind it does not have, or written deeper than allowed. -/
  | invalidOperation
  /-- A text does not parse. -/
  | json
  deriving DecidableEq, Repr

namespace Json

mutual

/-- The nesting depth: zero for a scalar, one for an empty container. -/
def depth : Json → ℕ
  | .arr xs => depthList xs + 1
  | .obj fs => depthFields fs + 1
  | _ => 0

def depthList : List Json → ℕ
  | [] => 0
  | x :: xs => max (depth x) (depthList xs)

def depthFields : List (String × Json) → ℕ
  | [] => 0
  | (_, v) :: fs => max (depth v) (depthFields fs)

end

/-- The text of a string literal. -/
def quote (s : String) : String :=
  "\"" ++ String.ofList (s.toList.flatMap fun c => if c == '"' || c == '\\' then ['\\', c] else [c])
    ++ "\""

mutual

/-- The text of a value, as the database returns it. -/
def render : Json → String
  | .null => "null"
  | .bool b => if b then "true" else "false"
  | .int n => Text.ofInt n
  | .dec m e => Text.ofInt m ++ "e-" ++ Text.ofNat e
  | .str s => quote s
  | .arr xs => "[" ++ Text.join ", " (renderList xs) ++ "]"
  | .obj fs => "\x7b" ++ Text.join ", " (renderFields fs) ++ "\x7d"

def renderList : List Json → List String
  | [] => []
  | x :: xs => render x :: renderList xs

def renderFields : List (String × Json) → List String
  | [] => []
  | (k, v) :: fs => (quote k ++ ": " ++ render v) :: renderFields fs

end

/-- Whether the value is an object. -/
def isObj : Json → Bool
  | .obj _ => true
  | _ => false

/-- The member of an object under a name. -/
def get? (name : String) : Json → Option Json
  | .obj fs => (fs.find? fun f => f.1 == name).map Prod.snd
  | _ => none

/-- The items of an array. -/
def items? : Json → Option (List Json)
  | .arr xs => some xs
  | _ => none

/-- The text of a string value. -/
def str? : Json → Option String
  | .str s => some s
  | _ => none

/-- The value of an integer literal within 32 bits. -/
def int32? : Json → Option ℤ
  | .int n => if -2147483648 ≤ n ∧ n ≤ 2147483647 then some n else none
  | _ => none

/-- Replace or append a member. -/
def setField (name : String) (v : Json) : List (String × Json) → List (String × Json)
  | [] => [(name, v)]
  | f :: fs => if f.1 == name then (name, v) :: fs else f :: setField name v fs

/-- Assign a member of an object; other values stay as they are. -/
def set (j : Json) (name : String) (v : Json) : Json :=
  match j with
  | .obj fs => .obj (setField name v fs)
  | j => j

/-! ### Accessors that raise -/

/-- Read a member; a value that is not an object raises. -/
def tryGetProperty (j : Json) (name : String) : Except Fault (Option Json) :=
  match j with
  | .obj _ => .ok (j.get? name)
  | _ => .error .invalidOperation

/-- Read a string or null; any other value raises. -/
def getString : Json → Except Fault (Option String)
  | .str s => .ok (some s)
  | .null => .ok none
  | _ => .error .invalidOperation

/-- The number of container levels a reader or a writer accepts. -/
def maxDepth : ℕ := 64

/-- Parse the text of a value: only the depth limit can reject it. -/
def parse (j : Json) : Except Fault Json :=
  if j.depth ≤ maxDepth then .ok j else .error .json

/-- Write a value under `outer` enclosing containers. -/
def write (outer : ℕ) (j : Json) : Except Fault Unit :=
  if outer + j.depth ≤ maxDepth then .ok () else .error .invalidOperation

/-! ### Members after an assignment -/

lemma find?_setField_self (name : String) (v : Json) (fs : List (String × Json)) :
    (setField name v fs).find? (fun f => f.1 == name) = some (name, v) := by
  induction fs with
  | nil => simp [setField]
  | cons f fs ih =>
      rw [setField]
      split_ifs with h
      · simp
      · simp only [List.find?_cons, Bool.not_eq_true] at h ⊢
        rw [h]
        exact ih

lemma find?_setField_ne {name other : String} (hne : other ≠ name) (v : Json)
    (fs : List (String × Json)) :
    (setField name v fs).find? (fun f => f.1 == other) = fs.find? fun f => f.1 == other := by
  induction fs with
  | nil => simp [setField, Ne.symm hne]
  | cons f fs ih =>
      rw [setField]
      split_ifs with h
      · have hf : f.1 = name := by simpa using h
        simp [Ne.symm hne, hf]
      · simp only [List.find?_cons, ih]

/-- Assigning one member keeps the others. -/
@[simp] lemma get?_set_ne {name other : String} (hne : other ≠ name) (v j : Json) :
    (j.set name v).get? other = j.get? other := by
  cases j <;> simp [set, get?, find?_setField_ne hne]

/-- An assigned member is read back. -/
lemma get?_set_self {name : String} {v j : Json} (h : j.isObj = true) :
    (j.set name v).get? name = some v := by
  cases j with
  | obj fs => simp [set, get?, find?_setField_self]
  | _ => exact absurd h (by simp [isObj])

@[simp] lemma isObj_set (name : String) (v j : Json) : (j.set name v).isObj = j.isObj := by
  cases j <;> rfl

/-! ### The depth after an assignment -/

/-- The names and the depths of an object's members, or the depth of another value. -/
def outline : Json → List (String × ℕ) ⊕ ℕ
  | .obj fs => .inl (fs.map fun f => (f.1, f.2.depth))
  | j => .inr j.depth

lemma depthFields_eq (fs : List (String × Json)) :
    depthFields fs = ((fs.map fun f => (f.1, f.2.depth)).map Prod.snd).foldr max 0 := by
  induction fs with
  | nil => rfl
  | cons f fs ih => simp [depthFields, ih]

/-- The depth is a function of the outline. -/
lemma depth_eq_of_outline {j k : Json} (h : j.outline = k.outline) : j.depth = k.depth := by
  cases j with
  | obj fs =>
      cases k with
      | obj gs => rw [depth, depth, depthFields_eq, depthFields_eq, Sum.inl.inj h]
      | _ => exact absurd h (by simp [outline])
  | _ =>
      cases k with
      | obj gs => exact absurd h (by simp [outline])
      | _ => exact Sum.inr.inj h

/-- Assigning values of one depth keeps equal outlines equal. -/
lemma outline_set {j k v u : Json} (name : String) (h : j.outline = k.outline)
    (hvu : v.depth = u.depth) : (j.set name v).outline = (k.set name u).outline := by
  cases j with
  | obj fs =>
      cases k with
      | obj gs =>
          have hfields : fs.map (fun f => (f.1, f.2.depth)) = gs.map fun f => (f.1, f.2.depth) :=
            Sum.inl.inj h
          refine congrArg Sum.inl ?_
          induction fs generalizing gs with
          | nil =>
              obtain rfl := List.map_eq_nil_iff.mp hfields.symm
              simp [setField, hvu]
          | cons f fs ih =>
              cases gs with
              | nil => exact absurd hfields (by simp)
              | cons g gs =>
                  obtain ⟨hfg, htail⟩ := List.cons.inj hfields
                  obtain ⟨hname, hdepth⟩ := Prod.mk.inj hfg
                  rw [setField, setField, hname]
                  split_ifs with hn
                  · simp [hvu, htail]
                  · simp only [List.map_cons, hname, hdepth]
                    rw [ih gs (congrArg Sum.inl htail) htail]
      | _ => exact absurd h (by simp [outline])
  | _ =>
      cases k with
      | obj gs => exact absurd h (by simp [outline])
      | _ => exact h

/-- An assignment nests no deeper than the object and the new member do. -/
lemma depthFields_setField_le (name : String) (v : Json) (fs : List (String × Json)) :
    depthFields (setField name v fs) ≤ max v.depth (depthFields fs) := by
  induction fs with
  | nil => simp [setField, depthFields]
  | cons f fs ih =>
      rw [setField]
      split_ifs with h
      · simp only [depthFields]
        omega
      · simp only [depthFields]
        omega

/-- Replacing a member by a value of its depth keeps the outline. -/
lemma outline_set_self {j v old : Json} {name : String} (h : j.get? name = some old)
    (hv : v.depth = old.depth) : (j.set name v).outline = j.outline := by
  cases j with
  | obj fs =>
      refine congrArg Sum.inl ?_
      rw [get?] at h
      induction fs with
      | nil => exact absurd h (by simp)
      | cons f fs ih =>
          rw [setField]
          split_ifs with hn
          · simp only [List.find?_cons, hn, Option.map_some, Option.some.injEq] at h
            have hname : f.1 = name := by simpa using hn
            simp [hv, h, hname]
          · simp only [List.find?_cons, hn] at h
            simp only [List.map_cons, ih h]
  | _ => exact absurd h (by simp [get?])

end Json

end Data
