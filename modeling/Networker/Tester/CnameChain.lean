/-
The CNAME chain of a DNS answer (`networker-tester/src/runner/dns.rs`).

* `RData`, `Record`: what the walk reads of an answer, with names in the form `to_utf8` gives;
* `normalize`, `cnamePairs`, `extractCnameChain`: the walk, which the number of CNAME records
  bounds;
* `OwnsCname`, `cnameTarget`: what a name is an alias of, and the one alias the walk follows;
* `chainLoop_spec`: the loop extends a walk along `cnameTarget` to one that the bound does not
  cut;
* `extractCnameChain_complete`: the chain, for every list of records.
-/
import Networker.Data.SimpleWalk
import Networker.Data.Text

namespace Networker

open Data

namespace CnameChain

/-- The data of a record. -/
inductive RData
  | cname (target : String)
  | other
  deriving DecidableEq

/-- A record of the answer section. -/
structure Record where
  name : String
  data : RData
  deriving DecidableEq

/-- `normalize`: a name without its trailing dots, in lower case. -/
def normalize (name : String) : String :=
  String.ofList
    (((name.toList.reverse.dropWhile fun c => c == '.').reverse).map Text.Casing.ascii.lower)

/-- The owner and the target of a CNAME record. -/
def cnamePair (r : Record) : Option (String × String) :=
  match r.data with
  | .cname target => some (normalize r.name, normalize target)
  | .other => none

def cnamePairs (records : List Record) : List (String × String) := records.filterMap cnamePair

/-- The loop of `extract_cname_chain`. -/
def chainLoop (pairs : List (String × String)) (chain : List String) (current : String) :
    List String :=
  if chain.length < pairs.length then
    match pairs.find? fun p => p.1 == current with
    | some (_, target) =>
        if target ∈ chain then chain else chainLoop pairs (chain ++ [target]) target
    | none => chain
  else chain
termination_by pairs.length - chain.length
decreasing_by
  rw [List.length_append, List.length_singleton]
  omega

/-- `extract_cname_chain`. -/
def extractCnameChain (queryName : String) (records : List Record) : List String :=
  chainLoop (cnamePairs records) [] (normalize queryName)

/-- A record makes the one name an alias of the other. -/
def OwnsCname (records : List Record) (owner target : String) : Prop :=
  ∃ r ∈ records, ∃ t, r.data = .cname t ∧ normalize r.name = owner ∧ normalize t = target

/-- The target of the first CNAME record of a name. -/
def cnameTarget (records : List Record) (owner : String) : Option String :=
  (((cnamePairs records).find? fun p => p.1 == owner)).map Prod.snd

/-! ### What the records say -/

lemma mem_cnamePairs {records : List Record} {owner target : String} :
    (owner, target) ∈ cnamePairs records ↔ OwnsCname records owner target := by
  rw [cnamePairs, List.mem_filterMap]
  refine ⟨?_, ?_⟩
  · rintro ⟨r, hr, hpair⟩
    rw [cnamePair] at hpair
    split at hpair
    · rename_i t ht
      rw [Option.some_inj, Prod.mk.injEq] at hpair
      exact ⟨r, hr, t, ht, hpair.1, hpair.2⟩
    · exact absurd hpair (by simp)
  · rintro ⟨r, hr, t, ht, rfl, rfl⟩
    refine ⟨r, hr, ?_⟩
    rw [cnamePair, ht]

lemma ownsCname_of_cnameTarget {records : List Record} {owner target : String}
    (h : cnameTarget records owner = some target) : OwnsCname records owner target := by
  rw [cnameTarget, Option.map_eq_some_iff] at h
  obtain ⟨⟨o, t⟩, hfind, rfl⟩ := h
  have ho : o = owner := by simpa using List.find?_some hfind
  subst ho
  exact mem_cnamePairs.mp (List.mem_of_find?_eq_some hfind)

lemma cnameTarget_eq_none {records : List Record} {owner : String} :
    cnameTarget records owner = none ↔ ∀ target, ¬ OwnsCname records owner target := by
  rw [cnameTarget, Option.map_eq_none_iff, List.find?_eq_none]
  refine ⟨fun h target howns => ?_, fun h p hp howner => ?_⟩
  · exact h _ (mem_cnamePairs.mpr howns) (beq_self_eq_true owner)
  · obtain rfl : p.1 = owner := by simpa using howner
    exact h p.2 (mem_cnamePairs.mp hp)

/-- A name with a target is an owner. -/
lemma mem_owners {records : List Record} (owner target : String)
    (h : cnameTarget records owner = some target) :
    owner ∈ (cnamePairs records).map Prod.fst :=
  List.mem_map_of_mem (mem_cnamePairs.mpr (ownsCname_of_cnameTarget h))

/-! ### The walk -/

/-- A walk stops where it has nowhere to go, or only to a name it has been to. -/
def Stopped (records : List Record) (queryName : String) (chain : List String) : Prop :=
  ∀ target, cnameTarget records (lastOf queryName chain) = some target → target ∈ chain

lemma chainLoop_spec (records : List Record) (start : String) {current : String}
    {chain : List String}
    (hwalk : Walk (cnameTarget records) start chain) (hcurrent : lastOf start chain = current) :
    Walk (cnameTarget records) start (chainLoop (cnamePairs records) chain current) ∧
      Stopped records start (chainLoop (cnamePairs records) chain current) := by
  fun_induction chainLoop (cnamePairs records) chain current with
  | case1 chain current hlt owner target hfind hmem =>
      refine ⟨hwalk, fun t ht => ?_⟩
      rw [hcurrent, cnameTarget, hfind, Option.map_some, Option.some_inj] at ht
      exact ht ▸ hmem
  | case2 chain current hlt owner target hfind hnew ih =>
      have htarget : cnameTarget records (lastOf start chain) = some target := by
        rw [hcurrent, cnameTarget, hfind, Option.map_some]
      exact ih (hwalk.snoc htarget hnew) lastOf_concat
  | case3 chain current hlt hfind =>
      refine ⟨hwalk, fun t ht => ?_⟩
      rw [hcurrent, cnameTarget, hfind, Option.map_none] at ht
      exact absurd ht (by simp)
  | case4 chain current hfull =>
      -- the bound is reached: every owner has been left, so there is no new name to go to
      refine ⟨hwalk, fun t ht => ?_⟩
      refine hwalk.mem_of_full mem_owners ?_ ht
      rw [List.length_map]
      omega

/-- **The CNAME chain is the whole chain**: for every list of records and every query name, no name
comes twice, every name is an alias target of the one in front of it, the first one of the query
name, and at its end the walk has no record to follow or only one back into the chain. -/
theorem extractCnameChain_complete (queryName : String) (records : List Record) :
    (extractCnameChain queryName records).Nodup ∧
      List.IsChain (OwnsCname records)
        (normalize queryName :: extractCnameChain queryName records) ∧
      (extractCnameChain queryName records).length ≤ (cnamePairs records).length ∧
      ((∀ target, ¬ OwnsCname records
          (lastOf (normalize queryName) (extractCnameChain queryName records)) target) ∨
        ∃ target ∈ extractCnameChain queryName records,
          OwnsCname records
              (lastOf (normalize queryName) (extractCnameChain queryName records)) target ∧
            cnameTarget records
              (lastOf (normalize queryName) (extractCnameChain queryName records)) =
                some target) := by
  obtain ⟨hwalk, hstopped⟩ := chainLoop_spec records (normalize queryName) walk_nil lastOf_nil
  refine ⟨hwalk.nodup, hwalk.steps.imp fun _ _ h => ownsCname_of_cnameTarget h, ?_, ?_⟩
  · have howners : ((cnamePairs records).map Prod.fst).length = (cnamePairs records).length :=
      List.length_map _
    rw [← howners]
    exact hwalk.length_le mem_owners
  · rcases h : cnameTarget records (lastOf (normalize queryName)
      (extractCnameChain queryName records)) with _ | target
    · exact Or.inl (cnameTarget_eq_none.mp h)
    · exact Or.inr ⟨target, hstopped target h, ownsCname_of_cnameTarget h, rfl⟩

end CnameChain

end Networker
