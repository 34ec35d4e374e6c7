/-
The host list of a network endpoint as it is stored (`TestConfigEndpointNormalizer`).

* `last?`: the member that a property lookup reads, the last one of its name;
* `collect`, `withHost`, `tryNormalize`: the method of the source;
* `Caller`, `store`: the create and the patch request, which both store its result;
* `NetworkSet`: a network endpoint with a host list; `Requested`: the hosts it asks for;
* `Canonical`, `Unusable`: what a stored endpoint is to be, and what cannot be stored;
* `tryNormalize_eq`: the three outcomes;
* `store_meets_iff`: when the stored endpoints are canonical and nothing else is refused.
-/
import Networker.Data.Json
import Mathlib.Data.Set.Card
import Mathlib.Data.String.Basic
import Mathlib.Data.List.DropRight

namespace Networker

open Data

namespace EndpointNormalizer

/-! ### Texts -/

/-- White space, with a table for what is beyond ASCII. -/
def isSpace (table : Char → Bool) (c : Char) : Bool :=
  Text.isSpace c || (128 ≤ c.toNat && table c)

/-- `Trim` on characters. -/
def trimChars (table : Char → Bool) (cs : List Char) : List Char :=
  ((cs.dropWhile (isSpace table)).reverse.dropWhile (isSpace table)).reverse

/-- `Trim`. -/
def trim (table : Char → Bool) (s : String) : String := String.ofList (trimChars table s.toList)

/-- `IsNullOrWhiteSpace`, of a text. -/
def isBlank (table : Char → Bool) (s : String) : Bool := s.toList.all (isSpace table)

/-! ### The source -/

/-- `TryGetProperty`: the last member of the name. -/
def last? (name : String) : Json → Option Json
  | .obj fields => (fields.reverse.find? fun f => f.1 == name).map Prod.snd
  | _ => none

/-- `MaxSetHosts`. -/
def maxSetHosts : ℕ := 25

/-- What a call comes to: the endpoint to store, an error text, or an exception. -/
inductive Outcome where
  | stored (endpoint : Json)
  | rejected (error : String)
  | raised

def notAnArray : String := "endpoint.hosts must be an array of URL strings"
def noHost : String := "endpoint.hosts must contain at least one non-empty URL"
def tooMany (n : ℕ) : String :=
  "endpoint.hosts holds " ++ Text.ofNat n ++ " URLs; a set is capped at " ++ Text.ofNat maxSetHosts
    ++ " (one run probes them in sequence — split larger sets across configs)"

section Source

variable (table : Char → Bool)

/-- The loop over the members: trimmed, without blanks and without repetitions. -/
def collect : List Json → List String → Option (List String)
  | [], hosts => some hosts
  | .str s :: rest, hosts =>
      let value := trim table s
      if value = "" ∨ value ∈ hosts then collect rest hosts else collect rest (hosts ++ [value])
  | _ :: _, _ => none

/-- The trimmed `host`, empty when it is not a text. -/
def hostOf (endpoint : Json) : String :=
  match last? "host" endpoint with
  | some (.str s) => trim table s
  | _ => ""

/-- The list with a `host` that is missing in front. -/
def withHost (host : String) (hosts : List String) : List String :=
  if host ≠ "" ∧ host ∉ hosts then host :: hosts else hosts

/-- `alreadyCanonical`. -/
def alreadyCanonical (host : String) (items : List Json) (hosts : List String) : Bool :=
  some host == hosts.head? && items.length == hosts.length &&
    (items.zip hosts).all fun p => p.1.str? == some p.2

/-- The assignments to a mutable copy, whose member names have to be unique. -/
def rewrite (fields : List (String × Json)) (hosts : List String) : Outcome :=
  if (fields.map Prod.fst).Nodup then
    .stored (((Json.obj fields).set "host" (.str (hosts.headD ""))).set "hosts"
      (.arr (hosts.map .str)))
  else .raised

/-- `TryNormalize`. -/
def tryNormalize (endpoint : Json) : Outcome :=
  match endpoint with
  | .obj fields =>
      match last? "kind" endpoint with
      | some (.str kind) =>
          if kind ≠ "network" then .stored endpoint
          else
            match last? "hosts" endpoint with
            | none => .stored endpoint
            | some (.arr items) =>
                match collect table items [] with
                | none => .rejected notAnArray
                | some listed =>
                    let host := hostOf table endpoint
                    let hosts := withHost host listed
                    if hosts = [] then .rejected noHost
                    else if maxSetHosts < hosts.length then .rejected (tooMany hosts.length)
                    else if alreadyCanonical host items hosts then .stored endpoint
                    else rewrite fields hosts
            | some _ => .rejected notAnArray
      | _ => .stored endpoint
  | _ => .stored endpoint

/-- `DeriveEndpointKind`. -/
def deriveEndpointKind (endpoint : Json) : Option String :=
  match last? "kind" endpoint with
  | some (.str value) => if isBlank table value then none else some value
  | _ => none

end Source

/-- The requests that store an endpoint. -/
inductive Caller where
  | create
  | patch

/-- What a request stores of its endpoint; a patch without an object leaves it alone. -/
def store (table : Char → Bool) (caller : Caller) (endpoint : Json) : Option Outcome :=
  if endpoint.isObj then
    match deriveEndpointKind table endpoint with
    | none => some (.rejected "endpoint.kind is required")
    | some _ => some (tryNormalize table endpoint)
  else
    match caller with
    | .create => some (.rejected "endpoint is required")
    | .patch => none

/-! ### What is to be stored -/

/-- A list without padded, blank or repeated members. -/
structure Tidy (table : Char → Bool) (hosts : List String) : Prop where
  trimmed : ∀ v ∈ hosts, trim table v = v
  full : ∀ v ∈ hosts, v ≠ ""
  nodup : hosts.Nodup

/-- A network endpoint with a host list. -/
structure NetworkSet where
  fields : List (String × Json)
  hosts : Json
  kind : last? "kind" (.obj fields) = some (.str "network")
  listed : last? "hosts" (.obj fields) = some hosts

namespace NetworkSet

/-- The endpoint. -/
def json (e : NetworkSet) : Json := .obj e.fields

/-- A host that the endpoint asks for: a member of its list or its `host`, trimmed. -/
def Requested (table : Char → Bool) (e : NetworkSet) (v : String) : Prop :=
  v ≠ "" ∧ ((∃ items s, e.hosts = .arr items ∧ .str s ∈ items ∧ trim table s = v) ∨
    ∃ s, last? "host" e.json = some (.str s) ∧ trim table s = v)

/-- The host list is an array of texts. -/
def Texts (e : NetworkSet) (texts : List String) : Prop := e.hosts = .arr (texts.map .str)

/-- No endpoint can be stored: the list is of the wrong type, empty or too long. -/
def Unusable (table : Char → Bool) (e : NetworkSet) : Prop :=
  (¬ ∃ texts, e.Texts texts) ∨ {v | e.Requested table v} = ∅ ∨
    maxSetHosts < {v | e.Requested table v}.ncard

/-- What is stored: `host` is the first of the hosts, which are those that were asked for. -/
def Canonical (table : Char → Bool) (e : NetworkSet) (stored : Json) : Prop :=
  ∃ first rest, last? "host" stored = some (.str first) ∧
    last? "hosts" stored = some (.arr ((first :: rest).map .str)) ∧
    Tidy table (first :: rest) ∧ (first :: rest).length ≤ maxSetHosts ∧
    ∀ v, v ∈ first :: rest ↔ e.Requested table v

/-- The list is tidy as it stands, and begins with the trimmed `host`. -/
def Settled (table : Char → Bool) (e : NetworkSet) : Prop :=
  ∃ texts s, e.Texts texts ∧ Tidy table texts ∧ last? "host" e.json = some (.str s) ∧
    texts.head? = some (trim table s)

/-- `host` has no white space around it. -/
def HostTrimmed (table : Char → Bool) (e : NetworkSet) : Prop :=
  ∀ s, last? "host" e.json = some (.str s) → trim table s = s

/-- Whatever a request stores is canonical and is stored again as it is, and a request that
stores nothing cannot be stored. -/
structure Meets (table : Char → Bool) (caller : Caller) (e : NetworkSet) : Prop where
  canonical : ∀ r, store table caller e.json = some (.stored r) → e.Canonical table r
  again : ∀ r, store table caller e.json = some (.stored r) →
    store table caller r = some (.stored r)
  fails : (∀ r, store table caller e.json ≠ some (.stored r)) ↔ e.Unusable table

end NetworkSet

open NetworkSet

/-! ### Trimming -/

variable {table : Char → Bool} {e : NetworkSet} {items : List Json} {hosts listed : List String}
  {name s v : String}

/-- Trimming once is enough. -/
lemma trimChars_trimChars (cs : List Char) :
    trimChars table (trimChars table cs) = trimChars table cs := by
  have hfront : (trimChars table cs).dropWhile (isSpace table) = trimChars table cs := by
    obtain ⟨back, hback⟩ : trimChars table cs <+: cs.dropWhile (isSpace table) := by
      rw [trimChars]
      have hsuffix := List.dropWhile_suffix (isSpace table)
        (l := (cs.dropWhile (isSpace table)).reverse)
      simpa using List.reverse_prefix.mpr hsuffix
    cases htrim : trimChars table cs with
    | nil => rfl
    | cons c rest =>
        have hnot := List.head?_dropWhile_not (isSpace table) cs
        rw [← hback, htrim] at hnot
        exact List.dropWhile_cons_of_neg (by simpa using hnot)
  conv_lhs => rw [trimChars, hfront, trimChars]
  rw [List.reverse_reverse, List.dropWhile_idempotent, ← trimChars]

lemma trim_trim (s : String) : trim table (trim table s) = trim table s := by
  rw [trim, trim, String.toList_ofList, trimChars_trimChars]

/-! ### The members -/

/-- The loop over texts. -/
def gather (table : Char → Bool) (texts hosts : List String) : List String :=
  texts.foldl (fun hosts s =>
    if trim table s = "" ∨ trim table s ∈ hosts then hosts else hosts ++ [trim table s]) hosts

lemma collect_map (texts hosts : List String) :
    collect table (texts.map .str) hosts = some (gather table texts hosts) := by
  induction texts generalizing hosts with
  | nil => rfl
  | cons s texts ih =>
      rw [List.map_cons, collect, gather, List.foldl_cons]
      split_ifs <;> exact ih _

lemma texts_of_collect (h : collect table items hosts = some listed) :
    ∃ texts : List String, items = texts.map .str := by
  induction items generalizing hosts with
  | nil => exact ⟨[], rfl⟩
  | cons item items ih =>
      cases item with
      | str s =>
          rw [collect] at h
          have hrest : ∃ hosts', collect table items hosts' = some listed := by
            split_ifs at h
            · exact ⟨_, h⟩
            · exact ⟨_, h⟩
          obtain ⟨hosts', hrest⟩ := hrest
          obtain ⟨texts, rfl⟩ := ih hrest
          exact ⟨s :: texts, rfl⟩
      | _ => simp [collect] at h

lemma mem_gather {texts : List String} : v ∈ gather table texts hosts ↔
    v ∈ hosts ∨ (v ≠ "" ∧ ∃ s ∈ texts, trim table s = v) := by
  induction texts generalizing hosts with
  | nil => simp [gather]
  | cons s texts ih =>
      rw [gather, List.foldl_cons, ← gather, ih]
      simp only [List.exists_mem_cons_iff]
      split_ifs with hskip
      · constructor
        · exact fun h => h.imp_right fun ⟨hv, hs⟩ => ⟨hv, .inr hs⟩
        · rintro (h | ⟨hv, rfl | hs⟩)
          · exact .inl h
          · exact .inl (hskip.resolve_left hv)
          · exact .inr ⟨hv, hs⟩
      · rw [List.mem_append, List.mem_singleton]
        push Not at hskip
        constructor
        · rintro ((h | rfl) | ⟨hv, hs⟩)
          · exact .inl h
          · exact .inr ⟨hskip.1, .inl rfl⟩
          · exact .inr ⟨hv, .inr hs⟩
        · rintro (h | ⟨hv, rfl | hs⟩)
          · exact .inl (.inl h)
          · exact .inl (.inr rfl)
          · exact .inr ⟨hv, hs⟩

lemma Tidy.concat (h : Tidy table hosts) (htrim : trim table v = v) (hfull : v ≠ "")
    (hnew : v ∉ hosts) : Tidy table (hosts ++ [v]) := by
  refine ⟨fun w hw => ?_, fun w hw => ?_, ?_⟩
  · rcases List.mem_append.mp hw with hw | hw
    · exact h.trimmed w hw
    · rwa [List.mem_singleton.mp hw]
  · rcases List.mem_append.mp hw with hw | hw
    · exact h.full w hw
    · rwa [List.mem_singleton.mp hw]
  · rw [← List.concat_eq_append]
    exact List.Nodup.concat hnew h.nodup

lemma Tidy.gather {texts : List String} (h : Tidy table hosts) :
    Tidy table (gather table texts hosts) := by
  induction texts generalizing hosts with
  | nil => exact h
  | cons s texts ih =>
      rw [EndpointNormalizer.gather, List.foldl_cons]
      split_ifs with hskip
      · exact ih h
      · push Not at hskip
        exact ih (h.concat (trim_trim s) hskip.1 hskip.2)

/-- A tidy list is collected as it is. -/
lemma gather_of_tidy {texts : List String} (h : Tidy table (hosts ++ texts)) :
    EndpointNormalizer.gather table texts hosts = hosts ++ texts := by
  induction texts generalizing hosts with
  | nil => exact (List.append_nil _).symm
  | cons s texts ih =>
      have hs : s ∈ hosts ++ s :: texts := by simp
      have hnew : s ∉ hosts := fun hmem =>
        (List.nodup_append.mp h.nodup).2.2 s hmem s List.mem_cons_self rfl
      have hsplit : hosts ++ s :: texts = (hosts ++ [s]) ++ texts := by simp
      have hkeep : ¬ (s = "" ∨ s ∈ hosts) := by
        rintro (hempty | hmem)
        · exact h.full s hs hempty
        · exact hnew hmem
      rw [EndpointNormalizer.gather, List.foldl_cons, h.trimmed s hs, if_neg hkeep,
        ← EndpointNormalizer.gather, ih (by rwa [← hsplit]), hsplit]

lemma mem_withHost {host : String} : v ∈ withHost host listed ↔
    v ∈ listed ∨ (host ≠ "" ∧ v = host) := by
  rw [withHost]
  split_ifs with hnew
  · rw [List.mem_cons]
    constructor
    · rintro (rfl | h)
      · exact .inr ⟨hnew.1, rfl⟩
      · exact .inl h
    · rintro (h | ⟨-, rfl⟩)
      · exact .inr h
      · exact .inl rfl
  · constructor
    · exact .inl
    · rintro (h | ⟨hfull, rfl⟩)
      · exact h
      · by_contra hmem
        exact hnew ⟨hfull, hmem⟩

lemma Tidy.withHost {host : String} (h : Tidy table listed) (htrim : trim table host = host) :
    Tidy table (withHost host listed) := by
  rw [EndpointNormalizer.withHost]
  split_ifs with hnew
  · refine ⟨fun w hw => ?_, fun w hw => ?_, List.nodup_cons.mpr ⟨hnew.2, h.nodup⟩⟩
    · rcases List.mem_cons.mp hw with rfl | hw
      · exact htrim
      · exact h.trimmed w hw
    · rcases List.mem_cons.mp hw with rfl | hw
      · exact hnew.1
      · exact h.full w hw
  · exact h

lemma trim_hostOf (endpoint : Json) : trim table (hostOf table endpoint) = hostOf table endpoint := by
  rw [hostOf]
  split
  · exact trim_trim _
  · rfl

lemma alreadyCanonical_iff {host : String} {texts : List String} :
    alreadyCanonical host (texts.map .str) hosts = true ↔
      some host = hosts.head? ∧ texts = hosts := by
  have hzip : ((texts.map Json.str).length == hosts.length &&
      ((texts.map Json.str).zip hosts).all fun p => p.1.str? == some p.2) = true ↔
      texts = hosts := by
    induction texts generalizing hosts with
    | nil => cases hosts <;> simp
    | cons s texts ih =>
        cases hosts with
        | nil => simp
        | cons v hosts =>
            have hih := @ih hosts
            simp only [List.length_map, Bool.and_eq_true, beq_iff_eq] at hih
            simp only [List.map_cons, List.length_cons, List.length_map, List.zip_cons_cons,
              List.all_cons, Bool.and_eq_true, beq_iff_eq, Json.str?, Option.some.injEq,
              Nat.add_right_cancel_iff, List.cons.injEq]
            rw [← hih]
            tauto
  rw [alreadyCanonical, Bool.and_assoc, Bool.and_eq_true, hzip, beq_iff_eq]

/-! ### Members of an object -/

/-- Without repeated names the last member of a name is the first. -/
lemma last?_eq_get? {fields : List (String × Json)} (hnodup : (fields.map Prod.fst).Nodup) :
    last? name (.obj fields) = (Json.obj fields).get? name := by
  have hfind : fields.reverse.find? (fun f => f.1 == name) =
      fields.find? fun f => f.1 == name := by
    induction fields with
    | nil => rfl
    | cons f fields ih =>
        rw [List.map_cons, List.nodup_cons] at hnodup
        rw [List.reverse_cons, List.find?_append, ih hnodup.2, List.find?_cons]
        by_cases hf : f.1 = name
        · have hnone : fields.find? (fun f => f.1 == name) = none := by
            refine List.find?_eq_none.mpr fun g hg hgn => hnodup.1 ?_
            rw [hf, ← (beq_iff_eq.mp hgn)]
            exact List.mem_map_of_mem hg
          simp [hnone, hf]
        · have hother : (f.1 == name) = false := by simpa using hf
          simp [hother]
  rw [last?, hfind]
  rfl

lemma names_setField (name : String) (v : Json) (fields : List (String × Json)) :
    (Json.setField name v fields).map Prod.fst =
      if name ∈ fields.map Prod.fst then fields.map Prod.fst
      else fields.map Prod.fst ++ [name] := by
  induction fields with
  | nil => rfl
  | cons f fields ih =>
      rw [Json.setField]
      by_cases hf : f.1 = name
      · simp [hf]
      · have hmem : name ∈ (f :: fields).map Prod.fst ↔ name ∈ fields.map Prod.fst := by
          simp [Ne.symm hf]
        simp only [beq_iff_eq, hf, if_false, List.map_cons, ih]
        rw [List.map_cons] at hmem
        simp only [hmem]
        split_ifs <;> rfl

lemma nodup_setField {fields : List (String × Json)} (h : (fields.map Prod.fst).Nodup)
    (name : String) (v : Json) : ((Json.setField name v fields).map Prod.fst).Nodup := by
  rw [names_setField]
  split_ifs with hmem
  · exact h
  · rw [← List.concat_eq_append]
    exact List.Nodup.concat hmem h

/-! ### The outcomes -/

/-- The hosts that are stored for a list of texts. -/
def hostsOf (table : Char → Bool) (e : NetworkSet) (texts : List String) : List String :=
  withHost (hostOf table e.json) (gather table texts [])

lemma tidy_hostsOf (table : Char → Bool) (e : NetworkSet) (texts : List String) :
    Tidy table (hostsOf table e texts) :=
  Tidy.withHost (Tidy.gather ⟨by simp, by simp, List.nodup_nil⟩) (trim_hostOf _)

/-- They are those that the endpoint asks for. -/
lemma mem_hostsOf {texts : List String} (h : e.Texts texts) :
    v ∈ hostsOf table e texts ↔ e.Requested table v := by
  have hhost : (hostOf table e.json ≠ "" ∧ v = hostOf table e.json) ↔
      v ≠ "" ∧ ∃ s, last? "host" e.json = some (.str s) ∧ trim table s = v := by
    rw [hostOf]
    constructor
    · rintro ⟨hne, rfl⟩
      refine ⟨hne, ?_⟩
      revert hne
      split
      · next s hs => exact fun _ => ⟨s, hs, rfl⟩
      · exact fun hne => absurd rfl hne
    · rintro ⟨hne, s, hs, rfl⟩
      rw [hs]
      exact ⟨hne, rfl⟩
  have hmember : (∃ s ∈ texts, trim table s = v) ↔
      ∃ items s, e.hosts = .arr items ∧ Json.str s ∈ items ∧ trim table s = v := by
    constructor
    · rintro ⟨s, hs, htrim⟩
      exact ⟨_, s, h, List.mem_map_of_mem hs, htrim⟩
    · rintro ⟨items, s, hitems, hs, htrim⟩
      obtain rfl : texts.map Json.str = items := Json.arr.inj (h.symm.trans hitems)
      obtain ⟨s', hs', heq⟩ := List.mem_map.mp hs
      obtain rfl := Json.str.inj heq
      exact ⟨s', hs', htrim⟩
  rw [hostsOf, mem_withHost, mem_gather, hhost, hmember, Requested, and_or_left]
  simp

lemma requested_eq {texts : List String} (h : e.Texts texts) :
    {v | e.Requested table v} = ((hostsOf table e texts).toFinset : Set String) := by
  ext v
  rw [Finset.mem_coe, List.mem_toFinset, mem_hostsOf h]
  rfl

lemma ncard_requested {texts : List String} (h : e.Texts texts) :
    {v | e.Requested table v}.ncard = (hostsOf table e texts).length := by
  rw [requested_eq h, Set.ncard_coe_finset,
    List.toFinset_card_of_nodup (tidy_hostsOf table e texts).nodup]

lemma unusable_iff {texts : List String} (h : e.Texts texts) :
    e.Unusable table ↔
      hostsOf table e texts = [] ∨ maxSetHosts < (hostsOf table e texts).length := by
  rw [Unusable, ncard_requested h, requested_eq h]
  have htexts : ¬ ¬ ∃ texts, e.Texts texts := not_not.mpr ⟨texts, h⟩
  rw [or_iff_right htexts, Finset.coe_eq_empty, List.toFinset_eq_empty_iff]

/-- A settled list is stored as it stands. -/
lemma settled_iff (table : Char → Bool) {texts : List String} (h : e.Texts texts) :
    e.Settled table ↔
      alreadyCanonical (hostOf table e.json) (texts.map .str) (hostsOf table e texts) = true := by
  rw [alreadyCanonical_iff]
  constructor
  · rintro ⟨texts', s, htexts', htidy, hs, hhead⟩
    obtain rfl : texts = texts' := by
      have heq := Json.arr.inj (h.symm.trans htexts')
      exact (List.map_injective_iff.mpr fun a b hab => Json.str.inj hab) heq
    have hhost : hostOf table e.json = trim table s := by rw [hostOf, hs]
    have hgather : gather table texts [] = texts := gather_of_tidy (by rwa [List.nil_append])
    have hmem : hostOf table e.json ∈ texts := by
      rw [hhost]
      exact List.mem_of_mem_head? hhead
    have hhosts : hostsOf table e texts = texts := by
      rw [hostsOf, hgather, withHost, if_neg fun hnew => hnew.2 hmem]
    rw [hhosts, hhost]
    exact ⟨hhead.symm, rfl⟩
  · rintro ⟨hhead, htexts⟩
    have htidy := tidy_hostsOf table e texts
    have hmem : hostOf table e.json ∈ hostsOf table e texts := List.mem_of_mem_head? hhead.symm
    have hfull := htidy.full _ hmem
    cases hs : last? "host" e.json with
    | none => simp [hostOf, hs] at hfull
    | some j =>
        cases j with
        | str s =>
            refine ⟨texts, s, h, by rwa [htexts], hs, ?_⟩
            rw [htexts, ← hhead, hostOf, hs]
        | _ => simp [hostOf, hs] at hfull

lemma tryNormalize_of_texts (table : Char → Bool) {texts : List String} (h : e.Texts texts) :
    tryNormalize table e.json =
      if hostsOf table e texts = [] then .rejected noHost
      else if maxSetHosts < (hostsOf table e texts).length then
        .rejected (tooMany (hostsOf table e texts).length)
      else if alreadyCanonical (hostOf table e.json) (texts.map .str) (hostsOf table e texts) then
        .stored e.json
      else rewrite e.fields (hostsOf table e texts) := by
  rw [Texts] at h
  rw [json, tryNormalize]
  simp only [e.kind, e.listed, h, collect_map, ne_eq, not_true_eq_false, if_false]
  rfl

lemma tryNormalize_of_not_texts (h : ¬ ∃ texts, e.Texts texts) :
    tryNormalize table e.json = .rejected notAnArray := by
  rw [json, tryNormalize]
  simp only [e.kind, e.listed, ne_eq, not_true_eq_false, if_false]
  split
  · next hnone => cases hnone
  · next items hitems =>
      cases hcollect : collect table items [] with
      | none => rfl
      | some listed =>
          obtain ⟨texts, rfl⟩ := texts_of_collect hcollect
          exact absurd ⟨texts, Option.some.inj hitems⟩ h
  · rfl

/-- Both requests store what the method returns. -/
lemma store_eq (table : Char → Bool) (caller : Caller) (e : NetworkSet) :
    store table caller e.json = some (tryNormalize table e.json) := by
  have hblank : isBlank table "network" = false := by
    have hn : isSpace table 'n' = false := by simp [isSpace, Text.isSpace]
    simp [isBlank, hn]
  have hkind : deriveEndpointKind table e.json = some "network" := by
    rw [deriveEndpointKind, json, e.kind]
    simp [hblank]
  have hobj : e.json.isObj = true := rfl
  simp only [store, hobj, hkind, if_true]

/-- The endpoint with its members assigned. -/
def rewritten (e : NetworkSet) (first : String) (rest : List String)
    (h : (e.fields.map Prod.fst).Nodup) : NetworkSet where
  fields := Json.setField "hosts" (.arr ((first :: rest).map .str))
    (Json.setField "host" (.str first) e.fields)
  hosts := .arr ((first :: rest).map .str)
  kind := by
    rw [last?_eq_get? (nodup_setField (nodup_setField h _ _) _ _)]
    have hkind := e.kind
    rw [last?_eq_get? h] at hkind
    rw [← hkind]
    exact (Json.get?_set_ne (by decide) _ ((Json.obj e.fields).set "host" (.str first))).trans
      (Json.get?_set_ne (by decide) _ _)
  listed := by
    rw [last?_eq_get? (nodup_setField (nodup_setField h _ _) _ _)]
    exact Json.get?_set_self (j := (Json.obj e.fields).set "host" (.str first)) rfl

section Rewritten

variable {first : String} {rest : List String} {hnodup : (e.fields.map Prod.fst).Nodup}

lemma last?_host_rewritten : last? "host" (rewritten e first rest hnodup).json =
    some (.str first) := by
  rw [json, rewritten, last?_eq_get? (nodup_setField (nodup_setField hnodup _ _) _ _)]
  exact (Json.get?_set_ne (by decide) _ ((Json.obj e.fields).set "host" (.str first))).trans
    (Json.get?_set_self rfl)

lemma rewrite_eq : rewrite e.fields (first :: rest) =
    .stored (rewritten e first rest hnodup).json := by
  rw [rewrite, if_pos hnodup]
  rfl

/-- An endpoint that has been rewritten is stored as it is. -/
lemma tryNormalize_rewritten (htidy : Tidy table (first :: rest))
    (hlen : (first :: rest).length ≤ maxSetHosts) :
    tryNormalize table (rewritten e first rest hnodup).json =
      .stored (rewritten e first rest hnodup).json := by
  have htexts : (rewritten e first rest hnodup).Texts (first :: rest) := rfl
  have hhost : hostOf table (rewritten e first rest hnodup).json = first := by
    rw [hostOf, last?_host_rewritten]
    exact htidy.trimmed first List.mem_cons_self
  have hhosts : hostsOf table (rewritten e first rest hnodup) (first :: rest) = first :: rest := by
    rw [hostsOf, gather_of_tidy (by rwa [List.nil_append]), hhost, withHost,
      if_neg fun hnew => hnew.2 List.mem_cons_self]
    rfl
  have hcanonical : alreadyCanonical first ((first :: rest).map .str) (first :: rest) = true :=
    alreadyCanonical_iff.mpr ⟨rfl, rfl⟩
  rw [tryNormalize_of_texts table htexts, hhosts, hhost, if_neg (List.cons_ne_nil first rest),
    if_neg (not_lt.mpr hlen), if_pos hcanonical]

end Rewritten

/-! ### What is stored -/

/-- A tidy list is stored as it stands only with a `host` that is not padded, and it is rewritten
only in an object without repeated names. -/
def Plain (table : Char → Bool) (e : NetworkSet) : Prop :=
  ¬ e.Unusable table → (e.Settled table → e.HostTrimmed table) ∧
    (¬ e.Settled table → (e.fields.map Prod.fst).Nodup)

/-- What a request with a usable list stores, or that it raises. -/
lemma tryNormalize_of_usable {texts : List String} (h : e.Texts texts)
    (husable : ¬ e.Unusable table) : ∃ first rest, hostsOf table e texts = first :: rest ∧
      (first :: rest).length ≤ maxSetHosts ∧
      ((e.Settled table ∧ tryNormalize table e.json = .stored e.json) ∨
        (¬ e.Settled table ∧ tryNormalize table e.json = rewrite e.fields (first :: rest))) := by
  rw [unusable_iff h] at husable
  push Not at husable
  obtain ⟨hne, hlen⟩ := husable
  obtain ⟨first, rest, heq⟩ := List.exists_cons_of_ne_nil hne
  have htry := tryNormalize_of_texts table h
  have hsettled := settled_iff table h
  rw [heq] at hlen htry hsettled
  rw [if_neg (List.cons_ne_nil first rest), if_neg (not_lt.mpr hlen)] at htry
  refine ⟨first, rest, heq, hlen, ?_⟩
  by_cases hcanonical : alreadyCanonical (hostOf table e.json) (texts.map .str) (first :: rest)
  · exact .inl ⟨hsettled.mpr hcanonical, by rw [htry, if_pos hcanonical]⟩
  · exact .inr ⟨fun hs => hcanonical (hsettled.mp hs), by rw [htry, if_neg hcanonical]⟩

/-- An unusable list is refused. -/
lemma tryNormalize_of_unusable (h : e.Unusable table) (r : Json) :
    tryNormalize table e.json ≠ .stored r := by
  by_cases htexts : ∃ texts, e.Texts texts
  · obtain ⟨texts, htexts⟩ := htexts
    rw [unusable_iff htexts] at h
    rw [tryNormalize_of_texts table htexts]
    split_ifs with hnil hlong
    · simp
    · simp
    · exact absurd h (by tauto)
    · exact absurd h (by tauto)
  · rw [tryNormalize_of_not_texts htexts]
    simp

/-- A settled list is canonical as it stands exactly when `host` is not padded. -/
lemma canonical_self_iff {texts : List String} {first : String} {rest : List String}
    (h : e.Texts texts) (heq : hostsOf table e texts = first :: rest)
    (hlen : (first :: rest).length ≤ maxSetHosts) (hsettled : e.Settled table) :
    e.Canonical table e.json ↔ e.HostTrimmed table := by
  have hcanonical := (settled_iff table h).mp hsettled
  rw [heq, alreadyCanonical_iff] at hcanonical
  obtain ⟨hhead, htexts⟩ := hcanonical
  have hhost : hostOf table e.json = first := by simpa using hhead
  obtain ⟨_, s, -, -, hs, -⟩ := hsettled
  have htrim : trim table s = first := by
    rw [← hhost, hostOf, hs]
  have htidy : Tidy table (first :: rest) := heq ▸ tidy_hostsOf table e texts
  constructor
  · rintro ⟨first', rest', hhost', hlist', -⟩ s' hs'
    obtain rfl : s = s' := Json.str.inj (Option.some.inj (hs.symm.trans hs'))
    obtain rfl : first' = s := Json.str.inj (Option.some.inj (hhost'.symm.trans hs))
    have hlisted : e.hosts = .arr ((first' :: rest').map .str) :=
      Option.some.inj (e.listed.symm.trans hlist')
    have hmap : (first :: rest).map Json.str = (first' :: rest').map Json.str := by
      rw [← htexts]
      exact Json.arr.inj (h.symm.trans hlisted)
    have hfirst : first = first' := Json.str.inj (List.cons.inj hmap).1
    rw [htrim, hfirst]
  · intro hplain
    have hsame : s = first := (hplain s hs).symm.trans htrim
    refine ⟨first, rest, by rw [hs, hsame], ?_, htidy, hlen, fun v => ?_⟩
    · rw [json, e.listed, h, htexts]
    · rw [← heq, mem_hostsOf h]

/-- What is rewritten is canonical. -/
lemma canonical_rewritten {texts : List String} {first : String} {rest : List String}
    {hnodup : (e.fields.map Prod.fst).Nodup} (h : e.Texts texts)
    (heq : hostsOf table e texts = first :: rest) (hlen : (first :: rest).length ≤ maxSetHosts) :
    e.Canonical table (rewritten e first rest hnodup).json := by
  refine ⟨first, rest, last?_host_rewritten, (rewritten e first rest hnodup).listed,
    heq ▸ tidy_hostsOf table e texts, hlen, fun v => ?_⟩
  rw [← heq, mem_hostsOf h]

/-- Both requests store canonical endpoints, store them again as they are and refuse nothing
else, exactly when the endpoint is plain. -/
theorem store_meets_iff (table : Char → Bool) (caller : Caller) (e : NetworkSet) :
    e.Meets table caller ↔ Plain table e := by
  have hstore := store_eq table caller
  constructor
  · intro hmeets husable
    obtain ⟨texts, htexts⟩ : ∃ texts, e.Texts texts := by
      by_contra hnone
      exact husable (.inl hnone)
    obtain ⟨first, rest, heq, hlen, ⟨hsettled, htry⟩ | ⟨hopen, htry⟩⟩ :=
      tryNormalize_of_usable htexts husable
    · refine ⟨fun _ => ?_, fun hopen => absurd hsettled hopen⟩
      refine (canonical_self_iff htexts heq hlen hsettled).mp (hmeets.canonical _ ?_)
      rw [hstore, htry]
    · refine ⟨fun hsettled => absurd hsettled hopen, fun _ => ?_⟩
      -- with a repeated name the assignment raises, and nothing is stored
      by_contra hrepeated
      refine husable (hmeets.fails.mp fun r => ?_)
      rw [hstore, htry, rewrite, if_neg hrepeated]
      simp
  · intro hplain
    by_cases hunusable : e.Unusable table
    · have hnone : ∀ r, store table caller e.json ≠ some (.stored r) := by
        intro r hr
        rw [hstore] at hr
        exact tryNormalize_of_unusable hunusable r (Option.some.inj hr)
      exact ⟨fun r hr => absurd hr (hnone r), fun r hr => absurd hr (hnone r),
        fun _ => hunusable, fun _ => hnone⟩
    · obtain ⟨texts, htexts⟩ : ∃ texts, e.Texts texts := by
        by_contra hnone
        exact hunusable (.inl hnone)
      obtain ⟨hhost, hnames⟩ := hplain hunusable
      obtain ⟨first, rest, heq, hlen, ⟨hsettled, htry⟩ | ⟨hopen, htry⟩⟩ :=
        tryNormalize_of_usable htexts hunusable
      · have hself : store table caller e.json = some (.stored e.json) := by rw [hstore, htry]
        have hresult : ∀ {r}, store table caller e.json = some (.stored r) → e.json = r :=
          fun hr => Outcome.stored.inj (Option.some.inj (hself.symm.trans hr))
        refine ⟨fun r hr => ?_, fun r hr => ?_, fun hnone => absurd hself (hnone _),
          fun hbad => absurd hbad hunusable⟩
        · rw [← hresult hr]
          exact (canonical_self_iff htexts heq hlen hsettled).mpr (hhost hsettled)
        · rw [← hresult hr]
          exact hself
      · have hnodup := hnames hopen
        have hself : store table caller e.json =
            some (.stored (rewritten e first rest hnodup).json) := by
          rw [hstore, htry, rewrite_eq]
        have hresult : ∀ {r}, store table caller e.json = some (.stored r) →
            (rewritten e first rest hnodup).json = r :=
          fun hr => Outcome.stored.inj (Option.some.inj (hself.symm.trans hr))
        refine ⟨fun r hr => ?_, fun r hr => ?_, fun hnone => absurd hself (hnone _),
          fun hbad => absurd hbad hunusable⟩
        · rw [← hresult hr]
          exact canonical_rewritten htexts heq hlen
        · rw [← hresult hr, hstore, tryNormalize_rewritten (heq ▸ tidy_hostsOf table e texts) hlen]

/-- A padded `host` in front of a list that is in order. -/
def paddedHost : NetworkSet where
  fields := [("kind", .str "network"), ("host", .str " a "), ("hosts", .arr [.str "a"])]
  hosts := .arr [.str "a"]
  kind := rfl
  listed := rfl

/-- The padded `host` is stored as it came, and is not the first of the hosts. -/
theorem padded_host_stored : ¬ paddedHost.Meets (fun _ => false) .create := by
  intro hmeets
  have hstored : store (fun _ => false) .create paddedHost.json = some (.stored paddedHost.json) := by
    rfl
  obtain ⟨first, rest, hhost, hlist, -⟩ := hmeets.canonical _ hstored
  have hfirst : " a " = first := Json.str.inj (Option.some.inj hhost)
  have hhead : "a" = first :=
    Json.str.inj (List.cons.inj (Json.arr.inj (Option.some.inj hlist))).1
  rw [← hfirst] at hhead
  exact absurd hhead (by decide)

end EndpointNormalizer

end Networker
