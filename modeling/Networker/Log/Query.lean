/-
Reading the `service_log` table: `networker_log::query::list` and the endpoint `GET /api/logs`
that mirrors it.

* `LogRow`, `LogDatabase`: a row, and what the database decides: the case folding, equality of
  project ids, and the order of rows with one timestamp;
* `LogQuery`, `LogQuery.build`, `list`: the dynamic `WHERE` clause with its parameters, and the
  two statements;
* `list_eq`: the listing is that of the rows which match every given filter;
* `parseLevelToDb`, `getLogs`: the endpoint; `getLogs_eq`: what it answers.
-/
import Networker.Data.Like
import Networker.Data.NumberedQuery
import Networker.Data.Text
import Networker.ControlPlane.EndpointNormalizer
import Networker.ControlPlane.Entities

namespace Networker

open Data

/-- `LogRow`. -/
structure LogRow where
  ts : Time
  service : String
  level : ℤ
  message : String
  configId : Option Guid
  projectId : Option String
  traceId : Option Guid
  fields : Option String
  deriving DecidableEq

/-- What the database decides. -/
structure LogDatabase where
  /-- The case folding behind `ILIKE`. -/
  lower : Char → Char
  /-- A stored `CHAR(14)` equals a parameter. -/
  sameProject : List Char → List Char → Bool
  /-- `ORDER BY ts DESC`. -/
  order : List LogRow → List LogRow

/-- A bound parameter of a query. -/
inductive LogValue
  | timestamp (t : Time)
  | text (s : List Char)
  | smallint (n : ℤ)
  | uuid (u : Guid)
  | bigint (n : ℕ)
  deriving DecidableEq

/-- `LogQuery`. -/
structure LogQuery where
  service : Option String
  minLevel : Option ℤ
  configId : Option Guid
  projectId : Option String
  search : Option String
  fromTs : Time
  toTs : Time
  limit : ℕ
  offset : ℕ

/-- `LogQueryResponse`. -/
structure LogQueryResponse where
  entries : List LogRow
  total : ℕ
  truncated : Bool

lemma percent_ne_underscore : '%' ≠ '_' := by decide

lemma percent_ne_backslash : '%' ≠ '\\' := by decide

lemma underscore_ne_backslash : '_' ≠ '\\' := by decide

/-- The characters with a meaning in `LIKE`. -/
def likeWildcards : Wildcards Char :=
  ⟨'%', '_', '\\', percent_ne_underscore, percent_ne_backslash, underscore_ne_backslash⟩

/-! ### The conditions -/

namespace LogQuery

/-- `ts >= {}`. -/
def tsFrom (row : LogRow) : LogValue → Bool
  | .timestamp t => decide (t ≤ row.ts)
  | _ => false

/-- `ts <= {}`. -/
def tsTo (row : LogRow) : LogValue → Bool
  | .timestamp t => decide (row.ts ≤ t)
  | _ => false

/-- `service = {}`. -/
def serviceIs (row : LogRow) : LogValue → Bool
  | .text s => row.service.toList == s
  | _ => false

/-- `level <= {}`. -/
def levelAtMost (row : LogRow) : LogValue → Bool
  | .smallint n => decide (row.level ≤ n)
  | _ => false

/-- `config_id = {}`. -/
def configIs (row : LogRow) : LogValue → Bool
  | .uuid u => row.configId == some u
  | _ => false

/-- `project_id = {}`. -/
def projectIs (db : LogDatabase) (row : LogRow) : LogValue → Bool
  | .text s => row.projectId.any fun p => db.sameProject p.toList s
  | _ => false

/-- `message ILIKE {}`. -/
def messageLike (db : LogDatabase) (row : LogRow) : LogValue → Bool
  | .text s => likeWildcards.ilike db.lower s row.message.toList
  | _ => false

/-- The three replacements of a search text. -/
def escaped (search : String) : List Char :=
  Wildcards.replace '_' ['\\', '_']
    (Wildcards.replace '%' ['\\', '%'] (Wildcards.replace '\\' ['\\', '\\'] search.toList))

/-- The dynamic `WHERE` clause and its parameters. -/
def build (db : LogDatabase) (q : LogQuery) : NumberedQuery LogRow LogValue :=
  (((((NumberedQuery.mk [(tsFrom, 1), (tsTo, 2)] [.timestamp q.fromTs, .timestamp q.toTs] 3
    ).pushSome serviceIs (q.service.map fun s => .text s.toList)
    ).pushSome levelAtMost (q.minLevel.map .smallint)
    ).pushSome configIs (q.configId.map .uuid)
    ).pushSome (projectIs db) (q.projectId.map fun s => .text s.toList)
    ).pushSome (messageLike db) (q.search.map fun s => .text ('%' :: escaped s ++ ['%']))

/-- `LIMIT ${} OFFSET ${}`. -/
def page (bound : List LogValue) (idx : ℕ) (rows : List LogRow) : List LogRow :=
  match bound[idx - 1]?, bound[idx]? with
  | some (.bigint limit), some (.bigint offset) => (rows.drop offset).take limit
  | _, _ => []

/-- `list`: the capped count and the page. -/
def list (db : LogDatabase) (table : List LogRow) (q : LogQuery) : LogQueryResponse :=
  let built := q.build db
  let total := ((table.filter (built.holds built.params)).take 10001).length
  let bound := built.params ++ [.bigint q.limit, .bigint q.offset]
  ⟨page bound built.nextIdx (db.order (table.filter (built.holds bound))), total,
    decide (10000 < total)⟩

/-! ### What it selects -/

/-- A row matches every filter that is given. -/
def Matches (db : LogDatabase) (q : LogQuery) (row : LogRow) : Prop :=
  (q.fromTs ≤ row.ts ∧ row.ts ≤ q.toTs) ∧
    (∀ s ∈ q.service, row.service = s) ∧
    (∀ n ∈ q.minLevel, row.level ≤ n) ∧
    (∀ u ∈ q.configId, row.configId = some u) ∧
    (∀ p ∈ q.projectId, ∃ r ∈ row.projectId, db.sameProject r.toList p.toList = true) ∧
    ∀ s ∈ q.search, s.toList.map db.lower <:+: row.message.toList.map db.lower

variable {db : LogDatabase} {q : LogQuery} {row : LogRow}

/-- The first two conditions are numbered by hand. -/
lemma fits_window (fromTs toTs : Time) : (NumberedQuery.mk [(tsFrom, 1), (tsTo, 2)]
    [LogValue.timestamp fromTs, .timestamp toTs] 3).Fits := ⟨rfl, by simp⟩

lemma build_fits (db : LogDatabase) (q : LogQuery) : (q.build db).Fits :=
  (((((fits_window q.fromTs q.toTs).pushSome _ _).pushSome _ _).pushSome _ _).pushSome _ _
    ).pushSome _ _

lemma escaped_eq (search : String) : escaped search = likeWildcards.escapeText search.toList :=
  Wildcards.replace_thrice (W := likeWildcards) search.toList

lemma window_holds (fromTs toTs : Time) : (NumberedQuery.mk [(tsFrom, 1), (tsTo, 2)]
    [LogValue.timestamp fromTs, .timestamp toTs] 3).holds [.timestamp fromTs, .timestamp toTs]
      row = true ↔ fromTs ≤ row.ts ∧ row.ts ≤ toTs := by
  simp [NumberedQuery.holds, tsFrom, tsTo]

lemma all_service : (q.service.map fun s => LogValue.text s.toList).all (serviceIs row) = true ↔
    ∀ s ∈ q.service, row.service = s := by
  rcases q.service with _ | s <;> simp [serviceIs, String.toList_inj]

lemma all_level : (q.minLevel.map LogValue.smallint).all (levelAtMost row) = true ↔
    ∀ n ∈ q.minLevel, row.level ≤ n := by
  rcases q.minLevel with _ | n <;> simp [levelAtMost]

lemma all_config : (q.configId.map LogValue.uuid).all (configIs row) = true ↔
    ∀ u ∈ q.configId, row.configId = some u := by
  rcases q.configId with _ | u <;> simp [configIs]

lemma all_project :
    (q.projectId.map fun s => LogValue.text s.toList).all (projectIs db row) = true ↔
      ∀ p ∈ q.projectId, ∃ r ∈ row.projectId, db.sameProject r.toList p.toList = true := by
  rcases q.projectId with _ | p <;> simp [projectIs, Option.any_eq_true]

/-- The pattern of a search text matches the messages that contain it, up to the folding. -/
lemma all_search (h : likeWildcards.Folds db.lower) :
    (q.search.map fun s => LogValue.text ('%' :: escaped s ++ ['%'])).all (messageLike db row) =
        true ↔ ∀ s ∈ q.search, s.toList.map db.lower <:+: row.message.toList.map db.lower := by
  rcases q.search with _ | s
  · simp
  · have hlike : likeWildcards.ilike db.lower ('%' :: escaped s ++ ['%']) row.message.toList =
        true ↔ s.toList.map db.lower <:+: row.message.toList.map db.lower := by
      rw [escaped_eq]
      exact Wildcards.ilike_contains h s.toList row.message.toList
    simpa [messageLike] using hlike

/-- The clause holds of the rows that match. -/
theorem holds_build (h : likeWildcards.Folds db.lower) :
    (q.build db).holds (q.build db).params row = true ↔ q.Matches db row := by
  have h0 := fits_window q.fromTs q.toTs
  have h1 := h0.pushSome serviceIs (q.service.map fun s => .text s.toList)
  have h2 := h1.pushSome levelAtMost (q.minLevel.map .smallint)
  have h3 := h2.pushSome configIs (q.configId.map .uuid)
  have h4 := h3.pushSome (projectIs db) (q.projectId.map fun s => .text s.toList)
  rw [build, h4.holds_pushSome, h3.holds_pushSome, h2.holds_pushSome, h1.holds_pushSome,
    h0.holds_pushSome]
  simp only [Bool.and_eq_true, window_holds, all_service, all_level, all_config, all_project,
    all_search h, and_assoc, Matches]

instance (db : LogDatabase) (q : LogQuery) (row : LogRow) : Decidable (q.Matches db row) :=
  inferInstanceAs (Decidable (_ ∧ _ ∧ _ ∧ _ ∧ _ ∧ _))

/-- **The listing is that of the matching rows.**  Whatever text is searched for, and whichever
of the filters are given: the page is cut from the ordered rows that match every given filter,
and the total counts them up to 10001. -/
theorem list_eq (h : likeWildcards.Folds db.lower) (table : List LogRow) (q : LogQuery) :
    q.list db table =
      ⟨((db.order (table.filter fun row => q.Matches db row)).drop q.offset).take q.limit,
        min 10001 (table.countP fun row => q.Matches db row),
        decide (10000 < table.countP fun row => q.Matches db row)⟩ := by
  have hfits := build_fits db q
  have hrows : ∀ more, table.filter ((q.build db).holds ((q.build db).params ++ more)) =
      table.filter fun row => q.Matches db row := fun more =>
    List.filter_congr fun row _ => by
      rw [hfits.holds_append, Bool.eq_iff_iff, holds_build h, decide_eq_true_iff]
  have hplain := hrows []
  rw [List.append_nil] at hplain
  have hlimit : ((q.build db).params ++ [.bigint q.limit, .bigint q.offset])[
      (q.build db).nextIdx - 1]? = some (LogValue.bigint q.limit) := by
    rw [hfits.next, Nat.add_sub_cancel, List.getElem?_append_right (Nat.le_refl _), Nat.sub_self]
    rfl
  have hoffset : ((q.build db).params ++ [.bigint q.limit, .bigint q.offset])[
      (q.build db).nextIdx]? = some (LogValue.bigint q.offset) := by
    rw [hfits.next, List.getElem?_append_right (Nat.le_succ _), Nat.succ_sub (Nat.le_refl _),
      Nat.sub_self]
    rfl
  rw [list, hrows, hplain, page, hlimit, hoffset, List.length_take, ← List.countP_eq_length_filter]
  congr 1
  rw [decide_eq_decide]
  omega

/-- A database that folds nothing. -/
def plainDatabase : LogDatabase := ⟨id, fun a b => a == b, id⟩

lemma folds_id : likeWildcards.Folds plainDatabase.lower :=
  ⟨fun _ _ => rfl, fun _ h => h⟩

/-- Two messages, one with the characters that a search looks for. -/
def twoRows : List LogRow :=
  [⟨0, "agent", 3, "100% of a_b", none, none, none, none⟩,
    ⟨1, "agent", 3, "1000 of axb", none, none, none, none⟩]

/-- A search for a text with a wildcard in it. -/
def searchPercent : LogQuery :=
  ⟨some "agent", none, none, none, some "0% of a_b", 0, 1, 200, 0⟩

theorem list_eq_of_percent :
    (searchPercent.list plainDatabase twoRows).entries.map LogRow.ts = [0] ∧
      searchPercent.list plainDatabase twoRows =
        ⟨((plainDatabase.order (twoRows.filter fun row =>
            searchPercent.Matches plainDatabase row)).drop 0).take 200,
          min 10001 (twoRows.countP fun row => searchPercent.Matches plainDatabase row),
          decide (10000 < twoRows.countP fun row => searchPercent.Matches plainDatabase row)⟩ :=
  ⟨by decide +kernel, list_eq folds_id twoRows searchPercent⟩

end LogQuery

/-! ### The endpoint -/

namespace LogsEndpoints

/-- `ParseLevelToDb`: the names and digits of the levels, in any case and with white space. -/
def parseLevelToDb (cs : Text.Casing) (table : Char → Bool) (level : Option String) : Option ℤ :=
  level.bind fun level =>
    let name := String.ofList (Text.upper cs (EndpointNormalizer.trim table level))
    if name ∈ ["ERROR", "ERR", "FATAL", "1"] then some 1
    else if name ∈ ["WARN", "WARNING", "2"] then some 2
    else if name ∈ ["INFO", "INF", "3", "INFORMATION"] then some 3
    else if name ∈ ["DEBUG", "DBG", "4"] then some 4
    else if name ∈ ["TRACE", "TRC", "5"] then some 5
    else none

/-- `Math.Clamp`. -/
def clamp (n low high : ℤ) : ℤ := min (max n low) high

/-- What a caller of `GET /api/logs` sends. -/
structure LogsRequest where
  isPlatformAdmin : Bool
  service : Option String
  level : Option String
  configId : Option Guid
  projectId : Option String
  search : Option String
  fromTs : Option Time
  toTs : Option Time
  limit : Option ℤ
  offset : Option ℤ

/-- The project filter of anyone but a platform admin is dropped. -/
def LogsRequest.project (req : LogsRequest) : Option String :=
  if req.isPlatformAdmin then req.projectId else none

/-- The query of a request at `now`. -/
def LogsRequest.query (cs : Text.Casing) (table : Char → Bool) (now : Time) (req : LogsRequest) :
    LogQuery :=
  let toTs := req.toTs.getD now
  { service := req.service
    minLevel := parseLevelToDb cs table req.level
    configId := req.configId
    projectId := req.project
    search := req.search
    fromTs := req.fromTs.getD (toTs - minutes 60)
    toTs := toTs
    limit := (clamp (req.limit.getD 200) 1 1000).toNat
    offset := (clamp (req.offset.getD 0) 0 10000).toNat }

/-- `GET /api/logs`: a search needs another filter, or the request is refused. -/
def getLogs (cs : Text.Casing) (table : Char → Bool) (db : LogDatabase) (rows : List LogRow)
    (now : Time) (req : LogsRequest) : Option LogQueryResponse :=
  if req.search.isSome && req.service.isNone && req.level.isNone && req.configId.isNone &&
      req.project.isNone then none
  else some ((req.query cs table now).list db rows)

/-- The query looks for a text and narrows the rows by nothing but the window. -/
def Unnarrowed (q : LogQuery) : Prop :=
  q.search ≠ none ∧ q.service = none ∧ q.minLevel = none ∧ q.configId = none ∧ q.projectId = none

variable {cs : Text.Casing} {table : Char → Bool} {db : LogDatabase} {rows : List LogRow}
  {now : Time} {req : LogsRequest}

lemma getLogs_eq_none : getLogs cs table db rows now req = none ↔ req.search ≠ none ∧
    req.service = none ∧ req.level = none ∧ req.configId = none ∧ req.project = none := by
  rw [getLogs, ite_eq_left_iff]
  simp only [reduceCtorEq, imp_false, not_not, Bool.and_eq_true, Option.isNone_iff_eq_none,
    Option.isSome_iff_ne_none, and_assoc]

/-- The rule about searches lets a level pass that is no level: the query then looks through
the whole window. -/
lemma unnarrowed_iff : (getLogs cs table db rows now req ≠ none ∧
    Unnarrowed (req.query cs table now)) ↔ (req.search ≠ none ∧ req.service = none ∧
      req.configId = none ∧ req.project = none) ∧
        ∃ level ∈ req.level, parseLevelToDb cs table (some level) = none := by
  rw [Ne, getLogs_eq_none]
  constructor
  · rintro ⟨hnot, hsearch, hservice, hlevel, hconfig, hproject⟩
    refine ⟨⟨hsearch, hservice, hconfig, hproject⟩, ?_⟩
    rcases hl : req.level with _ | level
    · exact absurd ⟨hsearch, hservice, hl, hconfig, hproject⟩ hnot
    · refine ⟨level, rfl, ?_⟩
      rw [← hl]
      exact hlevel
  · rintro ⟨⟨hsearch, hservice, hconfig, hproject⟩, level, hl, hparse⟩
    refine ⟨fun hall => ?_, hsearch, hservice, ?_, hconfig, hproject⟩
    · rw [hall.2.2.1] at hl
      exact Option.some_ne_none level hl.symm
    · have hlevel : req.level = some level := hl
      rw [← hlevel] at hparse
      exact hparse

/-- **What `GET /api/logs` answers.**  It refuses a search without another filter; else it lists
the rows that match the window and every filter that is given, but the project only for a
platform admin and the level only if it is one, and a page of a thousand rows at most.  A search
is narrowed by no filter exactly where the level given is none. -/
theorem getLogs_spec (h : likeWildcards.Folds db.lower) (cs : Text.Casing) (table : Char → Bool)
    (rows : List LogRow) (now : Time) (req : LogsRequest) :
    (getLogs cs table db rows now req = none ↔ req.search ≠ none ∧
      req.service = none ∧ req.level = none ∧ req.configId = none ∧ req.project = none) ∧
    (∀ response, getLogs cs table db rows now req = some response →
      response.entries = ((db.order (rows.filter fun row =>
        (req.query cs table now).Matches db row)).drop (req.query cs table now).offset).take
          (req.query cs table now).limit ∧ response.entries.length ≤ 1000) ∧
    ((getLogs cs table db rows now req ≠ none ∧ Unnarrowed (req.query cs table now)) ↔
      (req.search ≠ none ∧ req.service = none ∧ req.configId = none ∧ req.project = none) ∧
        ∃ level ∈ req.level, parseLevelToDb cs table (some level) = none) := by
  refine ⟨getLogs_eq_none, ?_, unnarrowed_iff⟩
  intro response hresponse
  rw [getLogs] at hresponse
  split_ifs at hresponse
  obtain rfl := Option.some.inj hresponse
  rw [LogQuery.list_eq h]
  refine ⟨rfl, ?_⟩
  have hlimit : (req.query cs table now).limit ≤ 1000 := by
    have hclamp : clamp (req.limit.getD 200) 1 1000 ≤ 1000 := min_le_right _ _
    have htoNat : (clamp (req.limit.getD 200) 1 1000).toNat ≤ 1000 := by omega
    exact htoNat
  exact (List.length_take_le _ _).trans hlimit

/-- A search of anyone with a level that is none. -/
def strayLevel : LogsRequest :=
  ⟨false, none, some "loud", none, some "p", some "0% of a_b", none, none, none, none⟩

theorem getLogs_spec_of_stray_level :
    strayLevel.project = none ∧
      ((getLogs .ascii (fun _ => false) LogQuery.plainDatabase LogQuery.twoRows 1 strayLevel ≠
          none ∧ Unnarrowed (strayLevel.query .ascii (fun _ => false) 1)) ↔
        (strayLevel.search ≠ none ∧ strayLevel.service = none ∧ strayLevel.configId = none ∧
            strayLevel.project = none) ∧
          ∃ level ∈ strayLevel.level,
            parseLevelToDb .ascii (fun _ => false) (some level) = none) :=
  ⟨rfl, (getLogs_spec LogQuery.folds_id .ascii (fun _ => false) LogQuery.twoRows 1
    strayLevel).2.2⟩

end LogsEndpoints

end Networker
