/-
Which deployments a teardown sweep releases.

* `teardownQueue`: the finished runs with the deployments they hold, oldest finish first,
  and `teardownCandidates_eq`: the batch is the front of that queue;
* `deferred`, `Eligible`: the candidates a sweep holds back, and the deployments its rules
  allow to be torn down;
* `teardownOne_ends`: what one turn of the loop does;
* `Released`, `teardownFinishedRuns_ends`: what a sweep has released behind its batch;
* `teardown_complete_iff`: a sweep with room to spare leaves no eligible deployment exactly
  if its batch has a candidate for each, or releases a deployment with each candidate;
* `deferred_candidates_fill_batch`: referenced deployments in front of an idle one.
-/
import Networker.ControlPlane.Routines
import Networker.ControlPlane.Statements

namespace Networker

open Data Concurrency

namespace ProvisioningOrchestrator

/-! ### The queue -/

/-- The finished runs past the grace with the deployments they hold. -/
def finishedPairs (graceCutoff : Time) (w : World) : List TeardownCandidate :=
  (w.runs.select fun r => r.status.terminal).filterMap fun r =>
    match r.finishedAt, heldDeployment w r with
    | some f, some d => if f < graceCutoff then some ⟨r.id, f, d⟩ else none
    | _, _ => none

/-- The queue of a sweep, oldest finish first. -/
def teardownQueue (w : World) : List TeardownCandidate :=
  oldest TeardownCandidate.runFinishedAt
    (oldest (fun c => (c.runId : ℤ)) (finishedPairs (w.now - teardownGrace) w))

/-- The candidates a sweep looks at. -/
def teardownBatch (w : World) : List TeardownCandidate := (teardownQueue w).take kickBatchLimit

lemma teardownCandidates_eq (w : World) :
    teardownCandidates (w.now - teardownGrace) w = teardownBatch w := rfl

/-- The sweep holds the candidate back: its failure is too recent, or an active run refers
to one of its hosts. -/
def deferred (w : World) (c : TeardownCandidate) : Bool :=
  heldForReaper w.now c ||
    (EndpointAddressing.allHosts c.dep.endpointIps c.dep.endpointHosts).any fun host =>
      (activeRefs w).any fun ref => Text.containsIgnoreCase ref host

/-- The rules of the sweep allow the deployment to be torn down: all runs linked to it have
ended, and one of them makes it a candidate that is not deferred. -/
structure Eligible (w : World) (d : Guid) : Prop where
  ended : ∀ r ∈ w.runs.rows, r.provisioningDeploymentId = some d → r.status.terminal = true
  candidate : ∃ c ∈ teardownQueue w, c.dep.deploymentId = d ∧ deferred w c = false

/-- A candidate carries the row of its deployment, which is not torn down. -/
lemma dep_of_mem_teardownQueue {w : World} {c : TeardownCandidate} (h : c ∈ teardownQueue w) :
    w.deployments.find? c.dep.deploymentId = some c.dep ∧ c.dep.status ≠ .tornDown := by
  rw [teardownQueue, mem_oldest, mem_oldest] at h
  obtain ⟨r, -, hc⟩ := List.mem_filterMap.mp h
  cases hf : r.finishedAt with
  | none =>
      rw [hf] at hc
      exact absurd hc (by simp)
  | some f =>
      cases hd : heldDeployment w r with
      | none =>
          rw [hf, hd] at hc
          exact absurd hc (by simp)
      | some d =>
          rw [hf, hd] at hc
          dsimp only at hc
          split_ifs at hc
          obtain rfl := Option.some.inj hc
          rw [heldDeployment, Option.filter_eq_some_iff, Option.bind_eq_some_iff] at hd
          obtain ⟨⟨id, -, hfind⟩, hlive⟩ := hd
          have hid : d.deploymentId = id := Table.key_of_find? hfind
          exact ⟨by rw [hid]; exact hfind, by simpa using hlive⟩

/-! ### One turn -/

/-- Starting the background teardown leaves the tables alone. -/
lemma spawnTeardown_ends (dep : Deployment) (hosts : List String) (s : World) :
    (spawnTeardown dep hosts).Ends Stmt.exec s fun _ s' =>
      s.SameSetting s' ∧ s'.deployments = s.deployments := by
  rw [spawnTeardown]
  refine Proc.ends_issue_bind.mpr ?_
  rw [exec_query]
  dsimp only
  split
  · split_ifs
    · exact Proc.ends_ret.mpr ⟨.refl s, rfl⟩
    · exact Proc.ends_issue.mpr ⟨sameSetting_exec rfl s, rfl⟩
  · exact Proc.ends_ret.mpr ⟨.refl s, rfl⟩

/-- The claim on a deployment. -/
def claimed (c : TeardownCandidate) (s : World) : World :=
  Stmt.exec (.updateDeployment c.dep.deploymentId (.claimTeardown c.dep.status)) s

/-- One turn of the loop: a deferred candidate is skipped, and otherwise the deployment is
claimed, which counts if its row still has the status that was read. -/
lemma teardownOne_ends {w s : World} (hs : w.SameSetting s) (c : TeardownCandidate) :
    (teardownOne (activeRefs w) c).Ends Stmt.exec s fun b s' =>
      (deferred w c = true → b = false ∧ s' = s) ∧
        (deferred w c = false → w.SameSetting s' ∧ s'.deployments = (claimed c s).deployments ∧
          b = s.deployments.hits c.dep.deploymentId
            (DeploymentWrite.claimTeardown c.dep.status).guard) := by
  have hskip : deferred w c = true → (Proc.ret false : Svc Bool).Ends Stmt.exec s fun b s' =>
      (deferred w c = true → b = false ∧ s' = s) ∧
        (deferred w c = false → w.SameSetting s' ∧ s'.deployments = (claimed c s).deployments ∧
          b = s.deployments.hits c.dep.deploymentId
            (DeploymentWrite.claimTeardown c.dep.status).guard) := fun hdef =>
    Proc.ends_ret.mpr ⟨fun _ => ⟨rfl, rfl⟩, fun hno => absurd (hdef.symm.trans hno) (by simp)⟩
  rw [teardownOne]
  refine Proc.ends_issue_bind.mpr ?_
  rw [exec_query, hs.now]
  by_cases hheld : heldForReaper w.now c = true
  · rw [if_pos hheld]
    exact hskip (by rw [deferred, hheld, Bool.true_or])
  · rw [if_neg hheld]
    dsimp only
    split_ifs with href
    · exact hskip (by rw [deferred, href, Bool.or_true])
    · have hdef : deferred w c = false := by
        rw [← Bool.not_eq_true, deferred, Bool.or_eq_true]
        exact fun h => h.elim hheld href
      have hset : w.SameSetting (claimed c s) := hs.trans (sameSetting_exec rfl s)
      refine Proc.ends_issue_bind.mpr ?_
      simp only [hdef, Bool.false_eq_true, false_implies, true_implies, true_and]
      cases hhit : s.deployments.hits c.dep.deploymentId
          (DeploymentWrite.claimTeardown c.dep.status).guard with
      | false => exact Proc.ends_ret.mpr ⟨hset, rfl, rfl⟩
      | true =>
          refine (spawnTeardown_ends c.dep _ (claimed c s)).bind fun _ s' hs' => ?_
          exact Proc.ends_ret.mpr ⟨hset.trans hs'.1, hs'.2, rfl⟩

/-! ### A sweep -/

/-- The deployments of the candidates that are not deferred. -/
def releasable (w : World) (cs : List TeardownCandidate) : List Guid :=
  (cs.filter fun c => !deferred w c).map fun c => c.dep.deploymentId

lemma mem_releasable {w : World} {cs : List TeardownCandidate} {d : Guid} :
    d ∈ releasable w cs ↔ ∃ c ∈ cs, c.dep.deploymentId = d ∧ deferred w c = false := by
  simp only [releasable, List.mem_map, List.mem_filter, Bool.not_eq_true']
  constructor
  · rintro ⟨c, ⟨hc, hdef⟩, hd⟩
    exact ⟨c, hc, hd, hdef⟩
  · rintro ⟨c, hc, hd, hdef⟩
    exact ⟨c, ⟨hc, hdef⟩, hd⟩

lemma releasable_append (w : World) (cs : List TeardownCandidate) (c : TeardownCandidate) :
    releasable w (cs ++ [c]) =
      if deferred w c = true then releasable w cs
      else releasable w cs ++ [c.dep.deploymentId] := by
  rw [releasable, List.filter_append, List.map_append, ← releasable]
  cases hdef : deferred w c <;> simp [hdef]

/-- In the setting of `w`, exactly the deployments of the candidates in `done` that are not
deferred are torn down, and `n` is their number. -/
structure Released (w : World) (done : List TeardownCandidate) (n : ℕ) (s : World) : Prop where
  setting : w.SameSetting s
  torn : ∀ d ∈ releasable w done, ∃ d', s.deployments.find? d = some d' ∧ d'.status = .tornDown
  rest : ∀ d, d ∉ releasable w done → s.deployments.find? d = w.deployments.find? d
  count : n = (releasable w done).toFinset.card

lemma Released.start (w : World) : Released w [] 0 w where
  setting := .refl w
  torn := by simp [releasable]
  rest _ _ := rfl
  count := rfl

/-- The claim on a deployment that is still there tears it down. -/
lemma find?_claimed_self {c : TeardownCandidate} {s : World}
    (h : s.deployments.find? c.dep.deploymentId = some c.dep) :
    ∃ d', (claimed c s).deployments.find? c.dep.deploymentId = some d' ∧ d'.status = .tornDown := by
  have hg : (DeploymentWrite.claimTeardown c.dep.status).guard c.dep = true := by
    simp [DeploymentWrite.guard]
  refine ⟨(DeploymentWrite.claimTeardown c.dep.status).set s.now c.dep, ?_, rfl⟩
  rw [claimed, Stmt.exec, updateDeployments, Table.find?_update_self, h, Option.map_some, if_pos hg]

/-- The claim on a deployment that is torn down changes nothing. -/
lemma find?_claimed_torn {c : TeardownCandidate} {s : World} {d' : Deployment}
    (h : s.deployments.find? c.dep.deploymentId = some d') (htorn : d'.status = .tornDown)
    (hlive : c.dep.status ≠ .tornDown) :
    (claimed c s).deployments.find? c.dep.deploymentId = some d' ∧
      s.deployments.hits c.dep.deploymentId
        (DeploymentWrite.claimTeardown c.dep.status).guard = false := by
  have hg : (DeploymentWrite.claimTeardown c.dep.status).guard d' = false := by
    simpa [DeploymentWrite.guard, htorn] using Ne.symm hlive
  constructor
  · rw [claimed, Stmt.exec, updateDeployments, Table.find?_update_self, h, Option.map_some, hg]
    rfl
  · rw [Table.hits, h, Option.any_some, hg]

lemma find?_claimed_ne {c : TeardownCandidate} {s : World} {d : Guid}
    (hd : d ≠ c.dep.deploymentId) :
    (claimed c s).deployments.find? d = s.deployments.find? d :=
  find?_updateDeployments_ne hd _ s

/-- One turn of the loop moves the sweep on by its candidate. -/
lemma Released.turn {w s : World} {done : List TeardownCandidate} {n : ℕ}
    (hs : Released w done n s) {c : TeardownCandidate} (hc : c ∈ teardownQueue w) :
    (teardownOne (activeRefs w) c).Ends Stmt.exec s
      fun b s' => Released w (done ++ [c]) (n + b.toNat) s' := by
  obtain ⟨hfind, hlive⟩ := dep_of_mem_teardownQueue hc
  refine (teardownOne_ends hs.setting c).mono fun b s' hpost => ?_
  by_cases hdef : deferred w c = true
  · obtain ⟨rfl, rfl⟩ := hpost.1 hdef
    have hsame : releasable w (done ++ [c]) = releasable w done := by
      rw [releasable_append, if_pos hdef]
    exact ⟨hs.setting, by rw [hsame]; exact hs.torn, by rw [hsame]; exact hs.rest,
      by rw [hsame]; exact hs.count⟩
  · obtain ⟨hset, hdeps, rfl⟩ := hpost.2 (Bool.not_eq_true _ ▸ hdef)
    have hnew : releasable w (done ++ [c]) = releasable w done ++ [c.dep.deploymentId] := by
      rw [releasable_append, if_neg hdef]
    by_cases hmem : c.dep.deploymentId ∈ releasable w done
    · -- an earlier candidate has released the deployment
      obtain ⟨d', hd', htorn⟩ := hs.torn _ hmem
      obtain ⟨hkeep, hmiss⟩ := find?_claimed_torn hd' htorn hlive
      have hsub : ∀ d, (claimed c s).deployments.find? d = s.deployments.find? d := by
        intro d
        by_cases hd : d = c.dep.deploymentId
        · rw [hd, hkeep, hd']
        · exact find?_claimed_ne hd
      refine ⟨hset, fun d hd => ?_, fun d hd => ?_, ?_⟩
      · rw [hdeps, hsub]
        rw [hnew, List.mem_append, List.mem_singleton] at hd
        rcases hd with hd | rfl
        · exact hs.torn d hd
        · exact ⟨d', hd', htorn⟩
      · rw [hdeps, hsub]
        exact hs.rest d fun h => hd (hnew ▸ List.mem_append_left _ h)
      · rw [hmiss, hnew, List.toFinset_append, Finset.union_eq_left.mpr (by simpa using hmem)]
        exact hs.count
    · have hrow : s.deployments.find? c.dep.deploymentId = some c.dep :=
        (hs.rest _ hmem).trans hfind
      have hhit : s.deployments.hits c.dep.deploymentId
          (DeploymentWrite.claimTeardown c.dep.status).guard = true :=
        Table.hits_iff.mpr ⟨c.dep, hrow, by simp [DeploymentWrite.guard]⟩
      refine ⟨hset, fun d hd => ?_, fun d hd => ?_, ?_⟩
      · rw [hdeps]
        by_cases hdc : d = c.dep.deploymentId
        · rw [hdc]
          exact find?_claimed_self hrow
        · rw [find?_claimed_ne hdc]
          rw [hnew, List.mem_append, List.mem_singleton] at hd
          exact hs.torn d (hd.resolve_right hdc)
      · rw [hnew, List.mem_append, List.mem_singleton, not_or] at hd
        rw [hdeps, find?_claimed_ne hd.2]
        exact hs.rest d hd.1
      · have hcard : (releasable w done ++ [c.dep.deploymentId]).toFinset.card =
            (releasable w done).toFinset.card + 1 := by
          rw [List.toFinset_append, List.toFinset_cons, List.toFinset_nil, insert_empty_eq,
            Finset.union_comm, Finset.singleton_union, Finset.card_insert_of_notMem]
          simpa using hmem
        rw [hhit, hnew, hcard, ← hs.count]
        rfl

/-- A sweep releases the deployments of the candidates of its batch that are not deferred,
and counts them. -/
lemma teardownFinishedRuns_ends (w : World) :
    teardownFinishedRuns.Ends Stmt.exec w fun n s => Released w (teardownBatch w) n s := by
  rw [teardownFinishedRuns]
  refine Proc.ends_issue_bind.mpr (Proc.ends_issue_bind.mpr ?_)
  rw [exec_query, exec_query, teardownCandidates_eq]
  split_ifs with hempty
  · rw [List.isEmpty_iff] at hempty
    rw [hempty]
    exact Proc.ends_ret.mpr (.start w)
  · refine Proc.ends_issue_bind.mpr ?_
    rw [exec_query]
    refine (Proc.Ends.count_through (I := Released w) (fun done c rest n s hall hs => ?_)
      (teardownBatch w) (List.nil_append _).symm (.start w)).mono fun n s hs => ?_
    · have hc : c ∈ teardownBatch w := by simp [hall]
      exact hs.turn (List.mem_of_mem_take hc)
    · rwa [Nat.zero_add] at hs

lemma card_releasable_le (w : World) (cs : List TeardownCandidate) :
    (releasable w cs).toFinset.card ≤ cs.length := by
  calc (releasable w cs).toFinset.card ≤ (releasable w cs).length := List.toFinset_card_le _
    _ = (cs.filter fun c => !deferred w c).length := List.length_map _
    _ ≤ cs.length := List.length_filter_le _ _

/-- Each candidate releases a deployment of its own exactly if none is deferred and no two
share one. -/
lemma card_releasable_eq_length_iff (w : World) (cs : List TeardownCandidate) :
    (releasable w cs).toFinset.card = cs.length ↔
      (∀ c ∈ cs, deferred w c = false) ∧ (cs.map fun c => c.dep.deploymentId).Nodup := by
  have hcard : (releasable w cs).toFinset.card ≤ (releasable w cs).length := List.toFinset_card_le _
  have hmap : (releasable w cs).length = (cs.filter fun c => !deferred w c).length :=
    List.length_map _
  have hfilter : (cs.filter fun c => !deferred w c).length ≤ cs.length := List.length_filter_le _ _
  constructor
  · intro h
    have hall : ∀ c ∈ cs, deferred w c = false := by
      have := List.length_filter_eq_length_iff.mp (show
        (cs.filter fun c => !deferred w c).length = cs.length by omega)
      simpa using this
    refine ⟨hall, ?_⟩
    have hsame : releasable w cs = cs.map fun c => c.dep.deploymentId := by
      rw [releasable, List.filter_eq_self.mpr (by simpa using hall)]
    rw [← hsame]
    refine List.dedup_eq_self.mp ((List.dedup_sublist _).eq_of_length ?_)
    rw [← List.card_toFinset]
    omega
  · rintro ⟨hall, hnd⟩
    rw [releasable, List.filter_eq_self.mpr (by simpa using hall), List.toFinset_card_of_nodup hnd,
      List.length_map]

/-- A sweep that tears down fewer deployments than its limit leaves no eligible one. -/
def TeardownComplete (w : World) : Prop :=
  teardownFinishedRuns.Ends Stmt.exec w fun n s => n < kickBatchLimit →
    ∀ d, Eligible w d → ∃ d', s.deployments.find? d = some d' ∧ d'.status = .tornDown

end ProvisioningOrchestrator

open ProvisioningOrchestrator

/-- **Teardown progress.**  A sweep that tears down fewer deployments than its limit leaves
no eligible deployment if and only if every eligible deployment has a candidate in the
batch that is not deferred, or no candidate of the batch is deferred and no two of them
share a deployment. -/
theorem teardown_complete_iff (w : World) :
    TeardownComplete w ↔
      (∀ d, Eligible w d →
        ∃ c ∈ teardownBatch w, c.dep.deploymentId = d ∧ deferred w c = false) ∨
      (∀ c ∈ teardownBatch w, deferred w c = false) ∧
        ((teardownBatch w).map fun c => c.dep.deploymentId).Nodup := by
  obtain ⟨n, s, hrun, hs⟩ := teardownFinishedRuns_ends w
  have hlen : (teardownBatch w).length ≤ kickBatchLimit := List.length_take_le _ _
  have hmiss : ∀ d, Eligible w d → d ∉ releasable w (teardownBatch w) →
      ¬ ∃ d', s.deployments.find? d = some d' ∧ d'.status = .tornDown := by
    rintro d ⟨-, c, hc, rfl, -⟩ hout ⟨d', hd', htorn⟩
    obtain ⟨hfind, hlive⟩ := dep_of_mem_teardownQueue hc
    rw [hs.rest _ hout, hfind, Option.some.injEq] at hd'
    exact hlive (hd' ▸ htorn)
  have hcomplete : TeardownComplete w ↔ (n < kickBatchLimit →
      ∀ d, Eligible w d → d ∈ releasable w (teardownBatch w)) := by
    constructor
    · rintro ⟨m, t, hrun', hpost⟩ hlt d hd
      rw [hrun, Prod.mk.injEq, Except.ok.injEq] at hrun'
      obtain ⟨rfl, rfl⟩ := hrun'
      by_contra hout
      exact hmiss d hd hout (hpost hlt d hd)
    · exact fun hall => ⟨n, s, hrun, fun hlt d hd => hs.torn d (hall hlt d hd)⟩
  have hdistinct := card_releasable_eq_length_iff w (teardownBatch w)
  rw [← hs.count] at hdistinct
  simp only [← mem_releasable]
  rw [hcomplete, ← hdistinct]
  have hle : n ≤ (teardownBatch w).length := by
    rw [hs.count]
    exact card_releasable_le w (teardownBatch w)
  constructor
  · intro hall
    by_cases hlt : n < kickBatchLimit
    · exact Or.inl (hall hlt)
    · exact Or.inr (by omega)
  · rintro (hall | hfull) hlt
    · exact hall
    · -- the batch is the whole queue
      have hqueue : teardownBatch w = teardownQueue w := by
        refine List.take_of_length_le ?_
        have hshort : min kickBatchLimit (teardownQueue w).length < kickBatchLimit := by
          rw [← List.length_take, ← teardownBatch, ← hfull]
          exact hlt
        omega
      rintro d ⟨-, hcand⟩
      rw [hqueue]
      exact mem_releasable.mpr hcand

namespace ReusedEndpoints

def host (i : ℕ) : String := "vm" ++ Text.ofNat i

/-- A config that targets a host. -/
def config (i : ℕ) : TestConfig :=
  .basic i "p" "network" (.obj [("host", .str (host i)), ("kind", .str "network")])
    (.obj [("modes", .arr [.str "http1"])])

/-- A deployment that has captured a host. -/
def deployment (i : ℕ) : Deployment :=
  { newDeployment ⟨"auto", .obj [], none, "p", none⟩ 0 i with
    status := .completed
    endpointIps := some (.arr [.str (host i)]) }

/-- The run that has finished on a deployment. -/
def finished (i : ℕ) : TestRun :=
  { newRun (config i) none none 0 i with
    status := .completed
    finishedAt := some i
    provisioningDeploymentId := some i }

/-- Twenty-six finished runs; the hosts of all but the last are targets of queued runs. -/
def world : World :=
  { World.initial with
    now := minutes 60
    configs := ⟨(List.range 26).map config, 26, by decide, by decide⟩
    deployments := ⟨(List.range 26).map deployment, 26, by decide, by decide⟩
    runs := ⟨(List.range 26).map finished ++
      (List.range 25).map (fun i => newRun (config i) none none 0 (26 + i)), 51,
      by decide, by decide⟩ }

/-- The characters of a config's reference. -/
lemma toList_render_endpointRef (i : ℕ) : (config i).endpointRef.render.toList =
    "\x7b\"host\": \"vm".toList ++
      (Nat.toDigits 10 i).flatMap (fun c => if c = '"' ∨ c = '\\' then ['\\', c] else [c]) ++
        "\", \"kind\": \"network\"\x7d".toList := by
  simp [config, TestConfig.basic, Json.render, Json.renderFields, Json.quote, Text.join, host,
    Text.ofNat]

/-- The reference of a config contains its host, and not the last one. -/
lemma reference_contains : ∀ i < 25,
    Text.containsIgnoreCase (config i).endpointRef.render (host i) = true ∧
      Text.containsIgnoreCase (config i).endpointRef.render (host 25) = false := by
  simp only [Text.containsIgnoreCase, Text.upper, toList_render_endpointRef, host,
    String.toList_append, Text.ofNat, String.toList_ofList]
  decide

/-- Every host but the last is in one of the references. -/
lemma any_reference {j : ℕ} (hj : j < 26) : ((List.range 25).any fun i =>
    Text.containsIgnoreCase (config i).endpointRef.render (host j)) = decide (j < 25) := by
  by_cases hlast : j < 25
  · rw [decide_eq_true hlast, List.any_eq_true]
    exact ⟨j, List.mem_range.mpr hlast, (reference_contains j hlast).1⟩
  · obtain rfl : j = 25 := by omega
    rw [decide_eq_false hlast, List.any_eq_false]
    intro i hi
    rw [(reference_contains i (List.mem_range.mp hi)).2]
    exact Bool.false_ne_true

lemma find?_configs {i : ℕ} (hi : i < 26) : world.configs.find? i = some (config i) :=
  Table.find?_key (t := world.configs) (List.mem_map_of_mem (List.mem_range.mpr hi))

lemma find?_deployments {i : ℕ} (hi : i < 26) : world.deployments.find? i = some (deployment i) :=
  Table.find?_key (t := world.deployments) (List.mem_map_of_mem (List.mem_range.mpr hi))

/-- The runs that have not ended refer to the first twenty-five hosts. -/
lemma activeRefs_world :
    activeRefs world = (List.range 25).map fun i => (config i).endpointRef.render := by
  have hactive : (world.runs.select fun r => !r.status.terminal) =
      (List.range 25).map fun i => newRun (config i) none none 0 (26 + i) := by
    have hended : ((List.range 26).map finished).filter (fun r => !r.status.terminal) = [] := by
      simp [finished, RunStatus.terminal]
    have hqueued : ((List.range 25).map fun i => newRun (config i) none none 0 (26 + i)).filter
        (fun r => !r.status.terminal) =
          (List.range 25).map fun i => newRun (config i) none none 0 (26 + i) := by
      simp [newRun, RunStatus.terminal]
    rw [Table.select, world, List.filter_append, hended, hqueued, List.nil_append]
  rw [activeRefs, hactive, List.filterMap_map]
  refine List.filterMap_eq_map_iff_forall_eq_some.mpr fun i hi => ?_
  rw [Function.comp_apply, World.configOf]
  have hi : i < 26 := (List.mem_range.mp hi).trans (by decide)
  have hfind : world.configs.find? (newRun (config i) none none 0 (26 + i)).testConfigId =
    some (config i) := find?_configs hi
  rw [hfind, Option.map_some]

/-- The candidates are the deployments in the order in which their runs finished. -/
lemma ids_teardownQueue :
    (teardownQueue world).map (fun c => c.dep.deploymentId) = List.range 26 := by
  rfl

lemma allHosts_deployment : ∀ i < 26, EndpointAddressing.allHosts (deployment i).endpointIps
    (deployment i).endpointHosts = [host i] := by
  decide

/-- Every candidate but the last is deferred. -/
lemma deferred_eq {c : TeardownCandidate} (hc : c ∈ teardownQueue world) :
    deferred world c = decide (c.dep.deploymentId < 25) := by
  obtain ⟨i, hid⟩ : ∃ i, c.dep.deploymentId = i := ⟨_, rfl⟩
  have hi : i < 26 := by
    have hmem := List.mem_map_of_mem (f := fun c => c.dep.deploymentId) hc
    rwa [ids_teardownQueue, List.mem_range, hid] at hmem
  have hdep : c.dep = deployment i := by
    have hfind := (dep_of_mem_teardownQueue hc).1
    rw [hid, find?_deployments hi] at hfind
    exact (Option.some.inj hfind).symm
  have hheld : heldForReaper world.now c = false := by
    rw [heldForReaper, hdep]
    rfl
  rw [hid, deferred, hheld, Bool.false_or, hdep, allHosts_deployment i hi, activeRefs_world,
    List.any_cons, List.any_nil, Bool.or_false, List.any_map, Function.comp_def, any_reference hi]

end ReusedEndpoints

open ReusedEndpoints in
/-- The sweep tears nothing down, although the last deployment is eligible. -/
theorem deferred_candidates_fill_batch : Eligible world 25 ∧ ¬ TeardownComplete world := by
  have hel : Eligible world 25 := by
    refine ⟨by decide, ?_⟩
    have hmem : 25 ∈ (teardownQueue world).map fun c => c.dep.deploymentId := by
      rw [ids_teardownQueue]
      decide
    obtain ⟨c, hc, hid⟩ := List.mem_map.mp hmem
    refine ⟨c, hc, hid, ?_⟩
    rw [deferred_eq hc, hid]
    rfl
  -- the twenty-five candidates of the batch are in front of the last deployment
  have hids : ∀ c ∈ teardownBatch world, c.dep.deploymentId < 25 := by
    intro c hc
    have hmem := List.mem_map_of_mem (f := fun c => c.dep.deploymentId) hc
    rw [teardownBatch, List.map_take, ids_teardownQueue, List.take_range] at hmem
    exact List.mem_range.mp hmem
  have hnone : releasable world (teardownBatch world) = [] := by
    rw [releasable, List.map_eq_nil_iff, List.filter_eq_nil_iff]
    intro c hc
    rw [deferred_eq (List.mem_of_mem_take hc), decide_eq_true (hids c hc)]
    decide
  refine ⟨hel, ?_⟩
  rintro ⟨n, s, hrun, hall⟩
  obtain ⟨m, t, hrun', hrel⟩ := teardownFinishedRuns_ends world
  rw [hrun, Prod.mk.injEq, Except.ok.injEq] at hrun'
  obtain ⟨rfl, rfl⟩ := hrun'
  have hcount : n = 0 := by rw [hrel.count, hnone]; rfl
  have hkeep : s.deployments.find? 25 = some (deployment 25) := by
    rw [hrel.rest 25 (by rw [hnone]; exact List.not_mem_nil), find?_deployments (by decide)]
  obtain ⟨d', hd', htorn⟩ := hall (by rw [hcount]; decide) 25 hel
  obtain rfl : deployment 25 = d' := Option.some.inj (hkeep.symm.trans hd')
  exact absurd htorn (by decide)

end Networker
