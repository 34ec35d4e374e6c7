/-
Whether the orphan reaper spares the VMs that live deployments declare.

* `declaredNames`, `leadName`, `Readable`: what a deploy config declares, the one
  name the reaper takes from it, and the configs it can read;
* `vmNameFromDeployConfig_eq`, `protectedNames_eq`: the protected names are the tester
  names and the lead names, up to case;
* `mem_filterOrphans`: what the filter selects;
* `Covered`, `not_selected_of_covered`, `exists_selected_of_not_covered`: a declared
  name is safe exactly if every owned name of its VM extends a protected name;
* `spares_declared_iff`: the condition for a whole sweep;
* `second_endpoint_selected`: a live deployment with two VMs.
-/
import Networker.ControlPlane.OrphanReaper

namespace Networker

open Data Concurrency

namespace OrphanReaper

/-! ### What a config declares -/

/-- The endpoint blocks of a deploy config. -/
def endpointBlocks (config : Json) : List Json :=
  ((config.get? "endpoints").bind Json.items?).getD []

/-- Every VM name the endpoints of a config declare, in document order. -/
def declaredNames (config : Json) : List String :=
  (endpointBlocks config).flatMap fun ep => nameMembers.filterMap (blockName ep)

/-- The first declared name of a config within the depth limit of the parser. -/
def leadName (config : Json) : Option String :=
  if config.depth ≤ Json.maxDepth then (declaredNames config).head? else none

/-- The blocks in front of the first one that declares a name. -/
def leadingBlocks (config : Json) : List Json :=
  (endpointBlocks config).takeWhile fun ep => (nameMembers.findSome? (blockName ep)).isNone

/-- The config is an object, and so is every endpoint up to the first name; a config
beyond the depth limit is skipped. -/
def Readable (config : Json) : Prop :=
  config.depth ≤ Json.maxDepth →
    config.isObj = true ∧ ∀ ep ∈ leadingBlocks config, ep.isObj = true

instance (config : Json) : Decidable (Readable config) :=
  inferInstanceAs (Decidable (_ → _ ∧ ∀ ep ∈ leadingBlocks config, ep.isObj = true))

/-- A block that declares a name is an object. -/
lemma isObj_of_blockName {ep : Json} {n : String} (h : nameMembers.findSome? (blockName ep) = some n) :
    ep.isObj = true := by
  cases ep with
  | obj fs => rfl
  | _ => simp [nameMembers, blockName, Json.get?] at h

/-- The search over the endpoint blocks returns the first declared name, unless a block
in front of it is not an object. -/
lemma firstName_eq (eps : List Json) :
    firstName eps =
      if ∀ ep ∈ eps.takeWhile fun ep => (nameMembers.findSome? (blockName ep)).isNone,
          ep.isObj = true
      then .ok (eps.findSome? fun ep => nameMembers.findSome? (blockName ep))
      else .error .invalidOperation := by
  induction eps with
  | nil => simp [firstName]
  | cons ep eps ih =>
      rw [firstName]
      cases hn : nameMembers.findSome? (blockName ep) with
      | some n =>
          have hobj : ep.isObj = true := isObj_of_blockName hn
          simp [hobj, hn]
      | none =>
          by_cases hobj : ep.isObj = true
          · simp [hobj, hn, ih]
          · simp [hobj, hn]

/-- The first of the declared names, block by block. -/
lemma head?_declaredNames (config : Json) :
    (declaredNames config).head? =
      (endpointBlocks config).findSome? fun ep => nameMembers.findSome? (blockName ep) := by
  rw [declaredNames, List.head?_flatMap]
  simp only [List.head?_filterMap]

/-- `VmNameFromDeployConfig` returns the lead name of a readable config and raises on
the others. -/
lemma vmNameFromDeployConfig_eq (config : Json) :
    vmNameFromDeployConfig config =
      if Readable config then .ok (leadName config) else .error .invalidOperation := by
  rw [vmNameFromDeployConfig, Json.parse]
  by_cases hd : config.depth ≤ Json.maxDepth
  · rw [if_pos hd]
    cases config with
    | obj fs =>
        simp only [Json.tryGetProperty, Except.bind, firstName_eq, leadName, if_true,
          head?_declaredNames, Readable, leadingBlocks, endpointBlocks, hd, true_implies,
          Json.isObj, true_and]
        congr
    | _ => simp [Json.tryGetProperty, Except.bind, Readable, hd, Json.isObj]
  · simp [hd, Readable, leadName]

lemma vmNames_eq (configs : List Json) :
    vmNames configs =
      if ∀ c ∈ configs, Readable c then .ok (configs.map leadName)
      else .error .invalidOperation := by
  induction configs with
  | nil => simp [vmNames]
  | cons c cs ih =>
      rw [vmNames, vmNameFromDeployConfig_eq, ih]
      by_cases hc : Readable c
      · by_cases hcs : ∀ c ∈ cs, Readable c
        · rw [if_pos hcs, if_pos hc, if_pos (List.forall_mem_cons.mpr ⟨hc, hcs⟩)]
          rfl
        · have hnot : ¬ ∀ d ∈ c :: cs, Readable d := fun hall =>
            hcs (List.forall_mem_cons.mp hall).2
          rw [if_neg hcs, if_pos hc, if_neg hnot]
          rfl
      · simp [hc, Except.bind]

/-! ### The protected names -/

/-- Keeping one spelling of every name neither loses a name, up to case, nor adds one. -/
lemma mem_distinctIgnoreCase (cs : Text.Casing) (names : List String) :
    (∀ s ∈ distinctIgnoreCase cs names, s ∈ names) ∧
      ∀ s ∈ names, ∃ x ∈ distinctIgnoreCase cs names, Text.upper cs x = Text.upper cs s := by
  induction names using List.reverseRecOn with
  | nil => simp [distinctIgnoreCase]
  | append_singleton names s ih =>
      obtain ⟨hsub, hrep⟩ := ih
      have hstep : distinctIgnoreCase cs (names ++ [s]) =
          if (distinctIgnoreCase cs names).any fun x => Text.upper cs x == Text.upper cs s
          then distinctIgnoreCase cs names else distinctIgnoreCase cs names ++ [s] := by
        simp [distinctIgnoreCase, List.foldl_append]
      rw [hstep]
      split_ifs with hany
      · obtain ⟨x, hx, hxs⟩ := List.any_eq_true.mp hany
        refine ⟨fun y hy => List.mem_append_left _ (hsub y hy), fun y hy => ?_⟩
        rcases List.mem_append.mp hy with hy | hy
        · exact hrep y hy
        · rw [List.mem_singleton.mp hy]
          exact ⟨x, hx, by simpa using hxs⟩
      · refine ⟨fun y hy => ?_, fun y hy => ?_⟩
        · rcases List.mem_append.mp hy with hy | hy
          · exact List.mem_append_left _ (hsub y hy)
          · exact List.mem_append_right _ hy
        · rcases List.mem_append.mp hy with hy | hy
          · obtain ⟨x, hx, hxy⟩ := hrep y hy
            exact ⟨x, List.mem_append_left _ hx, hxy⟩
          · exact ⟨y, List.mem_append_right _ hy, rfl⟩

/-- The names that are spared: the testers' VM names and the lead names of the live
deployments. -/
def standingNames (w : World) : List String :=
  (w.testers.rows.filterMap ProjectTester.vmName ++
    (liveDeploymentConfigs w).filterMap leadName).filter fun n => n != ""

/-- A resource is spared for its name exactly if the name extends a standing name. -/
lemma startsWithKnownVmName_iff {cs : Text.Casing} {testerNames : List String}
    {leads : List (Option String)} {name : String} :
    startsWithKnownVmName cs name (knownNamePrefixes cs testerNames leads) = true ↔
      ∃ p ∈ (testerNames ++ leads.filterMap id).filter fun n => n != "",
        Text.startsWithIgnoreCase cs name p = true := by
  obtain ⟨hsub, hrep⟩ := mem_distinctIgnoreCase cs
    ((testerNames ++ leads.filterMap id).filter fun n => n != "")
  rw [startsWithKnownVmName, knownNamePrefixes, List.any_eq_true]
  constructor
  · rintro ⟨p, hp, hpre⟩
    exact ⟨p, hsub p hp, (Bool.and_eq_true _ _ ▸ hpre).2⟩
  · rintro ⟨p, hp, hpre⟩
    obtain ⟨x, hx, hxp⟩ := hrep p hp
    refine ⟨x, hx, ?_⟩
    have hne : (x != "") = true := (List.mem_filter.mp (hsub x hx)).2
    rw [Text.startsWithIgnoreCase, ← hxp] at hpre
    rw [hne, Bool.true_and, Text.startsWithIgnoreCase]
    exact hpre

/-- `KnownNamePrefixes` over the configs of the live deployments. -/
lemma protectedNames_eq (cs : Text.Casing) (testerNames : List String) (configs : List Json) :
    protectedNames cs testerNames configs =
      if ∀ c ∈ configs, Readable c then
        .ok (knownNamePrefixes cs testerNames (configs.map leadName))
      else .error .invalidOperation := by
  rw [protectedNames, vmNames_eq]
  split_ifs <;> rfl

/-! ### What the filter selects -/

lemma mem_filterOrphans {cs : Text.Casing} {resources : List RawResource}
    {knownIds known : List String} {r : RawResource} :
    r ∈ filterOrphans cs resources knownIds known ↔
      r ∈ resources ∧ (∀ id ∈ knownIds, Text.upper cs id ≠ Text.upper cs r.resourceId) ∧
        nameIsOurs cs r.name = true ∧ startsWithKnownVmName cs r.name known = false := by
  simp [filterOrphans, and_assoc]

/-- A sweep that runs alone returns the filtered resources, or raises on an unreadable
config; it changes nothing. -/
lemma run_selectOrphans (h : Host) (resources : List RawResource) (w : World) :
    Proc.run Stmt.exec (selectOrphans h resources) w =
      if ∀ c ∈ liveDeploymentConfigs w, Readable c then
        (.ok (filterOrphans h.casing resources (w.testers.rows.filterMap ProjectTester.vmResourceId)
          (knownNamePrefixes h.casing (w.testers.rows.filterMap ProjectTester.vmName)
            ((liveDeploymentConfigs w).map leadName))), w)
      else (.error (.fault .invalidOperation), w) := by
  simp only [selectOrphans, Svc.read, Proc.issue, Proc.act_bind, Proc.ret_bind, Proc.run_act,
    Stmt.exec, protectedNames_eq]
  split_ifs <;> rfl

/-- A text whose upper-case form none of the given texts has. -/
lemma exists_fresh_text (cs : Text.Casing) (ids : List String) :
    ∃ s, ∀ id ∈ ids, Text.upper cs id ≠ Text.upper cs s := by
  refine ⟨String.ofList (List.replicate ((ids.map String.length).sum + 1) 'x'), fun id hid heq => ?_⟩
  have hlen := congrArg List.length heq
  have hle : id.length ≤ (ids.map String.length).sum :=
    List.single_le_sum (by simp) _ (List.mem_map.mpr ⟨id, hid, rfl⟩)
  simp only [Text.upper, List.length_map, String.toList_ofList, List.length_replicate,
    String.length_toList] at hlen
  omega

/-! ### Covered names -/

/-- Every owned resource name of the VM `v` extends one of the names in `known`: where
`v` itself reads as an owned name, `v` does; where `v` is shorter than an owned prefix,
every spelling of the prefix that extends `v` does. -/
def Covered (cs : Text.Casing) (known : List String) (v : String) : Prop :=
  ∀ q ∈ ownedNamePrefixes,
    if q.length ≤ v.length then
      (∃ n, Text.upper cs n = Text.upper cs v ∧ q.toList <+: Text.lower cs n) →
        ∃ p ∈ known, Text.startsWithIgnoreCase cs v p = true
    else
      ∀ n, Text.lower cs n = q.toList → Text.startsWithIgnoreCase cs n v = true →
        ∃ p ∈ known, Text.startsWithIgnoreCase cs n p = true

/-- The first characters of a text. -/
def takeText (s : String) (n : ℕ) : String := String.ofList (s.toList.take n)

lemma upper_takeText (cs : Text.Casing) (s : String) (n : ℕ) :
    Text.upper cs (takeText s n) = (Text.upper cs s).take n := by
  rw [Text.upper, takeText, String.toList_ofList, List.map_take, Text.upper]

lemma lower_takeText (cs : Text.Casing) (s : String) (n : ℕ) :
    Text.lower cs (takeText s n) = (Text.lower cs s).take n := by
  rw [Text.lower, takeText, String.toList_ofList, List.map_take, Text.lower]

lemma length_upper (cs : Text.Casing) (s : String) : (Text.upper cs s).length = s.length := by
  rw [Text.upper, List.length_map, String.length_toList]

/-- An owned resource name of a covered VM extends a known name. -/
lemma extends_of_covered {cs : Text.Casing} {known : List String} {v name : String}
    (hv : Covered cs known v) (hours : nameIsOurs cs name = true)
    (hpre : Text.startsWithIgnoreCase cs name v = true) :
    ∃ p ∈ known, Text.startsWithIgnoreCase cs name p = true := by
  obtain ⟨q, hq, hqn⟩ := List.any_eq_true.mp hours
  rw [List.isPrefixOf_iff_prefix] at hqn
  have hvn := Text.startsWithIgnoreCase_iff.mp hpre
  have hcov := hv q hq
  split_ifs at hcov with hlen
  · -- the name of the VM itself already begins with the owned prefix
    have heq : Text.upper cs (takeText name v.length) = Text.upper cs v := by
      rw [upper_takeText, ← length_upper cs v]
      exact (List.prefix_iff_eq_take.mp hvn).symm
    have hpref : q.toList <+: Text.lower cs (takeText name v.length) := by
      rw [lower_takeText, List.prefix_take_iff]
      exact ⟨hqn, by rwa [String.length_toList]⟩
    obtain ⟨p, hp, hpv⟩ := hcov ⟨_, heq, hpref⟩
    exact ⟨p, hp, Text.startsWithIgnoreCase_trans hpv hpre⟩
  · -- the owned prefix spelled in the resource name extends the name of the VM
    have hlow : Text.lower cs (takeText name q.length) = q.toList := by
      rw [lower_takeText, ← String.length_toList]
      exact (List.prefix_iff_eq_take.mp hqn).symm
    have hext : Text.startsWithIgnoreCase cs (takeText name q.length) v = true := by
      rw [Text.startsWithIgnoreCase_iff, upper_takeText, List.prefix_take_iff, length_upper]
      exact ⟨hvn, by omega⟩
    obtain ⟨p, hp, hpn⟩ := hcov _ hlow hext
    refine ⟨p, hp, Text.startsWithIgnoreCase_trans hpn ?_⟩
    rw [Text.startsWithIgnoreCase_iff, upper_takeText]
    exact List.take_prefix _ _

/-- A name that is not covered has an owned resource name that extends no known name. -/
lemma exists_name_of_not_covered {cs : Text.Casing} {known : List String} {v : String}
    (hv : ¬ Covered cs known v) :
    ∃ n, nameIsOurs cs n = true ∧ Text.startsWithIgnoreCase cs n v = true ∧
      ∀ p ∈ known, ¬ Text.startsWithIgnoreCase cs n p = true := by
  simp only [Covered, not_forall] at hv
  obtain ⟨q, hq, hcov⟩ := hv
  split_ifs at hcov with hlen
  · simp only [not_forall, not_exists, not_and] at hcov
    obtain ⟨⟨n, heq, hqn⟩, hnone⟩ := hcov
    refine ⟨n, List.any_eq_true.mpr ⟨q, hq, List.isPrefixOf_iff_prefix.mpr hqn⟩, ?_, ?_⟩
    · rw [Text.startsWithIgnoreCase_iff, heq]
    · intro p hp hpn
      refine hnone p hp ?_
      rw [Text.startsWithIgnoreCase_iff] at hpn ⊢
      rwa [heq] at hpn
  · simp only [not_forall, not_exists, not_and] at hcov
    obtain ⟨n, hlow, hext, hnone⟩ := hcov
    refine ⟨n, List.any_eq_true.mpr ⟨q, hq, List.isPrefixOf_iff_prefix.mpr ?_⟩, hext, hnone⟩
    rw [hlow]

/-! ### A sweep -/

/-- No sweep selects a resource whose name belongs to a VM that an endpoint of a live
deployment declares. -/
def SparesDeclared (h : Host) (w : World) : Prop :=
  ∀ resources selected w', Proc.run Stmt.exec (selectOrphans h resources) w = (.ok selected, w') →
    ∀ r ∈ selected, ∀ d ∈ w.deployments.rows, isLive d = true →
      ∀ v ∈ declaredNames d.config, v ≠ "" → Text.startsWithIgnoreCase h.casing r.name v = false

/-- What a sweep over readable configs selects. -/
lemma mem_selected {h : Host} {w : World} (hread : ∀ c ∈ liveDeploymentConfigs w, Readable c)
    {resources selected : List RawResource} {w' : World}
    (hrun : Proc.run Stmt.exec (selectOrphans h resources) w = (.ok selected, w'))
    (r : RawResource) :
    r ∈ selected ↔ r ∈ resources ∧
      (∀ id ∈ w.testers.rows.filterMap ProjectTester.vmResourceId,
        Text.upper h.casing id ≠ Text.upper h.casing r.resourceId) ∧
      nameIsOurs h.casing r.name = true ∧
      ∀ p ∈ standingNames w, ¬ Text.startsWithIgnoreCase h.casing r.name p = true := by
  rw [run_selectOrphans, if_pos hread, Prod.mk.injEq, Except.ok.injEq] at hrun
  obtain ⟨rfl, -⟩ := hrun
  rw [mem_filterOrphans, Bool.eq_false_iff, ne_eq, startsWithKnownVmName_iff]
  simp only [standingNames, List.filterMap_map, Function.id_comp, not_exists, not_and]

end OrphanReaper

open OrphanReaper

/-- **The orphan reaper and declared VMs.**  A sweep spares every VM that the live
deployments declare if and only if it raises on an unreadable config, or every declared
name is covered by a tester's VM name or by the first name some live config declares. -/
theorem spares_declared_iff (h : Host) (w : World) :
    SparesDeclared h w ↔
      (∃ c ∈ liveDeploymentConfigs w, ¬ Readable c) ∨
        ∀ c ∈ liveDeploymentConfigs w, ∀ v ∈ declaredNames c, v ≠ "" →
          Covered h.casing (standingNames w) v := by
  by_cases hread : ∀ c ∈ liveDeploymentConfigs w, Readable c
  · have hno : ¬ ∃ c ∈ liveDeploymentConfigs w, ¬ Readable c := by
      rintro ⟨c, hc, hbad⟩
      exact hbad (hread c hc)
    simp only [hno, false_or]
    constructor
    · intro hsafe c hc v hv hne
      by_contra hcov
      obtain ⟨n, hours, hext, hnone⟩ := exists_name_of_not_covered hcov
      obtain ⟨id, hid⟩ := exists_fresh_text h.casing
        (w.testers.rows.filterMap ProjectTester.vmResourceId)
      obtain ⟨d, hd, rfl⟩ := List.mem_map.mp hc
      obtain ⟨hmem, hlive⟩ := List.mem_filter.mp hd
      have hrun := run_selectOrphans h [⟨id, n, "", ""⟩] w
      rw [if_pos hread] at hrun
      have hsel := (mem_selected hread hrun ⟨id, n, "", ""⟩).mpr ⟨by simp, hid, hours, hnone⟩
      have hspared := hsafe _ _ _ hrun _ hsel d hmem hlive v hv hne
      rw [hext] at hspared
      exact absurd hspared (by simp)
    · intro hcov resources selected w' hrun r hr d hd hlive v hv hne
      obtain ⟨-, -, hours, hnone⟩ := (mem_selected hread hrun r).mp hr
      rw [Bool.eq_false_iff]
      intro hext
      have hc : d.config ∈ liveDeploymentConfigs w :=
        List.mem_map.mpr ⟨d, List.mem_filter.mpr ⟨hd, hlive⟩, rfl⟩
      obtain ⟨p, hp, hpn⟩ := extends_of_covered (hcov _ hc v hv hne) hours hext
      exact hnone p hp hpn
  · -- an unreadable config: the sweep raises and selects nothing
    have hyes : ∃ c ∈ liveDeploymentConfigs w, ¬ Readable c := by
      simpa using hread
    simp only [hyes, true_or, iff_true]
    intro resources selected w' hrun
    rw [run_selectOrphans, if_neg hread] at hrun
    exact absurd (congrArg Prod.fst hrun) (by simp)

namespace TwoEndpointDeployment

/-- An endpoint on an Azure VM. -/
def azureEndpoint (vmName : String) : Json :=
  .obj [("provider", .str "azure"),
    ("azure", .obj [("vm_name", .str vmName), ("os", .str "linux")])]

def config : Json :=
  .obj [("version", .int 1),
    ("endpoints", .arr [azureEndpoint "nwk-ep-east", azureEndpoint "nwk-ep-west"])]

/-- A completed deployment of both VMs. -/
def deployment : Deployment :=
  { newDeployment ⟨"targets", config, none, "p", none⟩ 0 0 with status := .completed }

def world : World :=
  { World.initial with deployments := ⟨[deployment], 1, by decide, by decide⟩ }

def nic : RawResource := ⟨"/nic/1", "nwk-ep-west-nic", "nic", "azure"⟩

end TwoEndpointDeployment

open TwoEndpointDeployment in
/-- The network card of the second VM is selected. -/
theorem second_endpoint_selected : ¬ SparesDeclared Host.plain world := by
  intro hsafe
  have hrun : Proc.run Stmt.exec (selectOrphans Host.plain [nic]) world = (.ok [nic], world) := by
    rfl
  have hspared := hsafe [nic] [nic] world hrun nic (by simp) deployment (by simp [world])
    (by decide) "nwk-ep-west" (by decide) (by decide)
  exact absurd hspared (by decide)

end Networker
