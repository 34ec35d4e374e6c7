/-
Which stored rows make a redispatch pass raise.

* `StringModes`, `ReadableReference`, `ReadableStack`, `Fits`: the conditions on the
  stored columns of a config and of the deployment its proxy reference names;
* `filterModesText_ok_iff`, `wireEndpoint_ends_iff`, `serializeForAssign_ends_iff`: when
  each part of the payload builds;
* `Sendable`, `tryAssign_ends_iff`: when assigning a run returns;
* `poison_isolation_iff`: a pass attempts every candidate and returns exactly if every
  candidate that has an online compatible agent is sendable;
* `numeric_mode_stops_pass`: a run whose modes contain a number.
-/
import Networker.ControlPlane.CancelTarget

namespace Networker

open Data Concurrency

namespace RunDispatcher

/-! ### The modes of a workload -/

/-- The members of a `modes` array are strings or null. -/
def StringModes (workload : Json) : Prop :=
  workload.depth ≤ Json.maxDepth → ∀ modes, (workload.get? "modes").bind Json.items? = some modes →
    ∀ m ∈ modes, m = .null ∨ ∃ s, m = .str s

/-- Reading modes as strings raises on the other kinds only. -/
lemma modeIds_ok_iff (modes : List Json) :
    (∃ ids, modeIds modes = .ok ids) ↔ ∀ m ∈ modes, m = .null ∨ ∃ s, m = .str s := by
  induction modes with
  | nil => simp [modeIds]
  | cons m ms ih =>
      cases m with
      | null => simp [modeIds, ih]
      | str s =>
          rw [modeIds]
          constructor
          · rintro ⟨ids, hids⟩
            cases hms : modeIds ms with
            | error f =>
                rw [hms] at hids
                exact absurd hids (by simp [Except.map])
            | ok ids' =>
                have := ih.mp ⟨ids', hms⟩
                exact fun m hm => (List.mem_cons.mp hm).elim (fun h => Or.inr ⟨s, h⟩) (this m)
          · intro hall
            obtain ⟨ids, hids⟩ := ih.mpr fun m hm => hall m (by simp [hm])
            exact ⟨s :: ids, by rw [hids]; rfl⟩
      | _ => simp [modeIds]

/-- The strings among the modes. -/
lemma mem_modeIds {modes : List Json} {ids : List String} (h : modeIds modes = .ok ids) (s : String) :
    s ∈ ids ↔ .str s ∈ modes := by
  induction modes generalizing ids with
  | nil =>
      obtain rfl := Except.ok.inj h
      simp
  | cons m ms ih =>
      cases m with
      | null => simpa using ih h
      | str t =>
          rw [modeIds] at h
          cases hms : modeIds ms with
          | error f =>
              rw [hms] at h
              exact absurd h (by simp [Except.map])
          | ok ids' =>
              rw [hms] at h
              obtain rfl := Except.ok.inj h
              simp [ih hms]
      | _ => exact absurd h (by simp [modeIds])

lemma depth_modes {modes : List Json} (h : ∀ m ∈ modes, m = .null ∨ ∃ s, m = .str s) :
    (Json.arr modes).depth = 1 := by
  have hlist : Json.depthList modes = 0 := by
    induction modes with
    | nil => rfl
    | cons m ms ih =>
        have hm : m.depth = 0 := by
          rcases h m (by simp) with rfl | ⟨s, rfl⟩ <;> rfl
        rw [Json.depthList, hm, ih fun m' hm' => h m' (by simp [hm'])]
        rfl
  rw [Json.depth, hlist]

/-- A mode with the name of the probe is in the catalog. -/
lemma isRunnableMode_sdkprobe {s : String} (h : Text.eqIgnoreCase s "sdkprobe" = true) :
    isRunnableMode s = true := by
  refine List.any_eq_true.mpr ⟨"sdkprobe", by decide, ?_⟩
  rw [Text.eqIgnoreCase, beq_iff_eq] at h ⊢
  exact h.symm

/-- The filtered workload has the outline of the stored one and asks for the probe
exactly if the stored one does. -/
lemma filterModesText_spec {workload v : Json} (h : filterModesText workload = .ok v) :
    v.outline = workload.outline ∧ isSdkProbeWorkload v = isSdkProbeWorkload workload := by
  rw [filterModesText, Json.parse] at h
  by_cases hd : workload.depth ≤ Json.maxDepth
  · rw [if_pos hd] at h
    dsimp only at h
    cases hm : (workload.get? "modes").bind Json.items? with
    | none =>
        rw [hm] at h
        obtain rfl := Except.ok.inj h
        exact ⟨rfl, rfl⟩
    | some modes =>
        rw [hm] at h
        dsimp only at h
        cases hids : modeIds modes with
        | error f =>
            rw [hids] at h
            exact absurd h (by simp [Except.map])
        | ok ids =>
            rw [hids] at h
            have hv := Except.ok.inj h
            dsimp only at hv
            split_ifs at hv with hkeep
            · obtain rfl := hv
              exact ⟨rfl, rfl⟩
            · subst hv
              obtain ⟨old, hget, hitems⟩ := Option.bind_eq_some_iff.mp hm
              have hold : old = .arr modes := by
                cases old with
                | arr xs => rw [Option.some.inj hitems]
                | _ => exact absurd hitems (by simp [Json.items?])
              have hobj : workload.isObj = true := by
                cases workload with
                | obj fs => rfl
                | _ => exact absurd hget (by simp [Json.get?])
              subst hold
              refine ⟨Json.outline_set_self hget ?_, ?_⟩
              · rw [depth_modes ((modeIds_ok_iff modes).mp ⟨ids, hids⟩)]
                exact depth_modes fun m hmem => by
                  obtain ⟨s, -, rfl⟩ := List.mem_map.mp hmem
                  exact Or.inr ⟨s, rfl⟩
              · rw [isSdkProbeWorkload, isSdkProbeWorkload, Json.get?_set_self hobj, hm]
                simp only [Option.bind_some, Json.items?]
                rw [Bool.eq_iff_iff, List.any_eq_true, List.any_eq_true]
                constructor
                · rintro ⟨m, hmem, hsdk⟩
                  obtain ⟨s, hs, rfl⟩ := List.mem_map.mp hmem
                  exact ⟨.str s, (mem_modeIds hids s).mp (List.mem_of_mem_filter hs), hsdk⟩
                · rintro ⟨m, hmem, hsdk⟩
                  cases m with
                  | str s =>
                      have hs : Text.eqIgnoreCase s "sdkprobe" = true := by simpa [Json.str?] using hsdk
                      refine ⟨.str s, List.mem_map.mpr ⟨s, List.mem_filter.mpr
                        ⟨(mem_modeIds hids s).mpr hmem, isRunnableMode_sdkprobe hs⟩, rfl⟩, hsdk⟩
                  | _ => exact absurd hsdk (by simp [Json.str?])
  · rw [if_neg hd] at h
    obtain rfl := Except.ok.inj h
    exact ⟨rfl, rfl⟩

/-- Filtering the modes raises exactly on modes of another kind. -/
lemma filterModesText_ok_iff (workload : Json) :
    (∃ v, filterModesText workload = .ok v) ↔ StringModes workload := by
  rw [filterModesText, Json.parse, StringModes]
  by_cases hd : workload.depth ≤ Json.maxDepth
  · rw [if_pos hd]
    simp only [hd, true_implies]
    cases hm : (workload.get? "modes").bind Json.items? with
    | none => simp
    | some modes =>
        simp only [Option.some.injEq, forall_eq', ← modeIds_ok_iff]
        cases modeIds modes <;> simp [Except.map]
  · rw [if_neg hd]
    simp [hd]

/-! ### Proxy references -/

/-- The reference is an object whose deployment id, if any, is a string or null. -/
def ReadableReference (ref : Json) : Prop :=
  ref.depth ≤ Json.maxDepth → ref.isObj = true ∧
    ∀ v, ref.get? "proxy_endpoint_id" = some v → v = .null ∨ ∃ s, v = .str s

/-- The deployment id and the stack a readable reference gives. -/
def referenced (ref : Json) : Option (Guid × Option String) :=
  if ref.depth ≤ Json.maxDepth then
    (((ref.get? "proxy_endpoint_id").bind Json.str?).bind Guid.parse?).map fun d =>
      (d, (ref.get? "proxy_stack").bind Json.str?)
  else none

lemma proxyReference_spec (ref : Json) :
    ReadableReference ref ∧ proxyReference ref = .ok (referenced ref) ∨
      ¬ ReadableReference ref ∧ ∃ f, proxyReference ref = .error f := by
  rw [proxyReference, Json.parse]
  by_cases hd : ref.depth ≤ Json.maxDepth
  · rw [if_pos hd]
    cases ref with
    | obj fs =>
        simp only [ReadableReference, referenced, hd, Json.tryGetProperty, Json.isObj, true_implies,
          true_and, if_true, bind, Except.bind, pure, Except.pure]
        cases hid : (Json.obj fs).get? "proxy_endpoint_id" with
        | none => simp
        | some v =>
            cases v with
            | null => simp [Json.getString, Json.str?]
            | str s =>
                left
                simp only [Json.getString, Json.str?, Option.bind_some]
                cases Guid.parse? s <;> simp
            | _ => simp [Json.getString]
    | _ =>
        right
        simp [ReadableReference, hd, Json.tryGetProperty, Json.isObj, bind, Except.bind]
  · left
    simp [hd, ReadableReference, referenced]

/-- The config is an object, and so is the first of its endpoints. -/
def ReadableStack (config : Json) : Prop :=
  config.depth ≤ Json.maxDepth → config.isObj = true ∧
    ∀ ep eps, (config.get? "endpoints").bind Json.items? = some (ep :: eps) → ep.isObj = true

lemma proxyStackFromDeploymentConfig_ok_iff (config : Json) :
    (∃ s, proxyStackFromDeploymentConfig config = .ok s) ↔ ReadableStack config := by
  rw [proxyStackFromDeploymentConfig, Json.parse]
  by_cases hd : config.depth ≤ Json.maxDepth
  · rw [if_pos hd]
    cases config with
    | obj fs =>
        simp only [ReadableStack, hd, Json.tryGetProperty, Json.isObj, true_implies, true_and, bind,
          Except.bind]
        cases heps : ((Json.obj fs).get? "endpoints").bind Json.items? with
        | none => simp [pure, Except.pure]
        | some eps =>
            cases eps with
            | nil => simp [pure, Except.pure]
            | cons ep eps =>
                cases ep with
                | obj gs =>
                    simp only [Option.some.injEq, List.cons.injEq, and_imp, forall_apply_eq_imp_iff]
                    constructor
                    · rintro - ep' rfl
                      rfl
                    · intro _
                      split <;> exact ⟨_, rfl⟩
                | _ => simp
    | _ => simp [ReadableStack, hd, Json.tryGetProperty, Json.isObj, bind, Except.bind]
  · simp [hd, ReadableStack]

/-- The stack of the proxy is given by the reference or readable from the deployment. -/
def StackKnown (dep : Deployment) (hint : Option String) : Prop :=
  (hint.filter fun s => !Text.isBlank s).isSome = true ∨ ReadableStack dep.config

lemma proxyStack_ok_iff (dep : Deployment) (hint : Option String) :
    (∃ s, proxyStack dep hint = .ok s) ↔ StackKnown dep hint := by
  rw [proxyStack, StackKnown, ← proxyStackFromDeploymentConfig_ok_iff]
  cases hint.filter fun s => !Text.isBlank s with
  | some s => simp
  | none => cases proxyStackFromDeploymentConfig dep.config <;> simp [Except.map]

/-- Resolving the reference does not raise: it is readable, and where it names a
deployment with a captured host, the stack is known. -/
def ResolvableProxy (w : World) (ref : Json) : Prop :=
  ReadableReference ref ∧ ∀ d hint dep, referenced ref = some (d, hint) →
    w.deployments.find? d = some dep →
      (EndpointAddressing.preferredHost dep.endpointIps dep.endpointHosts).isSome = true →
        StackKnown dep hint

/-- The host a readable reference resolves to. -/
def resolvedHost (w : World) (ref : Json) : Option String :=
  (referenced ref).bind fun r => (w.deployments.find? r.1).bind fun dep =>
    EndpointAddressing.preferredHost dep.endpointIps dep.endpointHosts

/-- Resolving a reference to an existing deployment comes down to its columns. -/
lemma resolveProxyEndpoint_run {w : World} {ref : Json} {d : Guid} {hint : Option String}
    {dep : Deployment} (href : proxyReference ref = .ok (some (d, hint)))
    (hdep : w.deployments.find? d = some dep) :
    Proc.run Stmt.exec (resolveProxyEndpoint ref) w =
      Proc.run Stmt.exec (Svc.lift (proxyEndpoint dep hint)) w := by
  simp [resolveProxyEndpoint, href, Svc.lift, Svc.read, Proc.issue, hdep]

lemma resolveProxyEndpoint_spec (w : World) (ref : Json) :
    (ResolvableProxy w ref ∧ ∃ e, Proc.run Stmt.exec (resolveProxyEndpoint ref) w = (.ok e, w) ∧
        e.isSome = (resolvedHost w ref).isSome ∧ ∀ j, e = some j → j.depth = 1) ∨
      ¬ ResolvableProxy w ref ∧
        ∃ f, Proc.run Stmt.exec (resolveProxyEndpoint ref) w = (.error f, w) := by
  rcases proxyReference_spec ref with ⟨hread, href⟩ | ⟨hread, f, href⟩
  · cases hr : referenced ref with
    | none =>
        refine Or.inl ⟨⟨hread, by simp [hr]⟩, none, ?_, by simp [resolvedHost, hr], by simp⟩
        rw [resolveProxyEndpoint, href, hr]
        rfl
    | some r =>
        obtain ⟨d, hint⟩ := r
        cases hdep : w.deployments.find? d with
        | none =>
            refine Or.inl ⟨⟨hread, ?_⟩, none, ?_, by simp [resolvedHost, hr, hdep], by simp⟩
            · rintro d' hint' dep heq hfind
              obtain ⟨rfl, rfl⟩ := Prod.mk.inj (Option.some.inj (hr.symm.trans heq))
              exact absurd (hdep.symm.trans hfind) (by simp)
            · simp [resolveProxyEndpoint, href, hr, Svc.lift, Svc.read, Proc.issue, hdep]
        | some dep =>
            have hrun := resolveProxyEndpoint_run (href.trans (congrArg Except.ok hr)) hdep
            have hres : ResolvableProxy w ref ↔
                ((EndpointAddressing.preferredHost dep.endpointIps dep.endpointHosts).isSome = true →
                  StackKnown dep hint) := by
              refine ⟨fun h => h.2 d hint dep hr hdep, fun h => ⟨hread, ?_⟩⟩
              rintro d' hint' dep' heq hfind
              obtain ⟨rfl, rfl⟩ := Prod.mk.inj (Option.some.inj (hr.symm.trans heq))
              obtain rfl := Option.some.inj (hdep.symm.trans hfind)
              exact h
            rw [hrun, hres, proxyEndpoint]
            simp only [resolvedHost, hr, hdep, Option.bind_some]
            cases hhost : EndpointAddressing.preferredHost dep.endpointIps dep.endpointHosts with
            | none => exact Or.inl ⟨by simp, none, rfl, rfl, by simp⟩
            | some host =>
                simp only [Option.isSome_some, true_implies, ← proxyStack_ok_iff]
                cases hs : proxyStack dep hint with
                | error f => exact Or.inr ⟨by simp, .fault f, rfl⟩
                | ok stack =>
                    refine Or.inl ⟨⟨stack, rfl⟩, _, rfl, rfl, fun j hj => ?_⟩
                    obtain rfl := Option.some.inj hj
                    rfl
  · refine Or.inr ⟨fun h => hread h.1, .fault f, ?_⟩
    rw [resolveProxyEndpoint, href]
    rfl

/-! ### The columns on the wire -/

/-- How deep a column may be nested inside the message. -/
def columnDepth : ℕ := 62

/-- The column is shallow enough for the message, or so deep that it is sent as text. -/
def Fits (column : Json) : Prop := column.depth ≤ columnDepth ∨ Json.maxDepth < column.depth

lemma depth_rawJson (column : Json) :
    (rawJson column).depth = if column.depth ≤ Json.maxDepth then column.depth else 0 := by
  rw [rawJson, Json.parse]
  by_cases hd : column.depth ≤ Json.maxDepth <;> simp [hd, Json.depth]

lemma depth_rawJson_le_iff (column : Json) :
    (rawJson column).depth ≤ columnDepth ↔ Fits column := by
  rw [depth_rawJson, Fits]
  split_ifs with hd
  · exact (or_iff_left (by omega)).symm
  · simp only [columnDepth, Nat.zero_le, true_iff]
    omega

/-- The config is a proxy whose reference resolves to a host. -/
def resolves (w : World) (cfg : TestConfig) : Bool :=
  isProxyKind cfg.endpointKind && (resolvedHost w cfg.endpointRef).isSome

/-- The token of the config is spliced into the workload of the run. -/
def splicesToken (h : Host) (run : TestRun) (cfg : TestConfig) : Bool :=
  cfg.token.any fun token =>
    isSdkProbeWorkload cfg.workload && token.enc != [] && token.nonce != [] &&
      cfg.projectId == run.projectId && (h.decrypt token).any fun t => t != ""

/-- The workload with the members blanked that the dispatcher overwrites. -/
def residualWorkload (resolved spliced : Bool) (workload : Json) : Json :=
  let v := if resolved then workload.set "insecure" .null else workload
  if spliced then v.set "laghound_token" .null else v

/-- The endpoint and the workload in front of the token: it is an error exactly if the
config is a proxy that cannot be resolved. -/
lemma wireEndpoint_spec (w : World) (cfg : TestConfig) (workload : Json) :
    ((isProxyKind cfg.endpointKind = true → ResolvableProxy w cfg.endpointRef) ∧
        ∃ e, Proc.run Stmt.exec (wireEndpoint cfg workload) w =
            (.ok (e, if resolves w cfg then withInsecure workload else rawJson workload), w) ∧
          e.depth = if resolves w cfg then 1 else (rawJson cfg.endpointRef).depth) ∨
      ¬ (isProxyKind cfg.endpointKind = true → ResolvableProxy w cfg.endpointRef) ∧
        ∃ f, Proc.run Stmt.exec (wireEndpoint cfg workload) w = (.error f, w) := by
  rw [wireEndpoint]
  by_cases hproxy : isProxyKind cfg.endpointKind = true
  · rw [if_pos hproxy]
    simp only [resolves, hproxy, true_implies, Bool.true_and]
    rcases resolveProxyEndpoint_spec w cfg.endpointRef with ⟨hok, e, hrun, hsome, hdepth⟩ |
      ⟨hbad, f, hrun⟩
    · left
      refine ⟨hok, ?_⟩
      rw [Proc.run_bind_ok Stmt.exec hrun, ← hsome]
      cases e with
      | none => exact ⟨rawJson cfg.endpointRef, rfl, rfl⟩
      | some j => exact ⟨j, rfl, hdepth j rfl⟩
    · exact Or.inr ⟨hbad, f, Proc.run_bind_error Stmt.exec hrun⟩
  · rw [if_neg hproxy]
    have hno : resolves w cfg = false := by simp [resolves, hproxy]
    rw [hno]
    exact Or.inl ⟨fun h => absurd h hproxy, rawJson cfg.endpointRef, rfl, rfl⟩

/-- Splicing the token reads the agent and changes nothing. -/
lemma wireToken_run (h : Host) (w : World) (run : TestRun) (cfg : TestConfig) (agent : Guid)
    (hagent : (w.agents.find? agent).any (fun a => a.projectId == run.projectId) = true)
    (workload : Json) :
    ∃ v, Proc.run Stmt.exec (wireToken h run cfg agent workload) w = (.ok v, w) ∧
      (isSdkProbeWorkload workload = isSdkProbeWorkload cfg.workload →
        v.outline = (if splicesToken h run cfg then workload.set "laghound_token" .null
          else workload).outline) ∧
      (isSdkProbeWorkload workload = false → v = workload) := by
  rw [wireToken, splicesToken]
  cases htok : cfg.token with
  | none => exact ⟨workload, rfl, by simp, fun _ => rfl⟩
  | some token =>
      simp only [Option.any_some]
      by_cases hcond : (isSdkProbeWorkload workload && token.enc != [] && token.nonce != []) = true
      · rw [if_pos hcond]
        refine ⟨_, rfl, fun hsame => ?_, fun hno => ?_⟩
        · rw [hsame] at hcond
          simp only [hcond, hagent, Bool.true_and]
          by_cases hproj : (cfg.projectId == run.projectId) = true
          · simp only [hproj, if_true, Bool.true_and, withLagHoundToken]
            cases h.decrypt token with
            | none => simp
            | some t =>
                by_cases ht : t = ""
                · simp [ht]
                · simp only [ht, if_false, Option.any_some, bne_iff_ne, ne_eq, not_false_eq_true,
                    if_true]
                  exact Json.outline_set _ rfl rfl
          · simp [hproj]
        · rw [hno] at hcond
          exact absurd hcond (by simp)
      · rw [if_neg hcond]
        refine ⟨workload, rfl, fun hsame => ?_, fun _ => rfl⟩
        rw [hsame, Bool.not_eq_true] at hcond
        simp [hcond]

lemma withInsecure_eq {workload : Json} (hd : workload.depth ≤ Json.maxDepth) :
    withInsecure workload = workload.set "insecure" (.bool true) := by
  rw [withInsecure, rawJson, Json.parse, if_pos hd]
  cases workload <;> rfl

/-- The depth of the workload that is sent. -/
lemma depth_sentWorkload {h : Host} {run : TestRun} {cfg : TestConfig} {resolved : Bool}
    {text v : Json} (htext : filterModesText cfg.workload = .ok text)
    (hsplice : isSdkProbeWorkload (if resolved then withInsecure text else rawJson text) =
        isSdkProbeWorkload cfg.workload →
      v.outline = (if splicesToken h run cfg
        then (if resolved then withInsecure text else rawJson text).set "laghound_token" .null
        else if resolved then withInsecure text else rawJson text).outline)
    (hkeep : isSdkProbeWorkload (if resolved then withInsecure text else rawJson text) = false →
      v = if resolved then withInsecure text else rawJson text) :
    v.depth ≤ columnDepth ↔ Json.maxDepth < cfg.workload.depth ∨
      (residualWorkload resolved (splicesToken h run cfg) cfg.workload).depth ≤ columnDepth := by
  obtain ⟨hout, hsdk⟩ := filterModesText_spec htext
  have hdepth := Json.depth_eq_of_outline hout
  by_cases hd : cfg.workload.depth ≤ Json.maxDepth
  · have hdt : text.depth ≤ Json.maxDepth := hdepth ▸ hd
    have hraw : rawJson text = text := by rw [rawJson, Json.parse, if_pos hdt]
    rw [hraw, withInsecure_eq hdt] at hsplice
    have hprobe : isSdkProbeWorkload (if resolved then text.set "insecure" (.bool true) else text) =
        isSdkProbeWorkload cfg.workload := by
      rw [← hsdk]
      cases resolved
      · rfl
      · simp only [if_true, isSdkProbeWorkload]
        rw [Json.get?_set_ne (by decide)]
    have hfront : (if resolved then text.set "insecure" (.bool true) else text).outline =
        (if resolved then cfg.workload.set "insecure" .null else cfg.workload).outline := by
      cases resolved
      · exact hout
      · exact Json.outline_set _ hout rfl
    have hfinal : v.outline =
        (residualWorkload resolved (splicesToken h run cfg) cfg.workload).outline := by
      rw [hsplice hprobe, residualWorkload]
      cases splicesToken h run cfg
      · exact hfront
      · exact Json.outline_set _ hfront rfl
    rw [Json.depth_eq_of_outline hfinal]
    exact (or_iff_right (by omega)).symm
  · have hdt : ¬ text.depth ≤ Json.maxDepth := hdepth ▸ hd
    have hraw : rawJson text = .str text.render := by rw [rawJson, Json.parse, if_neg hdt]
    have hins : withInsecure text = .str text.render := by
      rw [withInsecure, Json.parse, if_neg hdt]
      exact hraw
    rw [hraw, hins, ite_self] at hkeep
    rw [hkeep rfl]
    simp only [Json.depth, columnDepth, Nat.zero_le, true_iff]
    exact Or.inl (by omega)

/-! ### The payload of a run -/

/-- Everything stored for the run can be turned into its `assign_run` message. -/
structure Sendable (h : Host) (w : World) (run : TestRun) (cfg : TestConfig) : Prop where
  modes : StringModes cfg.workload
  proxy : isProxyKind cfg.endpointKind = true → ResolvableProxy w cfg.endpointRef
  endpoint : resolves w cfg = false → Fits cfg.endpointRef
  workload : Json.maxDepth < cfg.workload.depth ∨
    (residualWorkload (resolves w cfg) (splicesToken h run cfg) cfg.workload).depth ≤ columnDepth
  methodology : ∀ m, cfg.methodology = some m → Fits m

lemma depth_optText (t : Option String) : (optText t).depth = 0 := by cases t <;> rfl

lemma depth_optGuid (g : Option Guid) : (optGuid g).depth = 0 := depth_optText _

lemma depth_optInt (n : Option ℤ) : (optInt n).depth = 0 := by cases n <;> rfl

/-- The methodology on the wire. -/
def wireMethodology (cfg : TestConfig) : Json := (cfg.methodology.map rawJson).getD .null

lemma depth_wireMethodology (cfg : TestConfig) :
    (wireMethodology cfg).depth ≤ columnDepth ↔ ∀ m, cfg.methodology = some m → Fits m := by
  rw [wireMethodology]
  cases cfg.methodology with
  | none => simp [Json.depth]
  | some m => simp [depth_rawJson_le_iff]

lemma depth_configDto (cfg : TestConfig) (endpoint workload : Json) :
    (configDto cfg endpoint workload).depth =
      max endpoint.depth (max workload.depth (wireMethodology cfg).depth) + 1 := by
  simp only [configDto, Json.depth, Json.depthFields, depth_optText, depth_optGuid, wireMethodology]
  omega

lemma depth_runDto (run : TestRun) : (runDto run).depth = 1 := by
  simp only [runDto, Json.depth, Json.depthFields, depth_optText, depth_optGuid, depth_optInt]
  omega

/-- The message can be written exactly if the three columns fit. -/
lemma write_message_iff (run : TestRun) (cfg : TestConfig) (endpoint workload : Json) :
    (Json.obj [("type", .str "assign_run"), ("run", runDto run),
        ("config", configDto cfg endpoint workload)]).write 0 = .ok () ↔
      endpoint.depth ≤ columnDepth ∧ workload.depth ≤ columnDepth ∧
        (wireMethodology cfg).depth ≤ columnDepth := by
  simp only [Json.write, Json.depth, Json.depthFields, depth_runDto, depth_configDto, Json.maxDepth,
    columnDepth]
  split_ifs with hle
  · simp only [true_iff]
    omega
  · simp only [false_iff]
    omega

/-- Building the payload and sending it to an online agent of the run's project. -/
def deliver (h : Host) (run : TestRun) (cfg : TestConfig) (agent : Guid) : Svc Bool := do
  let (runJson, configJson) ← serializeForAssign h run cfg agent
  assignRun agent run.id runJson configJson

/-- The claim behind a send that reached its agent. -/
def stampSent (run : TestRun) (agent : Guid) (sent : Bool) : Svc Bool :=
  if sent then do
    let boundTesterId ← Svc.read fun w => (w.agents.find? agent).bind Agent.testerId
    let _ ← Svc.updateRun run.id (.stampAssignment agent boundTesterId)
    Svc.publish (.jobUpdate run.id "queued" (some agent) none none)
    return true
  else return false

/-- The payload is built and sent exactly if the run is sendable. -/
lemma deliver_ends_iff (h : Host) {w : World} {run : TestRun} {cfg : TestConfig} {agent : Guid}
    (honline : agent ∈ w.online)
    (hagent : (w.agents.find? agent).any (fun a => a.projectId == run.projectId) = true) :
    (deliver h run cfg agent).Ends Stmt.exec w (fun _ _ => True) ↔ Sendable h w run cfg := by
  simp only [deliver, serializeForAssign, Proc.bind_assoc]
  cases htext : filterModesText cfg.workload with
  | error f =>
      have hbad : ¬ StringModes cfg.workload := by
        rw [← filterModesText_ok_iff, htext]
        simp
      exact iff_of_false (Proc.not_ends_bind_of_run_error (by rfl)) fun hs => hbad hs.modes
  | ok text =>
      have hmodes : StringModes cfg.workload := (filterModesText_ok_iff _).mp ⟨text, htext⟩
      have hlift : Proc.run Stmt.exec (Svc.lift (.ok text)) w = (.ok text, w) := rfl
      rw [Proc.ends_bind_of_run_ok hlift]
      rcases wireEndpoint_spec w cfg text with ⟨hproxy, e, hwire, he⟩ | ⟨hproxy, f, hwire⟩
      · obtain ⟨v, htoken, hsplice, hkeep⟩ := wireToken_run h w run cfg agent hagent
          (if resolves w cfg then withInsecure text else rawJson text)
        have hv := depth_sentWorkload htext hsplice hkeep
        have hfits : e.depth ≤ columnDepth ↔ (resolves w cfg = false → Fits cfg.endpointRef) := by
          rw [he]
          cases resolves w cfg
          · simp [depth_rawJson_le_iff]
          · simp [columnDepth]
        have hm := depth_wireMethodology cfg
        have hsend : Sendable h w run cfg ↔ e.depth ≤ columnDepth ∧ v.depth ≤ columnDepth ∧
            (wireMethodology cfg).depth ≤ columnDepth := by
          rw [hfits, hv, hm]
          exact ⟨fun hs => ⟨hs.endpoint, hs.workload, hs.methodology⟩,
            fun hs => ⟨hmodes, hproxy, hs.1, hs.2.1, hs.2.2⟩⟩
        rw [Proc.ends_bind_of_run_ok hwire]
        dsimp only
        rw [Proc.ends_bind_of_run_ok htoken, hsend]
        by_cases hconfig : (configDto cfg e v).depth ≤ Json.maxDepth
        · have hwrite : (configDto cfg e v).write 0 = .ok () := by simp [Json.write, hconfig]
          have hmessage := write_message_iff run cfg e v
          rw [hwrite, ← hmessage]
          have hlift' : Proc.run Stmt.exec (Svc.lift (.ok ())) w = (.ok (), w) := rfl
          rw [Proc.ends_bind_of_run_ok hlift']
          simp only [Proc.pure_eq, Proc.ret_bind, assignRun, Svc.read]
          rw [Proc.ends_issue_bind, exec_query, List.contains_iff_mem.mpr honline]
          simp only [if_true]
          cases hw : (Json.obj [("type", .str "assign_run"), ("run", runDto run),
              ("config", configDto cfg e v)]).write 0 with
          | error f => exact iff_of_false (Proc.not_ends_bind_of_run_error (by rfl)) (by simp)
          | ok u =>
              rw [Proc.ends_bind_of_run_ok (p := Svc.lift (.ok u)) (by rfl)]
              exact iff_of_true (Proc.ends_issue.mpr trivial) rfl
        · have hwrite : (configDto cfg e v).write 0 = .error .invalidOperation := by
            simp [Json.write, hconfig]
          have hdeep : ¬ (e.depth ≤ columnDepth ∧ v.depth ≤ columnDepth ∧
              (wireMethodology cfg).depth ≤ columnDepth) := by
            rw [depth_configDto] at hconfig
            simp only [columnDepth, Json.maxDepth] at hconfig ⊢
            omega
          rw [hwrite]
          exact iff_of_false (Proc.not_ends_bind_of_run_error (by rfl)) hdeep
      · exact iff_of_false (Proc.not_ends_bind_of_run_error hwire) fun hs => hproxy hs.proxy

/-- Assigning a run: choose the agent, deliver, claim. -/
lemma tryAssign_eq (h : Host) (run : TestRun) (cfg : TestConfig) :
    tryAssign h run cfg = selectTargetAgent run.projectId run.testerId >>= fun target =>
      match target with
      | none => .ret false
      | some agent => deliver h run cfg agent >>= stampSent run agent := by
  refine congrArg (selectTargetAgent run.projectId run.testerId >>= ·) (funext fun target => ?_)
  cases target with
  | none => rfl
  | some agent =>
      dsimp only
      rw [deliver, Proc.bind_assoc]
      rfl

/-- Assigning a run returns exactly if the run is sendable or nobody can take it. -/
lemma tryAssign_ends_iff (h : Host) (w : World) (run : TestRun) (cfg : TestConfig) :
    (tryAssign h run cfg).Ends Stmt.exec w (fun _ _ => True) ↔
      (compatibleAgents w w.online run.projectId ≠ [] → Sendable h w run cfg) := by
  rw [tryAssign_eq, Proc.ends_bind_of_run_ok (selectTargetAgent_run w run.projectId run.testerId)]
  cases htarget : targetAgent w run.projectId run.testerId with
  | none =>
      have hnil : compatibleAgents w w.online run.projectId = [] := by
        rw [targetAgent] at htarget
        split at htarget
        · assumption
        · exact absurd htarget (by simp)
      exact iff_of_true (Proc.ends_ret.mpr trivial) fun hne => absurd hnil hne
  | some agent =>
      obtain ⟨x, hx, rfl⟩ := mem_of_targetAgent htarget
      obtain ⟨honline, hproject, hfind⟩ := mem_compatibleAgents hx
      have hagent : (w.agents.find? x.agentId).any (fun a => a.projectId == run.projectId) = true := by
        simp [hfind, hproject]
      have hne : compatibleAgents w w.online run.projectId ≠ [] := List.ne_nil_of_mem hx
      rw [← deliver_ends_iff h honline hagent]
      simp only [hne, ne_eq, not_false_eq_true, true_implies]
      -- behind the send nothing raises
      constructor
      · rintro ⟨b, s, hrun, -⟩
        rcases hd : Proc.run Stmt.exec (deliver h run cfg x.agentId) w with ⟨f | sent, s'⟩
        · rw [Proc.run_bind_error Stmt.exec hd] at hrun
          exact absurd (congrArg Prod.fst hrun) (by simp)
        · exact ⟨sent, s', hd, trivial⟩
      · rintro hends
        refine hends.bind fun sent s _ => ?_
        cases sent
        · exact Proc.ends_ret.mpr trivial
        · exact ⟨true, _, rfl, trivial⟩

/-! ### A pass -/

/-- What a pass does not change: the setting and the deployments. -/
structure PassFrame (w s : World) : Prop where
  setting : w.SameSetting s
  deployments : s.deployments = w.deployments

lemma PassFrame.exec {w s : World} (hs : PassFrame w s) {l : Stmt} (hl : l.assigns) :
    PassFrame w (l.exec s) := by
  have hset : s.SameSetting (l.exec s) := by
    refine sameSetting_exec ?_ s
    cases l <;> first | rfl | exact hl.elim
  refine ⟨hs.setting.trans hset, Eq.trans ?_ hs.deployments⟩
  cases l with
  | sendAssign agent run x y =>
      simp only [Stmt.exec]
      split_ifs <;> rfl
  | _ => first | rfl | exact hl.elim

lemma PassFrame.sendable_iff {h : Host} {w s : World} (hs : PassFrame w s) (run : TestRun)
    (cfg : TestConfig) : Sendable h s run cfg ↔ Sendable h w run cfg := by
  have hproxy : ResolvableProxy s cfg.endpointRef ↔ ResolvableProxy w cfg.endpointRef := by
    rw [ResolvableProxy, hs.deployments, ResolvableProxy]
  have hres : resolves s cfg = resolves w cfg := by
    simp only [resolves, resolvedHost, hs.deployments]
  constructor
  · exact fun hsend => ⟨hsend.modes, fun hp => hproxy.mp (hsend.proxy hp), hres ▸ hsend.endpoint,
      hres ▸ hsend.workload, hsend.methodology⟩
  · exact fun hsend => ⟨hsend.modes, fun hp => hproxy.mpr (hsend.proxy hp), hres ▸ hsend.endpoint,
      hres ▸ hsend.workload, hsend.methodology⟩

/-- The candidate is skipped, or nobody can take it, or it is sendable. -/
def Harmless (h : Host) (w : World) (c : TestRun × String) : Prop :=
  isPendingKind c.2 = false → compatibleAgents w w.online c.1.projectId ≠ [] →
    ∀ cfg, w.configOf c.1 = some cfg → Sendable h w c.1 cfg

/-- The body of the loop returns exactly on the harmless candidates. -/
lemma redispatchOne_ends_iff (h : Host) {w s : World} (hs : PassFrame w s) (c : TestRun × String) :
    (redispatchOne h c).Ends Stmt.exec s (fun _ _ => True) ↔ Harmless h w c := by
  rw [redispatchOne, Harmless]
  cases hp : isPendingKind c.2 with
  | true => exact iff_of_true (Proc.ends_ret.mpr trivial) (by simp)
  | false =>
      have hagents : compatibleAgents s s.online c.1.projectId =
          compatibleAgents w w.online c.1.projectId := by
        rw [compatibleAgents, hs.setting.agents, hs.setting.online, compatibleAgents]
      simp only [Bool.false_eq_true, if_false, true_implies, Svc.read]
      rw [Proc.ends_issue_bind, exec_query, hs.setting.configs, World.configOf]
      cases w.configs.find? c.1.testConfigId with
      | none => exact iff_of_true (Proc.ends_ret.mpr trivial) (by simp)
      | some cfg =>
          dsimp only
          rw [tryAssign_ends_iff, hagents, hs.sendable_iff]
          simp

/-- A pass attempts every candidate of its batch and returns. -/
def IsolatesPoison (h : Host) (w : World) : Prop :=
  (redispatchQueued h).Ends Stmt.exec w (fun _ _ => True) ∧
    (w.online ≠ [] →
      Proc.entered Stmt.exec (redispatchOne h) (redispatchCandidates (w.now - queuedMinAge) w) w =
        redispatchCandidates (w.now - queuedMinAge) w)

end RunDispatcher

open RunDispatcher

/-- **Poison isolation.**  A redispatch pass attempts all candidates of its batch and
returns if and only if every candidate whose config is not pending and that has an
online compatible agent is stored with string modes, a resolvable proxy reference and
columns that fit the message. -/
theorem poison_isolation_iff (h : Host) (w : World) :
    IsolatesPoison h w ↔
      ∀ c ∈ redispatchCandidates (w.now - queuedMinAge) w, Harmless h w c := by
  have hstart : PassFrame w w := ⟨.refl w, rfl⟩
  have hkeep : ∀ c s, PassFrame w s → PassFrame w (Proc.run Stmt.exec (redispatchOne h c) s).2 := by
    intro c s hs
    refine Proc.Issues.run_preserves (P := Stmt.assigns) ?_ (fun l t hl ht => ht.exec hl) hs
    exact issues_redispatchOne h trivial (fun _ _ => trivial) c (fun _ _ _ => trivial)
      fun _ _ => trivial
  have hloop := Proc.ends_count_iff (redispatchCandidates (w.now - queuedMinAge) w) hkeep
    (fun c _ s hs => redispatchOne_ends_iff h hs c) hstart
  rw [← hloop, IsolatesPoison, redispatchQueued]
  simp only [Svc.read]
  rw [Proc.ends_issue_bind, exec_query]
  by_cases hon : w.online = []
  · -- without agents the pass reads no batch, and every candidate is harmless
    have hall : ∀ c ∈ redispatchCandidates (w.now - queuedMinAge) w, Harmless h w c := by
      intro c _ _ hne
      refine absurd ?_ hne
      simp [compatibleAgents, hon, Table.select]
    rw [hon]
    exact iff_of_true ⟨Proc.ends_ret.mpr trivial, fun hne => absurd rfl hne⟩ (hloop.mpr hall)
  · have hne : w.online.isEmpty = false := by simpa using hon
    rw [hne]
    simp only [Bool.false_eq_true, if_false]
    rw [Proc.ends_issue_bind, exec_query, Proc.ends_issue_bind, exec_query]
    exact ⟨fun hpass => hpass.1, fun hends => ⟨hends, fun _ => hends.entered⟩⟩

namespace NumericMode

/-- A config with these modes. -/
def config (id : Guid) (modes : List Json) : TestConfig :=
  .basic id "p" "network" (.obj [("kind", .str "network"), ("host", .str "h"), ("port", .int 443)])
    (.obj [("modes", .arr modes)])

/-- Two queued runs, the older one with a number among its modes, and an agent. -/
def world : World :=
  { World.initial with
    now := seconds 100
    configs := ⟨[config 0 [.str "http1", .int 5], config 1 [.str "http1"]], 2, by decide, by decide⟩
    runs := ⟨[newRun (config 0 []) none none 0 0, newRun (config 1 []) none none 1 1], 2,
      by decide, by decide⟩
    agents := ⟨[⟨0, "p", some "0.30.0", none, "online", none⟩], 1, by decide, by decide⟩
    online := [0] }

end NumericMode

open NumericMode in
/-- The pass raises at the older run and never reaches the other one. -/
theorem numeric_mode_stops_pass : ¬ IsolatesPoison Host.plain world := by
  rintro ⟨⟨n, w', hrun, -⟩, -⟩
  have hraise : (Proc.run Stmt.exec (redispatchQueued Host.plain) world).1.isOk = false := by
    decide +kernel
  rw [hrun] at hraise
  exact absurd hraise (by simp [Except.isOk, Except.toBool])

end Networker
