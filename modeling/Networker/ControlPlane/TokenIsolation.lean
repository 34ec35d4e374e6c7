/-
The decrypted token of a config stays in its project.

* `OneProject`: the agent, the run and the config of a dispatch are of one project;
* `payload_untokened`: otherwise the payload is the one of a config without a token;
* `tryAssign_run_eq`: an assignment as a function of the state;
* `Alike`: two states that differ only in the tokens of the configs outside a project and
  in what the agents outside it have received;
* `tokens_stay_in_project`: every payload built and every frame delivered by a dispatch,
  the stored configs, and what the agents of the project receive in two alike states.
-/
import Networker.Concurrency.Blind
import Networker.ControlPlane.Redispatch

namespace Networker

open Data Concurrency

/-- The config without its token. -/
def TestConfig.untokened (c : TestConfig) : TestConfig := { c with token := none }

/-- The config with its token only where it is of the project. -/
def TestConfig.redact (projectId : String) (c : TestConfig) : TestConfig :=
  if c.projectId = projectId then c else c.untokened

lemma TestConfig.key_redact (projectId : String) (c : TestConfig) :
    Keyed.key (c.redact projectId) = Keyed.key c := by
  rw [redact]
  split_ifs <;> rfl

namespace World

/-- The state over other configs and another outbox. -/
def overlay (configs : Table TestConfig) (outbox : List Delivery) (w : World) : World :=
  { w with configs := configs, outbox := outbox }

/-- The agent is of the project. -/
def agentInProject (w : World) (projectId : String) (agent : Guid) : Bool :=
  (w.agents.find? agent).any fun a => a.projectId == projectId

/-- What the agents of a project have received. -/
def deliveriesTo (w : World) (projectId : String) : List Delivery :=
  w.outbox.filter fun d => w.agentInProject projectId d.agent

end World

namespace RunDispatcher

/-- Two states that differ only in the tokens of the configs outside the project, and in
what the agents outside the project have received. -/
structure Alike (projectId : String) (w w' : World) : Prop where
  others : w' = w.overlay w'.configs w'.outbox
  next : w'.configs.next = w.configs.next
  rows : w'.configs.rows.map (TestConfig.redact projectId) =
    w.configs.rows.map (TestConfig.redact projectId)
  deliveries : w'.deliveriesTo projectId = w.deliveriesTo projectId

/-- The agent, the run and the config are of one project. -/
def OneProject (w : World) (run : TestRun) (cfg : TestConfig) (agent : Guid) : Prop :=
  w.agentInProject run.projectId agent = true ∧ cfg.projectId = run.projectId

instance (w : World) (run : TestRun) (cfg : TestConfig) (agent : Guid) :
    Decidable (OneProject w run cfg agent) := inferInstanceAs (Decidable (_ ∧ _))

/-- The payload `SerializeForAssignAsync` builds, or what it raises. -/
def payload (h : Host) (w : World) (run : TestRun) (cfg : TestConfig) (agent : Guid) :
    Except SvcError (Json × Json) :=
  (Proc.run Stmt.exec (serializeForAssign h run cfg agent) w).1

variable {h : Host} {w : World} {run : TestRun} {cfg : TestConfig} {agent : Guid}

lemma serializeForAssign_run (h : Host) (w : World) (run : TestRun) (cfg : TestConfig)
    (agent : Guid) :
    Proc.run Stmt.exec (serializeForAssign h run cfg agent) w =
      (payload h w run cfg agent, w) :=
  Prod.ext rfl (serializeForAssign_snd h run cfg agent w)

/-! ### The payload -/

/-- Outside one project the token is not spliced. -/
lemma wireToken_untokened (hno : ¬ OneProject w run cfg agent) (workload : Json) :
    Proc.run Stmt.exec (wireToken h run cfg agent workload) w =
      Proc.run Stmt.exec (wireToken h run cfg.untokened agent workload) w := by
  have hright : Proc.run Stmt.exec (wireToken h run cfg.untokened agent workload) w =
      (.ok workload, w) := rfl
  rw [hright, wireToken]
  cases htok : cfg.token with
  | none => rfl
  | some token =>
      dsimp only
      split_ifs
      · have hgate : ¬ ((w.agentInProject run.projectId agent && cfg.projectId == run.projectId) =
            true) := by
          rw [Bool.and_eq_true, beq_iff_eq]
          exact hno
        change Proc.run Stmt.exec (Svc.read (fun w => w.agentInProject run.projectId agent) >>=
          fun inProject => pure (if (inProject && cfg.projectId == run.projectId) = true then
            withLagHoundToken h workload token else workload)) w = (.ok workload, w)
        simp only [Svc.read, Proc.issue, Proc.act_bind, Proc.run_act, Proc.ret_bind, exec_query,
          Proc.pure_eq, Proc.run_ret, if_neg hgate]
      · rfl

/-- Outside one project the payload is the one of a config without a token. -/
lemma serializeForAssign_untokened (hno : ¬ OneProject w run cfg agent) :
    Proc.run Stmt.exec (serializeForAssign h run cfg agent) w =
      Proc.run Stmt.exec (serializeForAssign h run cfg.untokened agent) w := by
  rw [serializeForAssign, serializeForAssign]
  have hfilter : filterModesText cfg.untokened.workload = filterModesText cfg.workload := rfl
  have hwire : ∀ text, wireEndpoint cfg.untokened text = wireEndpoint cfg text := fun _ => rfl
  have hdto : ∀ e v, configDto cfg.untokened e v = configDto cfg e v := fun _ _ => rfl
  simp only [hfilter, hwire, hdto]
  cases filterModesText cfg.workload with
  | error f => rfl
  | ok text =>
      simp only [Svc.lift, Proc.ret_bind]
      rcases wireEndpoint_spec w cfg text with ⟨-, e, hrun, -⟩ | ⟨-, f, hrun⟩
      · rw [Proc.run_bind_ok Stmt.exec hrun, Proc.run_bind_ok Stmt.exec hrun]
        simp only [Proc.run_bind, wireToken_untokened hno]
      · rw [Proc.run_bind_error Stmt.exec hrun, Proc.run_bind_error Stmt.exec hrun]

lemma payload_untokened (hno : ¬ OneProject w run cfg agent) :
    payload h w run cfg agent = payload h w run cfg.untokened agent := by
  rw [payload, payload, serializeForAssign_untokened hno]

/-! ### The assignment as a function of the state -/

/-- The payload of a message that can be written, or what building or writing it raises. -/
def message (h : Host) (w : World) (run : TestRun) (cfg : TestConfig) (agent : Guid) :
    Except SvcError (Json × Json) :=
  match payload h w run cfg agent with
  | .error e => .error e
  | .ok (x, y) =>
      match (Json.obj [("type", .str "assign_run"), ("run", x), ("config", y)]).write 0 with
      | .error f => .error (.fault f)
      | .ok _ => .ok (x, y)

lemma payload_of_message {x y : Json} (hm : message h w run cfg agent = .ok (x, y)) :
    payload h w run cfg agent = .ok (x, y) := by
  rw [message] at hm
  split at hm
  · exact absurd hm (by simp)
  · rename_i x' y' hpay
    split at hm
    · exact absurd hm (by simp)
    · rw [hpay, hm]

lemma message_untokened (hno : ¬ OneProject w run cfg agent) :
    message h w run cfg agent = message h w run cfg.untokened agent := by
  rw [message, payload_untokened hno, message]

/-- A delivery to an online agent raises without a trace, or it sends the payload. -/
lemma deliver_run_eq (run : TestRun) (cfg : TestConfig) (honline : agent ∈ w.online) :
    Proc.run Stmt.exec (deliver h run cfg agent) w =
      match message h w run cfg agent with
      | .error e => (.error e, w)
      | .ok (x, y) => (.ok (w.reachable agent), Stmt.exec (.sendAssign agent run.id x y) w) := by
  have hser := serializeForAssign_run h w run cfg agent
  rw [message]
  rcases hpay : payload h w run cfg agent with e | ⟨x, y⟩
  · rw [hpay] at hser
    exact Proc.run_bind_error Stmt.exec hser
  · rw [hpay] at hser
    have hon : w.online.contains agent = true := List.contains_iff_mem.mpr honline
    rw [deliver, Proc.run_bind_ok Stmt.exec hser]
    simp only [assignRun, Svc.read, Proc.issue, Proc.act_bind, Proc.ret_bind, Proc.run_act,
      exec_query, hon, if_true]
    cases (Json.obj [("type", .str "assign_run"), ("run", x), ("config", y)]).write 0 <;> rfl

/-- An assignment: choose the target, build the message, send and claim. -/
lemma tryAssign_run_eq (h : Host) (w : World) (run : TestRun) (cfg : TestConfig) :
    Proc.run Stmt.exec (tryAssign h run cfg) w =
      match targetAgent w run.projectId run.testerId with
      | none => (.ok false, w)
      | some agent =>
          match message h w run cfg agent with
          | .error e => (.error e, w)
          | .ok (x, y) =>
              (.ok (w.reachable agent),
                if w.reachable agent then claimedBy run.id agent x y w else w) := by
  rw [tryAssign_eq, Proc.run_bind_ok Stmt.exec (selectTargetAgent_run w run.projectId run.testerId)]
  cases htarget : targetAgent w run.projectId run.testerId with
  | none => rfl
  | some agent =>
      dsimp only
      have hdel := deliver_run_eq (h := h) run cfg (mem_online_of_targetAgent htarget)
      rcases hm : message h w run cfg agent with e | ⟨x, y⟩
      · rw [hm] at hdel
        exact Proc.run_bind_error Stmt.exec hdel
      · rw [hm] at hdel
        rw [Proc.run_bind_ok Stmt.exec hdel]
        dsimp only
        by_cases hr : w.reachable agent = true
        · rw [if_pos hr, hr]
          rfl
        · have hstay : Stmt.exec (.sendAssign agent run.id x y) w = w := by simp [Stmt.exec, hr]
          rw [if_neg hr, hstay, Bool.not_eq_true _ |>.mp hr]
          rfl

lemma agents_claimedBy (run agent : Guid) (x y : Json) (w : World) :
    (claimedBy run agent x y w).agents = w.agents := by
  simp only [claimedBy, Stmt.exec]
  split_ifs <;> rfl

lemma outbox_of_claimedBy (run : Guid) (x y : Json) (hr : w.reachable agent = true) :
    (claimedBy run agent x y w).outbox = w.outbox ++ [⟨agent, .assignRun run x y⟩] := by
  simp [claimedBy, Stmt.exec, hr]

/-- The target of a run is of the project of the run. -/
lemma agentInProject_of_targetAgent {projectId : String} {tester : Option Guid}
    (htarget : targetAgent w projectId tester = some agent) :
    w.agentInProject projectId agent = true := by
  obtain ⟨x, hx, rfl⟩ := mem_of_targetAgent htarget
  obtain ⟨-, hproject, hfind⟩ := mem_compatibleAgents hx
  simp [World.agentInProject, hfind, hproject]

/-- What an assignment sends: at most one frame, to an agent of the project of the run, with
the payload built for it. -/
lemma tryAssign_outbox (h : Host) (w : World) (run : TestRun) (cfg : TestConfig) :
    ∃ ds, (Proc.run Stmt.exec (tryAssign h run cfg) w).2.outbox = w.outbox ++ ds ∧
      ∀ d ∈ ds, w.agentInProject run.projectId d.agent = true ∧
        ∃ x y, d.frame = .assignRun run.id x y ∧ payload h w run cfg d.agent = .ok (x, y) := by
  rw [tryAssign_run_eq]
  cases htarget : targetAgent w run.projectId run.testerId with
  | none => exact ⟨[], (List.append_nil _).symm, by simp⟩
  | some agent =>
      dsimp only
      rcases hm : message h w run cfg agent with e | ⟨x, y⟩
      · exact ⟨[], (List.append_nil _).symm, by simp⟩
      · dsimp only
        split_ifs with hr
        · refine ⟨[⟨agent, .assignRun run.id x y⟩], outbox_of_claimedBy run.id x y hr, fun d hd => ?_⟩
          obtain rfl := List.mem_singleton.mp hd
          exact ⟨agentInProject_of_targetAgent htarget, x, y, rfl, payload_of_message hm⟩
        · exact ⟨[], (List.append_nil _).symm, by simp⟩

/-! ### Two runs -/

section Overlay

variable {configs : Table TestConfig} {outbox : List Delivery}

lemma blind_read_bind {α β : Type} {g : World → α} {k : α → Svc β}
    (hg : ∀ w, g (w.overlay configs outbox) = g w)
    (hk : ∀ a, (k a).Blind Stmt.exec (World.overlay configs outbox)) :
    (Svc.read g >>= k).Blind Stmt.exec (World.overlay configs outbox) := by
  have hread : (Svc.read g).Blind Stmt.exec (World.overlay configs outbox) :=
    Proc.blind_issue (fun _ => rfl) hg
  exact hread.bind hk

lemma blind_lift {α : Type} {x : Except Fault α} :
    (Svc.lift x).Blind Stmt.exec (World.overlay configs outbox) := by
  cases x <;> trivial

/-- Building the payload looks neither at the configs nor at the outbox. -/
lemma blind_serializeForAssign (h : Host) (run : TestRun) (cfg : TestConfig) (agent : Guid) :
    (serializeForAssign h run cfg agent).Blind Stmt.exec (World.overlay configs outbox) := by
  refine blind_lift.bind fun text => ?_
  have hwire : (wireEndpoint cfg text).Blind Stmt.exec (World.overlay configs outbox) := by
    rw [wireEndpoint]
    split_ifs
    · refine Proc.Blind.bind ?_ fun resolved => by cases resolved <;> trivial
      refine blind_lift.bind fun ref => ?_
      split
      · trivial
      · refine blind_read_bind (fun _ => rfl) fun dep => ?_
        split
        · trivial
        · exact blind_lift
    · trivial
  refine hwire.bind fun wire => Proc.Blind.bind ?_ fun workload => blind_lift.bind fun _ => trivial
  rw [wireToken]
  split
  · split_ifs
    · exact blind_read_bind (fun _ => rfl) fun _ => trivial
    · trivial
  · trivial

lemma payload_overlay (h : Host) (w : World) (run : TestRun) (cfg : TestConfig) (agent : Guid) :
    payload h (w.overlay configs outbox) run cfg agent = payload h w run cfg agent := by
  rw [payload, (blind_serializeForAssign h run cfg agent).run, payload]

lemma message_overlay (h : Host) (w : World) (run : TestRun) (cfg : TestConfig) (agent : Guid) :
    message h (w.overlay configs outbox) run cfg agent = message h w run cfg agent := by
  rw [message, payload_overlay, message]

end Overlay

variable {P : String} {w' : World}

/-- The two rows of a config in alike states. -/
lemma Alike.find? (ha : Alike P w w') (k : Guid) :
    (w'.configs.find? k).map (TestConfig.redact P) =
      (w.configs.find? k).map (TestConfig.redact P) := by
  have hfind : ∀ t : Table TestConfig, (t.find? k).map (TestConfig.redact P) =
      (t.rows.map (TestConfig.redact P)).find? fun r => Keyed.key r == k := by
    intro t
    rw [List.find?_map, Table.find?]
    congr 2
    funext r
    rw [Function.comp_apply, TestConfig.key_redact]
  rw [hfind, hfind, ha.rows]

/-- Two rows that are the same up to a foreign token. -/
lemma redact_cases {c c' : TestConfig} (hc : c'.redact P = c.redact P) :
    c' = c ∨ c.projectId ≠ P ∧ c'.projectId = c.projectId ∧ c'.untokened = c.untokened := by
  rw [TestConfig.redact, TestConfig.redact] at hc
  split_ifs at hc with h' h h
  · exact Or.inl hc
  · have : c.untokened.projectId = P := hc ▸ h'
    exact absurd this h
  · have : c'.untokened.projectId = P := hc ▸ h
    exact absurd this h'
  · have hproject : c'.untokened.projectId = c.untokened.projectId := congrArg _ hc
    exact Or.inr ⟨h, hproject, hc⟩

/-- A claim over other configs and another outbox, possibly with another payload. -/
lemma claimedBy_overlay (configs : Table TestConfig) (outbox : List Delivery) (run : Guid)
    (x y x' y' : Json) (hr : w.reachable agent = true) :
    claimedBy run agent x' y' (w.overlay configs outbox) =
      (claimedBy run agent x y w).overlay configs
        (outbox ++ [⟨agent, .assignRun run x' y'⟩]) := by
  have hr' : (w.overlay configs outbox).reachable agent = true := hr
  have hsend : Stmt.exec (.sendAssign agent run x' y') (w.overlay configs outbox) =
      (Stmt.exec (.sendAssign agent run x y) w).overlay configs
        (outbox ++ [⟨agent, .assignRun run x' y'⟩]) := by
    simp only [Stmt.exec, if_pos hr, if_pos hr']
    rfl
  rw [claimedBy, hsend]
  rfl

/-- A received frame counts for the project only if its agent is of the project. -/
lemma deliveriesTo_claimedBy (run : Guid) (x y : Json) (hr : w.reachable agent = true) :
    (claimedBy run agent x y w).deliveriesTo P = w.deliveriesTo P ++
      if w.agentInProject P agent then [⟨agent, .assignRun run x y⟩] else [] := by
  have hproj : ∀ d, (claimedBy run agent x y w).agentInProject P d = w.agentInProject P d := by
    intro d
    rw [World.agentInProject, agents_claimedBy, World.agentInProject]
  simp only [World.deliveriesTo, hproj, outbox_of_claimedBy run x y hr, List.filter_append,
    List.filter_singleton, cond_eq_ite]

/-- The claims of two assignments to one agent, with payloads that differ at most for an
agent outside the project. -/
lemma Alike.claimed (ha : Alike P w w') (run : Guid) {x y x' y' : Json}
    (hr : w.reachable agent = true)
    (hsame : w.agentInProject P agent = true → (x', y') = (x, y)) :
    Alike P (claimedBy run agent x y w) (claimedBy run agent x' y' w') := by
  have hr' : w'.reachable agent = true := by
    rw [ha.others]
    exact hr
  have hproj : w'.agentInProject P agent = w.agentInProject P agent := by
    rw [ha.others]
    rfl
  have hother := claimedBy_overlay w'.configs w'.outbox run x y x' y' hr
  rw [← ha.others] at hother
  have hconfigs : (claimedBy run agent x y w).configs = w.configs := by
    simp only [claimedBy, Stmt.exec, if_pos hr]
  have hconfigs' : (claimedBy run agent x' y' w').configs = w'.configs := by rw [hother]; rfl
  refine ⟨?_, ?_, ?_, ?_⟩
  · rw [hconfigs', outbox_of_claimedBy run x' y' hr', hother]
  · rw [hconfigs', hconfigs, ha.next]
  · rw [hconfigs', hconfigs, ha.rows]
  · rw [deliveriesTo_claimedBy run x' y' hr', deliveriesTo_claimedBy run x y hr, ha.deliveries,
      hproj]
    split_ifs with hP
    · obtain ⟨rfl, rfl⟩ := Prod.mk.inj (hsame hP)
      rfl
    · rfl

/-- Assigning one run in two alike states, with rows of its config that are the same up to a
foreign token: the agents of the project receive the same, and where both return they return
the same in alike states. -/
lemma Alike.tryAssign (ha : Alike P w w') (run : TestRun) {cfg cfg' : TestConfig}
    (hc : cfg'.redact P = cfg.redact P) :
    (Proc.run Stmt.exec (tryAssign h run cfg') w').2.deliveriesTo P =
        (Proc.run Stmt.exec (tryAssign h run cfg) w).2.deliveriesTo P ∧
      ∀ b b', (Proc.run Stmt.exec (tryAssign h run cfg) w).1 = .ok b →
        (Proc.run Stmt.exec (tryAssign h run cfg') w').1 = .ok b' → b' = b ∧
          Alike P (Proc.run Stmt.exec (tryAssign h run cfg) w).2
            (Proc.run Stmt.exec (tryAssign h run cfg') w').2 := by
  have htarget' : targetAgent w' run.projectId run.testerId =
      targetAgent w run.projectId run.testerId := by
    rw [ha.others]
    rfl
  have hreach : ∀ agent, w'.reachable agent = w.reachable agent := by
    intro agent
    rw [ha.others]
    rfl
  have hmessage : ∀ cfg agent, message h w' run cfg agent = message h w run cfg agent := by
    intro cfg agent
    rw [ha.others, message_overlay]
  rw [tryAssign_run_eq, tryAssign_run_eq, htarget']
  cases htarget : targetAgent w run.projectId run.testerId with
  | none => exact ⟨ha.deliveries, fun b b' hb hb' => ⟨by simp_all, ha⟩⟩
  | some agent =>
      have hin := agentInProject_of_targetAgent htarget
      -- for an agent of the project the two messages are the same
      have hsame : w.agentInProject P agent = true →
          message h w' run cfg' agent = message h w run cfg agent := by
        intro hP
        rw [hmessage]
        rcases redact_cases hc with rfl | ⟨hcfg, hproject, huntokened⟩
        · rfl
        · have hrun : run.projectId = P := by
            rw [World.agentInProject, Option.any_eq_true] at hP hin
            obtain ⟨x, hx, hxP⟩ := hP
            obtain ⟨y, hy, hyrun⟩ := hin
            obtain rfl := Option.some.inj (hx.symm.trans hy)
            exact (beq_iff_eq.mp hyrun).symm.trans (beq_iff_eq.mp hxP)
          rw [message_untokened (fun hone => hcfg (hone.2.trans hrun)),
            message_untokened (fun hone => hcfg (hproject.symm.trans (hone.2.trans hrun))),
            huntokened]
      have hproj : w'.agentInProject P agent = w.agentInProject P agent := by
        rw [ha.others]
        rfl
      dsimp only
      rw [hreach]
      by_cases hr : w.reachable agent = true
      · have hr' : w'.reachable agent = true := (hreach agent).trans hr
        have hkeep : w.agentInProject P agent = false → ∀ x y,
            (claimedBy run.id agent x y w).deliveriesTo P = w.deliveriesTo P := by
          intro hP x y
          simp [deliveriesTo_claimedBy run.id x y hr, hP]
        have hkeep' : w.agentInProject P agent = false → ∀ x y,
            (claimedBy run.id agent x y w').deliveriesTo P = w'.deliveriesTo P := by
          intro hP x y
          simp [deliveriesTo_claimedBy run.id x y hr', hproj, hP]
        simp only [hr, if_true]
        rcases hm : message h w run cfg agent with e | ⟨x, y⟩ <;>
          rcases hm' : message h w' run cfg' agent with e' | ⟨x', y'⟩ <;>
          rw [hm, hm'] at hsame
        · exact ⟨ha.deliveries, fun b b' hb => absurd hb (by simp)⟩
        · have hP : w.agentInProject P agent = false := by
            by_contra hP
            exact absurd (hsame (by simpa using hP)) (by simp)
          exact ⟨(hkeep' hP x' y').trans ha.deliveries, fun b b' hb => absurd hb (by simp)⟩
        · have hP : w.agentInProject P agent = false := by
            by_contra hP
            exact absurd (hsame (by simpa using hP)) (by simp)
          exact ⟨ha.deliveries.trans (hkeep hP x y).symm, fun b b' _ hb' => absurd hb' (by simp)⟩
        · have hclaim : Alike P (claimedBy run.id agent x y w) (claimedBy run.id agent x' y' w') :=
            ha.claimed run.id hr fun hP => Except.ok.inj (hsame hP)
          exact ⟨hclaim.deliveries, fun b b' hb hb' =>
            ⟨(Except.ok.inj hb').symm.trans (Except.ok.inj hb), hclaim⟩⟩
      · simp only [hr, Bool.false_eq_true, if_false]
        rcases message h w run cfg agent with e | ⟨x, y⟩ <;>
          rcases message h w' run cfg' agent with e' | ⟨x', y'⟩
        · exact ⟨ha.deliveries, fun b b' hb => absurd hb (by simp)⟩
        · exact ⟨ha.deliveries, fun b b' hb => absurd hb (by simp)⟩
        · exact ⟨ha.deliveries, fun b b' _ hb' => absurd hb' (by simp)⟩
        · exact ⟨ha.deliveries, fun b b' hb hb' =>
            ⟨(Except.ok.inj hb').symm.trans (Except.ok.inj hb), ha⟩⟩

/-- What a dispatch leads to. -/
lemma dispatchRun_snd (h : Host) (w : World) (id : Guid) :
    (Proc.run Stmt.exec (dispatchRun h id) w).2 =
      match w.runs.find? id with
      | none => w
      | some run =>
          match w.configs.find? run.testConfigId with
          | none => w
          | some cfg =>
              if isPendingKind cfg.endpointKind then w
              else (Proc.run Stmt.exec (RunDispatcher.tryAssign h run cfg) w).2 := by
  simp only [dispatchRun, Svc.read, Proc.issue, Proc.act_bind, Proc.ret_bind, Proc.run_act,
    exec_query]
  cases w.runs.find? id with
  | none => rfl
  | some run =>
      simp only [Proc.run_act, exec_query]
      cases w.configs.find? run.testConfigId with
      | none => rfl
      | some cfg =>
          dsimp only
          split_ifs
          · rfl
          · rw [Proc.run_bind]
            rcases Proc.run Stmt.exec (RunDispatcher.tryAssign h run cfg) w with ⟨_ | _, _⟩ <;> rfl

lemma endpointKind_redact (c : TestConfig) : (c.redact P).endpointKind = c.endpointKind := by
  rw [TestConfig.redact]
  split_ifs <;> rfl

/-- Dispatching one run in two alike states. -/
lemma Alike.dispatchRun (ha : Alike P w w') (h : Host) (id : Guid) :
    (Proc.run Stmt.exec (RunDispatcher.dispatchRun h id) w').2.deliveriesTo P =
      (Proc.run Stmt.exec (RunDispatcher.dispatchRun h id) w).2.deliveriesTo P := by
  have hruns : w'.runs = w.runs := by
    rw [ha.others]
    rfl
  rw [dispatchRun_snd, dispatchRun_snd, hruns]
  cases w.runs.find? id with
  | none => exact ha.deliveries
  | some run =>
      have hfind := ha.find? run.testConfigId
      dsimp only
      cases hcfg : w.configs.find? run.testConfigId with
      | none =>
          rw [hcfg, Option.map_none, Option.map_eq_none_iff] at hfind
          rw [hfind]
          exact ha.deliveries
      | some cfg =>
          rw [hcfg, Option.map_some, Option.map_eq_some_iff] at hfind
          obtain ⟨cfg', hcfg', hc⟩ := hfind
          have hkind : cfg'.endpointKind = cfg.endpointKind := by
            rw [← endpointKind_redact (P := P), hc, endpointKind_redact]
          rw [hcfg']
          dsimp only
          rw [hkind]
          split_ifs
          · exact ha.deliveries
          · exact (ha.tryAssign run hc).1

lemma exec_insertRun_redact (c : TestConfig) (group tester : Option Guid) (now : Time)
    (w : World) : Stmt.exec (.insertRun (c.redact P) group tester now) w =
      Stmt.exec (.insertRun c group tester now) w := by
  rw [TestConfig.redact]
  split_ifs <;> rfl

/-- Launching a config in two alike states. -/
lemma Alike.launch (ha : Alike P w w') (h : Host) (config : Guid) (group tester : Option Guid) :
    (Proc.run Stmt.exec (RunDispatcher.launch h config group tester) w').2.deliveriesTo P =
      (Proc.run Stmt.exec (RunDispatcher.launch h config group tester) w).2.deliveriesTo P := by
  have hsnd : ∀ u : World,
      (Proc.run Stmt.exec (RunDispatcher.launch h config group tester) u).2 =
        match u.configs.find? config with
        | none => u
        | some cfg =>
            (Proc.run Stmt.exec (RunDispatcher.dispatchRun h u.runs.next)
              (Stmt.exec (.insertRun cfg group tester u.now) u)).2 := by
    intro u
    simp only [RunDispatcher.launch, Svc.read, Proc.issue, Proc.act_bind, Proc.ret_bind,
      Proc.run_act, exec_query]
    cases u.configs.find? config with
    | none => rfl
    | some cfg =>
        simp only [Proc.run_act, exec_query, Proc.run_bind]
        rcases Proc.run Stmt.exec (RunDispatcher.dispatchRun h u.runs.next)
          (Stmt.exec (.insertRun cfg group tester u.now) u) with ⟨_ | _, _⟩ <;> rfl
  have hruns : w'.runs.next = w.runs.next ∧ w'.now = w.now := by
    rw [ha.others]
    exact ⟨rfl, rfl⟩
  rw [hsnd, hsnd, hruns.1, hruns.2]
  have hfind := ha.find? config
  cases hcfg : w.configs.find? config with
  | none =>
      rw [hcfg, Option.map_none, Option.map_eq_none_iff] at hfind
      rw [hfind]
      exact ha.deliveries
  | some cfg =>
      rw [hcfg, Option.map_some, Option.map_eq_some_iff] at hfind
      obtain ⟨cfg', hcfg', hc⟩ := hfind
      rw [hcfg']
      dsimp only
      have hinsert : Stmt.exec (.insertRun cfg' group tester w.now) w' =
          Stmt.exec (.insertRun cfg group tester w.now) w' := by
        rw [← exec_insertRun_redact (P := P), hc, exec_insertRun_redact]
      rw [hinsert]
      have hafter : Alike P (Stmt.exec (.insertRun cfg group tester w.now) w)
          (Stmt.exec (.insertRun cfg group tester w.now) w') := by
        refine ⟨?_, ha.next, ha.rows, ha.deliveries⟩
        conv_lhs => rw [ha.others]
        rfl
      exact hafter.dispatchRun h _

/-- One turn of the redispatch loop in two alike states, where both return. -/
lemma Alike.redispatchOne (ha : Alike P w w') (c : TestRun × String) {b b' : Bool} {s s' : World}
    (hb : Proc.run Stmt.exec (RunDispatcher.redispatchOne h c) w = (.ok b, s))
    (hb' : Proc.run Stmt.exec (RunDispatcher.redispatchOne h c) w' = (.ok b', s')) :
    b' = b ∧ Alike P s s' := by
  simp only [RunDispatcher.redispatchOne] at hb hb'
  split at hb
  · rename_i hk
    rw [if_pos hk] at hb'
    obtain ⟨h1, rfl⟩ := Prod.mk.inj hb
    obtain ⟨h2, rfl⟩ := Prod.mk.inj hb'
    exact ⟨(Except.ok.inj h2).symm.trans (Except.ok.inj h1), ha⟩
  · rename_i hk
    rw [if_neg hk] at hb'
    simp only [Svc.read, Proc.issue, Proc.act_bind, Proc.ret_bind, Proc.run_act, exec_query]
      at hb hb'
    have hfind := ha.find? c.1.testConfigId
    cases hcfg : w.configs.find? c.1.testConfigId with
    | none =>
        rw [hcfg, Option.map_none, Option.map_eq_none_iff] at hfind
        rw [hcfg] at hb
        rw [hfind] at hb'
        obtain ⟨h1, rfl⟩ := Prod.mk.inj hb
        obtain ⟨h2, rfl⟩ := Prod.mk.inj hb'
        exact ⟨(Except.ok.inj h2).symm.trans (Except.ok.inj h1), ha⟩
    | some cfg =>
        rw [hcfg, Option.map_some, Option.map_eq_some_iff] at hfind
        obtain ⟨cfg', hcfg', hc⟩ := hfind
        rw [hcfg] at hb
        rw [hcfg'] at hb'
        have htry := (ha.tryAssign (h := h) c.1 hc).2 b b'
        rw [hb, hb'] at htry
        exact htry rfl rfl

/-- The redispatch loop in two alike states, where both return. -/
lemma Alike.count (cs : List (TestRun × String)) (ha : Alike P w w') {n n' : ℕ} {s s' : World}
    (hn : Proc.run Stmt.exec (Proc.count (RunDispatcher.redispatchOne h) cs) w = (.ok n, s))
    (hn' : Proc.run Stmt.exec (Proc.count (RunDispatcher.redispatchOne h) cs) w' = (.ok n', s')) :
    Alike P s s' := by
  induction cs generalizing w w' n n' with
  | nil =>
      obtain ⟨-, rfl⟩ := Prod.mk.inj hn
      obtain ⟨-, rfl⟩ := Prod.mk.inj hn'
      exact ha
  | cons c cs ih =>
      rw [Proc.count, Proc.run_bind] at hn hn'
      rcases hb : Proc.run Stmt.exec (RunDispatcher.redispatchOne h c) w with ⟨e | b, t⟩
      · rw [hb] at hn
        exact absurd (congrArg Prod.fst hn) (by simp)
      rcases hb' : Proc.run Stmt.exec (RunDispatcher.redispatchOne h c) w' with ⟨e | b', t'⟩
      · rw [hb'] at hn'
        exact absurd (congrArg Prod.fst hn') (by simp)
      obtain ⟨-, hat⟩ := ha.redispatchOne c hb hb'
      rw [hb] at hn
      rw [hb'] at hn'
      dsimp only at hn hn'
      rw [Proc.run_bind] at hn hn'
      rcases hm : Proc.run Stmt.exec (Proc.count (RunDispatcher.redispatchOne h) cs) t with
        ⟨e | m, u⟩
      · rw [hm] at hn
        exact absurd (congrArg Prod.fst hn) (by simp)
      rcases hm' : Proc.run Stmt.exec (Proc.count (RunDispatcher.redispatchOne h) cs) t' with
        ⟨e | m', u'⟩
      · rw [hm'] at hn'
        exact absurd (congrArg Prod.fst hn') (by simp)
      rw [hm] at hn
      rw [hm'] at hn'
      obtain ⟨-, rfl⟩ := Prod.mk.inj hn
      obtain ⟨-, rfl⟩ := Prod.mk.inj hn'
      exact ih hat hm hm'

/-- The batch of a redispatch pass shows no token. -/
lemma Alike.redispatchCandidates (ha : Alike P w w') (cutoff : Time) :
    RunDispatcher.redispatchCandidates cutoff w' = RunDispatcher.redispatchCandidates cutoff w := by
  have hruns : w'.runs = w.runs := by
    rw [ha.others]
    rfl
  have hconfig : ∀ r : TestRun, (w'.configOf r).map TestConfig.endpointKind =
      (w.configOf r).map TestConfig.endpointKind := by
    intro r
    have hmap := congrArg (Option.map TestConfig.endpointKind) (ha.find? r.testConfigId)
    rw [World.configOf, World.configOf]
    simpa only [Option.map_map, Function.comp_def, endpointKind_redact] using hmap
  have hsome : ∀ r : TestRun, (w'.configOf r).isSome = (w.configOf r).isSome := by
    intro r
    rw [← Option.isSome_map (f := TestConfig.endpointKind), hconfig, Option.isSome_map]
  have hpair : ∀ r : TestRun, (w'.configOf r).map (fun c => (r, c.endpointKind)) =
      (w.configOf r).map fun c => (r, c.endpointKind) := by
    intro r
    have hmap := congrArg (Option.map fun k => (r, k)) (hconfig r)
    simpa only [Option.map_map, Function.comp_def] using hmap
  simp only [RunDispatcher.redispatchCandidates, hruns, hsome, hpair]

/-- A redispatch pass in two alike states, where both return. -/
lemma Alike.redispatchQueued (ha : Alike P w w') {n n' : ℕ} {s s' : World}
    (hn : Proc.run Stmt.exec (RunDispatcher.redispatchQueued h) w = (.ok n, s))
    (hn' : Proc.run Stmt.exec (RunDispatcher.redispatchQueued h) w' = (.ok n', s')) :
    Alike P s s' := by
  have hsame : w'.online = w.online ∧ w'.now = w.now := by
    rw [ha.others]
    exact ⟨rfl, rfl⟩
  simp only [RunDispatcher.redispatchQueued, Svc.read, Proc.issue, Proc.act_bind, Proc.ret_bind,
    Proc.run_act, exec_query, hsame.1] at hn hn'
  split at hn
  · rename_i hon
    rw [if_pos hon] at hn'
    obtain ⟨-, rfl⟩ := Prod.mk.inj hn
    obtain ⟨-, rfl⟩ := Prod.mk.inj hn'
    exact ha
  · rename_i hon
    rw [if_neg hon] at hn'
    simp only [Proc.run_act, exec_query, hsame.2, ha.redispatchCandidates] at hn hn'
    exact ha.count _ hn hn'

/-! ### The stored configs -/

/-- A statement that leaves the configs as they are. -/
def KeepsConfigs (l : Stmt) : Prop := ∀ w : World, (l.exec w).configs = w.configs

lemma keepsConfigs_sendAssign (agent run : Guid) (x y : Json) :
    KeepsConfigs (.sendAssign agent run x y) := by
  intro w
  rw [Stmt.exec]
  split_ifs <;> rfl

lemma configs_of_issues {α : Type} {p : Svc α} (hp : p.Issues KeepsConfigs) (w : World) :
    (Proc.run Stmt.exec p w).2.configs = w.configs :=
  hp.run_preserves (I := fun s => s.configs = w.configs) (fun _ s hl hs => (hl s).trans hs) rfl

end RunDispatcher

open RunDispatcher

/-- Tokens stay in their project.  Outside one project the payload for an agent is the one
of a config without a token, and a dispatch sends nothing but such a payload, to an agent of
the project of the run.  No dispatch changes a stored config.  In two states that differ
only in the tokens of the configs outside a project, a dispatch, a launch, and a redispatch
pass that returns in both, deliver the same to the agents of the project. -/
theorem tokens_stay_in_project (h : Host) :
    (∀ w run cfg agent, ¬ OneProject w run cfg agent →
      payload h w run cfg agent = payload h w run cfg.untokened agent) ∧
    (∀ w run cfg, ∃ ds,
      (Proc.run Stmt.exec (tryAssign h run cfg) w).2.outbox = w.outbox ++ ds ∧
      ∀ d ∈ ds, w.agentInProject run.projectId d.agent = true ∧
        ∃ x y, d.frame = .assignRun run.id x y ∧ payload h w run cfg d.agent = .ok (x, y)) ∧
    (∀ w id config group tester,
      (Proc.run Stmt.exec (dispatchRun h id) w).2.configs = w.configs ∧
      (Proc.run Stmt.exec (launch h config group tester) w).2.configs = w.configs ∧
      (Proc.run Stmt.exec (redispatchQueued h) w).2.configs = w.configs) ∧
    (∀ P w w', Alike P w w' →
      (∀ id, (Proc.run Stmt.exec (dispatchRun h id) w').2.deliveriesTo P =
        (Proc.run Stmt.exec (dispatchRun h id) w).2.deliveriesTo P) ∧
      (∀ config group tester,
        (Proc.run Stmt.exec (launch h config group tester) w').2.deliveriesTo P =
          (Proc.run Stmt.exec (launch h config group tester) w).2.deliveriesTo P) ∧
      (∀ n n' s s', Proc.run Stmt.exec (redispatchQueued h) w = (.ok n, s) →
        Proc.run Stmt.exec (redispatchQueued h) w' = (.ok n', s') →
          s'.deliveriesTo P = s.deliveriesTo P)) := by
  refine ⟨fun w run cfg agent hno => payload_untokened hno, fun w run cfg =>
    tryAssign_outbox h w run cfg, fun w id config group tester => ⟨?_, ?_, ?_⟩,
    fun P w w' ha => ⟨ha.dispatchRun h, ha.launch h, fun n n' s s' hn hn' =>
      (ha.redispatchQueued hn hn').deliveries⟩⟩
  · exact configs_of_issues (issues_dispatchRun h (fun _ => rfl) (fun _ _ _ => rfl)
      keepsConfigs_sendAssign (fun _ _ _ _ => rfl) id) w
  · exact configs_of_issues (issues_launch h (fun _ => rfl) (fun _ _ _ => rfl)
      keepsConfigs_sendAssign (fun _ _ _ _ => rfl) (fun _ _ _ _ _ => rfl) config group tester) w
  · exact configs_of_issues (issues_redispatchQueued h (fun _ => rfl) (fun _ _ _ => rfl)
      keepsConfigs_sendAssign (fun _ _ _ _ => rfl)) w

namespace TwoTokens

/-- A host on which every token decrypts, to the number of its bytes. -/
def host : Host := { Host.plain with decrypt := fun s => some (Text.ofNat (s.enc.length)) }

/-- An `sdkprobe` config with a token. -/
def config (id : Guid) (projectId : String) (enc : List UInt8) : TestConfig :=
  { TestConfig.basic id projectId "network"
      (.obj [("kind", .str "network"), ("host", .str "h"), ("port", .int 443)])
      (.obj [("modes", .arr [.str "sdkprobe"])]) with token := some ⟨enc, [0]⟩ }

/-- An agent of a project that is online. -/
def agent (id : Guid) (projectId : String) : Agent :=
  ⟨id, projectId, some "0.30.0", none, "online", none⟩

/-- A config in each project. -/
def configs (enc : List UInt8) : List TestConfig := [config 0 "p" [1], config 1 "q" enc]

lemma nodup_configs (enc : List UInt8) : ((configs enc).map Keyed.key).Nodup := by
  show [0, 1].Nodup
  decide

lemma bound_configs (enc : List UInt8) : ∀ c ∈ configs enc, Keyed.key c < 2 := by
  simp [configs, config, TestConfig.basic, Keyed.key]

/-- Two projects with a config, a queued run and an online agent each. -/
def world (enc : List UInt8) : World :=
  { World.initial with
    now := seconds 100
    configs := ⟨configs enc, 2, nodup_configs enc, bound_configs enc⟩
    runs := ⟨[newRun (config 0 "p" []) none none 0 0, newRun (config 1 "q" []) none none 1 1], 2,
      by decide, by decide⟩
    agents := ⟨[agent 0 "p", agent 1 "q"], 2, by decide, by decide⟩
    online := [0, 1] }

lemma alike (enc enc' : List UInt8) : Alike "p" (world enc) (world enc') :=
  ⟨rfl, rfl, by simp [world, configs, config, TestConfig.basic, TestConfig.redact,
    TestConfig.untokened], rfl⟩

/-- Within the project the token is on the wire. -/
example : ((payload host (world [7]) (newRun (config 0 "p" []) none none 0 0) (config 0 "p" [1])
    0).toOption.bind fun p => ((p.2.get? "workload").bind (Json.get? "laghound_token")).bind
      Json.str?) = some "1" := by decide +kernel

end TwoTokens

open TwoTokens in
theorem tokens_stay_in_project_two :
    payload host (world [7]) (newRun (config 0 "p" []) none none 0 0) (config 1 "q" [7]) 0 =
        payload host (world [7]) (newRun (config 0 "p" []) none none 0 0)
          (config 1 "q" [7]).untokened 0 ∧
      (Proc.run Stmt.exec (dispatchRun host 0) (world [8, 9])).2.deliveriesTo "p" =
        (Proc.run Stmt.exec (dispatchRun host 0) (world [7])).2.deliveriesTo "p" ∧
      (Proc.run Stmt.exec (redispatchQueued host) (world [8, 9])).2.deliveriesTo "p" =
        (Proc.run Stmt.exec (redispatchQueued host) (world [7])).2.deliveriesTo "p" := by
  obtain ⟨hpayload, -, -, htwo⟩ := tokens_stay_in_project host
  obtain ⟨hdispatch, -, hpass⟩ := htwo "p" (world [7]) (world [8, 9]) (alike [7] [8, 9])
  refine ⟨hpayload _ _ _ _ (by decide +kernel), hdispatch 0, hpass 2 2 _ _ ?_ ?_⟩
  · exact Prod.ext (by decide +kernel) rfl
  · exact Prod.ext (by decide +kernel) rfl

end Networker
