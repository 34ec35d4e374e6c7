/-
Alert events against the newest run.

* `windowOf`, `verdict`: the window that ends at a run, and whether it is breached;
* `Tracks`: the events of a rule and a config alternate, and when nothing is in progress the
  last one is the verdict on the newest run;
* `Undisturbed`, `Announced`, `InOrder`: what an evaluation has begun to read does not change,
  a run comes with an evaluation, and the evaluations decide in the order of their runs;
* `Faithful`: what follows for every state, handler by handler;
* `alerts_track_of_ordered`: then the events track the newest run.
-/
import Networker.ControlPlane.AlertEvaluator

namespace Networker

open Data Concurrency

namespace Alerting

/-! ### What is promised -/

/-- The other state. -/
def AlertState.other : AlertState → AlertState
  | firing => resolved
  | resolved => firing

/-- The states alternate, and begin with `first`. -/
def AlternatesFrom : AlertState → List AlertState → Prop
  | _, [] => True
  | first, state :: rest => state = first ∧ AlternatesFrom first.other rest

instance decidableAlternatesFrom : ∀ first states, Decidable (AlternatesFrom first states)
  | _, [] => isTrue trivial
  | first, _ :: rest =>
      have := decidableAlternatesFrom first.other rest
      inferInstanceAs (Decidable (_ ∧ _))

namespace AlertWorld

variable (w : AlertWorld)

/-- The metric of a run. -/
def value (metric : Metric) (s : Sample) : Option Float :=
  metricOf s.successCount s.failureCount (w.latencies s.id) metric

end AlertWorld

section Promise

variable (R : AlertRule) (c : Guid) (w : AlertWorld)

/-- The metrics of the window that ends at a run, the newest first. -/
def windowOf (row : RunRow) : List (Option Float) :=
  w.value R.metric row.sample ::
    ((w.priorRuns row).take (R.windowRuns - 1)).map (w.value R.metric)

/-- The window that ends at a run is breached. -/
def verdict (row : RunRow) : Bool :=
  windowBreached (windowOf R w row) R.windowRuns R.comparator R.threshold

/-- The events of the rule and the config in the order of their times. -/
def history : List AlertEvent :=
  (w.eventsOf R.ruleId c).insertionSort fun a b => a.firedAt ≤ b.firedAt

/-- A terminal run of the config. -/
def IsTerminalRun (row : RunRow) : Prop :=
  row.testConfigId = c ∧ isTerminalStatus row.status = true

/-- The terminal run of the config that was created last. -/
def IsNewest (row : RunRow) : Prop :=
  row ∈ w.runs.rows ∧ IsTerminalRun c row ∧
    ∀ r ∈ w.runs.rows, IsTerminalRun c r → r.createdAt ≤ row.createdAt

/-- No `run_finished` is being handled. -/
def Quiet : Prop := ∀ h ∈ w.handlers, h.stage = .ended

/-- The events alternate, and show the verdict on the newest run. -/
structure Tracks : Prop where
  alternates : AlternatesFrom .firing ((history R c w).map AlertEvent.state)
  agrees : Quiet w → ∀ row, IsNewest c w row → (w.value R.metric row.sample).isSome →
    w.firing R.ruleId c = verdict R w row

/-! ### Evaluations in order -/

/-- The handler has not read its run. -/
def Stage.unread : Stage → Bool
  | finish _ _ | counts _ | readRun => true
  | _ => false

/-- The handler is about to evaluate its run. -/
def Stage.awaits : Stage → Bool
  | counts _ | readRun => true
  | _ => false

/-- What an evaluation may read of the runs created up to a time. -/
def upTo (createdAt : ℕ) : List (Sample × Latency) :=
  ((w.terminalRuns c).filter (·.createdAt ≤ createdAt)).map fun s => (s, w.latencies s.id)

/-- A terminal run of the config whose metric is measurable. -/
def Evident (row : RunRow) : Prop :=
  IsTerminalRun c row ∧ (w.value R.metric row.sample).isSome = true

/-- A handler is about to evaluate the run. -/
def Awaited (run : Guid) : Prop := ∃ h ∈ w.handlers, h.run = run ∧ h.stage.awaits = true

instance : Decidable (Quiet w) := inferInstanceAs (Decidable (∀ h ∈ w.handlers, _))

instance (row : RunRow) : Decidable (IsTerminalRun c row) := inferInstanceAs (Decidable (_ ∧ _))

instance (row : RunRow) : Decidable (Evident R c w row) := inferInstanceAs (Decidable (_ ∧ _))

instance (run : Guid) : Decidable (Awaited w run) :=
  inferInstanceAs (Decidable (∃ h ∈ w.handlers, _))

/-- The rule stays as it is. -/
def StaysEnabled (l : AlertMove) (_ : AlertWorld) : Prop :=
  match l with
  | .setRules rules => R ∈ rules
  | _ => True

variable (projectOf : Guid → String) (l : AlertMove)

/-- Nothing changes that an evaluation of the config which has read its run may read. -/
def Undisturbed : Prop :=
  ∀ h ∈ w.handlers, ∀ row ∈ h.row, row.testConfigId = c →
    upTo c (l.exec projectOf w) row.createdAt = upTo c w row.createdAt

/-- A run that becomes terminal and measurable is about to be evaluated. -/
def Announced : Prop :=
  ∀ row ∈ (l.exec projectOf w).runs.rows, Evident R c (l.exec projectOf w) row →
    (∃ old ∈ w.runs.rows, old.id = row.id ∧ Evident R c w old) ∨
      Awaited (l.exec projectOf w) row.id

/-- The state of the rule and the config shows no newer run. -/
def ShowsNoNewer (row : RunRow) : Prop :=
  ∀ s ∈ w.shown R.ruleId c, s.createdAt ≤ row.createdAt

/-- An evaluation reads and writes the state while it shows no newer run, and writes it while
it is still what was read. -/
def InOrder : Prop :=
  match l with
  | .step i => ∀ h ∈ w.handlers[i]?, ∀ row ∈ h.row, row.testConfigId = c →
      match h.stage with
      | .readLast _ _ rule _ => rule.ruleId = R.ruleId → ShowsNoNewer R c w row
      | .insert _ _ rule _ currentlyFiring _ => rule.ruleId = R.ruleId →
          ShowsNoNewer R c w row ∧ w.firing R.ruleId c = currentlyFiring
      | _ => True
  | _ => True

/-- Evaluations in the order of their runs, on what stays as they have read it. -/
def Ordered (l : AlertMove) (w : AlertWorld) : Prop :=
  Undisturbed c w projectOf l ∧ Announced R c w projectOf l ∧ InOrder R c w l

end Promise

/-! ### Events in the order of their times -/

section Events

variable {es : List AlertEvent} {e : AlertEvent}

/-- The event inserted last is the latest. -/
lemma latest_concat (h : ∀ e' ∈ es, e'.firedAt < e.firedAt) : latest (es ++ [e]) = some e := by
  have hmem : ∀ (l : List AlertEvent) (b : Option AlertEvent),
      (∀ x ∈ b, x ∈ es) → l ⊆ es →
      ∀ x ∈ l.foldl (fun best e => if best.all (·.firedAt < e.firedAt) then some e else best) b,
        x ∈ es := by
    intro l
    induction l with
    | nil => exact fun b hb _ => hb
    | cons a l ih =>
        intro b hb hl
        rw [List.foldl_cons]
        refine ih _ (fun x hx => ?_) fun x hx => hl (List.mem_cons_of_mem _ hx)
        split_ifs at hx
        · rw [← Option.some.inj hx]
          exact hl List.mem_cons_self
        · exact hb x hx
  rw [latest, List.foldl_append, List.foldl_cons, List.foldl_nil, if_pos]
  rw [Option.all_eq_true]
  intro x hx
  exact decide_eq_true (h x (hmem es none nofun (List.Subset.refl _) x hx))

/-- The latest of events in the order of their times is the last. -/
lemma latest_of_pairwise (h : es.Pairwise fun a b => a.firedAt < b.firedAt) :
    latest es = es.getLast? := by
  induction es using List.reverseRecOn with
  | nil => rfl
  | append_singleton es e _ =>
      rw [List.getLast?_concat]
      exact latest_concat fun e' he' =>
        (List.pairwise_append.mp h).2.2 e' he' e (List.mem_singleton_self e)

lemma alternatesFrom_concat {states : List AlertState} {first state : AlertState} :
    AlternatesFrom first (states ++ [state]) ↔
      AlternatesFrom first states ∧ state = states.getLast?.elim first AlertState.other := by
  induction states generalizing first with
  | nil => simp [AlternatesFrom]
  | cons s rest ih =>
      rw [List.cons_append, AlternatesFrom, AlternatesFrom, ih, and_assoc]
      refine and_congr_right fun hs => and_congr_right fun _ => ?_
      subst hs
      cases rest with
      | nil => rfl
      | cons a l => rw [List.getLast?_cons_cons]; simp [List.getLast?_cons]

end Events

/-! ### What an evaluation has read -/

section Read

variable {R : AlertRule} {c : Guid} {w w' : AlertWorld} {row : RunRow}

lemma mem_terminalRuns {s : Sample} :
    s ∈ w.terminalRuns c ↔ ∃ r ∈ w.runs.rows, IsTerminalRun c r ∧ r.sample = s := by
  rw [AlertWorld.terminalRuns, List.mem_map]
  simp only [Table.mem_select, Bool.and_eq_true, beq_iff_eq, IsTerminalRun, and_assoc]

/-- The prior runs are terminal runs of the config that were created before. -/
lemma mem_priorRuns {s : Sample} (h : s ∈ w.priorRuns row) :
    s ∈ w.terminalRuns row.testConfigId ∧ s.createdAt ≤ row.createdAt := by
  rw [AlertWorld.priorRuns, List.mem_insertionSort, List.mem_filter] at h
  exact ⟨h.1, of_decide_eq_true ((Bool.and_eq_true _ _).mp h.2).2⟩

section Same

variable (hsame : upTo c w' row.createdAt = upTo c w row.createdAt)

include hsame

/-- The terminal runs up to the time are the same. -/
lemma filter_terminalRuns_eq :
    (w'.terminalRuns c).filter (·.createdAt ≤ row.createdAt) =
      (w.terminalRuns c).filter (·.createdAt ≤ row.createdAt) := by
  have hfst := congrArg (List.map Prod.fst) hsame
  simpa only [upTo, List.map_map, Function.comp_def, List.map_id'] using hfst

/-- A terminal run up to the time is still one, with the same latency. -/
lemma latency_eq {s : Sample} (hs : s ∈ w.terminalRuns c) (hle : s.createdAt ≤ row.createdAt) :
    s ∈ w'.terminalRuns c ∧ w'.latencies s.id = w.latencies s.id := by
  have hmem : (s, w.latencies s.id) ∈ upTo c w row.createdAt :=
    List.mem_map_of_mem (List.mem_filter.mpr ⟨hs, decide_eq_true hle⟩)
  rw [← hsame, upTo, List.mem_map] at hmem
  obtain ⟨s', hs', heq⟩ := hmem
  obtain ⟨rfl, hlatency⟩ := Prod.mk.inj heq
  exact ⟨(List.mem_filter.mp hs').1, hlatency⟩

lemma priorRuns_eq (hc : row.testConfigId = c) : w'.priorRuns row = w.priorRuns row := by
  have hsplit : ∀ w : AlertWorld, ((w.terminalRuns c).filter fun s =>
      s.id != row.id && decide (s.createdAt ≤ row.createdAt)) =
        ((w.terminalRuns c).filter (·.createdAt ≤ row.createdAt)).filter (·.id != row.id) :=
    fun w => List.filter_filter.symm
  rw [AlertWorld.priorRuns, AlertWorld.priorRuns, hc, hsplit, hsplit, filter_terminalRuns_eq hsame]

lemma value_eq {s : Sample} (hs : s ∈ w.terminalRuns c) (hle : s.createdAt ≤ row.createdAt)
    (metric : Metric) : w'.value metric s = w.value metric s := by
  rw [AlertWorld.value, AlertWorld.value, (latency_eq hsame hs hle).2]

/-- The window that ends at the run is the same. -/
lemma windowOf_eq (hc : row.testConfigId = c) (hrow : row.sample ∈ w.terminalRuns c) :
    windowOf R w' row = windowOf R w row := by
  rw [windowOf, windowOf, value_eq hsame hrow le_rfl, priorRuns_eq hsame hc]
  congr 1
  refine List.map_congr_left fun s hs => ?_
  obtain ⟨hmem, hle⟩ := mem_priorRuns (List.mem_of_mem_take hs)
  exact value_eq hsame (hc ▸ hmem) hle _

lemma verdict_eq (hc : row.testConfigId = c) (hrow : row.sample ∈ w.terminalRuns c) :
    verdict R w' row = verdict R w row := by
  rw [verdict, verdict, windowOf_eq hsame hc hrow]

end Same

/-! ### The metrics that are read -/

lemma mem_of_lookup {cache : List (Guid × Latency)} {run : Guid} {latency : Latency}
    (h : cache.lookup run = some latency) : (run, latency) ∈ cache := by
  induction cache with
  | nil => exact absurd h nofun
  | cons p rest ih =>
      rw [List.lookup_cons] at h
      split at h
      · next heq =>
          rw [beq_iff_eq.mp heq, ← Option.some.inj h]
          exact List.mem_cons_self
      · exact List.mem_cons_of_mem _ (ih h)

/-- A metric read through a cache that is up to date. -/
lemma getMetric_eq {cache : List (Guid × Latency)} (hcache : ∀ p ∈ cache, p.2 = w.latencies p.1)
    (s : Sample) (metric : Metric) :
    (getMetric w cache s metric).1 = w.value metric s ∧
      ∀ p ∈ (getMetric w cache s metric).2, p ∈ cache ∨ p = (s.id, w.latencies s.id) := by
  rw [getMetric]
  split_ifs with hlatency
  · rw [getLatency]
    split
    · next latency hlookup =>
        have heq : latency = w.latencies s.id := hcache _ (mem_of_lookup hlookup)
        exact ⟨by rw [heq]; rfl, fun p hp => Or.inl hp⟩
    · exact ⟨rfl, fun p hp => (List.mem_cons.mp hp).symm⟩
  · refine ⟨?_, fun p hp => Or.inl hp⟩
    cases metric with
    | p95Ms => exact absurd rfl hlatency
    | meanMs => exact absurd rfl hlatency
    | errorRate => rfl
    | successRate => rfl

variable (R w row)

/-- Rules as they were read: the rule among them is as it is. -/
def RulesFit (rules : List AlertRule) : Prop := ∀ r ∈ rules, r.ruleId = R.ruleId → r = R

/-- The prior runs as they were read. -/
structure PriorsFit (priors : List Sample) (rules : List AlertRule) : Prop where
  prior : ∀ s ∈ priors, s ∈ w.priorRuns row
  window : R ∈ rules →
    priors.take (R.windowRuns - 1) = (w.priorRuns row).take (R.windowRuns - 1)

/-- Where the evaluation stands fits the state. -/
def StageFits : Stage → Prop
  | .readPriors rules => RulesFit R rules
  | .rule priors rules => RulesFit R rules ∧ PriorsFit R w row priors rules
  | .measure priors rules rule values left =>
      RulesFit R (rule :: rules) ∧ PriorsFit R w row priors rules ∧
        (∀ s ∈ left, s ∈ w.priorRuns row) ∧
        (rule = R → values ++ left.map (w.value R.metric) = windowOf R w row)
  | .readLast priors rules rule breached =>
      RulesFit R (rule :: rules) ∧ PriorsFit R w row priors rules ∧
        (rule = R → breached = verdict R w row)
  | .insert priors rules rule breached currentlyFiring transition =>
      RulesFit R (rule :: rules) ∧ PriorsFit R w row priors rules ∧
        (rule = R → breached = verdict R w row) ∧
        nextTransition currentlyFiring breached = some transition
  | .deliver priors rules => RulesFit R rules ∧ PriorsFit R w row priors rules
  | _ => True

/-- What the evaluation of a run has read is what there is. -/
structure Fits (h : Handler) : Prop where
  sample : row.sample ∈ w.terminalRuns row.testConfigId
  cache : ∀ p ∈ h.latencyCache, p.2 = w.latencies p.1 ∧
    ∃ s ∈ w.terminalRuns row.testConfigId, s.id = p.1 ∧ s.createdAt ≤ row.createdAt
  stage : StageFits R w row h.stage

variable {R w row} {h h' : Handler}

/-- Nothing that was read has changed. -/
lemma Fits.undisturbed (hf : Fits R w row h)
    (hsame : upTo row.testConfigId w' row.createdAt = upTo row.testConfigId w row.createdAt) :
    Fits R w' row h := by
  have hpriors : ∀ {priors rules}, PriorsFit R w row priors rules →
      PriorsFit R w' row priors rules := fun hp =>
    ⟨fun s hs => by rw [priorRuns_eq hsame rfl]; exact hp.prior s hs,
      fun hR => by rw [priorRuns_eq hsame rfl]; exact hp.window hR⟩
  refine ⟨(latency_eq hsame hf.sample le_rfl).1, fun p hp => ?_, ?_⟩
  · obtain ⟨heq, s, hs, hid, hle⟩ := hf.cache p hp
    obtain ⟨hs', hlatency⟩ := latency_eq hsame hs hle
    refine ⟨?_, s, hs', hid, hle⟩
    rw [heq, ← hid, hlatency]
  · have hstage := hf.stage
    cases hst : h.stage with
    | rule priors rules =>
        rw [hst] at hstage
        exact ⟨hstage.1, hpriors hstage.2⟩
    | measure priors rules rule values left =>
        rw [hst] at hstage
        obtain ⟨hrules, hp, hleft, hvalues⟩ := hstage
        refine ⟨hrules, hpriors hp, fun s hs => ?_, fun heq => ?_⟩
        · rw [priorRuns_eq hsame rfl]
          exact hleft s hs
        · rw [windowOf_eq hsame rfl hf.sample, ← hvalues heq]
          congr 1
          refine List.map_congr_left fun s hs => ?_
          obtain ⟨hmem, hle⟩ := mem_priorRuns (hleft s hs)
          exact value_eq hsame hmem hle _
    | readLast priors rules rule breached =>
        rw [hst] at hstage
        obtain ⟨hrules, hp, hverdict⟩ := hstage
        exact ⟨hrules, hpriors hp, fun heq => by
          rw [verdict_eq hsame rfl hf.sample]; exact hverdict heq⟩
    | insert priors rules rule breached currentlyFiring transition =>
        rw [hst] at hstage
        obtain ⟨hrules, hp, hverdict, hnext⟩ := hstage
        exact ⟨hrules, hpriors hp, fun heq => by
          rw [verdict_eq hsame rfl hf.sample]; exact hverdict heq, hnext⟩
    | deliver priors rules =>
        rw [hst] at hstage
        exact ⟨hstage.1, hpriors hstage.2⟩
    | readPriors rules =>
        rw [hst] at hstage
        exact hstage
    | _ => trivial

lemma le_maxWindow {rules : List AlertRule} (h : R ∈ rules) : R.windowRuns ≤ maxWindow rules := by
  induction rules with
  | nil => exact absurd h List.not_mem_nil
  | cons rule rest ih =>
      have hmax : maxWindow (rule :: rest) = max rule.windowRuns (maxWindow rest) := rfl
      rw [hmax]
      rcases List.mem_cons.mp h with rfl | h
      · exact le_max_left _ _
      · exact (ih h).trans (le_max_right _ _)

/-- A rule that was read under the id is the rule. -/
lemma rulesFit_of_nodup (hR : R ∈ w.rules) (hids : (w.rules.map AlertRule.ruleId).Nodup) :
    RulesFit R w.rules := fun _ hr hid => List.inj_on_of_nodup_map hids hr hR hid

lemma RulesFit.mono {rules rules' : List AlertRule} (h : RulesFit R rules)
    (hsub : rules' ⊆ rules) : RulesFit R rules' := fun r hr => h r (hsub hr)

lemma PriorsFit.tail {priors : List Sample} {rule : AlertRule} {rules : List AlertRule}
    (h : PriorsFit R w row priors (rule :: rules)) : PriorsFit R w row priors rules :=
  ⟨h.prior, fun hR => h.window (List.mem_cons_of_mem _ hR)⟩

/-- The window is read far enough for the rule. -/
lemma priorsFit_readPriors (rules : List AlertRule) :
    PriorsFit R w row
      (if 1 < maxWindow rules then (w.priorRuns row).take (maxWindow rules - 1) else []) rules := by
  refine ⟨fun s hs => ?_, fun hR => ?_⟩
  · split_ifs at hs
    · exact List.mem_of_mem_take hs
    · exact absurd hs List.not_mem_nil
  · have hle := le_maxWindow hR
    split_ifs with hmax
    · rw [List.take_take, min_eq_left (by omega)]
    · have hzero : R.windowRuns - 1 = 0 := by omega
      rw [hzero, List.take_zero, List.take_zero]

/-- The cache after a metric of the run or of a prior one was read. -/
lemma Fits.cache_getMetric (hf : Fits R w row h) {s : Sample}
    (hs : s ∈ w.terminalRuns row.testConfigId) (hle : s.createdAt ≤ row.createdAt)
    (metric : Metric) :
    ∀ p ∈ (getMetric w h.latencyCache s metric).2, p.2 = w.latencies p.1 ∧
      ∃ s ∈ w.terminalRuns row.testConfigId, s.id = p.1 ∧ s.createdAt ≤ row.createdAt := by
  intro p hp
  rcases (getMetric_eq (fun p hp => (hf.cache p hp).1) s metric).2 p hp with hold | rfl
  · exact hf.cache p hold
  · exact ⟨rfl, s, hs, rfl, hle⟩

/-- The evaluation goes on with what there is. -/
lemma Fits.evaluate (hf : Fits R w row h) (hR : R ∈ w.rules)
    (hids : (w.rules.map AlertRule.ruleId).Nodup) : Fits R w row (h.evaluate w row).2 := by
  have hmoved : ∀ stage, StageFits R w row stage → Fits R w row (h.goto stage) :=
    fun stage hstage => ⟨hf.sample, hf.cache, hstage⟩
  have hvalue : ∀ s metric, (getMetric w h.latencyCache s metric).1 = w.value metric s :=
    fun s metric => (getMetric_eq (fun p hp => (hf.cache p hp).1) s metric).1
  have hstage := hf.stage
  rw [Handler.evaluate]
  cases hst : h.stage with
  | readRules =>
      refine hmoved _ ?_
      split_ifs
      · trivial
      · exact (rulesFit_of_nodup hR hids).mono (List.filter_subset_self _)
  | readPriors rules =>
      rw [hst] at hstage
      exact hmoved _ ⟨hstage, priorsFit_readPriors rules⟩
  | rule priors rules =>
      rw [hst] at hstage
      obtain ⟨hrules, hp⟩ := hstage
      cases rules with
      | nil => exact hmoved _ trivial
      | cons rule rules =>
          refine ⟨hf.sample, hf.cache_getMetric hf.sample le_rfl _, ?_⟩
          dsimp only
          rw [hvalue]
          cases hown : w.value rule.metric row.sample with
          | none => exact ⟨hrules.mono (List.subset_cons_self _ _), hp.tail⟩
          | some value =>
              refine ⟨hrules, hp.tail, fun s hs => hp.prior s (List.mem_of_mem_take hs), ?_⟩
              rintro rfl
              rw [windowOf, hown, hp.window List.mem_cons_self, List.singleton_append]
  | measure priors rules rule values left =>
      rw [hst] at hstage
      obtain ⟨hrules, hp, hleft, hvalues⟩ := hstage
      cases left with
      | nil =>
          refine hmoved _ ⟨hrules, hp, fun heq => ?_⟩
          have hwindow := hvalues heq
          rw [List.map_nil, List.append_nil] at hwindow
          rw [verdict, hwindow, heq]
      | cons prior left =>
          obtain ⟨hmem, hle⟩ := mem_priorRuns (hleft prior List.mem_cons_self)
          refine ⟨hf.sample, hf.cache_getMetric hmem hle _, hrules, hp,
            fun s hs => hleft s (List.mem_cons_of_mem _ hs), fun heq => ?_⟩
          rw [hvalue, ← hvalues heq, List.append_assoc, List.singleton_append, heq, List.map_cons]
  | readLast priors rules rule breached =>
      rw [hst] at hstage
      obtain ⟨hrules, hp, hverdict⟩ := hstage
      dsimp only
      split
      · exact hmoved _ ⟨hrules.mono (List.subset_cons_self _ _), hp⟩
      · next hnext => exact hmoved _ ⟨hrules, hp, hverdict, hnext⟩
  | insert priors rules rule breached currentlyFiring transition =>
      rw [hst] at hstage
      exact hmoved _ ⟨hstage.1.mono (List.subset_cons_self _ _), hstage.2.1⟩
  | deliver priors rules =>
      rw [hst] at hstage
      exact hmoved _ hstage
  | _ => exact hmoved _ trivial

end Read

/-! ### Every state -/

section State

/-- The rule is still to be evaluated. -/
def Stage.ahead (R : AlertRule) : Stage → Prop
  | .readRules => True
  | .readPriors rules | .rule _ rules | .deliver _ rules => R ∈ rules
  | .measure _ rules current _ _ | .readLast _ rules current _ | .insert _ rules current _ _ _ =>
      R ∈ current :: rules
  | _ => False

variable (projectOf : Guid → String) (R : AlertRule) (c : Guid)

/-- A handler has read a run of the config and has still to evaluate the rule for it. -/
def Coming (w : AlertWorld) (run : Guid) : Prop :=
  ∃ h ∈ w.handlers, h.run = run ∧ (∃ row ∈ h.row, row.testConfigId = c) ∧ h.stage.ahead R

/-- The runs, and the events in the order of their times. -/
structure Recorded (w : AlertWorld) : Prop where
  rule : R ∈ w.rules
  ids : (w.rules.map AlertRule.ruleId).Nodup
  created : (w.runs.rows.map RunRow.createdAt).Nodup
  projects : ∀ r ∈ w.runs.rows, r.projectId = projectOf r.testConfigId
  times : w.events.Pairwise fun a b => a.firedAt < b.firedAt
  past : ∀ e ∈ w.events, e.firedAt < w.clock
  known : ∀ e ∈ w.events, (w.configOf e.runId).isSome = true
  alternates : AlternatesFrom .firing ((w.eventsOf R.ruleId c).map AlertEvent.state)

/-- A handler that has read its run has the row of the run. -/
structure HasRead (w : AlertWorld) (h : Handler) : Prop where
  unread : h.stage.unread = true → h.row = none
  fresh : h.stage.unread = true → h.latencyCache = []
  row : ∀ row ∈ h.row, row.id = h.run ∧ row.projectId = projectOf row.testConfigId ∧
    ∃ r ∈ w.runs.rows, r.id = row.id ∧ r.testConfigId = row.testConfigId ∧
      r.createdAt = row.createdAt
  fits : ∀ row ∈ h.row, row.testConfigId = c → Fits R w row h

/-- The run on which the state was decided last, and the verdict on it. -/
structure Shows (w : AlertWorld) (row : RunRow) : Prop where
  config : row.testConfigId = c
  read : ∃ h ∈ w.handlers, h.row = some row
  sample : row.sample ∈ w.terminalRuns c
  firing : w.firing R.ruleId c = verdict R w row

/-- What holds in every state. -/
structure Faithful (w : AlertWorld) : Prop where
  recorded : Recorded projectOf R c w
  handlers : ∀ h ∈ w.handlers, HasRead projectOf R c w h
  shown : ∀ row ∈ w.shown R.ruleId c, Shows R c w row
  covered : ∀ row ∈ w.runs.rows, Evident R c w row → Awaited w row.id ∨ Coming R c w row.id ∨
    ∃ s ∈ w.shown R.ruleId c, row.createdAt ≤ s.createdAt

variable {projectOf R c} {w w' : AlertWorld}

/-! ### What the invariant says -/

lemma Recorded.history_eq (h : Recorded projectOf R c w) :
    history R c w = w.eventsOf R.ruleId c :=
  List.Pairwise.insertionSort_eq ((h.times.filter _).imp fun hlt => hlt.le)

/-- The newest measurable run is the one that is shown when nothing is in progress. -/
lemma Faithful.tracks (h : Faithful projectOf R c w) : Tracks R c w where
  alternates := by
    rw [h.recorded.history_eq]
    exact h.recorded.alternates
  agrees := by
    rintro hquiet row ⟨hrow, hterminal, hnewest⟩ hvalue
    rcases h.covered row hrow ⟨hterminal, hvalue⟩ with ⟨hd, hhd, -, hstage⟩ |
      ⟨hd, hhd, -, -, hstage⟩ | ⟨s, hs, hle⟩
    · rw [hquiet hd hhd] at hstage
      exact absurd hstage Bool.false_ne_true
    · rw [hquiet hd hhd] at hstage
      exact hstage.elim
    · have hshown := h.shown s hs
      obtain ⟨r, hr, hrterminal, hsample⟩ := mem_terminalRuns.mp hshown.sample
      have hcreated : r.createdAt = s.createdAt := congrArg Sample.createdAt hsample
      have heq : r = row := by
        refine List.inj_on_of_nodup_map h.recorded.created hr hrow (le_antisymm ?_ ?_)
        · exact hnewest r hr hrterminal
        · rw [hcreated]
          exact hle
      subst heq
      rw [hshown.firing, verdict, verdict, windowOf, windowOf, ← hsample, AlertWorld.priorRuns,
        AlertWorld.priorRuns, hshown.config, hterminal.1, hcreated]
      have hid : r.id = s.id := congrArg Sample.id hsample
      rw [hid]

/-! ### Writes to the runs -/

/-- Runs stay runs of their configs. -/
def Keeps (w w' : AlertWorld) : Prop :=
  ∀ r ∈ w.runs.rows, ∃ r' ∈ w'.runs.rows, r'.id = r.id ∧ r'.testConfigId = r.testConfigId ∧
    r'.createdAt = r.createdAt

lemma configOf_eq_some {run config : Guid} :
    w.configOf run = some config ↔ ∃ r ∈ w.runs.rows, r.id = run ∧ r.testConfigId = config := by
  rw [AlertWorld.configOf, Option.map_eq_some_iff]
  simp only [Table.find?_eq_some, and_assoc]
  exact Iff.rfl

lemma Keeps.configOf (h : Keeps w w') {run config : Guid} (hc : w.configOf run = some config) :
    w'.configOf run = some config := by
  obtain ⟨r, hr, hid, hconfig⟩ := configOf_eq_some.mp hc
  obtain ⟨r', hr', hid', hconfig', -⟩ := h r hr
  exact configOf_eq_some.mpr ⟨r', hr', hid'.trans hid, hconfig'.trans hconfig⟩

/-- The events of a rule and a config are the same when the runs are kept. -/
lemma Keeps.eventsOf (h : Keeps w w') (hevents : w'.events = w.events)
    (hknown : ∀ e ∈ w.events, (w.configOf e.runId).isSome = true) (rule config : Guid) :
    w'.eventsOf rule config = w.eventsOf rule config := by
  rw [AlertWorld.eventsOf, AlertWorld.eventsOf, hevents]
  refine List.filter_congr fun e he => ?_
  obtain ⟨config', hc⟩ := Option.isSome_iff_exists.mp (hknown e he)
  rw [hc, h.configOf hc]

/-- A handler that has read nothing yet. -/
def Handler.Fresh (h : Handler) : Prop :=
  h.row = none ∧ (h.stage.unread = true → h.latencyCache = [])

lemma hasRead_of_fresh {h : Handler} (hf : h.Fresh) : HasRead projectOf R c w h :=
  ⟨fun _ => hf.1, hf.2, fun _ hrow => absurd (hf.1 ▸ hrow) nofun,
    fun _ hrow => absurd (hf.1 ▸ hrow) nofun⟩

lemma HasRead.keep {h : Handler} (hr : HasRead projectOf R c w h) (hkeeps : Keeps w w')
    (hsame : ∀ row ∈ h.row, row.testConfigId = c →
      upTo c w' row.createdAt = upTo c w row.createdAt) : HasRead projectOf R c w' h where
  unread := hr.unread
  fresh := hr.fresh
  row row hrow := by
    obtain ⟨hid, hproject, r, hmem, hrid, hconfig, hcreated⟩ := hr.row row hrow
    obtain ⟨r', hmem', hid', hconfig', hcreated'⟩ := hkeeps r hmem
    exact ⟨hid, hproject, r', hmem', hid'.trans hrid, hconfig'.trans hconfig,
      hcreated'.trans hcreated⟩
  fits row hrow hc := by
    refine (hr.fits row hrow hc).undisturbed ?_
    rw [hc]
    exact hsame row hrow hc

/-- A move that writes to runs or rules and at most lets a handler go on that has not read its
run. -/
lemma Faithful.keep (h : Faithful projectOf R c w) (hrecorded : R ∈ w'.rules)
    (hids : (w'.rules.map AlertRule.ruleId).Nodup)
    (hcreated : (w'.runs.rows.map RunRow.createdAt).Nodup)
    (hprojects : ∀ r ∈ w'.runs.rows, r.projectId = projectOf r.testConfigId)
    (hkeeps : Keeps w w') (hevents : w'.events = w.events) (hclock : w'.clock = w.clock)
    (hshown : w'.shown = w.shown)
    (hold : ∀ h ∈ w.handlers, h.row ≠ none → h ∈ w'.handlers)
    (hnew : ∀ h' ∈ w'.handlers, h' ∈ w.handlers ∨ h'.Fresh)
    (hawait : ∀ r ∈ w.runs.rows, Evident R c w r → Awaited w r.id → Awaited w' r.id)
    (hundisturbed : ∀ h ∈ w.handlers, ∀ row ∈ h.row, row.testConfigId = c →
      upTo c w' row.createdAt = upTo c w row.createdAt)
    (hannounced : ∀ row ∈ w'.runs.rows, Evident R c w' row →
      (∃ old ∈ w.runs.rows, old.id = row.id ∧ Evident R c w old) ∨ Awaited w' row.id) :
    Faithful projectOf R c w' where
  recorded := by
    have hsame := hkeeps.eventsOf hevents h.recorded.known R.ruleId c
    refine ⟨hrecorded, hids, hcreated, hprojects, hevents ▸ h.recorded.times, ?_, ?_, ?_⟩
    · rw [hevents, hclock]
      exact h.recorded.past
    · rw [hevents]
      intro e he
      obtain ⟨config, hc⟩ := Option.isSome_iff_exists.mp (h.recorded.known e he)
      rw [hkeeps.configOf hc]
      rfl
    · rw [hsame]
      exact h.recorded.alternates
  handlers h' hh' := by
    rcases hnew h' hh' with hmem | hnone
    · exact (h.handlers h' hmem).keep hkeeps (hundisturbed h' hmem)
    · exact hasRead_of_fresh hnone
  shown row hrow := by
    obtain ⟨hconfig, ⟨hd, hhd, hhdrow⟩, hsample, hfiring⟩ := h.shown row (hshown ▸ hrow)
    have hsame := hundisturbed hd hhd row hhdrow hconfig
    refine ⟨hconfig, ⟨hd, hold hd hhd (by rw [hhdrow]; exact nofun), hhdrow⟩,
      (latency_eq hsame hsample le_rfl).1, ?_⟩
    rw [verdict_eq hsame hconfig hsample, ← hfiring, AlertWorld.firing,
      hkeeps.eventsOf hevents h.recorded.known, AlertWorld.firing]
  covered row hrow hevident := by
    rcases hannounced row hrow hevident with ⟨old, hmem, hid, hold'⟩ | hawaited
    · obtain ⟨old', hmem', hid', -, hcreated'⟩ := hkeeps old hmem
      have hrowEq : old' = row := by
        have hfind := Table.find?_key (t := w'.runs) hmem'
        have hfind' := Table.find?_key (t := w'.runs) hrow
        have hkey : Keyed.key old' = Keyed.key row := hid'.trans hid
        rw [hkey] at hfind
        exact Option.some.inj (hfind.symm.trans hfind')
      rw [← hid]
      rcases h.covered old hmem hold' with hawaited | ⟨hd, hhd, hrun, ⟨r, hr, hrc⟩, hahead⟩ |
        ⟨s, hs, hle⟩
      · exact Or.inl (hawait old hmem hold' hawaited)
      · refine Or.inr (Or.inl ⟨hd, hold hd hhd ?_, hrun, ⟨r, hr, hrc⟩, hahead⟩)
        rw [Option.mem_def.mp hr]
        exact nofun
      · refine Or.inr (Or.inr ⟨s, hshown ▸ hs, ?_⟩)
        rw [← hrowEq, hcreated']
        exact hle
    · exact Or.inl hawaited

/-! ### A handler goes on -/

lemma mem_set_of_mem {α : Type} {l : List α} {i : ℕ} {a b : α} (a' : α)
    (hget : l[i]? = some a) (hb : b ∈ l) : b = a ∨ b ∈ l.set i a' := by
  obtain ⟨j, hj, rfl⟩ := List.getElem_of_mem hb
  by_cases hij : i = j
  · subst hij
    exact Or.inl (Option.some.inj ((List.getElem?_eq_getElem hj).symm.trans hget))
  · exact Or.inr (List.mem_iff_getElem.mpr
      ⟨j, by rwa [List.length_set], List.getElem_set_ne hij _⟩)

lemma mem_set_self {α : Type} {l : List α} {i : ℕ} {a a' : α} (hget : l[i]? = some a) :
    a' ∈ l.set i a' := by
  obtain ⟨hi, -⟩ := List.getElem?_eq_some_iff.mp hget
  exact List.mem_iff_getElem.mpr ⟨i, by rwa [List.length_set], List.getElem_set_self _⟩

/-- What an evaluation may read depends on the runs and the latencies alone. -/
lemma upTo_congr (hruns : w'.runs = w.runs) (hlatencies : w'.latencies = w.latencies)
    (createdAt : ℕ) : upTo c w' createdAt = upTo c w createdAt := by
  rw [upTo, upTo, AlertWorld.terminalRuns, AlertWorld.terminalRuns, hruns, hlatencies]

lemma keeps_of_runs (hruns : w'.runs = w.runs) : Keeps w w' :=
  fun r hr => ⟨r, by rw [hruns]; exact hr, rfl, rfl, rfl⟩

/-- The row that a handler has read is that of its run. -/
lemma HasRead.sample_eq {h : Handler} (hr : HasRead projectOf R c w h) {row r : RunRow}
    (hrow : row ∈ h.row) (hc : row.testConfigId = c) (hmem : r ∈ w.runs.rows)
    (hid : h.run = r.id) : r.sample = row.sample := by
  obtain ⟨x, hx, -, hsample⟩ := mem_terminalRuns.mp (hr.fits row hrow hc).sample
  have hkey : Keyed.key x = Keyed.key r := by
    have hxid : x.id = row.id := congrArg Sample.id hsample
    exact (hxid.trans (hr.row row hrow).1).trans hid
  have hfind := Table.find?_key hx
  rw [hkey, Table.find?_key hmem] at hfind
  rw [← hsample, Option.some.inj hfind]

/-- A handler that has read its run, or is about to, goes on. -/
lemma Faithful.turn (h : Faithful projectOf R c w) {i : ℕ} {hd hd' : Handler}
    (hget : w.handlers[i]? = some hd) (hrecorded : Recorded projectOf R c w')
    (hruns : w'.runs = w.runs) (hlatencies : w'.latencies = w.latencies)
    (hhandlers : w'.handlers = w.handlers.set i hd')
    (hrow : hd.row = none ∨ hd'.row = hd.row) (hread : HasRead projectOf R c w hd')
    (hshown : ∀ row ∈ w'.shown R.ruleId c, row.testConfigId = c ∧
      row.sample ∈ w.terminalRuns c ∧ w'.firing R.ruleId c = verdict R w row ∧
        (hd'.row = some row ∨ row ∈ w.shown R.ruleId c))
    (hnewer : ∀ s ∈ w.shown R.ruleId c, ∃ s' ∈ w'.shown R.ruleId c, s.createdAt ≤ s'.createdAt)
    (hcovered : ∀ row ∈ w.runs.rows, Evident R c w row → hd.run = row.id →
      (hd.stage.awaits = true ∨ (∃ r ∈ hd.row, r.testConfigId = c) ∧ hd.stage.ahead R) →
      (hd'.run = row.id ∧ (∃ r ∈ hd'.row, r.testConfigId = c) ∧ hd'.stage.ahead R) ∨
        ∃ s ∈ w'.shown R.ruleId c, row.createdAt ≤ s.createdAt) :
    Faithful projectOf R c w' where
  recorded := hrecorded
  handlers k hk := by
    rw [hhandlers] at hk
    rcases List.mem_or_eq_of_mem_set hk with hold | rfl
    · exact (h.handlers k hold).keep (keeps_of_runs hruns) fun _ _ _ => upTo_congr hruns hlatencies _
    · exact hread.keep (keeps_of_runs hruns) fun _ _ _ => upTo_congr hruns hlatencies _
  shown row hmem := by
    obtain ⟨hconfig, hsample, hfiring, hfrom⟩ := hshown row hmem
    have hsame : upTo c w' row.createdAt = upTo c w row.createdAt := upTo_congr hruns hlatencies _
    refine ⟨hconfig, ?_, (latency_eq hsame hsample le_rfl).1, ?_⟩
    · rw [hhandlers]
      rcases hfrom with hself | hold
      · exact ⟨hd', mem_set_self hget, hself⟩
      · obtain ⟨k, hk, hkrow⟩ := (h.shown row hold).read
        rcases mem_set_of_mem hd' hget hk with rfl | hstays
        · refine ⟨hd', mem_set_self hget, ?_⟩
          rw [hrow.resolve_left (by rw [hkrow]; exact nofun), hkrow]
        · exact ⟨k, hstays, hkrow⟩
    · rw [hfiring, verdict_eq hsame hconfig hsample]
  covered row hmem hevident := by
    rw [hruns] at hmem
    have hevident' : Evident R c w row := by
      refine ⟨hevident.1, ?_⟩
      have hvalue := hevident.2
      rw [AlertWorld.value, hlatencies] at hvalue
      exact hvalue
    have hself : (hd.run = row.id → (hd.stage.awaits = true ∨
        (∃ r ∈ hd.row, r.testConfigId = c) ∧ hd.stage.ahead R) →
        Awaited w' row.id ∨ Coming R c w' row.id ∨
          ∃ s ∈ w'.shown R.ruleId c, row.createdAt ≤ s.createdAt) := by
      intro hrun hstage
      rcases hcovered row hmem hevident' hrun hstage with ⟨hrun', hrow', hahead⟩ | hnew
      · exact Or.inr (Or.inl ⟨hd', by rw [hhandlers]; exact mem_set_self hget, hrun', hrow',
          hahead⟩)
      · exact Or.inr (Or.inr hnew)
    rcases h.covered row hmem hevident' with ⟨k, hk, hrun, hstage⟩ |
      ⟨k, hk, hrun, hkrow, hstage⟩ | ⟨s, hs, hle⟩
    · rcases mem_set_of_mem hd' hget hk with rfl | hstays
      · exact hself hrun (Or.inl hstage)
      · exact Or.inl ⟨k, by rw [hhandlers]; exact hstays, hrun, hstage⟩
    · rcases mem_set_of_mem hd' hget hk with rfl | hstays
      · exact hself hrun (Or.inr ⟨hkrow, hstage⟩)
      · exact Or.inr (Or.inl ⟨k, by rw [hhandlers]; exact hstays, hrun, hkrow, hstage⟩)
    · obtain ⟨s', hs', hle'⟩ := hnewer s hs
      exact Or.inr (Or.inr ⟨s', hs', hle.trans hle'⟩)

/-- A handler goes on, and nothing else changes. -/
lemma Faithful.still (h : Faithful projectOf R c w) {i : ℕ} {hd : Handler} (hd' : Handler)
    (hget : w.handlers[i]? = some hd) (hrow : hd.row = none ∨ hd'.row = hd.row)
    (hread : HasRead projectOf R c w hd')
    (hcovered : ∀ row ∈ w.runs.rows, Evident R c w row → hd.run = row.id →
      (hd.stage.awaits = true ∨ (∃ r ∈ hd.row, r.testConfigId = c) ∧ hd.stage.ahead R) →
      hd'.run = row.id ∧ (∃ r ∈ hd'.row, r.testConfigId = c) ∧ hd'.stage.ahead R) :
    Faithful projectOf R c { w with handlers := w.handlers.set i hd' } := by
  have hr := h.recorded
  refine h.turn hget
    ⟨hr.rule, hr.ids, hr.created, hr.projects, hr.times, hr.past, hr.known, hr.alternates⟩
    rfl rfl rfl hrow hread (fun row hmem => ?_) (fun s hs => ⟨s, hs, le_rfl⟩)
    fun row hmem hevident hrun hstage => Or.inl (hcovered row hmem hevident hrun hstage)
  have hshows := h.shown row hmem
  exact ⟨hshows.config, hshows.sample, hshows.firing, Or.inr hmem⟩

/-! ### A decision -/

lemma shown_showRun (rule : Guid) (row : RunRow) :
    (w.showRun rule row).shown R.ruleId c =
      if rule = R.ruleId ∧ row.testConfigId = c then some row else w.shown R.ruleId c := by
  simp only [AlertWorld.showRun]
  by_cases hrule : rule = R.ruleId
  · subst hrule
    rw [Function.update_self]
    by_cases hc : row.testConfigId = c
    · subst hc
      rw [Function.update_self, if_pos ⟨rfl, rfl⟩]
    · rw [Function.update_of_ne (Ne.symm hc), if_neg fun hboth => hc hboth.2]
  · rw [Function.update_of_ne (Ne.symm hrule), if_neg fun hboth => hrule hboth.1]

lemma eventsOf_insertEvent {rule : Guid} {row : RunRow} {state : AlertState}
    (hconfig : w.configOf row.id = some row.testConfigId) :
    (w.insertEvent rule row state).eventsOf R.ruleId c = w.eventsOf R.ruleId c ++
      if rule = R.ruleId ∧ row.testConfigId = c then [⟨rule, row.id, w.clock, state⟩] else [] := by
  have hsame : ∀ run, (w.insertEvent rule row state).configOf run = w.configOf run := fun _ => rfl
  rw [AlertWorld.eventsOf, AlertWorld.eventsOf]
  simp only [hsame]
  rw [AlertWorld.insertEvent, List.filter_append]
  congr 1
  split_ifs with hhit
  · rw [List.filter_cons_of_pos, List.filter_nil]
    simp [hconfig, hhit]
  · rw [List.filter_cons_of_neg, List.filter_nil]
    simpa [hconfig] using hhit

/-- The state is that of the last event. -/
lemma Recorded.firing_eq (h : Recorded projectOf R c w) :
    w.firing R.ruleId c = (w.eventsOf R.ruleId c).getLast?.any (·.state == .firing) := by
  have htimes : (w.eventsOf R.ruleId c).Pairwise fun a b => a.firedAt < b.firedAt :=
    h.times.filter _
  rw [AlertWorld.firing, latest_of_pairwise htimes]

lemma nextTransition_eq_none {currentlyFiring breached : Bool}
    (h : nextTransition currentlyFiring breached = none) : currentlyFiring = breached := by
  revert h
  cases currentlyFiring <;> cases breached <;> decide

lemma nextTransition_eq_some {currentlyFiring breached : Bool} {state : AlertState}
    (h : nextTransition currentlyFiring breached = some state) :
    (state == .firing) = breached := by
  revert h
  cases currentlyFiring <;> cases breached <;> cases state <;> decide

/-- A transition leads to the other state. -/
lemma eq_other_of_nextTransition {last state : AlertState} {breached : Bool}
    (h : nextTransition (last == .firing) breached = some state) : state = last.other := by
  revert h
  cases last <;> cases breached <;> cases state <;> decide

lemma eq_firing_of_nextTransition {state : AlertState} {breached : Bool}
    (h : nextTransition false breached = some state) : state = .firing := by
  revert h
  cases breached <;> cases state <;> decide

/-- An event of the rule and the config that changes its state continues the alternation. -/
lemma Recorded.insertEvent (h : Recorded projectOf R c w) {rule : Guid} {row : RunRow}
    {breached : Bool} {state : AlertState} (hconfig : w.configOf row.id = some row.testConfigId)
    (hnext : rule = R.ruleId → row.testConfigId = c →
      nextTransition (w.firing R.ruleId c) breached = some state) :
    Recorded projectOf R c (w.insertEvent rule row state) where
  rule := h.rule
  ids := h.ids
  created := h.created
  projects := h.projects
  times := List.pairwise_append.mpr ⟨h.times, List.pairwise_singleton _ _, fun e he e' he' => by
    rw [List.mem_singleton.mp he']
    exact h.past e he⟩
  past e he := by
    rcases List.mem_append.mp he with hold | hnew
    · exact (h.past e hold).trans (Nat.lt_succ_self _)
    · rw [List.mem_singleton.mp hnew]
      exact Nat.lt_succ_self _
  known e he := by
    rcases List.mem_append.mp he with hold | hnew
    · exact h.known e hold
    · rw [List.mem_singleton.mp hnew]
      exact Option.isSome_iff_exists.mpr ⟨_, hconfig⟩
  alternates := by
    rw [eventsOf_insertEvent hconfig]
    split_ifs with hhit
    · have hstate := hnext hhit.1 hhit.2
      rw [List.map_append, List.map_singleton, alternatesFrom_concat]
      refine ⟨h.alternates, ?_⟩
      rw [h.firing_eq] at hstate
      rw [List.getLast?_map]
      cases hlast : (w.eventsOf R.ruleId c).getLast? with
      | none =>
          rw [hlast] at hstate
          exact eq_firing_of_nextTransition hstate
      | some e =>
          rw [hlast] at hstate
          exact eq_other_of_nextTransition hstate
    · rw [List.append_nil]
      exact h.alternates

/-- The state after the event. -/
lemma Recorded.firing_insertEvent (h : Recorded projectOf R c w) {rule : Guid} {row : RunRow}
    {state : AlertState} (hconfig : w.configOf row.id = some row.testConfigId) :
    (w.insertEvent rule row state).firing R.ruleId c =
      if rule = R.ruleId ∧ row.testConfigId = c then state == .firing
      else w.firing R.ruleId c := by
  rw [AlertWorld.firing, eventsOf_insertEvent hconfig]
  split_ifs with hhit
  · have hpast : ∀ e ∈ w.eventsOf R.ruleId c, e.firedAt < w.clock :=
      fun e he => h.past e (List.mem_of_mem_filter he)
    rw [latest_concat hpast]
    rfl
  · rw [List.append_nil]
    rfl

/-! ### One move -/

/-- The evaluation of a run changes neither the run of the handler nor the row it has read. -/
lemma evaluate_handler (h : Handler) (row : RunRow) :
    (h.evaluate w row).2.run = h.run ∧ (h.evaluate w row).2.row = h.row ∧
      (h.evaluate w row).2.stage.unread = false := by
  rw [Handler.evaluate]
  split
  · refine ⟨rfl, rfl, ?_⟩
    dsimp only [Handler.goto]
    split_ifs <;> rfl
  · exact ⟨rfl, rfl, rfl⟩
  · exact ⟨rfl, rfl, rfl⟩
  · refine ⟨rfl, rfl, ?_⟩
    dsimp only
    split <;> rfl
  · exact ⟨rfl, rfl, rfl⟩
  · exact ⟨rfl, rfl, rfl⟩
  · dsimp only
    split <;> exact ⟨rfl, rfl, rfl⟩
  · exact ⟨rfl, rfl, rfl⟩
  · exact ⟨rfl, rfl, rfl⟩
  · exact ⟨rfl, rfl, rfl⟩

/-- A handler goes on with what there is. -/
lemma HasRead.evaluate {h : Handler} {row : RunRow} (hr : HasRead projectOf R c w h)
    (hrow : h.row = some row) (hrecorded : Recorded projectOf R c w) :
    HasRead projectOf R c w (h.evaluate w row).2 := by
  obtain ⟨hrun', hrow', hunread'⟩ := evaluate_handler (w := w) h row
  have hread : (h.evaluate w row).2.stage.unread = true → False := fun hu =>
    absurd (hunread'.symm.trans hu) Bool.false_ne_true
  refine ⟨fun hu => (hread hu).elim, fun hu => (hread hu).elim, fun row' hmem' => ?_,
    fun row' hmem' hc => ?_⟩
  · rw [hrow'] at hmem'
    rw [hrun']
    exact hr.row row' hmem'
  · rw [hrow'] at hmem'
    obtain rfl := Option.some.inj (hrow.symm.trans hmem')
    exact (hr.fits row hrow hc).evaluate hrecorded.rule hrecorded.ids

variable (projectOf R c) in
/-- The rule watches the config. -/
structure Covers : Prop where
  project : R.projectId = projectOf c
  config : ∀ t ∈ R.testConfigId, t = c
  enabled : R.enabled = true

lemma Covers.matchesRun (h : Covers projectOf R c) {row : RunRow}
    (hproject : row.projectId = projectOf row.testConfigId) (hc : row.testConfigId = c) :
    R.matchesRun row = true := by
  have hconfig : R.testConfigId.all (· == row.testConfigId) = true := by
    rw [Option.all_eq_true]
    exact fun t ht => beq_iff_eq.mpr ((h.config t ht).trans hc.symm)
  rw [AlertRule.matchesRun, hconfig, h.enabled, h.project, hproject, hc]
  simp

/-- A handler decides on a rule for its run. -/
lemma Faithful.decide (h : Faithful projectOf R c w) {i : ℕ} {hd hd' : Handler} {row : RunRow}
    {rule : Guid} (hget : w.handlers[i]? = some hd) (hrow : hd.row = some row)
    (hno : hd.stage.awaits = false) (hrecorded : Recorded projectOf R c w')
    (hruns : w'.runs = w.runs) (hlatencies : w'.latencies = w.latencies)
    (hhandlers : w'.handlers = w.handlers.set i hd')
    (hshown : w'.shown = (w.showRun rule row).shown) (hread : HasRead projectOf R c w hd')
    (hrun' : hd'.run = hd.run) (hrow' : hd'.row = hd.row)
    (hfiring : w'.firing R.ruleId c =
      if rule = R.ruleId ∧ row.testConfigId = c then verdict R w row else w.firing R.ruleId c)
    (hnewer : rule = R.ruleId → row.testConfigId = c → ShowsNoNewer R c w row)
    (hahead : rule ≠ R.ruleId → hd.stage.ahead R → hd'.stage.ahead R) :
    Faithful projectOf R c w' := by
  have hhas := h.handlers hd (List.mem_of_getElem? hget)
  have hshown' : w'.shown R.ruleId c =
      if rule = R.ruleId ∧ row.testConfigId = c then some row else w.shown R.ruleId c := by
    rw [hshown, shown_showRun]
  refine h.turn hget hrecorded hruns hlatencies hhandlers (Or.inr hrow') hread (fun s hs => ?_)
    (fun s hs => ?_) fun row' hmem' hevident hrun hstage => ?_
  · rw [hfiring]
    rw [hshown'] at hs
    split_ifs at hs ⊢ with hhit
    · obtain rfl := Option.some.inj hs
      exact ⟨hhit.2, hhit.2 ▸ (hhas.fits row hrow hhit.2).sample, rfl, Or.inl (hrow'.trans hrow)⟩
    · have hshows := h.shown s hs
      exact ⟨hshows.config, hshows.sample, hshows.firing, Or.inr hs⟩
  · rw [hshown']
    split_ifs with hhit
    · exact ⟨row, rfl, hnewer hhit.1 hhit.2 s hs⟩
    · exact ⟨s, hs, le_rfl⟩
  · rw [hno] at hstage
    obtain ⟨⟨r, hr, hc⟩, hstage'⟩ := hstage.resolve_left Bool.false_ne_true
    obtain rfl := Option.some.inj (hrow.symm.trans hr)
    by_cases hrule : rule = R.ruleId
    · refine Or.inr ⟨row, hshown'.trans (if_pos ⟨hrule, hc⟩), ?_⟩
      exact le_of_eq (congrArg Sample.createdAt (hhas.sample_eq hrow hc hmem' hrun))
    · exact Or.inl ⟨hrun'.trans hrun, ⟨row, hrow'.trans hrow, hc⟩, hahead hrule hstage'⟩

/-- The rest of the rules is still ahead when another rule was decided. -/
lemma mem_of_ne_ruleId {rule : AlertRule} {rules : List AlertRule} (hR : R ∈ rule :: rules)
    (hne : rule.ruleId ≠ R.ruleId) : R ∈ rules := by
  rcases List.mem_cons.mp hR with rfl | hrest
  · exact absurd rfl hne
  · exact hrest

/-- A handler that has read its run goes on with its evaluation. -/
lemma Faithful.evaluate (h : Faithful projectOf R c w) (hcovers : Covers projectOf R c) {i : ℕ}
    {hd : Handler} {row : RunRow} (hget : w.handlers[i]? = some hd) (hrow : hd.row = some row)
    (horder : InOrder R c w (.step i)) :
    Faithful projectOf R c { (hd.evaluate w row).1 with
      handlers := w.handlers.set i (hd.evaluate w row).2 } := by
  have hhas := h.handlers hd (List.mem_of_getElem? hget)
  have hread := hhas.evaluate hrow h.recorded
  obtain ⟨hrun', hrow', -⟩ := evaluate_handler (w := w) hd row
  have hproject := (hhas.row row hrow).2.1
  have hrec := h.recorded
  -- the steps that only read
  have hreads : (hd.evaluate w row).1 = w → hd.stage.awaits = false →
      (∀ row' ∈ w.runs.rows, Evident R c w row' → hd.run = row'.id → row.testConfigId = c →
        hd.stage.ahead R → (hd.evaluate w row).2.stage.ahead R) →
      Faithful projectOf R c { (hd.evaluate w row).1 with
        handlers := w.handlers.set i (hd.evaluate w row).2 } := by
    intro hworld hno hahead
    rw [hworld]
    refine h.still _ hget (Or.inr hrow') hread fun row' hmem' hevident hrun hstage => ?_
    rw [hno] at hstage
    obtain ⟨⟨r, hr, hc⟩, hstage'⟩ := hstage.resolve_left Bool.false_ne_true
    obtain rfl := Option.some.inj (hrow.symm.trans hr)
    exact ⟨hrun'.trans hrun, ⟨row, hrow'.trans hrow, hc⟩,
      hahead row' hmem' hevident hrun hc hstage'⟩
  have hunread : hd.stage.unread = true → False := fun hu =>
    absurd (hhas.unread hu) (by rw [hrow]; exact nofun)
  cases hst : hd.stage with
  | finish status reported => exact (hunread (by rw [hst]; rfl)).elim
  | counts reported => exact (hunread (by rw [hst]; rfl)).elim
  | readRun => exact (hunread (by rw [hst]; rfl)).elim
  | ended =>
      refine hreads (by simp only [Handler.evaluate, hst]) (by rw [hst]; rfl)
        fun _ _ _ _ _ hstage => ?_
      rw [hst] at hstage
      exact hstage.elim
  | readRules =>
      refine hreads (by simp only [Handler.evaluate, hst]) (by rw [hst]; rfl)
        fun _ _ _ _ hc _ => ?_
      have hmatches : R ∈ w.rules.filter (·.matchesRun row) :=
        List.mem_filter.mpr ⟨hrec.rule, hcovers.matchesRun hproject hc⟩
      simp only [Handler.evaluate, hst, Handler.goto]
      rw [if_neg (by rw [List.isEmpty_iff]; exact List.ne_nil_of_mem hmatches)]
      exact hmatches
  | readPriors rules =>
      refine hreads (by simp only [Handler.evaluate, hst]) (by rw [hst]; rfl)
        fun _ _ _ _ _ hstage => ?_
      rw [hst] at hstage
      simp only [Handler.evaluate, hst]
      exact hstage
  | deliver priors rules =>
      refine hreads (by simp only [Handler.evaluate, hst]) (by rw [hst]; rfl)
        fun _ _ _ _ _ hstage => ?_
      rw [hst] at hstage
      simp only [Handler.evaluate, hst]
      exact hstage
  | rule priors rules =>
      cases rules with
      | nil =>
          refine hreads (by simp only [Handler.evaluate, hst]) (by rw [hst]; rfl)
            fun _ _ _ _ _ hstage => ?_
          rw [hst] at hstage
          exact absurd hstage List.not_mem_nil
      | cons rule rules =>
          refine hreads (by simp only [Handler.evaluate, hst]) (by rw [hst]; rfl)
            fun row' hmem' hevident hrun hc hstage => ?_
          rw [hst] at hstage
          have hfits := hhas.fits row hrow hc
          have hvalue := (getMetric_eq (fun p hp => (hfits.cache p hp).1) row.sample
            rule.metric).1
          simp only [Handler.evaluate, hst, hvalue]
          cases hown : w.value rule.metric row.sample with
          | some value => exact hstage
          | none =>
              -- the rule is skipped only if the run is not measurable
              rcases List.mem_cons.mp hstage with rfl | hrest
              · have hmeasurable := hevident.2
                rw [hhas.sample_eq hrow hc hmem' hrun, hown] at hmeasurable
                exact absurd hmeasurable Bool.false_ne_true
              · exact hrest
  | measure priors rules rule values left =>
      have hworld : (hd.evaluate w row).1 = w := by
        cases left <;> simp only [Handler.evaluate, hst]
      refine hreads hworld (by rw [hst]; rfl) fun _ _ _ _ _ hstage => ?_
      rw [hst] at hstage
      cases left <;> simp only [Handler.evaluate, hst] <;> exact hstage
  | readLast priors rules rule breached =>
      cases hnext : nextTransition (w.firing rule.ruleId row.testConfigId) breached with
      | some transition =>
          refine hreads (by simp only [Handler.evaluate, hst, hnext]) (by rw [hst]; rfl)
            fun _ _ _ _ _ hstage => ?_
          rw [hst] at hstage
          simp only [Handler.evaluate, hst, hnext]
          exact hstage
      | none =>
          have heval : hd.evaluate w row =
              (w.showRun rule.ruleId row, hd.goto (.rule priors rules)) := by
            simp only [Handler.evaluate, hst, hnext]
          rw [heval] at hread ⊢
          refine h.decide hget hrow (by rw [hst]; rfl) ⟨hrec.rule, hrec.ids, hrec.created,
            hrec.projects, hrec.times, hrec.past, hrec.known, hrec.alternates⟩ rfl rfl rfl rfl
            hread rfl rfl ?_ (fun hrule hc => ?_) fun hrule hstage => ?_
          · split_ifs with hhit
            · have hstage := (hhas.fits row hrow hhit.2).stage
              rw [hst] at hstage
              obtain ⟨hrules, -, hverdict⟩ := hstage
              rw [hhit.1, hhit.2] at hnext
              rw [← hverdict (hrules rule List.mem_cons_self hhit.1),
                ← nextTransition_eq_none hnext]
              rfl
            · rfl
          · have hle := horder hd hget row hrow hc
            rw [hst] at hle
            exact hle hrule
          · rw [hst] at hstage
            exact mem_of_ne_ruleId hstage hrule
  | insert priors rules rule breached currentlyFiring transition =>
      have heval : hd.evaluate w row =
          (w.insertEvent rule.ruleId row transition, hd.goto (.deliver priors rules)) := by
        simp only [Handler.evaluate, hst]
      rw [heval] at hread ⊢
      obtain ⟨hid, -, r, hr, hrid, hrconfig, -⟩ := hhas.row row hrow
      have hconfigOf : w.configOf row.id = some row.testConfigId :=
        configOf_eq_some.mpr ⟨r, hr, hrid, hrconfig⟩
      have hinserted : rule.ruleId = R.ruleId → row.testConfigId = c →
          ShowsNoNewer R c w row ∧ breached = verdict R w row ∧
            nextTransition (w.firing R.ruleId c) breached = some transition := by
        intro hrule hc
        have hturn := horder hd hget row hrow hc
        have hstage := (hhas.fits row hrow hc).stage
        rw [hst] at hturn hstage
        obtain ⟨hrules, -, hverdict, hnext⟩ := hstage
        obtain ⟨hnewer, hstill⟩ := hturn hrule
        rw [hstill]
        exact ⟨hnewer, hverdict (hrules rule List.mem_cons_self hrule), hnext⟩
      have hrec' : Recorded projectOf R c (w.insertEvent rule.ruleId row transition) :=
        hrec.insertEvent hconfigOf fun hrule hc => (hinserted hrule hc).2.2
      refine h.decide hget hrow (by rw [hst]; rfl) ⟨hrec'.rule, hrec'.ids, hrec'.created,
        hrec'.projects, hrec'.times, hrec'.past, hrec'.known, hrec'.alternates⟩ rfl rfl rfl rfl
        hread rfl rfl ?_ (fun hrule hc => (hinserted hrule hc).1) fun hrule hstage => ?_
      · refine (hrec.firing_insertEvent hconfigOf).trans ?_
        split_ifs with hhit
        · obtain ⟨-, hverdict, hnext⟩ := hinserted hhit.1 hhit.2
          rw [nextTransition_eq_some hnext, hverdict]
        · rfl
      · rw [hst] at hstage
        exact mem_of_ne_ruleId hstage hrule

/-- Writes to a run keep its config, its project and its time. -/
lemma onRun_rows {run : Guid} {f : RunRow → RunRow} (hf : ∀ r, Keyed.key (f r) = Keyed.key r)
    (hconfig : ∀ r, (f r).testConfigId = r.testConfigId)
    (hproject : ∀ r, (f r).projectId = r.projectId)
    (hcreated : ∀ r, (f r).createdAt = r.createdAt) :
    Keeps w (w.onRun run f hf) ∧
      (w.onRun run f hf).runs.rows.map RunRow.createdAt = w.runs.rows.map RunRow.createdAt ∧
      ((∀ r ∈ w.runs.rows, r.projectId = projectOf r.testConfigId) →
        ∀ r ∈ (w.onRun run f hf).runs.rows, r.projectId = projectOf r.testConfigId) := by
  have htouch : ∀ r, (Table.touch run (fun _ => true) f r).id = r.id ∧
      (Table.touch run (fun _ => true) f r).testConfigId = r.testConfigId ∧
      (Table.touch run (fun _ => true) f r).projectId = r.projectId ∧
      (Table.touch run (fun _ => true) f r).createdAt = r.createdAt := by
    intro r
    rw [Table.touch]
    split_ifs
    · exact ⟨hf r, hconfig r, hproject r, hcreated r⟩
    · exact ⟨rfl, rfl, rfl, rfl⟩
  have hrows : (w.onRun run f hf).runs.rows =
      w.runs.rows.map (Table.touch run (fun _ => true) f) := rfl
  rw [hrows]
  refine ⟨fun r hr => ⟨_, List.mem_map_of_mem hr, (htouch r).1, (htouch r).2.1, (htouch r).2.2.2⟩,
    ?_, fun h r hr => ?_⟩
  · rw [List.map_map]
    exact List.map_congr_left fun r _ => (htouch r).2.2.2
  · obtain ⟨old, hold, rfl⟩ := List.mem_map.mp hr
    rw [(htouch old).2.2.1, (htouch old).2.1]
    exact h old hold

/-- A write to a run, by a handler that has not read its run or by another process. -/
lemma Faithful.write (h : Faithful projectOf R c w) {run : Guid} (f : RunRow → RunRow) {hf}
    (hconfig : ∀ r, (f r).testConfigId = r.testConfigId)
    (hproject : ∀ r, (f r).projectId = r.projectId)
    (hcreated : ∀ r, (f r).createdAt = r.createdAt) {handlers : List Handler}
    (hold : ∀ h ∈ w.handlers, h.row ≠ none → h ∈ handlers)
    (hnew : ∀ h' ∈ handlers, h' ∈ w.handlers ∨ h'.Fresh)
    (hawait : ∀ id, Awaited w id → Awaited { w.onRun run f hf with handlers := handlers } id)
    (hundisturbed : ∀ h ∈ w.handlers, ∀ row ∈ h.row, row.testConfigId = c →
      upTo c { w.onRun run f hf with handlers := handlers } row.createdAt =
        upTo c w row.createdAt)
    (hannounced : ∀ row ∈ (w.onRun run f hf).runs.rows,
      Evident R c { w.onRun run f hf with handlers := handlers } row →
      (∃ old ∈ w.runs.rows, old.id = row.id ∧ Evident R c w old) ∨
        Awaited { w.onRun run f hf with handlers := handlers } row.id) :
    Faithful projectOf R c { w.onRun run f hf with handlers := handlers } := by
  obtain ⟨hkeeps, hmap, hprojects⟩ := onRun_rows (w := w) hf hconfig hproject hcreated
  exact h.keep h.recorded.rule h.recorded.ids (hmap ▸ h.recorded.created)
    (hprojects h.recorded.projects) hkeeps rfl rfl rfl hold hnew (fun r _ _ => hawait r.id)
    hundisturbed hannounced

/-- A handler that has read nothing yet is replaced by one that has not either. -/
lemma handlers_set {i : ℕ} {hd : Handler} (hd' : Handler) (hget : w.handlers[i]? = some hd)
    (hrow : hd.row = none) (hfresh : hd'.Fresh) :
    (∀ h ∈ w.handlers, h.row ≠ none → h ∈ w.handlers.set i hd') ∧
      ∀ h ∈ w.handlers.set i hd', h ∈ w.handlers ∨ h.Fresh := by
  refine ⟨fun h hmem hne => ?_, fun h hmem => ?_⟩
  · rcases mem_set_of_mem hd' hget hmem with rfl | hstays
    · exact absurd hrow hne
    · exact hstays
  · rcases List.mem_or_eq_of_mem_set hmem with hold | rfl
    · exact Or.inl hold
    · exact Or.inr hfresh

/-- A handler is awaited as before when it goes on to one that is awaited or was not. -/
lemma awaited_set {i : ℕ} {hd hd' : Handler} {run : Guid} (hget : w.handlers[i]? = some hd)
    (hruns : w'.handlers = w.handlers.set i hd')
    (hstage : hd.stage.awaits = true → hd'.run = hd.run ∧ hd'.stage.awaits = true)
    (h : Awaited w run) : Awaited w' run := by
  obtain ⟨k, hk, hrun, hawaits⟩ := h
  rcases mem_set_of_mem hd' hget hk with rfl | hstays
  · obtain ⟨hrun', hawaits'⟩ := hstage hawaits
    exact ⟨hd', hruns ▸ mem_set_self hget, hrun'.trans hrun, hawaits'⟩
  · exact ⟨k, hruns ▸ hstays, hrun, hawaits⟩

/-- A handler that has read nothing yet ends. -/
lemma Faithful.quit (h : Faithful projectOf R c w) {i : ℕ} {hd : Handler}
    (hget : w.handlers[i]? = some hd) (hrow : hd.row = none)
    (hno : ∀ row ∈ w.runs.rows, Evident R c w row → hd.run = row.id →
      hd.stage.awaits = true → False) :
    Faithful projectOf R c { w with handlers := w.handlers.set i (hd.goto .ended) } := by
  refine h.still _ hget (Or.inl hrow) (hasRead_of_fresh ⟨hrow, nofun⟩)
    fun row hmem hevident hrun hstage => ?_
  rcases hstage with hawaits | ⟨⟨r, hr, -⟩, -⟩
  · exact (hno row hmem hevident hrun hawaits).elim
  · exact absurd (hrow ▸ hr) nofun

/-- A handler goes on. -/
lemma Faithful.step (h : Faithful projectOf R c w) (hcovers : Covers projectOf R c) {i : ℕ}
    (hl : Ordered R c projectOf (.step i) w) :
    Faithful projectOf R c (AlertMove.exec projectOf (.step i) w) := by
  obtain ⟨hundisturbed, hannounced, horder⟩ := hl
  rw [Undisturbed] at hundisturbed
  rw [Announced] at hannounced
  simp only [AlertMove.exec] at hundisturbed hannounced ⊢
  cases hget : w.handlers[i]? with
  | none => exact h
  | some hd =>
      simp only [hget] at hundisturbed hannounced ⊢
      have hhas := h.handlers hd (List.mem_of_getElem? hget)
      rw [Handler.advance] at hundisturbed hannounced ⊢
      cases hst : hd.stage with
      | finish status reported =>
          have hrow := hhas.unread (by rw [hst]; rfl)
          simp only [hst] at hundisturbed hannounced ⊢
          split_ifs at hundisturbed hannounced ⊢
          · obtain ⟨hold, hnew⟩ := handlers_set (hd.goto (reported.elim .readRun .counts))
              hget hrow ⟨hrow, fun _ => hhas.fresh (by rw [hst]; rfl)⟩
            refine h.write (fun r => { r with status := status }) (fun _ => rfl) (fun _ => rfl)
              (fun _ => rfl) hold hnew (fun _ => awaited_set hget rfl fun hawaits => ?_)
              hundisturbed hannounced
            rw [hst] at hawaits
            exact absurd hawaits Bool.false_ne_true
          · refine h.quit hget hrow fun _ _ _ _ hawaits => ?_
            rw [hst] at hawaits
            exact absurd hawaits Bool.false_ne_true
      | counts reported =>
          have hrow := hhas.unread (by rw [hst]; rfl)
          simp only [hst] at hundisturbed hannounced ⊢
          obtain ⟨hold, hnew⟩ := handlers_set (hd.goto .readRun) hget hrow
            ⟨hrow, fun _ => hhas.fresh (by rw [hst]; rfl)⟩
          exact h.write
            (fun r => { r with successCount := reported.1, failureCount := reported.2 })
            (fun _ => rfl) (fun _ => rfl) (fun _ => rfl) hold hnew
            (fun _ => awaited_set hget rfl fun _ => ⟨rfl, rfl⟩) hundisturbed hannounced
      | readRun =>
          have hrow := hhas.unread (by rw [hst]; rfl)
          simp only
          cases hfind : (w.runs.find? hd.run).filter fun r => isTerminalStatus r.status with
          | none =>
              refine h.quit hget hrow fun row hmem hevident hrun _ => ?_
              -- a run that is not terminal is not measurable
              rw [hrun, show w.runs.find? row.id = some row from Table.find?_key hmem,
                Option.filter_some, if_pos hevident.1.2] at hfind
              exact absurd hfind nofun
          | some row =>
              obtain ⟨hfound, hterminal⟩ := Option.filter_eq_some_iff.mp hfind
              have hmem := Table.mem_of_find? hfound
              have hid : row.id = hd.run := Table.key_of_find? hfound
              have hsample : row.sample ∈ w.terminalRuns row.testConfigId :=
                mem_terminalRuns.mpr ⟨row, hmem, ⟨rfl, hterminal⟩, rfl⟩
              have hcache : hd.latencyCache = [] := hhas.fresh (by rw [hst]; rfl)
              refine h.still { hd with row := some row, stage := .readRules } hget
                (Or.inl hrow) ⟨nofun, nofun, fun row' hrow' => ?_, fun row' hrow' _ => ?_⟩
                fun row' hmem' hevident hrun _ => ⟨hrun, ⟨row, rfl, ?_⟩, trivial⟩
              · obtain rfl := Option.some.inj hrow'
                exact ⟨hid, h.recorded.projects row hmem, row, hmem, rfl, rfl, rfl⟩
              · obtain rfl := Option.some.inj hrow'
                refine ⟨hsample, fun p hp => ?_, trivial⟩
                have hp' : p ∈ hd.latencyCache := hp
                rw [hcache] at hp'
                exact absurd hp' List.not_mem_nil
              · rw [hrun, show w.runs.find? row'.id = some row' from Table.find?_key hmem'] at hfound
                rw [← Option.some.inj hfound]
                exact hevident.1.1
      | _ =>
          simp only
          cases hrow : hd.row with
          | some row => exact h.evaluate hcovers hget hrow horder
          | none =>
              refine h.quit hget hrow fun _ _ _ _ hawaits => ?_
              rw [hst] at hawaits
              exact absurd hawaits Bool.false_ne_true

/-! ### The other moves -/

/-- Another process writes to a run. -/
lemma Faithful.onRun (h : Faithful projectOf R c w) {run : Guid} (f : RunRow → RunRow) {hf}
    (hconfig : ∀ r, (f r).testConfigId = r.testConfigId)
    (hproject : ∀ r, (f r).projectId = r.projectId)
    (hcreated : ∀ r, (f r).createdAt = r.createdAt) {l : AlertMove}
    (hexec : l.exec projectOf w = w.onRun run f hf) (hl : Ordered R c projectOf l w) :
    Faithful projectOf R c (l.exec projectOf w) := by
  obtain ⟨hundisturbed, hannounced, -⟩ := hl
  rw [Undisturbed, hexec] at hundisturbed
  rw [Announced, hexec] at hannounced
  rw [hexec]
  exact h.write f hconfig hproject hcreated (fun _ hmem _ => hmem) (fun _ hmem => Or.inl hmem)
    (fun _ hawaited => hawaited) hundisturbed hannounced

/-- A run that was just launched is not terminal. -/
lemma Faithful.createRun (h : Faithful projectOf R c w) {config createdAt : ℕ}
    (hcan : (AlertMove.createRun config createdAt).can w = true) :
    Faithful projectOf R c (AlertMove.exec projectOf (.createRun config createdAt) w) := by
  have hrows : (AlertMove.exec projectOf (.createRun config createdAt) w).runs.rows =
      w.runs.rows ++ [newRun projectOf config createdAt w.runs.next] := rfl
  have hnot : ∀ config', ¬ IsTerminalRun config' (newRun projectOf config createdAt w.runs.next) :=
    fun _ hterminal => Bool.false_ne_true hterminal.2
  have hold : ∀ r ∈ (AlertMove.exec projectOf (.createRun config createdAt) w).runs.rows,
      IsTerminalRun c r → r ∈ w.runs.rows := by
    intro r hr hterminal
    rw [hrows] at hr
    rcases List.mem_append.mp hr with hr | hr
    · exact hr
    · rw [List.mem_singleton.mp hr] at hterminal
      exact (hnot c hterminal).elim
  refine h.keep h.recorded.rule h.recorded.ids ?_ ?_ ?_ rfl rfl rfl (fun _ hmem _ => hmem)
    (fun _ hmem => Or.inl hmem) (fun _ _ _ hawaited => hawaited) ?_ ?_
  · rw [hrows, List.map_append, List.map_singleton]
    refine List.Nodup.append h.recorded.created (List.nodup_singleton _) ?_
    rw [List.disjoint_singleton]
    intro hmem
    obtain ⟨r, hr, hcreated⟩ := List.mem_map.mp hmem
    exact (bne_iff_ne.mp (List.all_eq_true.mp hcan r hr)) hcreated
  · intro r hr
    rw [hrows] at hr
    rcases List.mem_append.mp hr with hr | hr
    · exact h.recorded.projects r hr
    · rw [List.mem_singleton.mp hr]
      rfl
  · exact fun r hr => ⟨r, by rw [hrows]; exact List.mem_append_left _ hr, rfl, rfl, rfl⟩
  · intro _ _ row _ _
    have hterminal : (AlertMove.exec projectOf (.createRun config createdAt) w).terminalRuns c =
        w.terminalRuns c := by
      have hqueued : ((newRun projectOf config createdAt w.runs.next).testConfigId == c &&
          isTerminalStatus (newRun projectOf config createdAt w.runs.next).status) = false :=
        Bool.and_false _
      rw [AlertWorld.terminalRuns, AlertWorld.terminalRuns, Table.select, Table.select, hrows,
        List.filter_append, List.filter_cons_of_neg (by rw [hqueued]; exact Bool.false_ne_true),
        List.filter_nil, List.append_nil]
    rw [upTo, upTo, hterminal]
    rfl
  · exact fun row hrow hevident =>
      Or.inl ⟨row, hold row hrow hevident.1, rfl, hevident⟩

/-- A new latency of a run. -/
lemma Faithful.setLatency (h : Faithful projectOf R c w) {run : Guid} {latency : Latency}
    (hl : Ordered R c projectOf (.setLatency run latency) w) :
    Faithful projectOf R c (AlertMove.exec projectOf (.setLatency run latency) w) :=
  h.keep h.recorded.rule h.recorded.ids h.recorded.created h.recorded.projects
    (keeps_of_runs rfl) rfl rfl rfl (fun _ hmem _ => hmem) (fun _ hmem => Or.inl hmem)
    (fun _ _ _ hawaited => hawaited) hl.1 hl.2.1

/-- The rules are replaced, and the rule stays. -/
lemma Faithful.setRules (h : Faithful projectOf R c w) {rules : List AlertRule} (hR : R ∈ rules)
    (hids : (rules.map AlertRule.ruleId).Nodup) :
    Faithful projectOf R c (AlertMove.exec projectOf (.setRules rules) w) :=
  h.keep hR hids h.recorded.created h.recorded.projects (keeps_of_runs rfl) rfl rfl rfl
    (fun _ hmem _ => hmem) (fun _ hmem => Or.inl hmem) (fun _ _ _ hawaited => hawaited)
    (fun _ _ _ _ _ => rfl) fun row hrow hevident => Or.inl ⟨row, hrow, rfl, hevident⟩

/-- A `run_finished` frame arrives. -/
lemma Faithful.runFinished (h : Faithful projectOf R c w) {run : Guid} {status : RunStatus}
    {reported : Option (ℤ × ℤ)} :
    Faithful projectOf R c (AlertMove.exec projectOf (.runFinished run status reported) w) := by
  have hmem : ∀ k ∈ w.handlers,
      k ∈ (AlertMove.exec projectOf (.runFinished run status reported) w).handlers :=
    fun k hk => List.mem_append_left _ hk
  refine h.keep h.recorded.rule h.recorded.ids h.recorded.created h.recorded.projects
    (keeps_of_runs rfl) rfl rfl rfl (fun k hk _ => hmem k hk) (fun k hk => ?_)
    (fun r _ _ ⟨k, hk, hawaits⟩ => ⟨k, hmem k hk, hawaits⟩) (fun _ _ _ _ _ => rfl)
    fun row hrow hevident => Or.inl ⟨row, hrow, rfl, hevident⟩
  rcases List.mem_append.mp hk with hold | hnew
  · exact Or.inl hold
  · rw [List.mem_singleton.mp hnew]
    exact Or.inr ⟨rfl, fun _ => rfl⟩

/-- Every move in order keeps the invariant. -/
lemma Faithful.exec (h : Faithful projectOf R c w) (hcovers : Covers projectOf R c)
    {l : AlertMove} (hcan : l.can w = true) (hstays : StaysEnabled R l w)
    (hl : Ordered R c projectOf l w) : Faithful projectOf R c (l.exec projectOf w) := by
  cases l with
  | runFinished run status reported => exact h.runFinished
  | step i => exact h.step hcovers hl
  | createRun config createdAt => exact h.createRun hcan
  | setStatus run status =>
      exact h.onRun (fun r => { r with status := status }) (fun _ => rfl) (fun _ => rfl)
        (fun _ => rfl) rfl hl
  | setCounts run counts =>
      exact h.onRun (fun r => { r with successCount := counts.1, failureCount := counts.2 })
        (fun _ => rfl) (fun _ => rfl) (fun _ => rfl) rfl hl
  | setLatency run latency => exact h.setLatency hl
  | setRules rules => exact h.setRules hstays (of_decide_eq_true hcan)

/-- At first there are no runs, events and handlers. -/
lemma faithful_start {rules : List AlertRule} (hR : R ∈ rules)
    (hids : (rules.map AlertRule.ruleId).Nodup) : Faithful projectOf R c (.start rules) where
  recorded := by
    refine ⟨hR, hids, List.nodup_nil, ?_, List.Pairwise.nil, ?_, ?_, trivial⟩
    · exact fun _ hr => absurd hr List.not_mem_nil
    · exact fun _ he => absurd he List.not_mem_nil
    · exact fun _ he => absurd he List.not_mem_nil
  handlers _ hh := absurd hh List.not_mem_nil
  shown _ hs := absurd (Option.mem_def.mp hs) nofun
  covered _ hr := absurd hr List.not_mem_nil

end State

/-! ### Every run -/

/-- **Alert events track the newest run.** When the evaluations of a config that a rule watches
decide in the order of their runs, on what stays as they have read it, the events of the rule
and the config alternate, and with nothing in progress they show the verdict on the newest
run. -/
theorem alerts_track_of_ordered {projectOf : Guid → String} {R : AlertRule} {c : Guid}
    (hcovers : Covers projectOf R c) {rules : List AlertRule} (hR : R ∈ rules)
    (hids : (rules.map AlertRule.ruleId).Nodup) {ls : List AlertMove}
    (hstays : (alerting projectOf).Along (StaysEnabled R) (.start rules) ls)
    (hordered : (alerting projectOf).Along (Ordered R c projectOf) (.start rules) ls) :
    Tracks R c ((alerting projectOf).run (.start rules) ls) := by
  have hboth : (alerting projectOf).Along
      (fun l w => StaysEnabled R l w ∧ Ordered R c projectOf l w) (.start rules) ls :=
    System.along_meets_and hstays hordered
  exact (Machine.run_inv (fun l w hcan hw hl => hw.exec hcovers hcan hl.1 hl.2)
    (faithful_start hR hids) ls hboth).tracks

/-! ### Two runs of a config -/

section Decidable

variable (R : AlertRule) (c : Guid) (projectOf : Guid → String) (w : AlertWorld)

instance : (l : AlertMove) → Decidable (StaysEnabled R l w)
  | .setRules rules => inferInstanceAs (Decidable (R ∈ rules))
  | .runFinished .. | .step _ | .createRun .. | .setStatus .. | .setCounts .. | .setLatency .. =>
      isTrue trivial

instance (row : RunRow) : Decidable (ShowsNoNewer R c w row) :=
  inferInstanceAs (Decidable (∀ s ∈ w.shown R.ruleId c, s.createdAt ≤ row.createdAt))

instance decidableTurn (row : RunRow) : (stage : Stage) → Decidable
    (match stage with
      | .readLast _ _ rule _ => rule.ruleId = R.ruleId → ShowsNoNewer R c w row
      | .insert _ _ rule _ currentlyFiring _ => rule.ruleId = R.ruleId →
          ShowsNoNewer R c w row ∧ w.firing R.ruleId c = currentlyFiring
      | _ => True)
  | .readLast .. => inferInstanceAs (Decidable (_ → _))
  | .insert .. => inferInstanceAs (Decidable (_ → _ ∧ _))
  | .finish .. | .counts _ | .readRun | .readRules | .readPriors _ | .rule .. | .measure ..
  | .deliver .. | .ended => isTrue trivial

instance : (l : AlertMove) → Decidable (InOrder R c w l)
  | .step i => inferInstanceAs (Decidable (∀ h ∈ w.handlers[i]?, ∀ row ∈ h.row, _ → _))
  | .runFinished .. | .createRun .. | .setStatus .. | .setCounts .. | .setLatency ..
  | .setRules _ => isTrue trivial

instance (l : AlertMove) : Decidable (Undisturbed c w projectOf l) :=
  inferInstanceAs (Decidable (∀ h ∈ w.handlers, ∀ row ∈ h.row, _ → _))

instance (l : AlertMove) : Decidable (Announced R c w projectOf l) :=
  inferInstanceAs (Decidable (∀ row ∈ (l.exec projectOf w).runs.rows, _ → _))

instance (l : AlertMove) : Decidable (Ordered R c projectOf l w) :=
  inferInstanceAs (Decidable (_ ∧ _ ∧ _))

end Decidable

namespace TwoRuns

def projectOf (_ : Guid) : String := "acme"

/-- More than half of the attempts of the newest run fail. -/
def rule : AlertRule where
  ruleId := 7
  projectId := "acme"
  testConfigId := some 1
  metric := .errorRate
  comparator := .gt
  threshold := 0.5
  windowRuns := 1
  enabled := true

def created : List AlertMove := [.createRun 1 10, .createRun 1 20]

def bad (run : Guid) : AlertMove := .runFinished run .completed (some (0, 4))

def good (run : Guid) : AlertMove := .runFinished run .completed (some (4, 0))

/-- A frame is handled to its end. -/
def handle (i : ℕ) : List AlertMove := List.replicate 11 (.step i)

def inTurn : List AlertMove := created ++ bad 0 :: handle 0 ++ good 1 :: handle 1

/-- Both evaluations read the last event in front of an insert. -/
def overlapping : List AlertMove :=
  created ++ [bad 0, bad 1] ++ List.replicate 8 (.step 0) ++ handle 1 ++
    List.replicate 3 (.step 0)

/-- The older run finishes last. -/
def outOfOrder : List AlertMove := created ++ good 1 :: handle 0 ++ bad 0 :: handle 1

def endOf (ls : List AlertMove) : AlertWorld := (alerting projectOf).run (.start [rule]) ls

theorem alerts_track_of_ordered_inTurn :
    (history rule 1 (endOf inTurn)).map AlertEvent.state = [.firing, .resolved] ∧
      Quiet (endOf inTurn) ∧ Tracks rule 1 (endOf inTurn) :=
  ⟨by decide +kernel, by decide,
    alerts_track_of_ordered ⟨rfl, by decide, rfl⟩ (List.mem_singleton_self _) (by decide)
      (by decide) (by decide +kernel)⟩

/-- Two overlapping evaluations both insert `firing`, and a run that finishes out of order
leaves a state that is not that of the newest run. -/
theorem events_lose_track :
    Covers projectOf rule 1 ∧
      ((history rule 1 (endOf overlapping)).map AlertEvent.state = [.firing, .firing] ∧
        ¬ Tracks rule 1 (endOf overlapping)) ∧
      Quiet (endOf outOfOrder) ∧ (endOf outOfOrder).firing 7 1 = true ∧
        ¬ Tracks rule 1 (endOf outOfOrder) := by
  refine ⟨⟨rfl, by decide, rfl⟩, ⟨rfl, fun h => ?_⟩, by decide,
    by decide +kernel, fun h => ?_⟩
  · exact absurd h.alternates (by decide)
  · have hnewest : IsNewest 1 (endOf outOfOrder) ⟨1, "acme", 1, .completed, 4, 0, 20⟩ := by
      rw [IsNewest]
      decide +kernel
    have hagrees := h.agrees (by decide) _ hnewest rfl
    exact absurd hagrees (by decide +kernel)

end TwoRuns

end Alerting

end Networker
