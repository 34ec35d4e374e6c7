/-
How often an occurrence of a schedule fires.

* `AtMostOnce`: no occurrence of a schedule has two runs in the log;
* `Persists`: a save that carries a run or the advance of a fired schedule goes through,
  and the dispatch of an inserted run does not throw;
* `Ticking`: what a tick knows between two schedules, stable under everything `Outside`;
* `safe_launchAsync`, `safe_processOne`, `safe_tickAsync`: the rules of the routines;
* `occurrences_fire_once`: under that condition every occurrence fires at most once, over
  any number of ticks with anything in between;
* `fired_twice`: the dispatch of an inserted run throws, and the next tick fires the
  occurrence again.
-/
import Networker.ControlPlane.Scheduler

namespace Networker

open Data Concurrency SchedulerService

/-- The occurrence a run was created for. -/
def Firing.key (f : Firing) : Guid × Time := (f.schedule, f.occurrence)

/-- Every occurrence has at most one run. -/
def AtMostOnce (W : SchedulerWorld) : Prop := (W.firings.map Firing.key).Nodup

/-- The context holds neither a run nor the advance of a schedule that has fired. -/
def DbContext.idle (ctx : DbContext) : Bool :=
  ctx.added.isEmpty && ctx.modified.all fun u => u.fired.isNone

/-- A save that carries a run, or the advance of a schedule that has fired, goes through,
and no exception comes from behind the insert of a run. -/
def Persists (l : SchedulerStmt) (W : SchedulerWorld) : Prop :=
  match l with
  | .saveChanges ctx => W.saves ctx = true ∨ ctx.idle = true
  | .logFailed _ inserted => inserted = false
  | _ => True

instance : ∀ l W, Decidable (Persists l W)
  | .saveChanges ctx, W => inferInstanceAs (Decidable (W.saves ctx = true ∨ ctx.idle = true))
  | .logFailed _ inserted, _ => inferInstanceAs (Decidable (inserted = false))
  | .look, _ | .query, _ | .call _, _ | .other _, _ | .setUnavailable _, _ | .create .., _
  | .patch .., _ | .delete _, _ => isTrue trivial

/-! ### What a save does -/

/-- The `next_fire_at` of a schedule once the context is saved. -/
def DbContext.nextFor (ctx : DbContext) (id : Guid) (nextFireAt : Option Time) : Option Time :=
  ((ctx.modified.find? fun u => u.schedule == id).map ScheduleUpdate.nextFireAt).getD nextFireAt

@[simp] lemma nextFor_empty (id : Guid) (t : Option Time) : DbContext.empty.nextFor id t = t := rfl

lemma nextFor_track_self (ctx : DbContext) (u : ScheduleUpdate) (t : Option Time) :
    (ctx.track u).nextFor u.schedule t = u.nextFireAt := by
  simp [DbContext.nextFor, DbContext.track]

lemma nextFor_track_ne (ctx : DbContext) {u : ScheduleUpdate} {id : Guid} (hid : u.schedule ≠ id)
    (t : Option Time) : (ctx.track u).nextFor id t = ctx.nextFor id t := by
  simp [DbContext.nextFor, DbContext.track, hid]

lemma schedules_saveRuns (ps : List PendingRun) (W : SchedulerWorld) :
    (ps.foldr SchedulerWorld.saveRun W).schedules = W.schedules := by
  induction ps with
  | nil => rfl
  | cons p ps ih => exact ih

lemma firings_saveSchedules (us : List ScheduleUpdate) (W : SchedulerWorld) :
    (us.foldr SchedulerWorld.saveSchedule W).firings = W.firings := by
  induction us with
  | nil => rfl
  | cons u us ih => exact ih

lemma world_saveSchedules (us : List ScheduleUpdate) (W : SchedulerWorld) :
    (us.foldr SchedulerWorld.saveSchedule W).world = W.world := by
  induction us with
  | nil => rfl
  | cons u us ih => exact ih

lemma next_saveSchedules (us : List ScheduleUpdate) (W : SchedulerWorld) :
    (us.foldr SchedulerWorld.saveSchedule W).schedules.next = W.schedules.next := by
  induction us with
  | nil => rfl
  | cons u us ih => exact ih

/-- The row of a schedule after a save. -/
lemma find?_save {ctx : DbContext} {W : SchedulerWorld} {id : Guid} {s' : TestSchedule}
    (h : (W.save ctx).schedules.find? id = some s') :
    ∃ s, W.schedules.find? id = some s ∧ s'.nextFireAt = ctx.nextFor id s.nextFireAt := by
  obtain ⟨added, modified⟩ := ctx
  rw [SchedulerWorld.save] at h
  induction modified generalizing s' with
  | nil =>
      rw [List.foldr_nil, schedules_saveRuns] at h
      exact ⟨s', h, rfl⟩
  | cons u us ih =>
      rw [List.foldr_cons] at h
      simp only [SchedulerWorld.saveSchedule, Table.find?_update] at h
      obtain ⟨s₁, h₁, rfl⟩ := Option.map_eq_some_iff.mp h
      obtain ⟨s, hs, hnext⟩ := ih h₁
      refine ⟨s, hs, ?_⟩
      by_cases hid : id = u.schedule
      · rw [if_pos ⟨hid, trivial⟩, hid]
        exact (nextFor_track_self ⟨added, us⟩ u _).symm
      · rw [if_neg fun hand => hid hand.1, hnext]
        exact (nextFor_track_ne ⟨added, us⟩ (Ne.symm hid) _).symm

/-! ### What happens outside a tick -/

/-- What is left alone outside the ticks: the log, and the `next_fire_at` of the
schedules that are not deleted. -/
structure Outside (W W' : SchedulerWorld) : Prop where
  firings : W'.firings = W.firings
  now : W.world.now ≤ W'.world.now
  next : W.schedules.next ≤ W'.schedules.next
  rows : ∀ id s', id < W.schedules.next → W'.schedules.find? id = some s' →
    ∃ s, W.schedules.find? id = some s ∧ s'.nextFireAt = s.nextFireAt

lemma Outside.refl (W : SchedulerWorld) : Outside W W :=
  ⟨rfl, le_refl _, le_refl _, fun _ s' _ h => ⟨s', h, rfl⟩⟩

lemma Outside.trans {U V W : SchedulerWorld} (huv : Outside U V) (hvw : Outside V W) :
    Outside U W where
  firings := hvw.firings.trans huv.firings
  now := le_trans huv.now hvw.now
  next := le_trans huv.next hvw.next
  rows id s'' hid h := by
    obtain ⟨s', hs', hnext'⟩ := hvw.rows id s'' (lt_of_lt_of_le hid huv.next) h
    obtain ⟨s, hs, hnext⟩ := huv.rows id s' hid hs'
    exact ⟨s, hs, hnext'.trans hnext⟩

/-- Time does not go back. -/
lemma now_le_exec (l : Stmt) (w : World) : w.now ≤ (l.exec w).now := by
  cases l with
  | elapse span =>
      exact le_add_of_nonneg_right (le_max_right span 0)
  | insertAttempt a =>
      simp only [Stmt.exec]
      split_ifs <;> exact le_refl _
  | sendAssign agent run x y =>
      simp only [Stmt.exec]
      split_ifs <;> exact le_refl _
  | sendCancel agent run =>
      simp only [Stmt.exec]
      split_ifs <;> exact le_refl _
  | _ => exact le_refl _

/-- A change of the rest of the world. -/
lemma Outside.world (W : SchedulerWorld) (l : Stmt) :
    Outside W { W with world := l.exec W.world } :=
  ⟨rfl, now_le_exec l W.world, le_refl _, fun _ s' _ h => ⟨s', h, rfl⟩⟩

lemma Outside.call (W : SchedulerWorld) (l : Stmt) : Outside W ((SchedulerStmt.call l).exec W) := by
  simp only [SchedulerStmt.exec]
  split_ifs
  · exact .refl W
  · exact .world W l

/-- What happens outside leaves alone what `Outside` says. -/
lemma outside_exec {l : SchedulerStmt} (hl : l.isOutside = true) (W : SchedulerWorld) :
    Outside W (l.exec W) := by
  cases l with
  | other l => exact .world W l
  | setUnavailable down => exact ⟨rfl, le_refl _, le_refl _, fun _ s' _ h => ⟨s', h, rfl⟩⟩
  | create testConfigId cronExpr timezone enabled =>
      refine ⟨rfl, le_refl _, Nat.le_succ _, fun id s' hid h => ⟨s', ?_, rfl⟩⟩
      simp only [SchedulerStmt.exec] at h
      rwa [Table.find?_insert_ne (Nat.ne_of_lt hid)] at h
  | patch id' cronExpr timezone enabled =>
      refine ⟨rfl, le_refl _, le_refl _, fun id s' _ h => ?_⟩
      simp only [SchedulerStmt.exec, Table.find?_update] at h
      obtain ⟨s, hs, rfl⟩ := Option.map_eq_some_iff.mp h
      refine ⟨s, hs, ?_⟩
      split_ifs <;> rfl
  | delete id' =>
      refine ⟨rfl, le_refl _, le_refl _, fun id s' _ h => ⟨s', ?_, rfl⟩⟩
      exact (Table.find?_delete_eq_some.mp h).1
  | _ => exact absurd hl Bool.false_ne_true

/-! ### What a tick knows -/

/-- Once the context is saved, the schedule of the firing has no `next_fire_at` up to its
occurrence. -/
def Behind (ctx : DbContext) (W : SchedulerWorld) (f : Firing) : Prop :=
  ∀ s, W.schedules.find? f.schedule = some s →
    ∀ t, ctx.nextFor f.schedule s.nextFireAt = some t → f.occurrence < t

/-- Every firing is of a schedule that has been there, and not in the future. -/
def Logged (W : SchedulerWorld) : Prop :=
  ∀ f ∈ W.firings, f.schedule < W.schedules.next ∧ f.occurrence ≤ W.world.now

/-- What is true in a tick that has started at `now`, in front of the schedules that are
left: all firings lie behind, but for those of the schedule that is being launched. -/
structure Ticking (now : Time) (rest : List TestSchedule) (ctx : DbContext) (cur : Option Guid)
    (W : SchedulerWorld) : Prop where
  added : ctx.added = []
  clock : now ≤ W.world.now
  past : ∀ f ∈ W.firings, f.schedule < W.schedules.next ∧ f.occurrence ≤ now
  behind : ∀ f ∈ W.firings, cur = some f.schedule ∨ Behind ctx W f
  /-- What is not behind in the database is so by an update that a launch has tracked. -/
  saved : ∀ f ∈ W.firings, cur = some f.schedule ∨ Behind .empty W f ∨
    ∃ u ∈ ctx.modified, u.fired.isSome = true
  distinct : rest.Pairwise fun s s' => s.id ≠ s'.id
  other : ∀ s ∈ rest, cur ≠ some s.id
  due : ∀ s ∈ rest, s.id < W.schedules.next ∧ ∀ t, s.nextFireAt = some t → t ≤ now ∧
    ∀ f ∈ W.firings, f.schedule = s.id → f.occurrence < t

lemma Behind.outside {ctx : DbContext} {W W' : SchedulerWorld} {f : Firing} (h : Behind ctx W f)
    (hlt : f.schedule < W.schedules.next) (hout : Outside W W') : Behind ctx W' f := by
  intro s' hs' t ht
  obtain ⟨s, hs, hnext⟩ := hout.rows f.schedule s' hlt hs'
  exact h s hs t (hnext ▸ ht)

lemma stable_ticking (now : Time) (rest : List TestSchedule) (ctx : DbContext)
    (cur : Option Guid) : Proc.Stable Outside (Ticking now rest ctx cur) := by
  intro W W' hout h
  refine ⟨h.added, le_trans h.clock hout.now, ?_, ?_, ?_, h.distinct, h.other, ?_⟩
  all_goals rw [hout.firings]
  · exact fun f hf => ⟨lt_of_lt_of_le (h.past f hf).1 hout.next, (h.past f hf).2⟩
  · exact fun f hf => (h.behind f hf).imp_right fun hb => hb.outside (h.past f hf).1 hout
  · exact fun f hf => (h.saved f hf).imp_right fun hs =>
      hs.imp_left fun hb => hb.outside (h.past f hf).1 hout
  · exact fun s hs => ⟨lt_of_lt_of_le (h.due s hs).1 hout.next, (h.due s hs).2⟩

/-- The occurrence that is handed over has not fired, and the tick goes on without the
schedule. -/
lemma Ticking.skip {now : Time} {s : TestSchedule} {rest : List TestSchedule} {ctx : DbContext}
    {W : SchedulerWorld} (h : Ticking now (s :: rest) ctx none W) : Ticking now rest ctx none W :=
  ⟨h.added, h.clock, h.past, h.behind, h.saved, (List.pairwise_cons.mp h.distinct).2,
    fun s' hs' => h.other s' (List.mem_cons_of_mem _ hs'),
    fun s' hs' => h.due s' (List.mem_cons_of_mem _ hs')⟩

/-- A schedule that is advanced past the tick has all its firings behind it. -/
lemma behind_track {now : Time} {ctx : DbContext} {u : ScheduleUpdate} {W : SchedulerWorld}
    {f : Firing} (hpast : f.occurrence ≤ now) (hnext : ∀ t, u.nextFireAt = some t → now < t)
    (hb : u.schedule ≠ f.schedule → Behind ctx W f) : Behind (ctx.track u) W f := by
  intro r hr t ht
  by_cases hid : u.schedule = f.schedule
  · rw [← hid, nextFor_track_self] at ht
    exact lt_of_le_of_lt hpast (hnext t ht)
  · rw [nextFor_track_ne _ hid] at ht
    exact hb hid r hr t ht

/-- The schedule that was handed over is advanced without a launch. -/
lemma Ticking.advance {now : Time} {s : TestSchedule} {rest : List TestSchedule} {ctx : DbContext}
    {W : SchedulerWorld} (h : Ticking now (s :: rest) ctx none W) {next : Option Time}
    (hnext : ∀ t, next = some t → now < t) :
    Ticking now rest (ctx.track ⟨s.id, next, none⟩) none W := by
  refine ⟨h.added, h.clock, h.past, fun f hf => Or.inr ?_, fun f hf => ?_,
    (List.pairwise_cons.mp h.distinct).2, fun s' hs' => nofun,
    fun s' hs' => h.due s' (List.mem_cons_of_mem _ hs')⟩
  · refine behind_track (h.past f hf).2 hnext fun hid => ?_
    exact (h.behind f hf).resolve_left nofun
  · refine (h.saved f hf).imp_right fun hs => hs.imp_right ?_
    rintro ⟨u, hu, hfired⟩
    exact ⟨u, List.mem_cons_of_mem _ hu, hfired⟩

/-- The schedule that has been launched is advanced. -/
lemma Ticking.launched {now : Time} {id : Guid} {rest : List TestSchedule} {ctx : DbContext}
    {W : SchedulerWorld} (h : Ticking now rest ctx (some id) W) {next : Option Time}
    (hnext : ∀ t, next = some t → now < t) (fired : Time × Guid) :
    Ticking now rest (ctx.track ⟨id, next, some fired⟩) none W := by
  refine ⟨h.added, h.clock, h.past, fun f hf => Or.inr ?_, fun f hf =>
    Or.inr (Or.inr ⟨_, List.mem_cons_self, rfl⟩), h.distinct, fun s' hs' => nofun, h.due⟩
  refine behind_track (h.past f hf).2 hnext fun hid => ?_
  exact (h.behind f hf).resolve_left fun habs => hid (Option.some.inj habs)

/-- A save of what is tracked, with the run of the occurrence that was handed over. -/
lemma Ticking.save {now : Time} {s : TestSchedule} {rest : List TestSchedule} {ctx : DbContext}
    {W : SchedulerWorld} (h : Ticking now (s :: rest) ctx none W) {occurrence : Time}
    (hocc : s.nextFireAt = some occurrence) (cfg : TestConfig) (createdAt : Time) :
    Ticking now rest .empty (some s.id) (W.save (ctx.add ⟨cfg, createdAt, s.id, occurrence⟩)) := by
  obtain ⟨hlt, hdue⟩ := h.due s List.mem_cons_self
  obtain ⟨hle, hfresh⟩ := hdue occurrence hocc
  obtain ⟨hne, hdistinct⟩ := List.pairwise_cons.mp h.distinct
  have hfirings : (W.save (ctx.add ⟨cfg, createdAt, s.id, occurrence⟩)).firings =
      W.firings ++ [⟨s.id, occurrence, W.world.runs.next⟩] := by
    rw [SchedulerWorld.save, firings_saveSchedules, DbContext.add, h.added]
    rfl
  have hnow : (W.save (ctx.add ⟨cfg, createdAt, s.id, occurrence⟩)).world.now = W.world.now := by
    rw [SchedulerWorld.save, world_saveSchedules, DbContext.add, h.added]
    rfl
  have hnext : (W.save (ctx.add ⟨cfg, createdAt, s.id, occurrence⟩)).schedules.next =
      W.schedules.next := by
    rw [SchedulerWorld.save, next_saveSchedules, schedules_saveRuns]
  have hbehind : ∀ f ∈ W.firings,
      Behind .empty (W.save (ctx.add ⟨cfg, createdAt, s.id, occurrence⟩)) f := by
    intro f hf r hr t ht
    obtain ⟨r₀, hr₀, heq⟩ := find?_save hr
    rcases h.behind f hf with habs | hb
    · exact absurd habs nofun
    · exact hb r₀ hr₀ t (by rw [← ht, nextFor_empty, heq]; rfl)
  refine ⟨rfl, hnow ▸ h.clock, ?_, ?_, ?_, hdistinct, fun s' hs' heq => ?_, ?_⟩
  · intro f hf
    rw [hfirings] at hf
    rw [hnext]
    rcases List.mem_append.mp hf with hf | hf
    · exact h.past f hf
    · rw [List.mem_singleton.mp hf]
      exact ⟨hlt, hle⟩
  · intro f hf
    rw [hfirings] at hf
    rcases List.mem_append.mp hf with hf | hf
    · exact Or.inr (hbehind f hf)
    · rw [List.mem_singleton.mp hf]
      exact Or.inl rfl
  · intro f hf
    rw [hfirings] at hf
    rcases List.mem_append.mp hf with hf | hf
    · exact Or.inr (Or.inl (hbehind f hf))
    · rw [List.mem_singleton.mp hf]
      exact Or.inl rfl
  · exact hne s' hs' (Option.some.inj heq)
  · intro s' hs'
    rw [hnext]
    refine ⟨(h.due s' (List.mem_cons_of_mem _ hs')).1, fun t ht => ?_⟩
    obtain ⟨hle', hfresh'⟩ := (h.due s' (List.mem_cons_of_mem _ hs')).2 t ht
    refine ⟨hle', fun f hf hid => ?_⟩
    rw [hfirings] at hf
    rcases List.mem_append.mp hf with hf | hf
    · exact hfresh' f hf hid
    · rw [List.mem_singleton.mp hf] at hid
      exact absurd hid (hne s' hs')

/-! ### The rules of the routines -/

/-- All firings lie behind what the database has. -/
def Advanced (W : SchedulerWorld) : Prop := ∀ f ∈ W.firings, Behind .empty W f

/-- A save brings at most one run, for an occurrence that has not fired. -/
def Fresh (l : SchedulerStmt) (W : SchedulerWorld) : Prop :=
  match l with
  | .saveChanges ctx => ctx.added = [] ∨ ∃ p, ctx.added = [p] ∧ p.schedule < W.schedules.next ∧
      p.occurrence ≤ W.world.now ∧ ∀ f ∈ W.firings, f.schedule = p.schedule → f.occurrence < p.occurrence
  | _ => True

/-- A routine of a tick, with what its saves bring and what happens outside. -/
def TickSafe {α : Type} (p : SchedulerSvc α) (Q : α → SchedulerWorld → Prop) (W : SchedulerWorld) :
    Prop :=
  p.Safe SchedulerStmt.exec Outside (fun l W => (AtMostOnce W ∧ Logged W) ∧ Persists l W) Fresh
    (fun _ => Advanced) Q W

section Rules

variable {h : Host} {now : Time} {s : TestSchedule} {rest : List TestSchedule} {ctx : DbContext}
  {cur : Option Guid} {W : SchedulerWorld}

/-- A look or a query leaves what the tick knows as it is. -/
lemma safe_idle_bind {α β : Type} {I : SchedulerWorld → Prop} (hI : Proc.Stable Outside I)
    {l : SchedulerStmt} (hl : l = .look ∨ l = .query) {g : SchedulerWorld → α}
    {f : α → SchedulerSvc β} {Q : β → SchedulerWorld → Prop} (hW : I W)
    (hf : ∀ V, I V → TickSafe (f (g V)) Q V) : TickSafe (Proc.issue l g >>= f) Q W := by
  refine hI.safe_issue_bind hW fun V hV _ => ?_
  rcases hl with rfl | rfl
  · exact ⟨trivial, hf V hV⟩
  · exact ⟨trivial, hf V hV⟩

lemma safe_ret {α : Type} {Q : α → SchedulerWorld → Prop} (hQ : ∀ a, Proc.Stable Outside (Q a))
    {a : α} (hW : Q a W) : TickSafe (.ret a) Q W := fun V hout => hQ a W V hout hW

/-- The dispatch of a run does not touch the schedules, and it never throws out. -/
lemma safe_dispatchAsync {I : SchedulerWorld → Prop} (hI : Proc.Stable Outside I) (hW : I W)
    (run : Guid) : TickSafe (dispatchAsync h run) (fun _ => I) W := by
  have hcall : (Proc.via .call .dispatch view (RunDispatcher.dispatchRun h run)).Issues
      (fun l => ∀ V, I V → ((AtMostOnce V ∧ Logged V) ∧ Persists l V) → Fresh l V ∧ I (l.exec V)) :=
    Proc.Issues.via (fun l V hV _ => ⟨trivial, hI V _ (Outside.call V l) hV⟩) _
  have hsafe := (Proc.Issues.safe hI hcall hW).bind Outside.refl
    (f := fun _ => .ret true) fun _ V hV => hI.safe_ret hV
  exact Proc.Safe.rescue Outside.refl (fun _ V hV => hI.safe_ret hV) hsafe

/-- What a launch leaves behind. -/
def AfterLaunch (now : Time) (id : Guid) (rest : List TestSchedule) (o : LaunchOutcome)
    (W : SchedulerWorld) : Prop :=
  match o with
  | .launched ctx _ => Ticking now rest ctx (some id) W
  | .failed ctx inserted => inserted = true ∨ Ticking now rest ctx none W

lemma stable_afterLaunch (id : Guid) (o : LaunchOutcome) :
    Proc.Stable Outside (AfterLaunch now id rest o) := by
  intro V V' hout hV
  cases o with
  | launched ctx run => exact stable_ticking now rest ctx (some id) V V' hout hV
  | failed ctx inserted => exact hV.imp_right (stable_ticking now rest ctx none V V' hout)

/-- A launch inserts the run of an occurrence that has not fired. -/
lemma safe_launchAsync {occurrence : Time} (hocc : s.nextFireAt = some occurrence)
    (hW : Ticking now (s :: rest) ctx none W) :
    TickSafe (launchAsync h ctx s occurrence) (AfterLaunch now s.id rest) W := by
  have hstable := stable_ticking now (s :: rest) ctx none
  have hstableAfter : ∀ o, Proc.Stable Outside (AfterLaunch now s.id rest o) :=
    stable_afterLaunch s.id
  have hfailed : ∀ V, Ticking now (s :: rest) ctx none V → TickSafe
      (.ret (.failed ctx false)) (AfterLaunch now s.id rest) V := fun V hV =>
    safe_ret hstableAfter (Or.inr hV.skip)
  refine safe_idle_bind hstable (Or.inr rfl) hW fun V hV => ?_
  split
  · exact hfailed V hV
  · exact hfailed V hV
  · rename_i cfg _
    refine safe_idle_bind hstable (Or.inl rfl) hV fun V₁ hV₁ => ?_
    refine hstable.safe_issue_bind hV₁ fun V₂ hV₂ hok => ?_
    obtain ⟨hlt, hdue⟩ := hV₂.due s List.mem_cons_self
    obtain ⟨hle, hfresh⟩ := hdue occurrence hocc
    refine ⟨Or.inr ⟨⟨cfg, V₁.world.now, s.id, occurrence⟩, ?_, hlt,
      le_trans hle hV₂.clock, hfresh⟩, ?_⟩
    · rw [DbContext.add, hV₂.added]
    · -- a save that carries the run goes through
      have hsaves : V₂.saves (ctx.add ⟨cfg, V₁.world.now, s.id, occurrence⟩) = true :=
        hok.2.resolve_right Bool.false_ne_true
      have hsaved := hV₂.save hocc cfg V₁.world.now
      have hexec : (SchedulerStmt.saveChanges (ctx.add ⟨cfg, V₁.world.now, s.id, occurrence⟩)).exec V₂ =
          V₂.save (ctx.add ⟨cfg, V₁.world.now, s.id, occurrence⟩) := if_pos hsaves
      rw [hexec, if_pos hsaves]
      refine (safe_dispatchAsync (stable_ticking now rest .empty (some s.id)) hsaved _).bind
        Outside.refl fun ok V₃ hV₃ => ?_
      cases ok with
      | true => exact safe_ret hstableAfter hV₃
      | false => exact safe_ret hstableAfter (a := .failed .empty true) (Or.inl rfl)

/-- The loop body advances the schedule, or leaves it to a later tick unfired. -/
lemma safe_processOne (C : Cron) (anyAgentOnline : Bool) (kinds : Guid → Option String)
    (hW : Ticking now (s :: rest) ctx none W) :
    TickSafe (processOne C h now anyAgentOnline kinds ctx s)
      (fun ctx' => Ticking now rest ctx' none) W := by
  have hnext : ∀ t, ScheduleTiming.nextFireUtc C s.cronExpr s.timezone now = some t → now < t :=
    fun t => ScheduleTiming.lt_of_nextFireUtc
  have hstable := fun ctx' => stable_ticking now rest ctx' none
  have hadvance := safe_ret hstable (hW.advance hnext)
  rw [processOne]
  split
  · exact hadvance
  · rename_i occurrence hocc
    split
    · exact hadvance
    · refine (safe_launchAsync hocc hW).bind Outside.refl fun o V hV => ?_
      cases o with
      | launched ctx' run =>
          exact safe_ret hstable (hV.launched hnext (now, run))
      | failed ctx' inserted =>
          refine (stable_afterLaunch s.id (.failed ctx' inserted)).safe_issue_bind (f := .ret) hV
            fun V' hV' hok => ⟨trivial, ?_⟩
          -- the exception does not come from behind the insert
          have hbefore : inserted = false := hok.2
          subst hbefore
          exact safe_ret hstable (hV'.resolve_left Bool.false_ne_true)

/-- What a tick knows once it has read the clock. -/
structure Started (now : Time) (W : SchedulerWorld) : Prop where
  clock : now ≤ W.world.now
  advanced : Advanced W
  past : ∀ f ∈ W.firings, f.schedule < W.schedules.next ∧ f.occurrence ≤ now

lemma stable_started (now : Time) : Proc.Stable Outside (Started now) := by
  intro V V' hout hV
  refine ⟨le_trans hV.clock hout.now, ?_, ?_⟩
  · intro f hf
    rw [hout.firings] at hf
    exact (hV.advanced f hf).outside (hV.past f hf).1 hout
  · intro f hf
    rw [hout.firings] at hf
    exact ⟨lt_of_lt_of_le (hV.past f hf).1 hout.next, (hV.past f hf).2⟩

/-- The due schedules that are read have not fired for their occurrences. -/
lemma Started.ticking {now : Time} {V : SchedulerWorld} (hV : Started now V) :
    Ticking now (dueSchedules now V) .empty none V := by
  refine ⟨rfl, hV.clock, hV.past, fun f hf => Or.inr (hV.advanced f hf),
    fun f hf => Or.inr (Or.inl (hV.advanced f hf)), ?_, fun s hs => nofun, fun s hs => ?_⟩
  · have hnodup : (V.schedules.rows.map TestSchedule.id).Nodup := V.schedules.nodup
    exact (List.pairwise_map.mp hnodup).sublist List.filter_sublist
  · obtain ⟨hmem, hdue⟩ := Table.mem_select.mp hs
    have hrow : V.schedules.find? s.id = some s := Table.find?_key hmem
    refine ⟨Table.lt_of_find? hrow, fun t ht => ⟨?_, fun f hf hid => ?_⟩⟩
    · rw [isDue, ht, Bool.and_eq_true] at hdue
      exact of_decide_eq_true hdue.2
    · exact hV.advanced f hf s (hid ▸ hrow) t ht

/-- Nothing is left to save, or the rest of the tick is saved. -/
lemma Ticking.finish {now : Time} {ctx : DbContext} {V : SchedulerWorld}
    (hV : Ticking now [] ctx none V) (hok : V.saves ctx = true ∨ ctx.idle = true) :
    Advanced ((SchedulerStmt.saveChanges ctx).exec V) := by
  intro f hf
  by_cases hsaves : V.saves ctx = true
  · have hexec : (SchedulerStmt.saveChanges ctx).exec V = V.save ctx := if_pos hsaves
    have hfirings : (V.save ctx).firings = V.firings := by
      rw [SchedulerWorld.save, firings_saveSchedules, hV.added, List.foldr_nil]
    rw [hexec] at hf ⊢
    rw [hfirings] at hf
    intro r hr t ht
    obtain ⟨r₀, hr₀, heq⟩ := find?_save hr
    exact (hV.behind f hf).resolve_left nofun r₀ hr₀ t (by rw [← heq]; exact ht)
  · -- the save fails, so no launch is waiting for it
    have hexec : (SchedulerStmt.saveChanges ctx).exec V = V := if_neg hsaves
    rw [hexec] at hf ⊢
    have hidle := hok.resolve_left hsaves
    rw [DbContext.idle, Bool.and_eq_true, List.all_eq_true] at hidle
    rcases (hV.saved f hf).resolve_left nofun with hb | ⟨u, hu, hfired⟩
    · exact hb
    · have hnone := hidle.2 u hu
      rw [Option.isNone_iff_eq_none] at hnone
      rw [hnone] at hfired
      exact absurd hfired Bool.false_ne_true

/-- The last save of a tick. -/
lemma safe_finish {now : Time} {ctx : DbContext} {V : SchedulerWorld}
    (hV : Ticking now [] ctx none V) :
    TickSafe (saveChanges ctx >>= fun r => match r with
      | none => .raise .saveFailed
      | some _ => .ret ()) (fun _ => Advanced) V := by
  refine (stable_ticking now [] ctx none).safe_issue_bind hV fun V₁ hV₁ hok => ?_
  refine ⟨Or.inl hV₁.added, ?_⟩
  have hadv := hV₁.finish hok.2
  have hlog : ∀ f ∈ ((SchedulerStmt.saveChanges ctx).exec V₁).firings,
      f.schedule < ((SchedulerStmt.saveChanges ctx).exec V₁).schedules.next := by
    intro f hf
    simp only [SchedulerStmt.exec] at hf ⊢
    split_ifs at hf ⊢
    · rw [SchedulerWorld.save, firings_saveSchedules, hV₁.added, List.foldr_nil] at hf
      rw [SchedulerWorld.save, next_saveSchedules, schedules_saveRuns]
      exact (hV₁.past f hf).1
    · exact (hV₁.past f hf).1
  have hstable : ∀ V₂, Outside ((SchedulerStmt.saveChanges ctx).exec V₁) V₂ → Advanced V₂ := by
    intro V₂ hout f hf
    rw [hout.firings] at hf
    exact (hadv f hf).outside (hlog f hf) hout
  split
  · exact hstable
  · exact hstable

/-- **A tick.**  It fires only occurrences that have not fired, and when it ends all of
them lie behind what the database has. -/
lemma safe_tickAsync (C : Cron) (h : Host) {W : SchedulerWorld} (hW : Logged W ∧ Advanced W) :
    TickSafe (tickAsync C h) (fun _ => Advanced) W := by
  have hstable : Proc.Stable Outside fun V => Logged V ∧ Advanced V := by
    intro V V' hout hV
    refine ⟨fun f hf => ?_, fun f hf => ?_⟩
    all_goals rw [hout.firings] at hf
    · exact ⟨lt_of_lt_of_le (hV.1 f hf).1 hout.next, le_trans (hV.1 f hf).2 hout.now⟩
    · exact (hV.2 f hf).outside (hV.1 f hf).1 hout
  refine safe_idle_bind hstable (Or.inl rfl) hW fun V hV => ?_
  have hstarted : Started V.world.now V := ⟨le_refl _, hV.2, hV.1⟩
  have hs := stable_started V.world.now
  refine safe_idle_bind hs (Or.inr rfl) hstarted fun V₁ hV₁ => ?_
  split
  · exact fun V₂ hout => (hs V₁ V₂ hout hV₁).advanced
  · rename_i due hdue
    have hticking : Ticking V.world.now due .empty none V₁ := by
      split at hdue
      · exact absurd hdue nofun
      · rw [← Option.some.inj hdue]
        exact hV₁.ticking
    split
    · exact fun V₂ hout => (hs V₁ V₂ hout hV₁).advanced
    · have ht := stable_ticking V.world.now due .empty none
      refine safe_idle_bind ht (Or.inl rfl) hticking fun V₂ hV₂ => ?_
      refine safe_idle_bind ht (Or.inr rfl) hV₂ fun V₃ hV₃ => ?_
      split
      · exact fun V₄ hout f hf => ((ht V₃ V₄ hout hV₃).saved f hf).resolve_left nofun
          |>.resolve_right fun hu => absurd hu.choose_spec.1 List.not_mem_nil
      · refine Proc.Safe.bind Outside.refl (Proc.Safe.fold Outside.refl
          (I := fun rest ctx' => Ticking V.world.now rest ctx' none)
          (fun ctx' => stable_ticking V.world.now [] ctx' none)
          (fun s rest ctx' V₄ hV₄ => safe_processOne C _ _ hV₄) due .empty V₃ hV₃) ?_
        exact fun ctx' V₄ hV₄ => safe_finish hV₄

end Rules

/-! ### Ticks one after the other -/

/-- What the ticks keep: every occurrence has fired at most once, and between two ticks
all firings lie behind what the database has. -/
def firingOnce : System.Discipline SchedulerStmt SchedulerWorld SchedulerTask where
  inv W := AtMostOnce W ∧ Logged W
  holds _ := True
  res := Advanced
  here _ _ := True
  ok := Persists
  rely _ := Outside
  guar _ := Fresh

/-- What leaves the log alone keeps the invariant. -/
lemma firingOnce_outside {W W' : SchedulerWorld} (hout : Outside W W')
    (hW : AtMostOnce W ∧ Logged W) : AtMostOnce W' ∧ Logged W' := by
  refine ⟨?_, fun f hf => ?_⟩
  · rw [AtMostOnce, hout.firings]
    exact hW.1
  · rw [hout.firings] at hf
    exact ⟨lt_of_lt_of_le (hW.2 f hf).1 hout.next, le_trans (hW.2 f hf).2 hout.now⟩

/-- A statement keeps the invariant: a save brings an occurrence that has not fired. -/
lemma firingOnce_exec {l : SchedulerStmt} {W : SchedulerWorld} (hW : AtMostOnce W ∧ Logged W)
    (hfresh : Fresh l W) : AtMostOnce (l.exec W) ∧ Logged (l.exec W) := by
  cases l with
  | saveChanges ctx =>
      simp only [SchedulerStmt.exec]
      split_ifs
      · rcases hfresh with hadded | ⟨p, hadded, hlt, hle, hnew⟩
        · have hfirings : (W.save ctx).firings = W.firings := by
            rw [SchedulerWorld.save, firings_saveSchedules, hadded, List.foldr_nil]
          refine ⟨by rw [AtMostOnce, hfirings]; exact hW.1, fun f hf => ?_⟩
          rw [hfirings] at hf
          rw [SchedulerWorld.save, next_saveSchedules, world_saveSchedules, schedules_saveRuns,
            hadded, List.foldr_nil]
          exact hW.2 f hf
        · have hfirings : (W.save ctx).firings =
              W.firings ++ [⟨p.schedule, p.occurrence, W.world.runs.next⟩] := by
            rw [SchedulerWorld.save, firings_saveSchedules, hadded]
            rfl
          refine ⟨?_, fun f hf => ?_⟩
          · rw [AtMostOnce, hfirings, List.map_append, List.nodup_append]
            refine ⟨hW.1, by simp, fun k hk k' hk' heq => ?_⟩
            obtain ⟨f, hf, rfl⟩ := List.mem_map.mp hk
            rw [List.map_singleton, List.mem_singleton] at hk'
            rw [hk', Firing.key, Firing.key, Prod.mk.injEq] at heq
            exact absurd heq.2 (ne_of_lt (hnew f hf heq.1))
          · rw [hfirings] at hf
            rw [SchedulerWorld.save, next_saveSchedules, world_saveSchedules, schedules_saveRuns,
              hadded]
            rcases List.mem_append.mp hf with hf | hf
            · exact hW.2 f hf
            · rw [List.mem_singleton.mp hf]
              exact ⟨hlt, hle⟩
      · exact hW
  | look => exact hW
  | query => exact hW
  | logFailed id inserted => exact hW
  | call l => exact firingOnce_outside (Outside.call W l) hW
  | _ => exact firingOnce_outside (outside_exec rfl W) hW

lemma firingOnce_lawful (C : Cron) (h : Host) :
    (scheduler C h).Lawful firingOnce (fun _ => True) fun _ _ => False where
  symm hcompat := hcompat
  excl hcompat := hcompat.elim
  refl _ W := Outside.refl W
  trans _ {_ _ _} huv hvw := huv.trans hvw
  inv _ _ _ hinv _ hguar := firingOnce_exec hinv hguar
  here _ _ _ _ _ _ _ _ := trivial
  res _ _ _ hholds := absurd trivial hholds
  rely _ _ _ _ hcompat := hcompat.elim
  start ts t W _ hadm hinv _ _ hfree := by
    have hts : ts = [] := List.isEmpty_iff.mp hadm
    subst hts
    refine ⟨by simp, trivial, trivial, ?_⟩
    have hadv : Advanced W := hfree (by simp)
    exact (safe_tickAsync C h ⟨hinv.2, hadv⟩).mono (fun _ _ he _ => he) fun _ _ hq _ => hq
  env l W hl hinv _ := by
    have hout := outside_exec hl W
    refine ⟨firingOnce_outside hout hinv, fun hres f hf => ?_, fun _ => ⟨hout, fun _ => trivial⟩⟩
    have hmem : f ∈ W.firings := hout.firings ▸ hf
    exact (hres f hmem).outside (hinv.2 f hmem).1 hout

/-- A state in which the scheduler has created no run yet. -/
def SchedulerWorld.starting (W : SchedulerWorld) : SchedulerWorld := { W with firings := [] }

/-- **Occurrences fire at most once.**  Over any number of ticks, with anything in between
and with the database gone at any statement, every value of `next_fire_at` creates at most
one run, as long as no save that carries a run or the advance of a fired schedule fails
and no exception comes from behind the insert of a run. -/
theorem occurrences_fire_once (C : Cron) (h : Host) (W : SchedulerWorld)
    (as : List (System.Action SchedulerStmt SchedulerTask))
    (hok : (scheduler C h).Along ((scheduler C h).Meets Persists) (.fresh W.starting) as) :
    AtMostOnce ((scheduler C h).after (.fresh W.starting) as).state := by
  have hinv : firingOnce.inv W.starting :=
    ⟨List.nodup_nil, fun f hf => absurd hf List.not_mem_nil⟩
  have hres : firingOnce.res W.starting := fun f hf => absurd hf List.not_mem_nil
  exact (System.after_sound (firingOnce_lawful C h) (.fresh hinv hres) as
    (System.along_starts_any as) hok).inv.1

namespace EveryMinute

/-- The expression that fires at every full minute, in UTC. -/
def cron : Cron where
  Expression := Unit
  Zone := Unit
  parse s withSeconds := if s = "* * * * *" ∧ withSeconds = false then some () else none
  utc := ()
  zone s := if s = "UTC" then some () else none
  next _ _ t := some (t + (minutes 1 - t % minutes 1))
  next_after := by
    intro _ _ t t' h
    obtain rfl := Option.some.inj h
    have hlt : t % minutes 1 < minutes 1 := Int.emod_lt_of_pos t (by decide)
    exact lt_add_of_pos_right t (Int.sub_pos_of_lt hlt)

def agent : Agent := ⟨0, "p", some "0.30.0", none, "offline", none⟩

def config (mode : Json) : TestConfig :=
  .basic 0 "p" "network" (.obj [("kind", .str "network"), ("host", .str "h"), ("port", .int 443)])
    (.obj [("modes", .arr [mode])])

/-- A schedule that has been due for a minute, of a config with the mode. -/
def world (mode : Json) : SchedulerWorld where
  world := { World.initial with
    now := minutes 2
    configs := ⟨[config mode], 1, by simp,
      fun r hr => by rw [List.mem_singleton.mp hr]; exact Nat.zero_lt_one⟩
    agents := ⟨[agent], 1, by decide, by decide⟩ }
  schedules := ⟨[⟨0, 0, "* * * * *", "UTC", true, none, none, some (minutes 1)⟩], 1, by decide,
    by decide⟩
  unavailable := false
  firings := []

/-- An agent connects; two ticks half a minute apart. -/
def twoTicks : List (System.Action SchedulerStmt SchedulerTask) :=
  .env (.other (.connect 0)) :: .start .tick :: List.replicate 20 (.step 0) ++
    .env (.other (.elapse (seconds 30))) :: .start .tick :: List.replicate 20 (.step 1)

end EveryMinute

open EveryMinute in
theorem occurrences_fire_once_runnable :
    AtMostOnce ((scheduler cron Host.plain).after
      (.fresh (world (.str "http1")).starting) twoTicks).state :=
  occurrences_fire_once cron Host.plain (world (.str "http1")) twoTicks (by decide +kernel)

open EveryMinute in
/-- The dispatch of the inserted run throws on the numeric mode, and `next_fire_at` stays. -/
theorem fired_twice :
    ¬ AtMostOnce ((scheduler cron Host.plain).after
      (.fresh (world (.int 1)).starting) twoTicks).state := by
  have hkeys : ((scheduler cron Host.plain).after (.fresh (world (.int 1)).starting)
      twoTicks).state.firings.map Firing.key = [(0, minutes 1), (0, minutes 1)] := by
    decide +kernel
  rw [AtMostOnce, hkeys]
  decide

end Networker
