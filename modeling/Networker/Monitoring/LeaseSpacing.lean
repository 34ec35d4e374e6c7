/-
What the leases of the monitoring service guarantee.

* `Monitoring.row`, `Monitoring.events`: the row of a monitor and what happened to its leases;
* `Tracked`: the rows an open transaction has read are the rows of the table, and no two
  transactions have locked one row;
* `Moves`: everything one step can do to a monitor; `moves_exec` is the inversion lemma of
  the machine, `run_moves` its rule for runs;
* `Spaced`, `Exclusive`: the row of a monitor against its leases;
* `leases_spaced`, `checks_distinct`, `leases_exclusive`: what holds in every run.
-/
import Networker.Monitoring.Leases

namespace Networker

open Data Concurrency

/-! ### The history of a monitor -/

namespace LeaseEvent

/-- The monitor an event is about. -/
def monitorId : LeaseEvent → Guid
  | granted g => g.monitor.monitorId
  | released id => id

/-- The lease an event hands out. -/
def grant? : LeaseEvent → Option LeaseGrant
  | granted g => some g
  | released _ => none

end LeaseEvent

namespace Monitoring

variable {st : Monitoring} {id j : Guid} {m r : MonitorRow} {now : Time} {worker : String}
  {reenabled : Prop}

/-- The row of a monitor. -/
def row (st : Monitoring) (id : Guid) : Option MonitorRow := st.monitors.find? id

/-- What happened to the leases of a monitor. -/
def events (st : Monitoring) (id : Guid) : List LeaseEvent :=
  st.history.filter fun e => e.monitorId == id

/-- The leases of a monitor, in the order they were handed out. -/
def grants (st : Monitoring) (id : Guid) : List LeaseGrant :=
  (st.events id).filterMap LeaseEvent.grant?

@[simp] lemma row_updateMonitor {f : MonitorRow → MonitorRow}
    {hf : ∀ m, Keyed.key (f m) = Keyed.key m} :
    (st.updateMonitor j f hf).row id = if id = j then (st.row id).map f else st.row id := by
  rw [row, updateMonitor]
  by_cases h : id = j
  · subst h
    rw [if_pos rfl, Table.find?_update_self]
    simp [row]
  · rw [if_neg h, Table.find?_update_ne h]
    rfl

@[simp] lemma events_updateMonitor {f : MonitorRow → MonitorRow}
    {hf : ∀ m, Keyed.key (f m) = Keyed.key m} :
    (st.updateMonitor j f hf).events id = st.events id := rfl

@[simp] lemma row_hand {g : LeaseGrant} : (st.hand g).row id = st.row id := rfl

@[simp] lemma row_release : (st.release j).row id = st.row id := rfl

lemma events_hand {g : LeaseGrant} : (st.hand g).events id =
    if g.monitor.monitorId = id then st.events id ++ [.granted g] else st.events id := by
  rw [events, hand, List.filter_append]
  by_cases h : g.monitor.monitorId = id <;> simp [events, LeaseEvent.monitorId, h]

lemma events_release : (st.release j).events id =
    if j = id then st.events id ++ [.released j] else st.events id := by
  rw [events, release, List.filter_append]
  by_cases h : j = id <;> simp [events, LeaseEvent.monitorId, h]

lemma row_finish {g : LeaseGrant} {i : ℕ} {result : Option (String × Option String)}
    (hg : st.running[i]? = some g) : (st.finish i result now).row id =
      if id = g.monitor.monitorId then (st.row id).map (giveBack now) else st.row id := by
  rw [finish, hg]
  exact @row_updateMonitor st id g.monitor.monitorId (giveBack now) key_giveBack

lemma events_finish {g : LeaseGrant} {i : ℕ} {result : Option (String × Option String)}
    (hg : st.running[i]? = some g) : (st.finish i result now).events id =
      if g.monitor.monitorId = id then st.events id ++ [.released g.monitor.monitorId]
      else st.events id := by
  rw [finish, hg]
  exact events_release

/-! ### The locked rows -/

/-- What a check is for. -/
def checkSlot (c : MonitorCheck) : Guid × Time := (c.monitorId, c.scheduledAt)

/-- What a lease is for. -/
def grantSlot (g : LeaseGrant) : Guid × Time := (g.monitor.monitorId, g.scheduledAt)

lemma checkSlot_checkOf (g : LeaseGrant) (result : Option (String × Option String)) :
    checkSlot (checkOf g result) = grantSlot g := by
  rcases result with _ | ⟨outcome, failureKind⟩ <;> rfl

/-- Every check and every running lease stands for a lease of its own. -/
def Served (st : Monitoring) : Prop :=
  (st.checks.map checkSlot ++ st.running.map grantSlot).Subperm
    ((st.history.filterMap LeaseEvent.grant?).map grantSlot)

/-- The open transactions have read the rows of the table, each row is locked once, what the
history is about exists, and every check has its lease. -/
structure Tracked (st : Monitoring) : Prop where
  current : ∀ tx ∈ st.transactions, ∀ r ∈ tx.due,
    st.row r.monitorId = some r ∧ isDue tx.now r = true
  apart : st.lockedIds.Nodup
  known : ∀ id, st.events id ≠ [] → (st.row id).isSome = true
  served : st.Served

/-! ### What a step does to a monitor -/

/-- Everything a step can do to the row of a monitor and to its leases; a monitor is enabled
again only if that is allowed for. -/
inductive Moves (reenabled : Prop) (id : Guid) :
    Option MonitorRow → List LeaseEvent → Option MonitorRow → List LeaseEvent → Prop
  | stay (m : Option MonitorRow) (es : List LeaseEvent) : Moves reenabled id m es m es
  | created (n : ℤ) (now : Time) (hn : validInterval n = true) : Moves reenabled id none []
      (some (newMonitor n now id)) []
  | putOff (m : MonitorRow) (es : List LeaseEvent) (now : Time) (hdue : isDue now m = true) :
      Moves reenabled id (some m) es (some (putOff now m m)) es
  | granted (m : MonitorRow) (es : List LeaseEvent) (worker : String) (now : Time) (loc : Guid)
      (hdue : isDue now m = true) : Moves reenabled id (some m) es
        (some (takeLease worker now m m))
        (es ++ [.granted ⟨m, loc, m.nextCheckAt, worker, now⟩])
  | released (m : MonitorRow) (es : List LeaseEvent) (now : Time) :
      Moves reenabled id (some m) es (some (giveBack now m)) (es ++ [.released id])
  | updated (m : MonitorRow) (es : List LeaseEvent) (n : Option ℤ) (enabled : Option Bool)
      (seen : Bool) (now : Time) (hn : n.all validInterval = true)
      (hre : enabled = some true → seen = false → reenabled) :
      Moves reenabled id (some m) es (some (applyUpdate n enabled seen now m)) es
  | deleted (m : MonitorRow) (es : List LeaseEvent) (now : Time) :
      Moves reenabled id (some m) es (some (applyDelete now m)) (es ++ [.released id])

/-- The loop body leaves the other monitors alone. -/
lemma leaseOne_of_ne (worker : String) (now : Time) (st : Monitoring) (h : id ≠ r.monitorId) :
    (leaseOne worker now st r).row id = st.row id ∧
      (leaseOne worker now st r).events id = st.events id := by
  rw [leaseOne]
  split
  · rw [row_updateMonitor, if_neg h, events_updateMonitor]
    exact ⟨rfl, rfl⟩
  · rw [row_hand, row_updateMonitor, if_neg h, events_hand, if_neg fun he => h he.symm,
      events_updateMonitor]
    exact ⟨rfl, rfl⟩

/-- The loop body moves the monitor it is about. -/
lemma leaseOne_self (hrow : st.row r.monitorId = some r) (hdue : isDue now r = true) :
    Moves reenabled r.monitorId (st.row r.monitorId) (st.events r.monitorId)
      ((leaseOne worker now st r).row r.monitorId)
      ((leaseOne worker now st r).events r.monitorId) := by
  rw [leaseOne]
  split
  · rw [row_updateMonitor, if_pos rfl, hrow, events_updateMonitor]
    exact .putOff r _ now hdue
  · rename_i loc hloc
    rw [row_hand, row_updateMonitor, if_pos rfl, hrow, events_hand, if_pos rfl,
      events_updateMonitor]
    exact .granted r _ worker now loc hdue

lemma foldl_leaseOne_of_not_mem (worker : String) (now : Time) (due : List MonitorRow) :
    ∀ st : Monitoring, id ∉ due.map MonitorRow.monitorId →
      (due.foldl (leaseOne worker now) st).row id = st.row id ∧
        (due.foldl (leaseOne worker now) st).events id = st.events id := by
  induction due with
  | nil => exact fun st _ => ⟨rfl, rfl⟩
  | cons r due ih =>
      intro st hid
      rw [List.map_cons, List.mem_cons, not_or] at hid
      obtain ⟨hrow, hevents⟩ := leaseOne_of_ne worker now st hid.1
      obtain ⟨hrow', hevents'⟩ := ih (leaseOne worker now st r) hid.2
      exact ⟨hrow'.trans hrow, hevents'.trans hevents⟩

/-- The loop over rows that are current moves every monitor at most once. -/
lemma foldl_leaseOne (due : List MonitorRow) :
    ∀ st : Monitoring, (due.map MonitorRow.monitorId).Nodup →
      (∀ r ∈ due, st.row r.monitorId = some r ∧ isDue now r = true) →
      Moves reenabled id (st.row id) (st.events id)
        ((due.foldl (leaseOne worker now) st).row id)
        ((due.foldl (leaseOne worker now) st).events id) := by
  induction due with
  | nil => exact fun st _ _ => .stay _ _
  | cons r due ih =>
      intro st hnodup hcur
      rw [List.map_cons, List.nodup_cons] at hnodup
      rw [List.foldl_cons]
      by_cases hid : id = r.monitorId
      · subst hid
        obtain ⟨hrow, hevents⟩ := foldl_leaseOne_of_not_mem worker now due
          (leaseOne worker now st r) hnodup.1
        obtain ⟨hr, hdue⟩ := hcur r (by simp)
        rw [hrow, hevents]
        exact leaseOne_self hr hdue
      · obtain ⟨hrow, hevents⟩ := leaseOne_of_ne worker now st hid
        rw [← hrow, ← hevents]
        refine ih _ hnodup.2 fun q hq => ?_
        have hne : q.monitorId ≠ r.monitorId := fun heq =>
          hnodup.1 (heq ▸ List.mem_map_of_mem hq)
        rw [(leaseOne_of_ne worker now st hne).1]
        exact hcur q (List.mem_cons_of_mem r hq)

lemma mem_lockedIds {tx : LeaseTx} (htx : tx ∈ st.transactions) (hr : r ∈ tx.due) :
    r.monitorId ∈ st.lockedIds :=
  List.mem_flatMap.mpr ⟨tx, htx, List.mem_map_of_mem hr⟩

/-- A lease that runs is about a monitor of the table. -/
lemma Tracked.row_of_running (h : Tracked st) {g : LeaseGrant} (hg : g ∈ st.running) :
    (st.row g.monitor.monitorId).isSome = true := by
  have hslot : grantSlot g ∈ (st.history.filterMap LeaseEvent.grant?).map grantSlot :=
    h.served.subset (List.mem_append_right _ (List.mem_map_of_mem hg))
  obtain ⟨g', hg', heq⟩ := List.mem_map.mp hslot
  obtain ⟨e, he, hgrant⟩ := List.mem_filterMap.mp hg'
  refine h.known _ (List.ne_nil_of_mem (a := e) (List.mem_filter.mpr ⟨he, ?_⟩))
  cases e with
  | granted g'' =>
      obtain rfl := Option.some.inj hgrant
      exact beq_iff_eq.mpr (congrArg Prod.fst heq)
  | released id => exact absurd hgrant.symm (Option.some_ne_none g')

/-- The rows of the query are rows of the table that nobody has locked, each of them once. -/
lemma leaseDueQuery_spec (st : Monitoring) (now : Time) :
    ((st.leaseDueQuery now).map MonitorRow.monitorId).Nodup ∧
      ∀ r ∈ st.leaseDueQuery now, st.row r.monitorId = some r ∧ isDue now r = true ∧
        r.monitorId ∉ st.lockedIds := by
  rw [leaseDueQuery]
  set rows := st.monitors.select fun m => isDue now m && !st.locked m.monitorId with hrows
  constructor
  · have hsub : rows.Sublist st.monitors.rows := List.filter_sublist
    have hnodup : (rows.map MonitorRow.monitorId).Nodup := st.monitors.nodup.sublist (hsub.map _)
    have hperm : (oldest MonitorRow.nextCheckAt rows).Perm rows := List.perm_insertionSort _ rows
    have hsorted : ((oldest MonitorRow.nextCheckAt rows).map MonitorRow.monitorId).Nodup :=
      (hperm.map _).nodup_iff.mpr hnodup
    exact hsorted.sublist ((List.take_sublist _ _).map _)
  · intro r hr
    have hmem : r ∈ rows := mem_oldest.mp (List.mem_of_mem_take hr)
    obtain ⟨hrow, hp⟩ := Table.mem_select.mp hmem
    rw [Bool.and_eq_true, Bool.not_eq_true', locked, decide_eq_false_iff_not] at hp
    exact ⟨Table.find?_key hrow, hp.1, hp.2⟩

/-! ### The inversion lemma -/

/-- One step does to a monitor what `Moves` lists. -/
lemma moves_exec (h : Tracked st) {l : MonitoringStep} (hcan : l.can st = true)
    (hre : ∀ n now, l = .update id n (some true) false now → reenabled) :
    Moves reenabled id (st.row id) (st.events id) ((l.exec st).row id) ((l.exec st).events id) := by
  cases l with
  | create n now =>
      have hevents : (MonitoringStep.exec (.create n now) st).events id = st.events id := rfl
      rw [hevents]
      by_cases hid : id = st.monitors.next
      · have hnone : st.row id = none := by
          rw [Option.eq_none_iff_forall_ne_some]
          intro m hm
          exact (Table.lt_of_find? hm).ne hid
        have hnil : st.events id = [] := by
          by_contra hne
          have hsome := h.known id hne
          rw [hnone] at hsome
          exact Bool.false_ne_true hsome
        have hrow : (MonitoringStep.exec (.create n now) st).row id =
            some (newMonitor n now id) := by
          have hins : (st.monitors.insert (newMonitor n now) key_newMonitor).find?
              st.monitors.next = some (newMonitor n now st.monitors.next) :=
            Table.find?_insert_self
          rw [hid]
          exact hins
        rw [hnone, hnil, hrow]
        exact .created n now hcan
      · have hins : (st.monitors.insert (newMonitor n now) key_newMonitor).find? id =
            st.monitors.find? id := Table.find?_insert_ne hid
        have hrow : (MonitoringStep.exec (.create n now) st).row id = st.row id := hins
        rw [hrow]
        exact .stay _ _
  | assign j loc => exact .stay _ _
  | select worker now => exact .stay _ _
  | rollback i => exact .stay _ _
  | abandon i => exact .stay _ _
  | commit i =>
      simp only [MonitoringStep.exec]
      split
      · exact .stay _ _
      · rename_i tx htx
        have hmem : tx ∈ st.transactions := List.mem_of_getElem? htx
        have hnodup : (tx.due.map MonitorRow.monitorId).Nodup :=
          (List.nodup_flatMap.mp h.apart).1 tx hmem
        exact foldl_leaseOne tx.due st hnodup (h.current tx hmem)
  | finish i result now =>
      rcases hg : st.running[i]? with _ | g
      · have hsame : MonitoringStep.exec (.finish i result now) st = st := by
          simp only [MonitoringStep.exec, finish, hg]
        rw [hsame]
        exact .stay _ _
      · obtain ⟨m, hm⟩ := Option.isSome_iff_exists.mp (h.row_of_running (List.mem_of_getElem? hg))
        rw [MonitoringStep.exec, row_finish hg, events_finish hg]
        by_cases hid : id = g.monitor.monitorId
        · subst hid
          rw [if_pos rfl, if_pos rfl, hm]
          exact .released m _ now
        · rw [if_neg hid, if_neg (Ne.symm hid)]
          exact .stay _ _
  | update j n enabled seen now =>
      simp only [MonitoringStep.can, Bool.and_eq_true] at hcan
      simp only [MonitoringStep.exec, row_updateMonitor, events_updateMonitor]
      by_cases hid : id = j
      · subst hid
        rw [if_pos rfl]
        rcases st.row id with _ | m
        · exact .stay _ _
        · exact .updated m _ n enabled seen now hcan.1 fun he hs => hre n now (by rw [he, hs])
      · rw [if_neg hid]
        exact .stay _ _
  | delete j now =>
      simp only [MonitoringStep.can, Bool.and_eq_true] at hcan
      simp only [MonitoringStep.exec, row_release, row_updateMonitor, events_release,
        events_updateMonitor]
      by_cases hid : id = j
      · subst hid
        obtain ⟨m, hm⟩ := Option.isSome_iff_exists.mp hcan.1
        have hm' : st.row id = some m := hm
        rw [if_pos rfl, if_pos rfl, hm']
        exact .deleted m _ now
      · rw [if_neg hid, if_neg (Ne.symm hid)]
        exact .stay _ _

/-! ### The invariant of the locks -/

/-- What a step does to a monitor keeps its row. -/
lemma Moves.isSome {m m' : Option MonitorRow} {es es' : List LeaseEvent}
    (h : Moves reenabled id m es m' es') (hm : m.isSome = true) : m'.isSome = true := by
  cases h <;> first | exact hm | rfl

lemma Moves.known {m m' : Option MonitorRow} {es es' : List LeaseEvent}
    (h : Moves reenabled id m es m' es') (hm : es ≠ [] → m.isSome = true) (hes : es' ≠ []) :
    m'.isSome = true := by
  cases h <;> first | exact hm hes | rfl

/-- A row that nobody has locked can be written. -/
lemma Tracked.current_of_eq (h : Tracked st) {st' : Monitoring}
    (htx : ∀ tx ∈ st'.transactions, tx ∈ st.transactions)
    (hrow : ∀ tx ∈ st'.transactions, ∀ r ∈ tx.due, st'.row r.monitorId = st.row r.monitorId) :
    ∀ tx ∈ st'.transactions, ∀ r ∈ tx.due,
      st'.row r.monitorId = some r ∧ isDue tx.now r = true := by
  intro tx hmem r hr
  rw [hrow tx hmem r hr]
  exact h.current tx (htx tx hmem) r hr

lemma served_hand (h : st.Served) (g : LeaseGrant) : (st.hand g).Served := by
  have happ := h.append (List.Subperm.refl [grantSlot g])
  simpa only [Served, hand, List.filterMap_append, List.filterMap_cons, List.filterMap_nil,
    LeaseEvent.grant?, List.map_append, List.map_cons, List.map_nil, List.append_assoc] using happ

lemma served_foldl (due : List MonitorRow) :
    ∀ st : Monitoring, st.Served → (due.foldl (leaseOne worker now) st).Served := by
  induction due with
  | nil => exact fun st h => h
  | cons r due ih =>
      refine fun st h => ih _ ?_
      rw [leaseOne]
      split
      · exact h
      · exact served_hand h _

lemma served_release (h : st.Served) : (st.release j).Served := by
  simpa only [Served, release, List.filterMap_append, List.filterMap_cons, List.filterMap_nil,
    LeaseEvent.grant?, List.append_nil] using h

/-- The check of a running lease takes its place. -/
lemma served_finish (h : st.Served) (i : ℕ) (result : Option (String × Option String))
    (now : Time) : (st.finish i result now).Served := by
  rw [finish]
  split
  · exact h
  · rename_i g hg
    obtain ⟨hlt, rfl⟩ := List.getElem?_eq_some_iff.mp hg
    have hperm : ((st.checks ++ [checkOf st.running[i] result]).map checkSlot ++
        (st.running.eraseIdx i).map grantSlot).Perm
        (st.checks.map checkSlot ++ st.running.map grantSlot) := by
      rw [List.map_append, List.append_assoc]
      refine List.Perm.append_left _ ?_
      rw [List.map_singleton, checkSlot_checkOf, List.singleton_append, ← List.map_cons]
      exact (List.getElem_cons_eraseIdx_perm hlt).map _
    have hold := served_release (j := st.running[i].monitor.monitorId) h
    exact hperm.subperm.trans hold

/-- Every step keeps the invariant of the locks. -/
lemma Tracked.exec (h : Tracked st) {l : MonitoringStep} (hcan : l.can st = true) :
    Tracked (l.exec st) := by
  have hmoves : ∀ id, Moves True id (st.row id) (st.events id) ((l.exec st).row id)
      ((l.exec st).events id) := fun id => moves_exec h hcan fun _ _ _ => trivial
  have hknown : ∀ id, (l.exec st).events id ≠ [] → ((l.exec st).row id).isSome = true :=
    fun id hes => (hmoves id).known (h.known id) hes
  cases l with
  | create n now =>
      refine ⟨?_, h.apart, hknown, h.served⟩
      intro tx htx r hr
      obtain ⟨hrow, hdue⟩ := h.current tx htx r hr
      have hins : (st.monitors.insert (newMonitor n now) key_newMonitor).find? r.monitorId =
          some r := Table.find?_insert_of_find? hrow
      exact ⟨hins, hdue⟩
  | assign j loc => exact ⟨h.current, h.apart, hknown, h.served⟩
  | select worker now =>
      obtain ⟨hnodup, hspec⟩ := leaseDueQuery_spec st now
      refine ⟨?_, ?_, hknown, h.served⟩
      · intro tx htx r hr
        rcases List.mem_append.mp htx with htx | htx
        · exact h.current tx htx r hr
        · obtain rfl := List.mem_singleton.mp htx
          exact ⟨(hspec r hr).1, (hspec r hr).2.1⟩
      · rw [lockedIds, MonitoringStep.exec, List.flatMap_append, List.flatMap_singleton,
          List.nodup_append]
        refine ⟨h.apart, hnodup, ?_⟩
        rintro a ha b hb rfl
        obtain ⟨r, hr, rfl⟩ := List.mem_map.mp hb
        exact (hspec r hr).2.2 ha
  | commit i =>
      simp only [MonitoringStep.exec] at hknown ⊢
      split
      · exact h
      · rename_i tx htx
        obtain ⟨hlt, rfl⟩ := List.getElem?_eq_some_iff.mp htx
        simp only [htx] at hknown
        have hsub : (st.transactions.eraseIdx i).Sublist st.transactions :=
          List.eraseIdx_sublist ..
        refine ⟨h.current_of_eq (fun tx htx => hsub.subset htx) fun tx hmem r hr => ?_,
          h.apart.sublist (hsub.flatMap _), hknown, ?_⟩
        · -- the rows of the other transactions are not among those of this one
          have hperm : ((st.transactions[i] :: st.transactions.eraseIdx i).flatMap
              fun tx => tx.due.map MonitorRow.monitorId).Nodup :=
            ((List.getElem_cons_eraseIdx_perm hlt).flatMap_right _).nodup_iff.mpr h.apart
          rw [List.flatMap_cons, List.nodup_append] at hperm
          have hnot : r.monitorId ∉ (st.transactions[i]).due.map MonitorRow.monitorId :=
            fun hin => hperm.2.2 _ hin _
              (List.mem_flatMap.mpr ⟨tx, hmem, List.mem_map_of_mem hr⟩) rfl
          exact (foldl_leaseOne_of_not_mem _ _ _ st hnot).1
        · exact served_foldl _ st h.served
  | rollback i =>
      have hsub : (st.transactions.eraseIdx i).Sublist st.transactions := List.eraseIdx_sublist ..
      exact ⟨h.current_of_eq (fun tx htx => hsub.subset htx) fun _ _ _ _ => rfl,
        h.apart.sublist (hsub.flatMap _), hknown, h.served⟩
  | finish i result now =>
      simp only [MonitoringStep.can, Option.any_eq_true, Bool.not_eq_true', locked,
        decide_eq_false_iff_not] at hcan
      obtain ⟨g, hg, hfree⟩ := hcan
      have hserved := served_finish h.served i result now
      have htxs : (st.finish i result now).transactions = st.transactions := by
        simp only [finish, hg]
        rfl
      have hlocked : (st.finish i result now).lockedIds = st.lockedIds := by
        rw [lockedIds, htxs, lockedIds]
      refine ⟨h.current_of_eq (fun tx htx => htxs ▸ htx) fun tx htx r hr => ?_,
        hlocked ▸ h.apart, hknown, hserved⟩
      have hmem : tx ∈ st.transactions := htxs ▸ htx
      rw [MonitoringStep.exec, row_finish hg, if_neg]
      rintro heq
      exact hfree (heq ▸ mem_lockedIds hmem hr)
  | abandon i =>
      refine ⟨h.current, h.apart, hknown, ?_⟩
      have hsub : (st.running.eraseIdx i).Sublist st.running := List.eraseIdx_sublist ..
      exact ((List.subperm_append_left _).mpr (hsub.map _).subperm).trans h.served
  | update j n enabled seen now =>
      simp only [MonitoringStep.can, Bool.and_eq_true, Bool.not_eq_true', locked,
        decide_eq_false_iff_not] at hcan
      refine ⟨h.current_of_eq (fun tx htx => htx) fun tx htx r hr => ?_, h.apart, hknown, h.served⟩
      simp only [MonitoringStep.exec]
      rw [row_updateMonitor, if_neg]
      rintro rfl
      exact hcan.2 (mem_lockedIds htx hr)
  | delete j now =>
      simp only [MonitoringStep.can, Bool.and_eq_true, Bool.not_eq_true', locked,
        decide_eq_false_iff_not] at hcan
      refine ⟨h.current_of_eq (fun tx htx => htx) fun tx htx r hr => ?_, h.apart, hknown,
        served_release h.served⟩
      simp only [MonitoringStep.exec]
      rw [row_release, row_updateMonitor, if_neg]
      rintro rfl
      exact hcan.2 (mem_lockedIds htx hr)

lemma Tracked.start : Tracked Monitoring.start where
  current := by simp [Monitoring.start]
  apart := List.nodup_nil
  known := by simp [Monitoring.start, events]
  served := List.Subperm.refl _

/-- What the moves of a monitor keep holds of it in every state of a run. -/
theorem run_moves (reenabled : Prop) (id : Guid) {I : Option MonitorRow → List LeaseEvent → Prop}
    (keep : ∀ m es m' es', I m es → Moves reenabled id m es m' es' → I m' es')
    (h0 : I none []) (steps : List MonitoringStep)
    (hre : ∀ n now, .update id n (some true) false now ∈ steps → reenabled) :
    Tracked (monitoring.run start steps) ∧
      I ((monitoring.run start steps).row id) ((monitoring.run start steps).events id) := by
  refine Machine.run_inv_mem (K := fun l => ∀ n now, l = .update id n (some true) false now →
    reenabled) (I := fun st => Tracked st ∧ I (st.row id) (st.events id)) ?_
    ⟨Tracked.start, h0⟩ steps fun l hl n now heq => hre n now (heq ▸ hl)
  rintro l st hcan ⟨htracked, hI⟩ hl
  have hmoves : Moves reenabled id (st.row id) (st.events id) ((l.exec st).row id)
      ((l.exec st).events id) := moves_exec htracked hcan hl
  exact ⟨htracked.exec hcan, keep _ _ _ _ hI hmoves⟩

/-! ### Leases are spaced -/

/-- The second lease is due at least the interval of the first one later, for a later
instant. -/
def Follows (a b : LeaseGrant) : Prop :=
  a.grantedAt + seconds a.monitor.intervalSeconds ≤ b.grantedAt ∧ a.scheduledAt < b.scheduledAt

/-- The leases of a monitor are spaced, and the next one is due after the last one. -/
structure Spaced (m : Option MonitorRow) (es : List LeaseEvent) : Prop where
  pairwise : (es.filterMap LeaseEvent.grant?).Pairwise Follows
  onTime : ∀ g ∈ es.filterMap LeaseEvent.grant?, g.scheduledAt ≤ g.grantedAt
  interval : ∀ r ∈ m, 60 ≤ r.intervalSeconds
  intervals : ∀ g ∈ es.filterMap LeaseEvent.grant?, 60 ≤ g.monitor.intervalSeconds
  next : ∀ r ∈ m, ∀ g ∈ es.filterMap LeaseEvent.grant?,
    g.grantedAt + seconds g.monitor.intervalSeconds ≤ r.nextCheckAt

/-- A row with the same interval that is due no earlier, with the same leases. -/
lemma Spaced.later {es es' : List LeaseEvent} (h : Spaced (some m) es)
    (hes : es'.filterMap LeaseEvent.grant? = es.filterMap LeaseEvent.grant?)
    (hn : 60 ≤ r.intervalSeconds) (hnext : m.nextCheckAt ≤ r.nextCheckAt) :
    Spaced (some r) es' := by
  refine ⟨hes ▸ h.pairwise, hes ▸ h.onTime, ?_, hes ▸ h.intervals, ?_⟩
  · rintro r' hr'
    obtain rfl := Option.some.inj hr'
    exact hn
  · rintro r' hr' g hg
    obtain rfl := Option.some.inj hr'
    exact (h.next m rfl g (hes ▸ hg)).trans hnext

lemma le_of_isDue (h : isDue now m = true) : m.nextCheckAt ≤ now := by
  simp only [isDue, Bool.and_eq_true, decide_eq_true_eq] at h
  exact h.1.2

/-- An interval takes time. -/
lemma lt_add_seconds {n : ℤ} (hn : 60 ≤ n) : now < now + seconds n := by
  have hpos : (0 : ℤ) < n * 10000000 := by omega
  exact lt_add_of_pos_right now hpos

/-- The next check of a monitor that is due is due later. -/
lemma nextCheck_le {t : Time} {n : ℤ} (ht : t ≤ now) (hn : 60 ≤ n) : t ≤ now + seconds n :=
  ht.trans (lt_add_seconds hn).le

lemma sixty_le_of_validInterval {n : ℤ} (h : validInterval n = true) : 60 ≤ n :=
  (of_decide_eq_true h).1

/-- Every move keeps the leases spaced, unless it enables the monitor again. -/
lemma Spaced.moves {m m' : Option MonitorRow} {es es' : List LeaseEvent} (h : Spaced m es)
    (hmoves : Moves False id m es m' es') : Spaced m' es' := by
  cases hmoves with
  | stay => exact h
  | created n now hn =>
      refine ⟨by simp, by simp, ?_, by simp, by simp⟩
      rintro r hr
      obtain rfl := Option.some.inj hr
      exact sixty_le_of_validInterval hn
  | putOff m es now hdue =>
      have hn := h.interval m rfl
      exact h.later rfl hn (nextCheck_le (le_of_isDue hdue) hn)
  | granted m es worker now loc hdue =>
      have hn := h.interval m rfl
      have hle := le_of_isDue hdue
      set g : LeaseGrant := ⟨m, loc, m.nextCheckAt, worker, now⟩ with hg
      have happ : (es ++ [LeaseEvent.granted g]).filterMap LeaseEvent.grant? =
          es.filterMap LeaseEvent.grant? ++ [g] := by
        rw [List.filterMap_append]
        rfl
      refine ⟨?_, ?_, ?_, ?_, ?_⟩
      · rw [happ, List.pairwise_append]
        refine ⟨h.pairwise, by simp, fun a ha b hb => ?_⟩
        obtain rfl := List.mem_singleton.mp hb
        have hnext := h.next m rfl a ha
        have honTime := h.onTime a ha
        exact ⟨hnext.trans hle, honTime.trans_lt ((lt_add_seconds (h.intervals a ha)).trans_le hnext)⟩
      · rw [happ]
        intro a ha
        rcases List.mem_append.mp ha with ha | ha
        · exact h.onTime a ha
        · obtain rfl := List.mem_singleton.mp ha
          exact hle
      · rintro r hr
        obtain rfl := Option.some.inj hr
        exact hn
      · rw [happ]
        intro a ha
        rcases List.mem_append.mp ha with ha | ha
        · exact h.intervals a ha
        · obtain rfl := List.mem_singleton.mp ha
          exact hn
      · rw [happ]
        rintro r hr a ha
        obtain rfl := Option.some.inj hr
        rcases List.mem_append.mp ha with ha | ha
        · exact (h.next m rfl a ha).trans (nextCheck_le hle hn)
        · obtain rfl := List.mem_singleton.mp ha
          exact le_rfl
  | released m es now =>
      exact h.later (by simp [LeaseEvent.grant?]) (h.interval m rfl) le_rfl
  | updated m es n enabled seen now hn hre =>
      refine h.later rfl ?_ ?_
      · rcases n with _ | n
        · exact h.interval m rfl
        · exact sixty_le_of_validInterval hn
      · have hnot : ¬ (enabled = some true ∧ seen = false) := fun hc => hre hc.1 hc.2
        rw [applyUpdate, if_neg hnot]
  | deleted m es now =>
      exact h.later (by simp [LeaseEvent.grant?]) (h.interval m rfl) le_rfl

lemma Spaced.none : Spaced none [] := ⟨by simp, by simp, by simp, by simp, by simp⟩

/-- **Leases are spaced by the interval.**  However many workers run, crash or lag behind: as
long as a monitor is not enabled again, each of its leases is handed out at least the interval
that its row had at an earlier one after that one, for a strictly later instant. -/
theorem leases_spaced (id : Guid) (steps : List MonitoringStep)
    (hre : ∀ n now, .update id n (some true) false now ∉ steps) :
    ((monitoring.run start steps).grants id).Pairwise Follows :=
  (run_moves False id (fun _ _ _ _ h hmoves => h.moves hmoves) Spaced.none steps
    fun n now hmem => (hre n now hmem).elim).2.pairwise

/-- A monitor is created, and two workers check it a minute apart. -/
def twoTicks : List MonitoringStep :=
  [.create 60 0, .assign 0 (some 5), .select "a" 0, .commit 0, .finish 0 none (seconds 10),
    .select "b" (seconds 60), .commit 0, .finish 0 none (seconds 70)]

theorem leases_spaced_of_two_ticks :
    ((monitoring.run start twoTicks).grants 0).map LeaseGrant.scheduledAt = [0, seconds 60] ∧
      ((monitoring.run start twoTicks).grants 0).Pairwise Follows :=
  ⟨by decide +kernel, leases_spaced 0 twoTicks (by simp [twoTicks])⟩

/-- The leases of a monitor, found among the leases of all. -/
lemma grantSlots_of : (((st.history.filterMap LeaseEvent.grant?).map grantSlot).filter
    fun s => s.1 == id).map Prod.snd = (st.grants id).map LeaseGrant.scheduledAt := by
  rw [grants, events]
  induction st.history with
  | nil => rfl
  | cons e h ih =>
      cases e with
      | granted g =>
          by_cases hid : g.monitor.monitorId = id <;>
            simp [LeaseEvent.grant?, LeaseEvent.monitorId, grantSlot, hid, ih]
      | released j =>
          by_cases hid : j = id <;>
            simp only [List.filterMap_cons, List.filter_cons, LeaseEvent.grant?,
              LeaseEvent.monitorId, hid, beq_self_eq_true, beq_iff_eq, if_true, if_false, ih]

/-- **No instant is checked twice.**  As long as a monitor is not enabled again, no two of its
stored checks carry the same scheduled instant. -/
theorem checks_distinct (id : Guid) (steps : List MonitoringStep)
    (hre : ∀ n now, .update id n (some true) false now ∉ steps) :
    (((monitoring.run start steps).checks.filter fun c => c.monitorId == id).map
      MonitorCheck.scheduledAt).Nodup := by
  obtain ⟨htracked, hspaced⟩ := run_moves False id (fun _ _ _ _ h hmoves => h.moves hmoves)
    Spaced.none steps fun n now hmem => (hre n now hmem).elim
  set st := monitoring.run start steps with hst
  have hgrants : ((st.grants id).map LeaseGrant.scheduledAt).Nodup := by
    rw [List.Nodup, List.pairwise_map]
    exact hspaced.pairwise.imp fun hab => hab.2.ne
  -- the checks are among the leases, read through the monitor and the instant
  have hslots : (st.checks.map checkSlot).Subperm
      ((st.history.filterMap LeaseEvent.grant?).map grantSlot) :=
    (List.sublist_append_left _ _).subperm.trans htracked.served
  obtain ⟨l, hperm, hsub⟩ := hslots.filter fun s => s.1 == id
  have hleft : (l.map Prod.snd).Perm
      ((st.checks.filter fun c => c.monitorId == id).map MonitorCheck.scheduledAt) := by
    have hmap := hperm.map Prod.snd
    rwa [List.filter_map, List.map_map] at hmap
  have hright : (l.map Prod.snd).Sublist ((st.grants id).map LeaseGrant.scheduledAt) := by
    rw [← grantSlots_of]
    exact hsub.map Prod.snd
  exact hleft.nodup_iff.mp (hgrants.sublist hright)

theorem checks_distinct_of_two_ticks :
    (monitoring.run start twoTicks).checks.map MonitorCheck.scheduledAt = [0, seconds 60] ∧
      (((monitoring.run start twoTicks).checks.filter fun c => c.monitorId == 0).map
        MonitorCheck.scheduledAt).Nodup :=
  ⟨by decide +kernel, checks_distinct 0 twoTicks (by simp [twoTicks])⟩

/-! ### Leases exclude each other -/

/-- A lease that comes next after a lease is handed out when that one has expired. -/
def Expires (a b : LeaseEvent) : Prop :=
  ∀ g ∈ a.grant?, ∀ h ∈ b.grant?, g.grantedAt + leaseDuration ≤ h.grantedAt

/-- The leases of a monitor exclude each other, and the row carries the expiry of the last. -/
structure Exclusive (m : Option MonitorRow) (es : List LeaseEvent) : Prop where
  chain : es.IsChain Expires
  last : ∀ r ∈ m, ∀ e ∈ es.getLast?, ∀ g ∈ e.grant?,
    r.leaseExpiresAt = some (g.grantedAt + leaseDuration)

lemma Exclusive.same {es : List LeaseEvent} (h : Exclusive (some m) es)
    (hlease : r.leaseExpiresAt = m.leaseExpiresAt) : Exclusive (some r) es := by
  refine ⟨h.chain, ?_⟩
  rintro r' hr' e he g hg
  obtain rfl := Option.some.inj hr'
  exact hlease.trans (h.last m rfl e he g hg)

/-- A release ends whatever lease there is. -/
lemma Exclusive.release {es : List LeaseEvent} {m m' : Option MonitorRow} (h : Exclusive m es) :
    Exclusive m' (es ++ [.released id]) := by
  refine ⟨?_, ?_⟩
  · refine List.isChain_append.mpr ⟨h.chain, .singleton _, ?_⟩
    rintro a - b hb g - g' hg'
    obtain rfl : LeaseEvent.released id = b := by simpa using hb
    exact absurd hg' (by simp [LeaseEvent.grant?])
  · rintro r - e he g hg
    obtain rfl : LeaseEvent.released id = e := by simpa using he
    exact absurd hg (by simp [LeaseEvent.grant?])

/-- Every move keeps the leases apart. -/
lemma Exclusive.moves {m m' : Option MonitorRow} {es es' : List LeaseEvent} (h : Exclusive m es)
    (hmoves : Moves True id m es m' es') : Exclusive m' es' := by
  cases hmoves with
  | stay => exact h
  | created => exact ⟨.nil, by simp⟩
  | putOff => exact h.same rfl
  | granted m es worker now loc hdue =>
      refine ⟨?_, ?_⟩
      · refine List.isChain_append.mpr ⟨h.chain, .singleton _, ?_⟩
        rintro a ha b hb g hg g' hg'
        obtain rfl : LeaseEvent.granted _ = b := by simpa using hb
        obtain rfl := Option.some.inj hg'
        have hlast := h.last m rfl a ha g hg
        simp only [isDue, hlast, Option.all_some, Bool.and_eq_true, decide_eq_true_eq] at hdue
        exact hdue.2
      · rintro r hr e he g hg
        obtain rfl := Option.some.inj hr
        obtain rfl : LeaseEvent.granted _ = e := by simpa using he
        obtain rfl := Option.some.inj hg
        rfl
  | released => exact h.release
  | updated => exact h.same rfl
  | deleted => exact h.release

/-- **A lease keeps the other workers away.**  Whatever the endpoints do to a monitor: between
two of its leases there is the save of a check, a delete, or the whole lease duration. -/
theorem leases_exclusive (id : Guid) (steps : List MonitoringStep) :
    ((monitoring.run start steps).events id).IsChain Expires :=
  (run_moves True id (fun _ _ _ _ h hmoves => Exclusive.moves h hmoves)
    ⟨.nil, by simp⟩ steps fun _ _ _ => trivial).2.chain

end Monitoring

end Networker
