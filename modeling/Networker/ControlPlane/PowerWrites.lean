/-
Writes of power states at the end of an operation.

* `FinalWrite`, `AppliesToOwn`: the write at the end of a shutdown, a wake or a recovery
  applies only while the row holds what the operation has set (or read);
* `Spares`: while an operation has an unguarded write of a runner still to make, no other
  step writes the power state of that runner;
* `Evolves`: what is not written stays;
* `Held`: the invariant, one step at a time;
* `power_writes_own`: then no write at the end of an operation overwrites another one.
-/
import Networker.ControlPlane.RunnerPower

namespace Networker

open Data Concurrency

namespace RunnerPower

/-! ### The property -/

section Property

variable (casing : Text.Casing) (byName : String → String → Bool) (l : PowerMove) (w : PowerWorld)

/-- The step writes the power state of the runner. -/
def Writes (t : Guid) : Prop := (l.exec casing byName w).writes t ≠ w.writes t

instance (t : Guid) : Decidable (Writes casing byName l w t) :=
  inferInstanceAs (Decidable (_ ≠ _))

/-- The write at the end of an operation: its runner, the state that the operation has set or
read, and which write that was. -/
structure FinalWrite where
  tester : Guid
  held : String
  mark : ℕ

def PowerMove.finalWrite? : Option FinalWrite :=
  match l with
  | .sweep _ =>
      match w.sweep.stage with
      | .rollback tester mark _ => some ⟨tester.testerId, "starting", mark⟩
      | .finish tester mark _ _ => some ⟨tester.testerId, "stopping", mark⟩
      | _ => none
  | .recover i _ =>
      (w.scans[i]?.bind List.head?).map fun row => ⟨row.testerId, row.powerState, row.mark⟩
  | _ => none

/-- A write at the end of an operation applies only if the row still holds what the operation
itself has set or read, and nobody has written it since. -/
def AppliesToOwn : Prop :=
  ∀ f ∈ l.finalWrite? w, Writes casing byName l w f.tester →
    w.power f.tester = some f.held ∧ w.writes f.tester = f.mark

/-! ### The condition -/

/-- The runner that the sweep is shutting down, with the write of `stopping`. -/
def SweepStage.shutdown? : SweepStage → Option (Guid × ℕ)
  | deallocate tester mark _ | finish tester mark _ _ => some (tester.testerId, mark)
  | _ => none

/-- The runner that the sweep is waking, with the write of `starting`. -/
def SweepStage.waking? : SweepStage → Option (Guid × ℕ)
  | start tester mark _ | rollback tester mark _ => some (tester.testerId, mark)
  | _ => none

/-- The step is not one of the sweep. -/
def PowerMove.outside : PowerMove → Bool
  | sweep _ => false
  | _ => true

/-- The scan that the step belongs to. -/
def PowerMove.ownScan : PowerMove → Option ℕ
  | recover i _ => some i
  | _ => none

/-- Between the two writes of a shutdown, and between the read and the write of a recovery,
no other step writes the runner; between the two of a wake none writes `starting`. -/
structure Spares : Prop where
  shutdown : l.outside = true → ∀ p ∈ w.sweep.stage.shutdown?, ¬ Writes casing byName l w p.1
  waking : l.outside = true → ∀ p ∈ w.sweep.stage.waking?, Writes casing byName l w p.1 →
    (l.exec casing byName w).power p.1 ≠ some "starting"
  scans : ∀ p ∈ w.scans.zipIdx, l.ownScan ≠ some p.2 → ∀ row ∈ p.1,
    ¬ Writes casing byName l w row.testerId

instance : Decidable (AppliesToOwn casing byName l w) :=
  inferInstanceAs (Decidable (∀ f ∈ l.finalWrite? w, _ → _ ∧ _))

instance : Decidable (Spares casing byName l w) :=
  decidable_of_iff
    ((l.outside = true → ∀ p ∈ w.sweep.stage.shutdown?, ¬ Writes casing byName l w p.1) ∧
      (l.outside = true → ∀ p ∈ w.sweep.stage.waking?, Writes casing byName l w p.1 →
        (l.exec casing byName w).power p.1 ≠ some "starting") ∧
      ∀ p ∈ w.scans.zipIdx, l.ownScan ≠ some p.2 → ∀ row ∈ p.1,
        ¬ Writes casing byName l w row.testerId)
    ⟨fun ⟨hshutdown, hwaking, hscans⟩ => ⟨hshutdown, hwaking, hscans⟩,
      fun ⟨hshutdown, hwaking, hscans⟩ => ⟨hshutdown, hwaking, hscans⟩⟩

end Property

/-! ### What is not written stays -/

section Frame

variable {w w' w'' : PowerWorld} {t : Guid}

/-- The writes are counted, and a power state that is not written stays as it is. -/
structure Evolves (w w' : PowerWorld) : Prop where
  le : ∀ t, w.writes t ≤ w'.writes t
  power : ∀ t, w'.writes t = w.writes t → w'.power t = w.power t

lemma Evolves.of_eq (hwrites : w'.writes = w.writes) (hpower : ∀ t, w'.power t = w.power t) :
    Evolves w w' := ⟨fun t => le_of_eq (congrFun hwrites t).symm, fun t _ => hpower t⟩

lemma Evolves.refl (w : PowerWorld) : Evolves w w := .of_eq rfl fun _ => rfl

lemma Evolves.trans (h : Evolves w w') (h' : Evolves w' w'') : Evolves w w'' where
  le t := (h.le t).trans (h'.le t)
  power t heq := by
    have hle := h.le t
    have hle' := h'.le t
    have hmid : w'.writes t = w.writes t := by omega
    rw [h'.power t (heq.trans hmid.symm), h.power t hmid]

namespace PowerWorld

@[simp] lemma setPower_sweep (guard : ProjectTester → Bool) (state : String) (at' : Time) :
    (w.setPower t guard state at').sweep = w.sweep := by
  by_cases h : w.world.testers.hits t guard = true
  · rw [setPower, if_pos h]
  · rw [setPower, if_neg h]

@[simp] lemma setPower_scans (guard : ProjectTester → Bool) (state : String) (at' : Time) :
    (w.setPower t guard state at').scans = w.scans := by
  by_cases h : w.world.testers.hits t guard = true
  · rw [setPower, if_pos h]
  · rw [setPower, if_neg h]

variable (w) in
lemma setPower_of_hits {guard : ProjectTester → Bool} {state : String} {at' : Time}
    (h : w.world.testers.hits t guard = true) :
    (w.setPower t guard state at').power t = some state ∧
      (w.setPower t guard state at').writes t = w.writes t + 1 := by
  obtain ⟨r, hr, hguard⟩ := Table.hits_iff.mp h
  rw [setPower, if_pos h]
  refine ⟨?_, Function.update_self ..⟩
  rw [power, Table.find?_update_self, hr, Option.map_some, if_pos hguard]
  rfl

lemma setPower_of_not_hits {guard : ProjectTester → Bool} {state : String} {at' : Time}
    (h : ¬ w.world.testers.hits t guard = true) : w.setPower t guard state at' = w := if_neg h

/-- A guarded update writes its own row alone. -/
lemma setPower_ne {guard : ProjectTester → Bool} {state : String} {at' : Time} {t' : Guid}
    (hne : t' ≠ t) : (w.setPower t guard state at').power t' = w.power t' ∧
      (w.setPower t guard state at').writes t' = w.writes t' := by
  by_cases h : w.world.testers.hits t guard = true
  · rw [setPower, if_pos h]
    refine ⟨?_, Function.update_of_ne hne ..⟩
    rw [power, Table.find?_update_ne hne]
    rfl
  · rw [setPower_of_not_hits h]
    exact ⟨rfl, rfl⟩

lemma evolves_setPower (guard : ProjectTester → Bool) (state : String) (at' : Time) :
    Evolves w (w.setPower t guard state at') := by
  by_cases h : w.world.testers.hits t guard = true
  · refine ⟨fun t' => ?_, fun t' heq => ?_⟩
    · by_cases hne : t' = t
      · rw [hne, (w.setPower_of_hits h).2]
        exact Nat.le_succ _
      · exact le_of_eq (setPower_ne hne).2.symm
    · by_cases hne : t' = t
      · rw [hne, (w.setPower_of_hits h).2] at heq
        exact absurd heq (Nat.succ_ne_self _)
      · exact (setPower_ne hne).1
  · rw [setPower_of_not_hits h]
    exact Evolves.refl w

lemma power_setColumns (columns : RunnerColumns) (at' : Time) (t' : Guid) :
    (w.setColumns t columns at').power t' = w.power t' := by
  rw [power, setColumns, Table.find?_update, Option.map_map, power]
  refine congrArg (fun f => (w.world.testers.find? t').map f) (funext fun r => ?_)
  dsimp only [Function.comp]
  split_ifs <;> rfl

lemma evolves_setColumns (columns : RunnerColumns) (at' : Time) :
    Evolves w (w.setColumns t columns at') := .of_eq rfl (power_setColumns columns at')

lemma evolves_releaseStuck : Evolves w w.releaseStuck := by
  rw [releaseStuck]
  have hfold : ∀ (ts : List Guid) (v : PowerWorld) (guard : ProjectTester → Bool) (at' : Time),
      Evolves v (ts.foldl (fun v t => v.setPower t guard "stopped" at') v) := by
    intro ts
    induction ts with
    | nil => exact fun v _ _ => Evolves.refl v
    | cons t ts ih => exact fun v guard at' => (evolves_setPower ..).trans (ih _ guard at')
  exact hfold _ w _ _

/-- The step of a sweep. -/
lemma evolves_sweepStep (byName : String → String → Bool) (res : ProvisionResult) :
    Evolves w (w.sweepStep byName res) := by
  have hgo : ∀ {v : PowerWorld} (stage : SweepStage), Evolves w v → Evolves w (v.go stage) :=
    fun _ h => ⟨h.le, h.power⟩
  have htrack : ∀ {v : PowerWorld} (rows : List ProjectTester), Evolves w v →
      Evolves w (v.track rows) := fun _ h => ⟨h.le, h.power⟩
  rw [sweepStep]
  cases hst : w.sweep.stage with
  | release => exact hgo _ evolves_releaseStuck
  | readToWake => exact hgo _ (htrack _ (.refl w))
  | wake tester arm =>
      dsimp only
      split_ifs
      · exact hgo _ (evolves_setPower ..)
      · exact hgo _ (.refl w)
  | start tester mark arm => exact hgo _ (.refl w)
  | rollback tester mark arm => exact hgo _ (evolves_setPower ..)
  | readProjects => exact hgo _ (.refl w)
  | readWaking project left => exact hgo _ (.refl w)
  | readCandidate project left =>
      dsimp only
      split
      · exact hgo _ (.refl w)
      · exact hgo _ (htrack _ (.refl w))
  | readDrained => exact hgo _ (htrack _ (.refl w))
  | load tester left =>
      dsimp only
      split
      · exact hgo _ (.refl w)
      · exact hgo _ (htrack _ (.refl w))
  | recheck tester left => exact hgo _ (.refl w)
  | defer tester left => exact hgo _ (evolves_setColumns ..)
  | flip tester left =>
      dsimp only
      split_ifs
      · have h : Evolves w (w.setPower tester.testerId (·.powerState == "running") "stopping"
          w.world.now) := evolves_setPower ..
        exact hgo _ ⟨h.le, h.power⟩
      · exact hgo _ (.refl w)
  | deallocate tester mark left => exact hgo _ (.refl w)
  | finish tester mark failed left =>
      cases failed with
      | true => exact hgo _ (evolves_setPower ..)
      | false => exact hgo _ ((evolves_setPower ..).trans (evolves_setColumns ..))
  | ended => exact .refl w

lemma scans_releaseStuck : w.releaseStuck.scans = w.scans := by
  rw [releaseStuck]
  have hfold : ∀ (ts : List Guid) (v : PowerWorld) (guard : ProjectTester → Bool) (at' : Time),
      (ts.foldl (fun v t => v.setPower t guard "stopped" at') v).scans = v.scans := by
    intro ts
    induction ts with
    | nil => exact fun _ _ _ => rfl
    | cons t ts ih => exact fun v guard at' => (ih _ guard at').trans (setPower_scans ..)
  exact hfold _ w _ _

lemma scans_sweepStep (byName : String → String → Bool) (res : ProvisionResult) :
    (w.sweepStep byName res).scans = w.scans := by
  rw [sweepStep]
  cases hst : w.sweep.stage with
  | release => exact scans_releaseStuck
  | wake tester arm =>
      dsimp only
      split_ifs
      · exact setPower_scans ..
      · rfl
  | rollback tester mark arm => exact setPower_scans ..
  | readCandidate project left =>
      dsimp only
      split <;> rfl
  | load tester left =>
      dsimp only
      split <;> rfl
  | flip tester left =>
      dsimp only
      split_ifs
      · exact setPower_scans ..
      · rfl
  | finish tester mark failed left => cases failed <;> exact setPower_scans ..
  | _ => rfl

lemma evolves_sweepThrows : Evolves w w.sweepThrows := by
  have hgo : ∀ stage : SweepStage, Evolves w (w.go stage) := fun _ => .of_eq rfl fun _ => rfl
  rw [sweepThrows]
  split <;> exact hgo _

end PowerWorld

/-- No other statement of the control plane writes to a tester. -/
lemma testers_exec {l : Stmt} {w : World} (h : PowerMove.canStmt l w = true) :
    (l.exec w).testers = w.testers := by
  cases l with
  | setPower tester state => exact absurd h Bool.false_ne_true
  | insertAttempt a | sendAssign agent run x y | sendCancel agent run =>
      rw [Stmt.exec]
      split_ifs <;> rfl
  | _ => rfl

/-- Every step. -/
lemma evolves_exec {casing : Text.Casing} {byName : String → String → Bool} {l : PowerMove}
    (hcan : l.can w = true) : Evolves w (l.exec casing byName w) := by
  cases l with
  | sweep res => exact PowerWorld.evolves_sweepStep byName res
  | sweepThrows => exact PowerWorld.evolves_sweepThrows
  | recover i probed =>
      rw [PowerMove.exec, PowerWorld.recover]
      split
      · next row left _ =>
          have h : Evolves w (w.setPower row.testerId (fun _ => true)
              (PowerWorld.resolvedState casing row probed) w.world.now) :=
            PowerWorld.evolves_setPower ..
          exact ⟨h.le, h.power⟩
      · exact .refl w
  | reconcile t => exact PowerWorld.evolves_setPower ..
  | reconcileProvisioning t => exact PowerWorld.evolves_setPower ..
  | setColumns t columns => exact PowerWorld.evolves_setColumns ..
  | other l =>
      refine .of_eq rfl fun t => ?_
      have htesters := testers_exec (w := w.world) hcan
      rw [PowerMove.exec, PowerWorld.power, htesters]
      rfl
  | startSweep | scan | scanThrows i | restart => exact .of_eq rfl fun _ => rfl

end Frame

/-! ### The invariant -/

section Invariant

variable {casing : Text.Casing} {byName : String → String → Bool} {l : PowerMove} {w : PowerWorld}

variable (w) in
/-- Every operation that is under way still finds what it has set or read. -/
structure Held : Prop where
  shutdown : ∀ p ∈ w.sweep.stage.shutdown?, w.power p.1 = some "stopping" ∧ w.writes p.1 = p.2
  waking : ∀ p ∈ w.sweep.stage.waking?, w.power p.1 = some "starting" → w.writes p.1 = p.2
  distinct : ∀ rows ∈ w.scans, (rows.map StuckRow.testerId).Nodup
  scans : ∀ rows ∈ w.scans, ∀ row ∈ rows,
    w.power row.testerId = some row.powerState ∧ w.writes row.testerId = row.mark

lemma held_start (testers : Table ProjectTester) (columns : Guid → RunnerColumns)
    (agents : Table Agent) (configs : Table TestConfig) :
    Held (.start testers columns agents configs) where
  shutdown _ h := absurd h nofun
  waking _ h := absurd h nofun
  distinct _ h := absurd h List.not_mem_nil
  scans _ h := absurd h List.not_mem_nil

/-- A step that does not write a runner leaves what is held of it. -/
lemma kept_of_not_writes (hcan : l.can w = true) {t : Guid}
    (h : ¬ Writes casing byName l w t) :
    (l.exec casing byName w).power t = w.power t ∧
      (l.exec casing byName w).writes t = w.writes t := by
  have heq : (l.exec casing byName w).writes t = w.writes t := not_not.mp h
  exact ⟨(evolves_exec hcan).power t heq, heq⟩

/-- The rows that a scan selects are what there is. -/
lemma stuckRows_held (w : PowerWorld) :
    (w.stuckRows.map StuckRow.testerId).Nodup ∧ ∀ row ∈ w.stuckRows,
      w.power row.testerId = some row.powerState ∧ w.writes row.testerId = row.mark := by
  refine ⟨?_, fun row hrow => ?_⟩
  · rw [PowerWorld.stuckRows, List.map_map]
    exact (w.world.testers.nodup.sublist ((List.filter_sublist).map _))
  · obtain ⟨t, ht, rfl⟩ := List.mem_map.mp hrow
    refine ⟨?_, rfl⟩
    have hfind : w.world.testers.find? t.testerId = some t :=
      Table.find?_key (Table.mem_select.mp ht).1
    rw [PowerWorld.power, hfind]
    rfl

lemma shutdown?_afterWake (arm : WakeArm) :
    (afterWake arm).shutdown? = none ∧ (afterWake arm).waking? = none := by
  cases arm with
  | pinned left => cases left <;> exact ⟨rfl, rfl⟩
  | unpinned left => cases left <;> exact ⟨rfl, rfl⟩

lemma shutdown?_afterDue (left : List Guid) :
    (afterDue left).shutdown? = none ∧ (afterDue left).waking? = none := by
  cases left <;> exact ⟨rfl, rfl⟩

variable (w) in
/-- What is held of the operation of the sweep. -/
def HeldBySweep : Prop :=
  (∀ p ∈ w.sweep.stage.shutdown?, w.power p.1 = some "stopping" ∧ w.writes p.1 = p.2) ∧
    ∀ p ∈ w.sweep.stage.waking?, w.power p.1 = some "starting" → w.writes p.1 = p.2

lemma HeldBySweep.of_none (h : w.sweep.stage.shutdown? = none ∧ w.sweep.stage.waking? = none) :
    HeldBySweep w :=
  ⟨fun _ hp => absurd (h.1 ▸ hp) nofun, fun _ hp => absurd (h.2 ▸ hp) nofun⟩

/-- The operation of the sweep goes on. -/
lemma Held.sweepStep (h : Held w) (res : ProvisionResult) :
    HeldBySweep (w.sweepStep byName res) := by
  have hwake : ∀ (v : PowerWorld) (arm : WakeArm), HeldBySweep (v.go (afterWake arm)) :=
    fun _ arm => .of_none (shutdown?_afterWake arm)
  have hdue : ∀ (v : PowerWorld) (left : List Guid), HeldBySweep (v.go (afterDue left)) :=
    fun _ left => .of_none (shutdown?_afterDue left)
  rw [PowerWorld.sweepStep]
  cases hst : w.sweep.stage with
  | release => exact .of_none ⟨rfl, rfl⟩
  | readToWake => exact hwake _ _
  | wake tester arm =>
      dsimp only
      split_ifs with hhits
      · refine ⟨fun p hp => absurd hp nofun, fun p hp _ => ?_⟩
        obtain rfl := Option.some.inj hp
        exact (w.setPower_of_hits hhits).2
      · exact hwake _ _
  | start tester mark arm =>
      have hwaking := h.waking (tester.testerId, mark) (by rw [hst]; rfl)
      dsimp only
      split_ifs
      · refine ⟨fun p hp => absurd hp nofun, fun p hp hpower => ?_⟩
        obtain rfl := Option.some.inj hp
        exact hwaking hpower
      · exact hwake _ _
  | rollback tester mark arm => exact hwake _ _
  | readProjects => exact hwake _ _
  | readWaking project left =>
      dsimp only
      split_ifs
      · exact hwake _ _
      · exact .of_none ⟨rfl, rfl⟩
  | readCandidate project left =>
      dsimp only
      split
      · exact hwake _ _
      · exact .of_none ⟨rfl, rfl⟩
  | readDrained => exact hdue _ _
  | load tester left =>
      dsimp only
      split
      · exact hdue _ _
      · split_ifs <;> exact .of_none ⟨rfl, rfl⟩
  | recheck tester left =>
      dsimp only
      split_ifs <;> exact .of_none ⟨rfl, rfl⟩
  | defer tester left => exact hdue _ _
  | flip tester left =>
      dsimp only
      split_ifs with hhits
      · refine ⟨fun p hp => ?_, fun p hp => absurd hp nofun⟩
        obtain rfl := Option.some.inj hp
        exact w.setPower_of_hits hhits
      · exact hdue _ _
  | deallocate tester mark left =>
      have hshutdown := h.shutdown (tester.testerId, mark) (by rw [hst]; rfl)
      refine ⟨fun p hp => ?_, fun p hp => absurd hp nofun⟩
      obtain rfl := Option.some.inj hp
      exact hshutdown
  | finish tester mark failed left => cases failed <;> exact hdue _ _
  | ended => exact .of_none (by rw [hst]; exact ⟨rfl, rfl⟩)

lemma heldBySweep_sweepThrows : HeldBySweep w.sweepThrows := by
  rw [PowerWorld.sweepThrows]
  split <;> first | exact .of_none (shutdown?_afterDue _) | exact .of_none ⟨rfl, rfl⟩

/-- The operation of the sweep after a step of somebody else that leaves the sweep alone. -/
lemma Held.outside (h : Held w) (hcan : l.can w = true) (hout : l.outside = true)
    (hl : Spares casing byName l w) (hsweep : (l.exec casing byName w).sweep = w.sweep) :
    HeldBySweep (l.exec casing byName w) := by
  refine ⟨fun p hp => ?_, fun p hp hpower => ?_⟩
  · rw [hsweep] at hp
    obtain ⟨hpower, hwrites⟩ := kept_of_not_writes hcan (hl.shutdown hout p hp)
    rw [hpower, hwrites]
    exact h.shutdown p hp
  · rw [hsweep] at hp
    by_cases hw : Writes casing byName l w p.1
    · exact absurd hpower (hl.waking hout p hp hw)
    · obtain ⟨hsame, hwrites⟩ := kept_of_not_writes hcan hw
      rw [hwrites]
      exact h.waking p hp (hsame.symm.trans hpower)

/-- What is held of a scan of another step. -/
lemma Held.scan_kept (h : Held w) (hcan : l.can w = true) (hl : Spares casing byName l w)
    {rows : List StuckRow} {j : ℕ} (hget : w.scans[j]? = some rows) (hne : l.ownScan ≠ some j) :
    ∀ row ∈ rows, (l.exec casing byName w).power row.testerId = some row.powerState ∧
      (l.exec casing byName w).writes row.testerId = row.mark := by
  intro row hrow
  have hmem : (rows, j) ∈ w.scans.zipIdx := List.mem_zipIdx_iff_getElem?.mpr hget
  obtain ⟨hpower, hwrites⟩ := kept_of_not_writes hcan (hl.scans (rows, j) hmem hne row hrow)
  rw [hpower, hwrites]
  exact h.scans rows (List.mem_of_getElem? hget) row hrow

/-- The rows of the scan that goes on, after its first row was written. -/
lemma Held.scan_left (h : Held w) {i : ℕ} {row : StuckRow} {left : List StuckRow}
    (hget : w.scans[i]? = some (row :: left)) {guard : ProjectTester → Bool} {state : String}
    {at' : Time} :
    ∀ r ∈ left, (w.setPower row.testerId guard state at').power r.testerId = some r.powerState ∧
      (w.setPower row.testerId guard state at').writes r.testerId = r.mark := by
  intro r hr
  have hmem := List.mem_of_getElem? hget
  have hnodup := h.distinct _ hmem
  rw [List.map_cons, List.nodup_cons] at hnodup
  have hne : r.testerId ≠ row.testerId := fun heq =>
    hnodup.1 (heq ▸ List.mem_map_of_mem hr)
  obtain ⟨hpower, hwrites⟩ := PowerWorld.setPower_ne (w := w) hne
  rw [hpower, hwrites]
  exact h.scans _ hmem r (List.mem_cons_of_mem _ hr)

/-- The scans, when each of them is one that was there, with rows left, or a new one. -/
lemma Held.of_scans {w' : PowerWorld} (h : Held w) (hsweep : HeldBySweep w')
    (hscans : ∀ rows ∈ w'.scans, (∃ rows' ∈ w.scans, rows <:+ rows') ∨
      (rows.map StuckRow.testerId).Nodup)
    (hrows : ∀ rows ∈ w'.scans, ∀ row ∈ rows,
      w'.power row.testerId = some row.powerState ∧ w'.writes row.testerId = row.mark) :
    Held w' where
  shutdown := hsweep.1
  waking := hsweep.2
  distinct rows hmem := by
    rcases hscans rows hmem with ⟨rows', hmem', hsuffix⟩ | hnew
    · exact (h.distinct rows' hmem').sublist (hsuffix.sublist.map _)
    · exact hnew
  scans := hrows

/-- A step that leaves the scans as they are. -/
lemma Held.same_scans (h : Held w) (hcan : l.can w = true) (hl : Spares casing byName l w)
    (hown : l.ownScan = none) (hscans : (l.exec casing byName w).scans = w.scans)
    (hsweep : HeldBySweep (l.exec casing byName w)) : Held (l.exec casing byName w) := by
  refine h.of_scans hsweep (fun rows hmem => ?_) fun rows hmem => ?_
  · exact Or.inl ⟨rows, hscans ▸ hmem, List.suffix_refl _⟩
  · rw [hscans] at hmem
    obtain ⟨j, hget⟩ := List.getElem?_of_mem hmem
    exact h.scan_kept hcan hl hget (by rw [hown]; exact nofun)

/-- Every step that spares the operations under way keeps the invariant. -/
lemma Held.exec (h : Held w) (hcan : l.can w = true) (hl : Spares casing byName l w) :
    Held (l.exec casing byName w) := by
  cases l with
  | startSweep => exact h.same_scans hcan hl rfl rfl (.of_none ⟨rfl, rfl⟩)
  | sweep res =>
      exact h.same_scans hcan hl rfl (PowerWorld.scans_sweepStep byName res) (h.sweepStep res)
  | sweepThrows =>
      refine h.same_scans hcan hl rfl ?_ heldBySweep_sweepThrows
      rw [PowerMove.exec, PowerWorld.sweepThrows]
      split <;> rfl
  | scan =>
      refine h.of_scans (h.outside hcan rfl hl rfl) (fun rows hmem => ?_) fun rows hmem => ?_
      · rcases List.mem_append.mp hmem with hold | hnew
        · exact Or.inl ⟨rows, hold, List.suffix_refl _⟩
        · rw [List.mem_singleton.mp hnew]
          exact Or.inr (stuckRows_held w).1
      · rcases List.mem_append.mp hmem with hold | hnew
        · exact h.scans rows hold
        · rw [List.mem_singleton.mp hnew]
          exact (stuckRows_held w).2
  | recover i probed =>
      have hsweep : HeldBySweep (PowerMove.exec casing byName (.recover i probed) w) := by
        refine h.outside hcan rfl hl ?_
        rw [PowerMove.exec, PowerWorld.recover]
        split
        · exact PowerWorld.setPower_sweep ..
        · rfl
      cases hget : w.scans[i]? with
      | none =>
          have heq : PowerMove.exec casing byName (.recover i probed) w = w := by
            rw [PowerMove.exec, PowerWorld.recover, hget]
          rw [heq]
          exact h
      | some rows =>
          cases rows with
          | nil =>
              have heq : PowerMove.exec casing byName (.recover i probed) w = w := by
                rw [PowerMove.exec, PowerWorld.recover, hget]
              rw [heq]
              exact h
          | cons row left =>
              have hscans : (PowerMove.exec casing byName (.recover i probed) w).scans =
                  w.scans.set i left := by
                rw [PowerMove.exec, PowerWorld.recover, hget]
              refine h.of_scans hsweep (fun rows hmem => ?_) fun rows hmem => ?_
              · rw [hscans] at hmem
                rcases List.mem_or_eq_of_mem_set hmem with hold | rfl
                · exact Or.inl ⟨rows, hold, List.suffix_refl _⟩
                · exact Or.inl ⟨_, List.mem_of_getElem? hget, List.suffix_cons _ _⟩
              · rw [hscans] at hmem
                obtain ⟨j, hj⟩ := List.getElem?_of_mem hmem
                by_cases hij : i = j
                · -- the scan itself
                  subst hij
                  have hlt : i < w.scans.length := (List.getElem?_eq_some_iff.mp hget).1
                  rw [List.getElem?_set_self hlt] at hj
                  rw [PowerMove.exec, PowerWorld.recover, hget, ← Option.some.inj hj]
                  exact h.scan_left hget
                · rw [List.getElem?_set_ne hij] at hj
                  exact h.scan_kept hcan hl hj fun heq => hij (Option.some.inj heq)
  | scanThrows i =>
      refine h.of_scans (h.outside hcan rfl hl rfl) (fun rows hmem => ?_) fun rows hmem => ?_
      · rcases List.mem_or_eq_of_mem_set hmem with hold | rfl
        · exact Or.inl ⟨rows, hold, List.suffix_refl _⟩
        · exact Or.inr List.nodup_nil
      · rcases List.mem_or_eq_of_mem_set hmem with hold | rfl
        · exact h.scans rows hold
        · exact fun _ hrow => absurd hrow List.not_mem_nil
  | reconcile t =>
      exact h.same_scans hcan hl rfl (PowerWorld.setPower_scans ..)
        (h.outside hcan rfl hl (PowerWorld.setPower_sweep ..))
  | reconcileProvisioning t =>
      exact h.same_scans hcan hl rfl (PowerWorld.setPower_scans ..)
        (h.outside hcan rfl hl (PowerWorld.setPower_sweep ..))
  | setColumns t columns => exact h.same_scans hcan hl rfl rfl (h.outside hcan rfl hl rfl)
  | other l => exact h.same_scans hcan hl rfl rfl (h.outside hcan rfl hl rfl)
  | restart =>
      exact h.of_scans (.of_none ⟨rfl, rfl⟩) (fun _ hmem => absurd hmem List.not_mem_nil)
        fun _ hmem => absurd hmem List.not_mem_nil

/-- In such a state a write at the end of an operation applies to its own. -/
lemma Held.appliesToOwn (h : Held w) : AppliesToOwn casing byName l w := by
  intro f hf hwrites
  cases l with
  | sweep res =>
      rw [PowerMove.finalWrite?] at hf
      cases hst : w.sweep.stage with
      | rollback tester mark arm =>
          rw [hst] at hf
          obtain rfl := Option.some.inj hf
          -- the write is guarded by `starting`
          have hpower : w.power tester.testerId = some "starting" := by
            by_contra hnot
            refine hwrites ?_
            have hmiss : ¬ w.world.testers.hits tester.testerId (·.powerState == "starting") := by
              intro hhits
              obtain ⟨r, hr, hguard⟩ := Table.hits_iff.mp hhits
              refine hnot ?_
              rw [PowerWorld.power, hr, Option.map_some, beq_iff_eq.mp hguard]
            rw [PowerMove.exec, PowerWorld.sweepStep, hst]
            dsimp only
            rw [PowerWorld.setPower_of_not_hits hmiss]
            rfl
          exact ⟨hpower, h.waking (tester.testerId, mark) (by rw [hst]; rfl) hpower⟩
      | finish tester mark failed left =>
          rw [hst] at hf
          obtain rfl := Option.some.inj hf
          exact h.shutdown (tester.testerId, mark) (by rw [hst]; rfl)
      | _ =>
          rw [hst] at hf
          exact absurd hf nofun
  | recover i probed =>
      obtain ⟨row, hrow, rfl⟩ := Option.map_eq_some_iff.mp hf
      obtain ⟨rows, hget, hhead⟩ := Option.bind_eq_some_iff.mp hrow
      exact h.scans rows (List.mem_of_getElem? hget) row (List.mem_of_head? hhead)
  | _ => exact absurd hf nofun

/-- **Writes at the end of an operation.** When nobody else writes a runner between the two
writes of a shutdown and between the read and the write of a recovery, and nobody writes
`starting` between the two of a wake, no operation overwrites the transition of another. -/
theorem power_writes_own (testers : Table ProjectTester) (columns : Guid → RunnerColumns)
    (agents : Table Agent) (configs : Table TestConfig) (ls : List PowerMove)
    (spares : (runnerPower casing byName).Along (Spares casing byName)
      (.start testers columns agents configs) ls) :
    (runnerPower casing byName).Along (AppliesToOwn casing byName)
      (.start testers columns agents configs) ls :=
  Machine.along_of_inv (fun _ _ hcan h hl => h.exec hcan hl) (fun _ _ _ h _ => h.appliesToOwn)
    (held_start testers columns agents configs) ls spares

end Invariant

/-! ### A runner that is due -/

namespace DueRunner

def byName (a b : String) : Bool := decide (a ≤ b)

/-- Runner 0 is running, drained and due. -/
def testers : Table ProjectTester :=
  Table.empty.insert (fun id => ⟨id, none, none, "running", 0⟩) fun _ => rfl

def columns (_ : Guid) : RunnerColumns where
  projectId := "acme"
  name := "lab"
  allocation := "idle"
  autoShutdownEnabled := true
  autoShutdownLocalHour := 23
  nextShutdownAt := some (-1)
  shutdownDeferralCount := 0
  autoProbeEnabled := false

/-- The agent of runner 0. -/
def agents : Table Agent :=
  Table.empty.insert (fun id => ⟨id, "acme", some "0.28.230", some 0, "offline", none⟩)
    fun _ => rfl

def start : PowerWorld := .start testers columns agents .empty

def deallocated : ProvisionResult := ⟨true, some 0⟩

/-- A sweep has written `stopping` and calls the cloud. -/
def flipped : List PowerMove := .startSweep :: List.replicate 7 (.sweep deallocated)

/-- The runner is shut down, and comes back later. -/
def inTurn : List PowerMove := flipped ++ List.replicate 2 (.sweep deallocated) ++ [.reconcile 0]

/-- A heartbeat is handled while the cloud call is under way. -/
def heartbeatBetween : List PowerMove :=
  flipped ++ .reconcile 0 :: List.replicate 2 (.sweep deallocated)

theorem power_writes_own_inTurn :
    (runnerPower .ascii byName).Along (AppliesToOwn .ascii byName) start inTurn :=
  power_writes_own testers columns agents .empty inTurn (by decide +kernel)

/-- The final write of the shutdown overwrites the `running` of the heartbeat. -/
theorem heartbeat_overwritten :
    ((runnerPower .ascii byName).run start (flipped ++ [.reconcile 0])).power 0 = some "running" ∧
      ((runnerPower .ascii byName).run start heartbeatBetween).power 0 = some "stopped" ∧
      ¬ (runnerPower .ascii byName).Along (AppliesToOwn .ascii byName) start heartbeatBetween := by
  decide +kernel

end DueRunner

end RunnerPower

end Networker
