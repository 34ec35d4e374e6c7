/-
How often interrupted deployments are re-run.

* `Justified`: every deployment is claimed and re-run at most `MaxRecoveryAttempts` times
  and claimed once per restart, and no claim or re-run finds all linked runs over;
* `Orderly`: no pass reads a deployment another pass of its restart has claimed, and no
  linked run ends the last interest in a deployment between the look at it and its re-run;
* `RecoveryStmt.takes`, `rows_exec`: what a statement does to claims and attempts;
* `Passing`: what a pass knows between two candidates;
* `recoveries_bounded`: the bound in every schedule; `recoveries_justified`: all of it in
  every orderly schedule;
* `recovered_twice`: two passes of one restart, the second behind the first.
-/
import Networker.ControlPlane.DeploymentRecovery
import Networker.Data.Distinct

namespace Networker

open Data Concurrency DeploymentRecoveryService

/-- How often a log names a deployment. -/
def times (d : Guid) (rs : List Recovery) : ℕ := rs.countP fun x => x.deployment == d

/-- No deployment is claimed or re-run more often than the configured number of times. -/
def Bounded (W : RecoveryWorld) : Prop :=
  ∀ d, (times d W.claims : ℤ) ≤ maxRecoveryAttempts ∧ (times d W.reruns : ℤ) ≤ maxRecoveryAttempts

/-- Recovery is bounded, claims a deployment once per restart, and never takes one whose
linked runs are all over. -/
structure Justified (W : RecoveryWorld) : Prop where
  bounded : Bounded W
  once : Distinct (fun x : Recovery => (x.restart, x.deployment)) W.claims
  wanted : ∀ x ∈ W.claims ++ W.reruns, Wanted x.linked

/-- No pass reads as a candidate what another pass of the same restart has claimed, and no
other service ends the last interest in a deployment that a pass is about to re-run. -/
def Orderly (l : RecoveryStmt) (W : RecoveryWorld) : Prop :=
  match l with
  | .readCandidates restart interruptedCutoff =>
      ∀ c ∈ candidates interruptedCutoff W.world, ∀ x ∈ W.claims,
        x.restart = restart → x.deployment ≠ c.deploymentId
  | .other l => ∀ p ∈ W.considered, Wanted (linkedRunStatuses p.2 W.world) →
      Wanted (linkedRunStatuses p.2 (l.exec W.world))
  | _ => True

instance decidableOrderly : ∀ l W, Decidable (Orderly l W)
  | .readCandidates restart interruptedCutoff, W => inferInstanceAs (Decidable
      (∀ c ∈ candidates interruptedCutoff W.world, ∀ x ∈ W.claims,
        x.restart = restart → x.deployment ≠ c.deploymentId))
  | .other l, W => inferInstanceAs (Decidable
      (∀ p ∈ W.considered, Wanted (linkedRunStatuses p.2 W.world) →
        Wanted (linkedRunStatuses p.2 (l.exec W.world))))
  | .enter _, _ | .look, _ | .readLinked .., _ | .claim .., _ | .spawnRerun .., _
  | .logFailed _, _ | .restarted, _ | .cancelStart _, _ => isTrue trivial

/-! ### What a statement does -/

/-- The claim a statement makes. -/
def RecoveryStmt.takes (W : RecoveryWorld) : RecoveryStmt → Option Recovery
  | .claim _ restart c _ =>
      if W.world.deployments.hits c.deploymentId (claimGuard c) then
        some (W.entry restart c.deploymentId)
      else none
  | _ => none

/-- What a statement that claims is. -/
lemma takes_eq_some {l : RecoveryStmt} {W : RecoveryWorld} {x : Recovery}
    (h : l.takes W = some x) :
    ∃ pass restart c now row, l = .claim pass restart c now ∧
      x = W.entry restart c.deploymentId ∧
      W.world.deployments.find? c.deploymentId = some row ∧
      row.recoveryAttempts = c.recoveryAttempts := by
  cases l with
  | claim pass restart c now =>
      rw [RecoveryStmt.takes] at h
      split_ifs at h with hhits
      obtain ⟨row, hrow, hguard⟩ := Table.hits_iff.mp hhits
      rw [claimGuard, Bool.and_eq_true, beq_iff_eq, beq_iff_eq] at hguard
      exact ⟨pass, restart, c, now, row, rfl, (Option.some.inj h).symm, hrow, hguard.2⟩
  | _ => exact absurd h nofun

lemma claims_exec (l : RecoveryStmt) (W : RecoveryWorld) :
    (l.exec W).claims = (l.takes W).toList ++ W.claims := by
  cases l with
  | claim pass restart c now =>
      simp only [RecoveryStmt.exec, RecoveryStmt.takes]
      split_ifs <;> rfl
  | readLinked pass d =>
      simp only [RecoveryStmt.exec]
      split_ifs <;> rfl
  | _ => rfl

/-- No statement of another service changes the attempts of a deployment, and a new one
has none. -/
lemma recoveryAttempts_exec {w : World} {l : Stmt} {d : Guid} {row' : Deployment}
    (h : (l.exec w).deployments.find? d = some row') :
    (∃ row, w.deployments.find? d = some row ∧ row'.recoveryAttempts = row.recoveryAttempts) ∨
      (d = w.deployments.next ∧ row'.recoveryAttempts = 0) := by
  rcases deployments_exec_cases h with ⟨row, hrow, -, rfl⟩ | ⟨spec, now, -, hd, rfl⟩
  · refine Or.inl ⟨row, hrow, ?_⟩
    rw [Stmt.onDeployment]
    split
    · rename_i id write _
      split_ifs
      · cases write with
        | finish args now => by_cases hs : args.success <;> simp [DeploymentWrite.set, hs]
        | _ => rfl
      · rfl
    · rfl
  · exact Or.inr ⟨hd, rfl⟩

/-- No statement makes the next key smaller. -/
lemma next_deployments_exec (l : Stmt) (w : World) :
    w.deployments.next ≤ (l.exec w).deployments.next := by
  cases l with
  | insertDeployment spec now => exact Nat.le_succ _
  | insertAttempt a =>
      simp only [Stmt.exec]
      split_ifs <;> exact le_refl _
  | sendAssign agent run x y =>
      simp only [Stmt.exec]
      split_ifs <;> exact le_refl _
  | sendCancel agent run =>
      simp only [Stmt.exec]
      split_ifs <;> exact le_refl _
  | _ => exact le_refl _

lemma next_exec (l : RecoveryStmt) (W : RecoveryWorld) :
    W.world.deployments.next ≤ (l.exec W).world.deployments.next := by
  cases l with
  | other l => exact next_deployments_exec l W.world
  | claim pass restart c now =>
      simp only [RecoveryStmt.exec]
      split_ifs <;> exact le_refl _
  | readLinked pass d =>
      simp only [RecoveryStmt.exec]
      split_ifs <;> exact le_refl _
  | _ => exact le_refl _

/-- The attempts of a row grow by the claims a statement makes, and a row that was not
there is new and has none. -/
lemma rows_exec {l : RecoveryStmt} {W : RecoveryWorld} {d : Guid} {row' : Deployment}
    (h : (l.exec W).world.deployments.find? d = some row') :
    (∃ row, W.world.deployments.find? d = some row ∧
        row'.recoveryAttempts = row.recoveryAttempts + times d (l.takes W).toList) ∨
      (d = W.world.deployments.next ∧ row'.recoveryAttempts = 0 ∧ l.takes W = none) := by
  have hsame : (l.exec W).world.deployments = W.world.deployments → l.takes W = none →
      ∃ row, W.world.deployments.find? d = some row ∧
        row'.recoveryAttempts = row.recoveryAttempts + times d (l.takes W).toList := by
    intro heq htakes
    rw [heq] at h
    exact ⟨row', h, by rw [htakes]; simp [times]⟩
  cases l with
  | other l =>
      rcases recoveryAttempts_exec h with ⟨row, hrow, heq⟩ | ⟨hd, hzero⟩
      · exact Or.inl ⟨row, hrow, by rw [heq]; simp [RecoveryStmt.takes, times]⟩
      · exact Or.inr ⟨hd, hzero, rfl⟩
  | claim pass restart c now =>
      simp only [RecoveryStmt.exec] at h hsame
      split_ifs at h hsame with hhits
      · rw [RecoveryWorld.claimed, Table.find?_update] at h
        obtain ⟨row, hrow, rfl⟩ := Option.map_eq_some_iff.mp h
        refine Or.inl ⟨row, hrow, ?_⟩
        rw [RecoveryStmt.takes, if_pos hhits]
        by_cases hd : d = c.deploymentId
        · obtain ⟨row₀, hrow₀, hguard⟩ := Table.hits_iff.mp hhits
          rw [← hd, hrow, Option.some.injEq] at hrow₀
          subst hrow₀
          rw [if_pos ⟨hd, hguard⟩]
          rw [claimGuard, Bool.and_eq_true, beq_iff_eq, beq_iff_eq] at hguard
          simp [times, RecoveryWorld.entry, hd, claimSet, hguard.2]
        · rw [if_neg fun hand => hd hand.1]
          simp [times, RecoveryWorld.entry, Ne.symm hd]
      · exact Or.inl (hsame rfl (by rw [RecoveryStmt.takes, if_neg hhits]))
  | readLinked pass d' =>
      simp only [RecoveryStmt.exec] at hsame
      split_ifs at hsame <;> exact Or.inl (hsame rfl rfl)
  | _ => exact Or.inl (hsame rfl rfl)

/-! ### What a candidate that was read is worth later -/

/-- The candidate was read from a row whose attempts may only have grown since. -/
def Seen (c : Candidate) (W : RecoveryWorld) : Prop :=
  c.deploymentId < W.world.deployments.next ∧
    ∀ row, W.world.deployments.find? c.deploymentId = some row →
      c.recoveryAttempts ≤ row.recoveryAttempts

/-- The row has been claimed since the candidate was read, or no pass of the restart has
claimed it. -/
def Unclaimed (restart : ℕ) (c : Candidate) (W : RecoveryWorld) : Prop :=
  (∀ row, W.world.deployments.find? c.deploymentId = some row →
      c.recoveryAttempts < row.recoveryAttempts) ∨
    ∀ x ∈ W.claims, x.restart = restart → x.deployment ≠ c.deploymentId

lemma Seen.exec {c : Candidate} {W : RecoveryWorld} (h : Seen c W) (l : RecoveryStmt) :
    Seen c (l.exec W) := by
  refine ⟨lt_of_lt_of_le h.1 (next_exec l W), fun row' hrow' => ?_⟩
  rcases rows_exec hrow' with ⟨row, hrow, heq⟩ | ⟨hd, -⟩
  · have hle := h.2 row hrow
    omega
  · exact absurd hd (Nat.ne_of_lt h.1)

lemma Unclaimed.exec {restart : ℕ} {c : Candidate} {W : RecoveryWorld} (hs : Seen c W)
    (h : Unclaimed restart c W) (l : RecoveryStmt) : Unclaimed restart c (l.exec W) := by
  by_cases htake : times c.deploymentId (l.takes W).toList = 0
  · refine h.imp (fun hrows row' hrow' => ?_) fun hclaims x hx => ?_
    · rcases rows_exec hrow' with ⟨row, hrow, heq⟩ | ⟨hd, -⟩
      · have hlt := hrows row hrow
        omega
      · exact absurd hd (Nat.ne_of_lt hs.1)
    · rw [claims_exec, List.mem_append] at hx
      rcases hx with hx | hx
      · intro _ hd
        rw [times, List.countP_eq_zero] at htake
        exact htake x hx (by simpa using hd)
      · exact hclaims x hx
  · -- the row is claimed now
    refine Or.inl fun row' hrow' => ?_
    rcases rows_exec hrow' with ⟨row, hrow, heq⟩ | ⟨hd, -⟩
    · have hle := hs.2 row hrow
      omega
    · exact absurd hd (Nat.ne_of_lt hs.1)

/-! ### What happens around a pass -/

/-- The pass a statement belongs to. -/
def RecoveryStmt.owner? : RecoveryStmt → Option ℕ
  | .readLinked pass _ | .claim pass .. | .spawnRerun pass .. | .logFailed pass => some pass
  | _ => none

/-- What other passes and services leave to a pass. -/
structure Around (pass : ℕ) (W W' : RecoveryWorld) : Prop where
  seen : ∀ c, Seen c W → Seen c W'
  unclaimed : ∀ restart c, Seen c W → Unclaimed restart c W → Unclaimed restart c W'
  considered : ∀ d, (pass, d) ∈ W.considered → (pass, d) ∈ W'.considered
  waiting : ∀ d, (pass, d) ∈ W.waiting → (pass, d) ∈ W'.waiting

lemma Around.refl (pass : ℕ) (W : RecoveryWorld) : Around pass W W :=
  ⟨fun _ h => h, fun _ _ _ h => h, fun _ h => h, fun _ h => h⟩

lemma Around.trans {pass : ℕ} {U V W : RecoveryWorld} (huv : Around pass U V)
    (hvw : Around pass V W) : Around pass U W where
  seen c h := hvw.seen c (huv.seen c h)
  unclaimed restart c hs h :=
    hvw.unclaimed restart c (huv.seen c hs) (huv.unclaimed restart c hs h)
  considered d h := hvw.considered d (huv.considered d h)
  waiting d h := hvw.waiting d (huv.waiting d h)

/-- A statement of anybody else leaves a pass what it counts on. -/
lemma around_exec {pass : ℕ} {l : RecoveryStmt} (hl : l.owner? ≠ some pass) (W : RecoveryWorld) :
    Around pass W (l.exec W) := by
  have hne : ∀ {q : ℕ}, l.owner? = some q → pass ≠ q := by
    rintro q hq rfl
    exact hl hq
  refine ⟨fun c h => h.exec l, fun restart c hs h => Unclaimed.exec hs h l, fun d h => ?_,
    fun d h => ?_⟩
  · cases l with
    | readLinked q d' =>
        simp only [RecoveryStmt.exec]
        split_ifs
        · exact h
        · exact List.mem_cons_of_mem _ h
    | claim q restart c now =>
        simp only [RecoveryStmt.exec]
        split_ifs
        · exact h
        · exact List.mem_filter.mpr ⟨h, by simp [hne rfl]⟩
    | spawnRerun q restart d' config => exact List.mem_filter.mpr ⟨h, by simp [hne rfl]⟩
    | logFailed q => exact List.mem_filter.mpr ⟨h, by simp [hne rfl]⟩
    | _ => exact h
  · cases l with
    | readLinked q d' =>
        simp only [RecoveryStmt.exec]
        split_ifs <;> exact h
    | claim q restart c now =>
        simp only [RecoveryStmt.exec]
        split_ifs
        · exact List.mem_cons_of_mem _ h
        · exact h
    | spawnRerun q restart d' config =>
        exact (List.mem_erase_of_ne (by simp [hne rfl])).mpr h
    | logFailed q => exact List.mem_filter.mpr ⟨h, by simp [hne rfl]⟩
    | _ => exact h

/-! ### The invariant -/

section Discipline

variable {strict : Prop} {t : Startup} {l : RecoveryStmt} {W : RecoveryWorld}

/-- What the passes keep: the claims of a deployment are at most its attempts, the re-runs
and the claims that wait for one are at most the claims, and, in an orderly schedule, the
claims of a restart are distinct and everything under consideration is wanted. -/
structure Counted (strict : Prop) (W : RecoveryWorld) : Prop where
  attempts : ∀ d row, W.world.deployments.find? d = some row →
    (times d W.claims : ℤ) ≤ row.recoveryAttempts
  claims : ∀ d, (times d W.claims : ℤ) ≤ maxRecoveryAttempts
  known : ∀ x ∈ W.claims, x.deployment < W.world.deployments.next
  reruns : ∀ d, times d W.reruns + (W.waiting.countP fun p => p.2 == d) ≤ times d W.claims
  once : strict → Distinct (fun x : Recovery => (x.restart, x.deployment)) W.claims
  considered : strict → ∀ p ∈ W.considered, Wanted (linkedRunStatuses p.2 W.world)
  wanted : strict → ∀ x ∈ W.claims ++ W.reruns, Wanted x.linked

/-- What a pass meets in front of its statements. -/
def Careful (strict : Prop) (t : Startup) (l : RecoveryStmt) (W : RecoveryWorld) : Prop :=
  match l with
  | .claim pass restart c _ =>
      pass = t.pass ∧ c.recoveryAttempts < maxRecoveryAttempts ∧ Seen c W ∧
        (strict → Unclaimed restart c W) ∧ (pass, c.deploymentId) ∈ W.considered
  | .spawnRerun pass _ d _ =>
      pass = t.pass ∧ (pass, d) ∈ W.considered ∧ (pass, d) ∈ W.waiting
  | .readLinked pass _ | .logFailed pass => pass = t.pass
  | .enter _ | .look | .readCandidates .. => True
  | .other _ | .restarted | .cancelStart _ => False

/-- A deployment that nobody has claimed. -/
lemma times_eq_zero {d : Guid} {rs : List Recovery} (h : ∀ x ∈ rs, x.deployment ≠ d) :
    times d rs = 0 := by
  rw [times, List.countP_eq_zero]
  exact fun x hx heq => h x hx (by simpa using heq)

lemma times_append (d : Guid) (rs ss : List Recovery) :
    times d (rs ++ ss) = times d rs + times d ss := List.countP_append

/-- A claim is of a row that is there. -/
lemma takes_known {x : Recovery} (h : l.takes W = some x) :
    x.deployment < W.world.deployments.next := by
  obtain ⟨pass, restart, c, now, row, rfl, rfl, hrow, -⟩ := takes_eq_some h
  exact Table.lt_of_find? hrow

lemma Counted.attempts_exec (h : Counted strict W) {d : Guid} {row' : Deployment}
    (hrow' : (l.exec W).world.deployments.find? d = some row') :
    (times d (l.exec W).claims : ℤ) ≤ row'.recoveryAttempts := by
  rw [claims_exec, times_append]
  rcases rows_exec hrow' with ⟨row, hrow, heq⟩ | ⟨hd, hzero, htakes⟩
  · have hle := h.attempts d row hrow
    omega
  · have hnone : times d W.claims = 0 :=
      times_eq_zero fun x hx => hd ▸ Nat.ne_of_lt (h.known x hx)
    rw [htakes, hnone, hzero]
    exact le_refl _

lemma Counted.claims_exec (h : Counted strict W) (hl : Careful strict t l W ∨ l.isOutside = true)
    (d : Guid) : (times d (l.exec W).claims : ℤ) ≤ maxRecoveryAttempts := by
  rw [Networker.claims_exec, times_append]
  have hclaims := h.claims d
  cases htakes : l.takes W with
  | none => simpa [times] using hclaims
  | some x =>
      obtain ⟨pass, restart, c, now, row, rfl, rfl, hrow, heq⟩ := takes_eq_some htakes
      obtain ⟨-, hlt, -⟩ := hl.resolve_right Bool.false_ne_true
      by_cases hd : c.deploymentId = d
      · subst hd
        have hle := h.attempts _ row hrow
        have hone : times c.deploymentId (some (W.entry restart c.deploymentId)).toList = 1 := by
          simp [times, RecoveryWorld.entry]
        omega
      · have hzero : times d (some (W.entry restart c.deploymentId)).toList = 0 := by
          simp [times, RecoveryWorld.entry, hd]
        omega

lemma Counted.known_exec (h : Counted strict W) {x : Recovery} (hx : x ∈ (l.exec W).claims) :
    x.deployment < (l.exec W).world.deployments.next := by
  refine lt_of_lt_of_le ?_ (next_exec l W)
  rw [Networker.claims_exec, List.mem_append] at hx
  rcases hx with hx | hx
  · exact takes_known (by simpa using hx)
  · exact h.known x hx

lemma Counted.reruns_exec (h : Counted strict W) (hl : Careful strict t l W ∨ l.isOutside = true)
    (d : Guid) : times d (l.exec W).reruns + ((l.exec W).waiting.countP fun p => p.2 == d) ≤
      times d (l.exec W).claims := by
  have hreruns := h.reruns d
  cases l with
  | readLinked pass d' =>
      simp only [RecoveryStmt.exec]
      split_ifs <;> exact hreruns
  | claim pass restart c now =>
      simp only [RecoveryStmt.exec]
      split_ifs
      · simp only [times, List.countP_cons, RecoveryWorld.entry] at hreruns ⊢
        omega
      · exact hreruns
  | spawnRerun pass restart d' config =>
      obtain ⟨-, -, hmem⟩ := hl.resolve_right Bool.false_ne_true
      have hcount : (W.waiting.erase (pass, d')).countP (fun p => p.2 == d) +
          (if d' == d then 1 else 0) = W.waiting.countP fun p => p.2 == d := by
        have hperm := (List.perm_cons_erase hmem).countP_eq fun p => p.2 == d
        rw [List.countP_cons] at hperm
        exact hperm.symm
      simp only [RecoveryStmt.exec, times, List.countP_cons, RecoveryWorld.entry] at hreruns ⊢
      omega
  | logFailed pass =>
      have hle := (List.filter_sublist (l := W.waiting) (p := (·.1 != pass))).countP_le
        (p := fun p => p.2 == d)
      exact le_trans (Nat.add_le_add_left hle _) hreruns
  | _ => exact hreruns

/-- In an orderly schedule the claim of a pass is the first one of its restart. -/
lemma Counted.once_exec (h : Counted strict W) (hl : Careful strict t l W ∨ l.isOutside = true)
    (hs : strict) :
    Distinct (fun x : Recovery => (x.restart, x.deployment)) (l.exec W).claims := by
  rw [Networker.claims_exec]
  cases htakes : l.takes W with
  | none => exact h.once hs
  | some x =>
      obtain ⟨pass, restart, c, now, row, rfl, rfl, hrow, heq⟩ := takes_eq_some htakes
      obtain ⟨-, -, -, hfresh, -⟩ := hl.resolve_right Bool.false_ne_true
      have hnew : ∀ x ∈ W.claims, x.restart = restart → x.deployment ≠ c.deploymentId := by
        refine (hfresh hs).resolve_left fun hlt => ?_
        have hlt := hlt row hrow
        omega
      refine List.nodup_cons.mpr ⟨fun hmem => ?_, h.once hs⟩
      obtain ⟨x, hx, hkey⟩ := List.mem_map.mp hmem
      obtain ⟨hrestart, hd⟩ := Prod.mk.inj hkey
      exact hnew x hx hrestart hd

/-- The runs are changed by other services alone. -/
lemma linkedRunStatuses_exec (hl : ∀ l', l ≠ .other l') (d : Guid) :
    linkedRunStatuses d (l.exec W).world = linkedRunStatuses d W.world := by
  cases l with
  | other l => exact absurd rfl (hl l)
  | readLinked pass d' =>
      simp only [RecoveryStmt.exec]
      split_ifs <;> rfl
  | claim pass restart c now =>
      simp only [RecoveryStmt.exec]
      split_ifs <;> rfl
  | _ => rfl

/-- What a pass does not skip is wanted. -/
lemma wanted_of_not_skipped {rs : List RunStatus} (h : ¬ skipped rs = true) : Wanted rs := by
  rw [skipped, Bool.and_eq_true, not_and_or] at h
  rcases h with h | h
  · exact Or.inl (by simpa using h)
  · exact Or.inr ⟨.provisioning, by simpa using h, rfl⟩

/-- What is under consideration after a statement is so before it, or it has just been
found wanted. -/
lemma mem_considered_exec {p : ℕ × Guid} (hp : p ∈ (l.exec W).considered) :
    p ∈ W.considered ∨ Wanted (linkedRunStatuses p.2 W.world) := by
  cases l with
  | readLinked pass d' =>
      simp only [RecoveryStmt.exec] at hp
      split_ifs at hp with hskip
      · exact Or.inl hp
      · rcases List.mem_cons.mp hp with rfl | hp
        · exact Or.inr (wanted_of_not_skipped hskip)
        · exact Or.inl hp
  | claim pass restart c now =>
      simp only [RecoveryStmt.exec] at hp
      split_ifs at hp
      · exact Or.inl hp
      · exact Or.inl (List.mem_of_mem_filter hp)
  | spawnRerun pass restart d' config => exact Or.inl (List.mem_of_mem_filter hp)
  | logFailed pass => exact Or.inl (List.mem_of_mem_filter hp)
  | _ => exact Or.inl hp

lemma Counted.considered_exec (h : Counted strict W) (hok : strict → Orderly l W) (hs : strict)
    {p : ℕ × Guid} (hp : p ∈ (l.exec W).considered) :
    Wanted (linkedRunStatuses p.2 (l.exec W).world) := by
  by_cases hother : ∃ l', l = .other l'
  · obtain ⟨l', rfl⟩ := hother
    exact hok hs p hp (h.considered hs p hp)
  · rw [linkedRunStatuses_exec (fun l' hl => hother ⟨l', hl⟩)]
    exact (mem_considered_exec hp).elim (h.considered hs p) id

lemma Counted.wanted_exec (h : Counted strict W) (hl : Careful strict t l W ∨ l.isOutside = true)
    (hs : strict) : ∀ x ∈ (l.exec W).claims ++ (l.exec W).reruns, Wanted x.linked := by
  have hold := h.wanted hs
  cases l with
  | readLinked pass d' =>
      simp only [RecoveryStmt.exec]
      split_ifs <;> exact hold
  | claim pass restart c now =>
      obtain ⟨-, -, -, -, hmem⟩ := hl.resolve_right Bool.false_ne_true
      simp only [RecoveryStmt.exec]
      split_ifs
      · intro x hx
        rcases List.mem_cons.mp hx with rfl | hx
        · exact h.considered hs _ hmem
        · exact hold x hx
      · exact hold
  | spawnRerun pass restart d' config =>
      obtain ⟨-, hmem, -⟩ := hl.resolve_right Bool.false_ne_true
      intro x hx
      rcases List.mem_append.mp hx with hx | hx
      · exact hold x (List.mem_append_left _ hx)
      · rcases List.mem_cons.mp hx with rfl | hx
        · exact h.considered hs _ hmem
        · exact hold x (List.mem_append_right _ hx)
  | _ => exact hold

/-- Every statement keeps the invariant. -/
lemma Counted.exec (h : Counted strict W) (hok : strict → Orderly l W)
    (hl : Careful strict t l W ∨ l.isOutside = true) : Counted strict (l.exec W) where
  attempts _ _ hrow := h.attempts_exec hrow
  claims := h.claims_exec hl
  known _ hx := h.known_exec hx
  reruns := h.reruns_exec hl
  once hs := h.once_exec hl hs
  considered hs _ hp := h.considered_exec hok hs hp
  wanted hs := h.wanted_exec hl hs

/-! ### A pass -/

/-- What a pass knows in front of the candidates that are left. -/
structure Passing (strict : Prop) (t : Startup) (rest : List Candidate)
    (recovered : List RecoveredDeployment) (W : RecoveryWorld) : Prop where
  ahead : ∀ c ∈ rest, c.recoveryAttempts < maxRecoveryAttempts ∧ Seen c W ∧
    (strict → Unclaimed t.restart c W)
  claimed : ∀ r ∈ recovered, (t.pass, r.deploymentId) ∈ W.considered ∧
    (t.pass, r.deploymentId) ∈ W.waiting
  distinct : (rest.map Candidate.deploymentId ++
    recovered.map RecoveredDeployment.deploymentId).Nodup

/-- A routine of a pass, with what the schedule brings. -/
def PassSafe {α : Type} (strict : Prop) (t : Startup) (p : RecoverySvc α)
    (Q : α → RecoveryWorld → Prop) (W : RecoveryWorld) : Prop :=
  p.Safe RecoveryStmt.exec (Around t.pass) (fun l W => Counted strict W ∧ (strict → Orderly l W))
    (Careful strict t) (fun _ _ => True) Q W

variable {rest : List Candidate} {recovered : List RecoveredDeployment} {c : Candidate}

lemma stable_passing (rest : List Candidate) (recovered : List RecoveredDeployment) :
    Proc.Stable (Around t.pass) (Passing strict t rest recovered) := by
  intro W W' hout h
  refine ⟨fun c hc => ?_, fun r hr => ?_, h.distinct⟩
  · obtain ⟨hlt, hseen, hfresh⟩ := h.ahead c hc
    exact ⟨hlt, hout.seen c hseen, fun hs => hout.unclaimed _ c hseen (hfresh hs)⟩
  · exact ⟨hout.considered _ (h.claimed r hr).1, hout.waiting _ (h.claimed r hr).2⟩

/-- The candidates that are left stay what they are. -/
lemma Passing.ahead_exec (h : Passing strict t (c :: rest) recovered W) (l : RecoveryStmt) :
    ∀ c ∈ rest, c.recoveryAttempts < maxRecoveryAttempts ∧ Seen c (l.exec W) ∧
      (strict → Unclaimed t.restart c (l.exec W)) := by
  intro c' hc'
  obtain ⟨hlt, hseen, hfresh⟩ := h.ahead c' (List.mem_cons_of_mem _ hc')
  exact ⟨hlt, hseen.exec l, fun hs => Unclaimed.exec hseen (hfresh hs) l⟩

/-- The pass goes on without the candidate. -/
lemma Passing.skip (h : Passing strict t (c :: rest) recovered W) :
    Passing strict t rest recovered W :=
  ⟨fun c' hc' => h.ahead c' (List.mem_cons_of_mem _ hc'), h.claimed,
    (List.nodup_cons.mp h.distinct).2⟩

/-- The look at the linked runs of the candidate. -/
lemma Passing.readLinked (h : Passing strict t (c :: rest) recovered W) :
    Passing strict t (c :: rest) recovered ((RecoveryStmt.readLinked t.pass c.deploymentId).exec W) := by
  have hseen : ∀ c' ∈ c :: rest, c'.recoveryAttempts < maxRecoveryAttempts ∧
      Seen c' ((RecoveryStmt.readLinked t.pass c.deploymentId).exec W) ∧
      (strict → Unclaimed t.restart c' ((RecoveryStmt.readLinked t.pass c.deploymentId).exec W)) := by
    intro c' hc'
    obtain ⟨hlt, hseen, hfresh⟩ := h.ahead c' hc'
    exact ⟨hlt, hseen.exec _, fun hs => Unclaimed.exec hseen (hfresh hs) _⟩
  refine ⟨hseen, fun r hr => ?_, h.distinct⟩
  obtain ⟨hcons, hwait⟩ := h.claimed r hr
  simp only [RecoveryStmt.exec]
  split_ifs
  · exact ⟨hcons, hwait⟩
  · exact ⟨List.mem_cons_of_mem _ hcons, hwait⟩

/-- The claim of the candidate, won or lost. -/
lemma Passing.claim (h : Passing strict t (c :: rest) recovered W)
    (hc : (t.pass, c.deploymentId) ∈ W.considered) (now : Time) :
    Passing strict t rest
      (if W.world.deployments.hits c.deploymentId (claimGuard c) then recovered ++ [c.recovered]
        else recovered)
      ((RecoveryStmt.claim t.pass t.restart c now).exec W) := by
  have hahead := h.ahead_exec (.claim t.pass t.restart c now)
  obtain ⟨hnot, hdistinct⟩ := List.nodup_cons.mp h.distinct
  simp only [RecoveryStmt.exec] at hahead ⊢
  split_ifs at hahead ⊢
  · refine ⟨hahead, fun r hr => ?_, ?_⟩
    · rcases List.mem_append.mp hr with hr | hr
      · exact ⟨(h.claimed r hr).1, List.mem_cons_of_mem _ (h.claimed r hr).2⟩
      · rw [List.mem_singleton.mp hr]
        exact ⟨hc, List.mem_cons_self⟩
    · rw [List.map_append, ← List.append_assoc]
      refine List.nodup_append.mpr ⟨hdistinct, List.nodup_singleton _, fun a ha b hb => ?_⟩
      rw [List.map_singleton, List.mem_singleton] at hb
      rintro rfl
      rw [hb] at ha
      exact hnot ha
  · refine ⟨hahead, fun r hr => ⟨List.mem_filter.mpr ⟨(h.claimed r hr).1, ?_⟩,
      (h.claimed r hr).2⟩, hdistinct⟩
    have hne : r.deploymentId ≠ c.deploymentId := by
      intro heq
      exact hnot (heq ▸ List.mem_append_right _ (List.mem_map_of_mem hr))
    simp [hne]

/-- The loop body claims only what the pass may claim. -/
lemma safe_recoverOne (now : Time) (h : Passing strict t (c :: rest) recovered W) :
    PassSafe strict t (recoverOne t now recovered c)
      (fun recovered' => Passing strict t rest recovered') W := by
  have hstable : ∀ rest recovered, Proc.Stable (Around t.pass) (Passing strict t rest recovered) :=
    stable_passing
  have hret : ∀ {recovered' : List RecoveredDeployment} {V}, Passing strict t rest recovered' V →
      PassSafe strict t (.ret recovered') (fun recovered' => Passing strict t rest recovered') V :=
    fun {recovered'} V hV V' hout => hstable rest recovered' V V' hout hV
  refine (hstable (c :: rest) recovered).safe_issue_bind h fun V hV _ => ⟨trivial, ?_⟩
  split
  · exact fun _ _ => trivial
  · refine (hstable (c :: rest) recovered).safe_issue_bind hV fun V₁ hV₁ _ => ⟨rfl, ?_⟩
    have hread := hV₁.readLinked
    split
    · exact hret hread.skip
    · rename_i hskip
      have hconsidered : (t.pass, c.deploymentId) ∈
          ((RecoveryStmt.readLinked t.pass c.deploymentId).exec V₁).considered := by
        simp only [RecoveryStmt.exec]
        rw [if_neg hskip]
        exact List.mem_cons_self
      intro V₂ hout _
      have hV₂ := hstable (c :: rest) recovered _ V₂ hout hread
      have hc := hout.considered _ hconsidered
      obtain ⟨hlt, hseen, hfresh⟩ := hV₂.ahead c List.mem_cons_self
      exact ⟨⟨rfl, hlt, hseen, hfresh, hc⟩, hret (hV₂.claim hc now)⟩

/-- What the candidate query returns may be claimed. -/
lemma passing_candidates {cutoff : Time} (hok : strict → Orderly (.readCandidates t.restart cutoff) W) :
    Passing strict t (candidates cutoff W.world) [] W := by
  refine ⟨fun c hc => ?_, by simp, ?_⟩
  · obtain ⟨row, hrow, rfl⟩ := List.mem_map.mp hc
    obtain ⟨hmem, hrec⟩ := Table.mem_select.mp hrow
    have hfind : W.world.deployments.find? row.deploymentId = some row := Table.find?_key hmem
    rw [recoverable, Bool.and_eq_true] at hrec
    refine ⟨of_decide_eq_true hrec.1, ⟨Table.lt_of_find? hfind, fun row' hrow' => ?_⟩,
      fun hs => Or.inr fun x hx hrestart => hok hs _ hc x hx hrestart⟩
    rw [show (candidate row).deploymentId = row.deploymentId from rfl, hfind] at hrow'
    rw [← Option.some.inj hrow']
    exact le_refl _
  · have hnodup : (W.world.deployments.rows.map Deployment.deploymentId).Nodup :=
      W.world.deployments.nodup
    rw [List.map_nil, List.append_nil, candidates, List.map_map]
    exact hnodup.sublist (List.filter_sublist.map _)

/-- The claim pass. -/
lemma safe_recoverAsync : PassSafe strict t (recoverAsync t)
    (fun recovered => Passing strict t [] recovered) W := by
  have htrue : Proc.Stable (Around t.pass) fun _ => True := fun _ _ _ _ => trivial
  refine htrue.safe_issue_bind trivial fun V _ _ => ⟨trivial, ?_⟩
  refine htrue.safe_issue_bind trivial fun V₁ _ hok => ⟨trivial, ?_⟩
  exact Proc.Safe.fold (Around.refl t.pass) (I := fun rest recovered => Passing strict t rest recovered)
    (fun recovered => stable_passing [] recovered)
    (fun c rest recovered V₂ hV₂ => safe_recoverOne _ hV₂) _ [] _ (passing_candidates hok.2)

/-- The re-runs of what has been claimed. -/
lemma safe_spawnReruns (recovered : List RecoveredDeployment)
    (h : Passing strict t [] recovered W) :
    PassSafe strict t (Proc.each (spawnRerun t) recovered) (fun _ _ => True) W := by
  induction recovered generalizing W with
  | nil => exact fun _ _ => trivial
  | cons r rs ih =>
      refine (stable_passing [] (r :: rs)).safe_issue_bind h fun V hV _ => ?_
      obtain ⟨hnot, hdistinct⟩ := List.nodup_cons.mp hV.distinct
      refine ⟨⟨rfl, hV.claimed r List.mem_cons_self⟩, ih ⟨by simp, fun r' hr' => ?_, hdistinct⟩⟩
      have hne : r'.deploymentId ≠ r.deploymentId := by
        intro heq
        exact hnot (heq ▸ List.mem_map_of_mem hr')
      obtain ⟨hcons, hwait⟩ := hV.claimed r' (List.mem_cons_of_mem _ hr')
      exact ⟨List.mem_filter.mpr ⟨hcons, by simp [hne]⟩,
        (List.mem_erase_of_ne (by simp [hne])).mpr hwait⟩

/-- A startup. -/
lemma safe_startAsync : PassSafe strict t (startAsync t) (fun _ _ => True) W := by
  have hclaimed : PassSafe strict t (do return some (← recoverAsync t))
      (fun r V => ∀ recovered, r = some recovered → Passing strict t [] recovered V) W := by
    refine safe_recoverAsync.bind (Around.refl t.pass) fun recovered V hV V' hout recovered' hr => ?_
    obtain rfl := Option.some.inj hr
    exact stable_passing [] _ V V' hout hV
  refine Proc.Safe.bind (Around.refl t.pass) (Proc.Safe.rescue (Around.refl t.pass)
    (fun e V _ => ?_) hclaimed) fun r V hV => ?_
  · -- a failed claim pass leaves nothing to re-run
    exact fun V' _ _ => ⟨rfl, fun V'' _ recovered hr => absurd hr nofun⟩
  · cases r with
    | none => exact fun _ _ => trivial
    | some recovered => exact safe_spawnReruns recovered (hV recovered rfl)

end Discipline

/-! ### Passes side by side -/

/-- What the startup passes keep. -/
def recovering (strict : Prop) : System.Discipline RecoveryStmt RecoveryWorld Startup where
  inv := Counted strict
  holds _ := False
  res _ := True
  here t W := t.pass ∈ W.passes
  ok l W := strict → Orderly l W
  rely t := Around t.pass
  guar := Careful strict

/-- The passes that have started stay started. -/
lemma mem_passes_exec {pass : ℕ} {W : RecoveryWorld} (h : pass ∈ W.passes) (l : RecoveryStmt) :
    pass ∈ (l.exec W).passes := by
  cases l with
  | enter q => exact List.mem_cons_of_mem _ h
  | readLinked q d =>
      simp only [RecoveryStmt.exec]
      split_ifs <;> exact h
  | claim q restart c now =>
      simp only [RecoveryStmt.exec]
      split_ifs <;> exact h
  | _ => exact h

/-- The statements a pass issues are its own. -/
lemma Careful.owner {strict : Prop} {t : Startup} {l : RecoveryStmt} {W : RecoveryWorld}
    (h : Careful strict t l W) {pass : ℕ} (hne : t.pass ≠ pass) : l.owner? ≠ some pass := by
  have hown : ∀ q, l.owner? = some q → q = t.pass := by
    intro q hq
    cases l with
    | claim q' restart c now => exact (Option.some.inj hq).symm.trans h.1
    | spawnRerun q' restart d config => exact (Option.some.inj hq).symm.trans h.1
    | readLinked q' d => exact (Option.some.inj hq).symm.trans h
    | logFailed q' => exact (Option.some.inj hq).symm.trans h
    | _ => exact absurd hq nofun
  exact fun hq => hne (hown pass hq).symm

lemma recovering_lawful (strict : Prop) :
    startups.Lawful (recovering strict) (fun _ => True) fun t u => t.pass ≠ u.pass where
  symm hne := hne.symm
  excl _ := False.elim
  refl t := Around.refl t.pass
  trans _ {_ _ _} huv hvw := huv.trans hvw
  inv _ _ _ hinv hok hguar := hinv.exec hok (Or.inl hguar)
  here _ _ l _ _ _ _ hhere := mem_passes_exec hhere l
  res _ _ _ _ _ _ _ _ := trivial
  rely _ _ _ W hne _ _ hguar := around_exec (hguar.owner hne) W
  start ts t W _ hadm _ _ hhere _ := by
    have hnew : t.pass ∉ W.passes := by
      have := (Bool.and_eq_true _ _ |>.mp hadm).2
      simpa using this
    refine ⟨fun u hu heq => hnew (heq ▸ hhere u hu), trivial, List.mem_cons_self, ?_⟩
    exact safe_startAsync.mono (fun _ _ _ => False.elim) fun _ _ _ => False.elim
  env l W hl hinv hok := by
    have hout : ∀ pass, l.owner? ≠ some pass := by
      intro pass hpass
      cases l <;> first | exact absurd hl Bool.false_ne_true | exact absurd hpass nofun
    exact ⟨hinv.exec (t := ⟨0, 0⟩) hok (Or.inr hl), fun _ => trivial,
      fun t => ⟨around_exec (hout t.pass) W, fun h => mem_passes_exec h l⟩⟩

/-- The attempts of a deployment are counted from zero. -/
def World.CountsAttempts (w : World) : Prop := ∀ d ∈ w.deployments.rows, 0 ≤ d.recoveryAttempts

lemma counted_starting {strict : Prop} {w : World} (hw : w.CountsAttempts) :
    Counted strict (.starting w) where
  attempts _ row hrow := hw row (Table.mem_of_find? hrow)
  claims _ := show (0 : ℤ) ≤ 3 by omega
  known _ hx := absurd hx List.not_mem_nil
  reruns _ := le_refl _
  once _ := List.nodup_nil
  considered _ _ hp := absurd hp List.not_mem_nil
  wanted _ _ hx := absurd hx List.not_mem_nil

lemma counted_after (strict : Prop) {w : World} (hw : w.CountsAttempts)
    {as : List (System.Action RecoveryStmt Startup)}
    (hok : startups.Along (startups.Meets fun l W => strict → Orderly l W)
      (.fresh (.starting w)) as) :
    Counted strict (startups.after (.fresh (.starting w)) as).state :=
  (System.after_sound (recovering_lawful strict) (.fresh (counted_starting hw) trivial) as
    (System.along_starts_any as) hok).inv

lemma Counted.bounded {strict : Prop} {W : RecoveryWorld} (h : Counted strict W) : Bounded W := by
  intro d
  have hclaims := h.claims d
  have hreruns := h.reruns d
  exact ⟨hclaims, by omega⟩

/-- **Recovery is bounded.**  Whatever restarts, passes and services do, no deployment is
claimed or re-run automatically more often than the configured number of times. -/
theorem recoveries_bounded (w : World) (hw : w.CountsAttempts)
    (as : List (System.Action RecoveryStmt Startup)) :
    Bounded (startups.after (.fresh (.starting w)) as).state := by
  refine (counted_after False hw (System.along_iff.mpr ?_)).bounded
  exact fun _ _ _ _ _ _ => False.elim

/-- **Recovery is justified.**  In every orderly schedule of restarts, passes and services
a deployment is also claimed once per restart, and never when its linked runs are over. -/
theorem recoveries_justified (w : World) (hw : w.CountsAttempts)
    (as : List (System.Action RecoveryStmt Startup))
    (orderly : startups.Along (startups.Meets Orderly) (.fresh (.starting w)) as) :
    Justified (startups.after (.fresh (.starting w)) as).state := by
  have hcounted := counted_after True hw
    (orderly.mono fun _ _ hmeets l hl _ => hmeets l hl)
  exact ⟨hcounted.bounded, hcounted.once trivial, hcounted.wanted trivial⟩

namespace InterruptedDeployments

def deployment (d : Guid) : Deployment :=
  newDeployment ⟨"a", .obj [], none, "p", none⟩ 0 d

def run : TestRun :=
  { newRun (.basic 0 "p" "pending" (.obj []) (.obj [])) none none 0 0 with
    status := .provisioning, provisioningDeploymentId := some 1 }

/-- A crash has left two deployments `pending`; a run waits for the second one. -/
def world : World :=
  { World.initial with
    deployments := ⟨[deployment 0, deployment 1], 2, by decide, by decide⟩
    runs := ⟨[run], 1, by decide, by decide⟩ }

/-- The control plane is restarted, and a pass recovers both deployments. -/
def onePass : List (System.Action RecoveryStmt Startup) :=
  .env .restarted :: .start ⟨0, 1⟩ :: List.replicate 10 (.step 0)

/-- A second replica starts after the pass.  The run is cancelled between its look at the
linked runs of the second deployment and its claim. -/
def secondPass : List (System.Action RecoveryStmt Startup) :=
  .start ⟨1, 1⟩ :: List.replicate 7 (.step 1) ++ .env (.other (.updateRun 0 (.cancel 0))) ::
    List.replicate 3 (.step 1)

end InterruptedDeployments

open InterruptedDeployments in
theorem recoveries_justified_once :
    Justified (startups.after (.fresh (.starting world)) onePass).state :=
  recoveries_justified world (by unfold World.CountsAttempts; decide) onePass (by decide +kernel)

open InterruptedDeployments in
/-- Both passes of the restart claim both deployments, the second one although the run it
would be for is over. -/
theorem recovered_twice :
    ¬ Distinct (fun x : Recovery => (x.restart, x.deployment))
        (startups.after (.fresh (.starting world)) (onePass ++ secondPass)).state.claims ∧
      ¬ ∀ x ∈ (startups.after (.fresh (.starting world)) (onePass ++ secondPass)).state.claims ++
          (startups.after (.fresh (.starting world)) (onePass ++ secondPass)).state.reruns,
        Wanted x.linked := by
  have hclaims : (startups.after (.fresh (.starting world)) (onePass ++ secondPass)).state.claims =
      [⟨1, 1, [.cancelled]⟩, ⟨1, 0, []⟩, ⟨1, 1, [.provisioning]⟩, ⟨1, 0, []⟩] := by
    decide +kernel
  rw [hclaims]
  refine ⟨by simp [Distinct], fun hwanted => ?_⟩
  exact absurd (hwanted _ (List.mem_append_left _ List.mem_cons_self)) (by decide)

end Networker
