/-
The leader election of the background services (`Background/LeaderElection.cs`).

* `OpsService`, `OpsService.name`: the background services with their canonical names;
* `keyFor`, `lockKey`: the advisory-lock key of a service;
* `LeaderCall`, `Use`, `Election`: where each call of `TryRunAsLeaderAsync` stands, what each
  database session is used for, and the advisory locks;
* `ElectionStep`, `election`: the machine of all calls in all replicas, with sessions that
  end and processes that die at any moment;
* `Election.Sound`: what the calls, the sessions and the locks have to do with each other;
  `Sound.exec` is its step lemma;
* `one_tick_of_a_service`, `refused_iff_busy`: what holds in every interleaving.
-/
import Networker.Concurrency.Machine
import Networker.Concurrency.SessionLocks

namespace Networker

open Concurrency

/-! ### The keys -/

/-- `OpsServiceNames`. -/
inductive OpsService
  | scheduler
  | queuedRedispatch
  | watchdog
  | agentReaper
  | autoShutdown
  | orphanReaper
  | workspaceInactivity
  | provisioningOrchestrator
  | systemHealth
  | agentAutoUpgrade
  deriving DecidableEq

/-- The canonical name of a service. -/
def OpsService.name : OpsService → String
  | scheduler => "scheduler"
  | queuedRedispatch => "queued-redispatch"
  | watchdog => "watchdog"
  | agentReaper => "agent-reaper"
  | autoShutdown => "auto-shutdown"
  | orphanReaper => "orphan-reaper"
  | workspaceInactivity => "workspace-inactivity"
  | provisioningOrchestrator => "provisioning-orchestrator"
  | systemHealth => "system-health"
  | agentAutoUpgrade => "agent-auto-upgrade"

namespace LeaderLockKeys

/-- `LeaderLockKeys.KeyNamespace`. -/
def keyNamespace : String := "networker-controlplane:"

def fnvOffsetBasis : UInt64 := 14695981039346656037

def fnvPrime : UInt64 := 1099511628211

/-- One byte of the hash of `KeyFor`. -/
def fnvStep (hash : UInt64) (b : UInt8) : UInt64 := (hash ^^^ b.toUInt64) * fnvPrime

/-- `Encoding.UTF8.GetBytes`. -/
def utf8 (s : String) : List UInt8 := s.toList.flatMap String.utf8EncodeChar

/-- `LeaderLockKeys.KeyFor`: the hash of the bytes, read as a signed number. -/
def keyFor (serviceName : String) : Int64 :=
  ((utf8 (keyNamespace ++ serviceName)).foldl fnvStep fnvOffsetBasis).toInt64

end LeaderLockKeys

/-- The key of a service. -/
def OpsService.lockKey (service : OpsService) : Int64 := LeaderLockKeys.keyFor service.name

/-- The keys as the lock table of the database shows them. -/
def OpsService.shownKey : OpsService → Int64
  | scheduler => 204212623316596031
  | queuedRedispatch => -3975542237568181939
  | watchdog => 2528921118521860045
  | agentReaper => 5672273927518729125
  | autoShutdown => -6779850655081117222
  | orphanReaper => -3722790822933648360
  | workspaceInactivity => 5344226851487828108
  | provisioningOrchestrator => -6476070105187748186
  | systemHealth => 9051878876442416456
  | agentAutoUpgrade => -5822488224014804024

lemma OpsService.lockKey_eq (service : OpsService) : service.lockKey = service.shownKey := by
  cases service <;> decide +kernel

/-- No two services share a key. -/
lemma OpsService.lockKey_injective : Function.Injective OpsService.lockKey := by
  intro a b h
  rw [lockKey_eq, lockKey_eq] at h
  cases a <;> cases b <;> first | rfl | exact absurd h (by decide)

/-! ### The calls and the sessions -/

/-- The number of a call of `TryRunAsLeaderAsync`, in any replica. -/
abbrev LeaderCall : Type := ℕ

/-- The number of a physical connection to the database. -/
abbrev SessionId : Type := ℕ

/-- Where a call stands. -/
inductive LeaderCall.Phase
  /-- The call has not been made. -/
  | fresh
  /-- `OpenConnectionAsync` has returned. -/
  | connected (service : OpsService) (session : SessionId)
  /-- The lock was acquired, the tick runs. -/
  | ticking (service : OpsService) (session : SessionId)
  /-- The tick has returned, or raised, and the `finally` is entered. -/
  | unlocking (service : OpsService) (session : SessionId) (raised : Bool)
  /-- The call has returned whether the tick ran. -/
  | returned (ran : Bool)
  /-- The call has raised, or its process is gone. -/
  | failed
  deriving DecidableEq

/-- The session a call uses. -/
def LeaderCall.Phase.session? : LeaderCall.Phase → Option SessionId
  | connected _ s | ticking _ s | unlocking _ s _ => some s
  | _ => none

/-- The call is between the acquisition of the lock of a service and the end of its
`finally`. -/
def LeaderCall.Phase.leads (service : OpsService) (session : SessionId) : LeaderCall.Phase → Bool
  | ticking x s | unlocking x s _ => x = service && s = session
  | _ => false

/-- What a session is used for. -/
inductive Use
  | unopened
  /-- In the pool. -/
  | idle
  | usedBy (a : LeaderCall)
  /-- Broken or closed. -/
  | ended
  deriving DecidableEq

/-- The calls, the sessions and the advisory locks. -/
structure Election where
  attempts : LeaderCall → LeaderCall.Phase
  sessions : SessionId → Use
  locks : SessionLocks SessionId Int64

namespace Election

/-- Before the first call. -/
def start : Election := ⟨fun _ => .fresh, fun _ => .unopened, .empty⟩

def enter (st : Election) (a : LeaderCall) (p : LeaderCall.Phase) : Election :=
  { st with attempts := Function.update st.attempts a p }

def give (st : Election) (s : SessionId) (u : Use) : Election :=
  { st with sessions := Function.update st.sessions s u }

def putLocks (st : Election) (L : SessionLocks SessionId Int64) : Election :=
  { st with locks := L }

/-- The session is connected. -/
def alive (st : Election) (s : SessionId) : Bool := st.sessions s != .ended

/-- The session goes back to the pool if it is not broken. -/
def dispose (st : Election) (s : SessionId) : Election :=
  if st.alive s then st.give s .idle else st

/-- The session ends and its locks with it. -/
def drop (st : Election) (s : SessionId) : Election :=
  (st.give s .ended).putLocks (st.locks.release s)

/-- `OpenConnectionAsync`: a new session, or one of the pool that is reset. -/
def openConnection (st : Election) (a : LeaderCall) (service : OpsService) (s : SessionId) :
    Election :=
  ((st.give s (.usedBy a)).enter a (.connected service s)).putLocks (st.locks.release s)

/-- `pg_try_advisory_lock` with its reply read; the query of a broken session raises. -/
def acquire (st : Election) (a : LeaderCall) (service : OpsService) (s : SessionId) : Election :=
  if st.alive s then
    let (acquired, locks) := st.locks.tryLock s service.lockKey
    if acquired then (st.enter a (.ticking service s)).putLocks locks
    else ((st.dispose s).enter a (.returned false)).putLocks locks
  else st.enter a .failed

/-- The same query, cancelled after the server has executed it. -/
def cancelAcquire (st : Election) (a : LeaderCall) (service : OpsService) (s : SessionId) :
    Election :=
  if st.alive s then
    ((st.dispose s).enter a .failed).putLocks (st.locks.tryLock s service.lockKey).2
  else st.enter a .failed

/-- `pg_advisory_unlock` in the `finally`, an exception of the tick goes on; the unlock of a
broken session raises and is swallowed. -/
def unlock (st : Election) (a : LeaderCall) (service : OpsService) (s : SessionId)
    (raised : Bool) : Election :=
  let phase := if raised then LeaderCall.Phase.failed else .returned true
  if st.alive s then
    ((st.dispose s).enter a phase).putLocks (st.locks.unlock s service.lockKey)
  else st.enter a phase

end Election

/-! ### The machine -/

/-- What may happen next. -/
inductive ElectionStep
  | openConnection (a : LeaderCall) (service : OpsService) (s : SessionId)
  | acquire (a : LeaderCall)
  | cancelAcquire (a : LeaderCall)
  | tickEnds (a : LeaderCall) (raised : Bool)
  | unlock (a : LeaderCall)
  /-- A connection breaks. -/
  | sessionEnds (s : SessionId)
  /-- The process of a call dies. -/
  | processDies (a : LeaderCall)
  deriving DecidableEq

namespace ElectionStep

open Election

def exec : ElectionStep → Election → Election
  | openConnection a service s, st => st.openConnection a service s
  | acquire a, st =>
      match st.attempts a with
      | .connected service s => st.acquire a service s
      | _ => st
  | cancelAcquire a, st =>
      match st.attempts a with
      | .connected service s => st.cancelAcquire a service s
      | _ => st
  | tickEnds a raised, st =>
      match st.attempts a with
      | .ticking service s => st.enter a (.unlocking service s raised)
      | _ => st
  | unlock a, st =>
      match st.attempts a with
      | .unlocking service s raised => st.unlock a service s raised
      | _ => st
  | sessionEnds s, st => st.drop s
  | processDies a, st =>
      match (st.attempts a).session? with
      | some s => (st.drop s).enter a .failed
      | none => st

def can : ElectionStep → Election → Bool
  -- the pool hands a session to one call at a time
  | openConnection a _ s, st =>
      st.attempts a == .fresh && (st.sessions s == .unopened || st.sessions s == .idle)
  | sessionEnds s, st => st.sessions s != .unopened
  | _, _ => true

end ElectionStep

/-- All calls in all replicas. -/
def election : Machine ElectionStep Election := .of ElectionStep.exec ElectionStep.can

/-! ### The invariant -/

namespace Election

variable {st : Election} {a b : LeaderCall} {s t : SessionId} {service : OpsService}
  {p : LeaderCall.Phase} {stray : Prop}

/-- The calls, the sessions and the locks agree.  A session of the pool may hold a lock only
if a stray acquisition is allowed for. -/
structure Sound (stray : Prop) (st : Election) : Prop where
  uses : ∀ a s, (st.attempts a).session? = some s →
    st.sessions s = .usedBy a ∨ st.sessions s = .ended
  holds : ∀ a service s, (st.attempts a).leads service s = true → st.alive s = true →
    st.locks.holder service.lockKey = some (s, 1)
  holders : ∀ k s n, st.locks.holder k = some (s, n) → (st.sessions s = .idle ∧ stray) ∨
    ∃ a service, st.sessions s = .usedBy a ∧ (st.attempts a).leads service s = true ∧
      k = service.lockKey

lemma leads_session (h : p.leads service s = true) : p.session? = some s := by
  cases p <;> simp_all [LeaderCall.Phase.leads, LeaderCall.Phase.session?]

lemma leads_iff_of_ticking {x : OpsService} :
    (LeaderCall.Phase.ticking x t).leads service s = true ↔ x = service ∧ t = s := by
  simp only [LeaderCall.Phase.leads, Bool.and_eq_true, decide_eq_true_eq]

lemma alive_iff : st.alive s = true ↔ st.sessions s ≠ .ended := by simp [alive]

@[simp] lemma attempts_enter_self : (st.enter a p).attempts a = p := Function.update_self ..

lemma attempts_enter_of_ne (h : b ≠ a) : (st.enter a p).attempts b = st.attempts b :=
  Function.update_of_ne h ..

@[simp] lemma sessions_enter : (st.enter a p).sessions = st.sessions := rfl

@[simp] lemma alive_enter : (st.enter a p).alive s = st.alive s := rfl

@[simp] lemma attempts_putLocks {L : SessionLocks SessionId Int64} :
    (st.putLocks L).attempts = st.attempts := rfl

@[simp] lemma sessions_putLocks {L : SessionLocks SessionId Int64} :
    (st.putLocks L).sessions = st.sessions := rfl

@[simp] lemma alive_putLocks {L : SessionLocks SessionId Int64} :
    (st.putLocks L).alive s = st.alive s := rfl

@[simp] lemma locks_putLocks {L : SessionLocks SessionId Int64} : (st.putLocks L).locks = L := rfl

@[simp] lemma attempts_dispose : (st.dispose s).attempts = st.attempts := by
  rw [dispose]
  split_ifs <;> rfl

lemma sessions_dispose_of_ne (h : t ≠ s) : (st.dispose s).sessions t = st.sessions t := by
  rw [dispose]
  split_ifs
  · exact Function.update_of_ne h ..
  · rfl

lemma sessions_dispose_of_alive (h : st.alive s = true) : (st.dispose s).sessions s = .idle := by
  rw [dispose, if_pos h]
  exact Function.update_self ..

lemma dispose_of_not_alive (h : ¬ st.alive s = true) : st.dispose s = st := by
  rw [dispose, if_neg h]

lemma alive_dispose : (st.dispose s).alive t = st.alive t := by
  rw [alive, alive]
  by_cases ht : t = s
  · subst ht
    by_cases h : st.alive t = true
    · rw [sessions_dispose_of_alive h, bne_iff_ne.mpr (alive_iff.mp h)]
      rfl
    · rw [dispose_of_not_alive h]
  · rw [sessions_dispose_of_ne ht]

lemma Sound.start : Sound stray Election.start where
  uses := by simp [Election.start, LeaderCall.Phase.session?]
  holds := by simp [Election.start, LeaderCall.Phase.leads]
  holders := by simp [Election.start]

/-- The session of a call is its own while it is connected. -/
lemma Sound.usedBy (h : Sound stray st) (hs : (st.attempts a).session? = some s)
    (halive : st.alive s = true) : st.sessions s = .usedBy a :=
  (h.uses a s hs).resolve_right (alive_iff.mp halive)

/-- A call that has connected and leads nothing holds no lock. -/
lemma Sound.holds_none (h : Sound stray st) (hs : (st.attempts a).session? = some s)
    (hnot : ∀ service, (st.attempts a).leads service s = false) (k : Int64) (n : ℕ) :
    st.locks.holder k ≠ some (s, n) := by
  intro hk
  have huses := h.uses a s hs
  rcases h.holders k s n hk with ⟨hidle, -⟩ | ⟨b, service, hused, hleads, -⟩
  · simp [hidle] at huses
  · rw [hused] at huses
    obtain rfl : b = a := by simpa using huses
    simp [hnot service] at hleads

/-- Opening a connection keeps the invariant. -/
lemma Sound.openConnection (h : Sound stray st) (hfresh : st.attempts a = .fresh)
    (hs : st.sessions s = .unopened ∨ st.sessions s = .idle) (service : OpsService) :
    Sound stray (st.openConnection a service s) := by
  have hother : ∀ b t, b ≠ a → (st.attempts b).session? = some t → t ≠ s := by
    rintro b t - hb rfl
    rcases h.uses b t hb with hu | hu <;> simp [hu] at hs
  have hsessions : ∀ t, t ≠ s → (st.openConnection a service s).sessions t = st.sessions t :=
    fun t ht => Function.update_of_ne ht ..
  have hattempts : ∀ b, b ≠ a → (st.openConnection a service s).attempts b = st.attempts b :=
    fun b hb => Function.update_of_ne hb ..
  have hself : (st.openConnection a service s).attempts a = .connected service s :=
    Function.update_self ..
  refine ⟨fun b t hb => ?_, fun b x t hb halive => ?_, fun k t n hk => ?_⟩
  · by_cases hba : b = a
    · subst hba
      rw [hself] at hb
      obtain rfl : s = t := by simpa [LeaderCall.Phase.session?] using hb
      exact Or.inl (Function.update_self ..)
    · rw [hattempts b hba] at hb
      rw [hsessions t (hother b t hba hb)]
      exact h.uses b t hb
  · have hba : b ≠ a := by
      rintro rfl
      simp [hself, LeaderCall.Phase.leads] at hb
    rw [hattempts b hba] at hb
    have hts : t ≠ s := hother b t hba (leads_session hb)
    rw [alive, hsessions t hts] at halive
    exact SessionLocks.holder_release.mpr ⟨h.holds b x t hb halive, hts⟩
  · obtain ⟨hk, hts⟩ := SessionLocks.holder_release.mp hk
    rw [hsessions t hts]
    rcases h.holders k t n hk with hidle | ⟨b, x, hused, hleads, hkey⟩
    · exact Or.inl hidle
    · have hba : b ≠ a := by
        rintro rfl
        simp [hfresh, LeaderCall.Phase.leads] at hleads
      exact Or.inr ⟨b, x, hused, by rwa [hattempts b hba], hkey⟩

/-- A call that leaves its session keeps the invariant, if the session has given its locks
back or a stray acquisition is allowed for. -/
lemma Sound.leave (h : Sound stray st) (hs : (st.attempts a).session? = some s)
    (hp : p.session? = none) {L : SessionLocks SessionId Int64}
    (hother : ∀ k t n, t ≠ s → (L.holder k = some (t, n) ↔ st.locks.holder k = some (t, n)))
    (hself : ∀ k n, L.holder k = some (s, n) → st.alive s = true ∧ stray) :
    Sound stray (((st.dispose s).enter a p).putLocks L) := by
  have hsession : ∀ b t, b ≠ a → (st.attempts b).session? = some t → t = s →
      st.sessions s = .ended := by
    rintro b t hb hbt rfl
    rcases h.uses b t hbt with hu | hu
    · rcases h.uses a t hs with hu' | hu'
      · exact absurd (by simpa [hu] using hu') hb
      · exact hu'
    · exact hu
  have hnot : ∀ x t, p.leads x t = true → False := fun x t hx => by
    rw [leads_session hx] at hp
    exact Option.some_ne_none t hp
  refine ⟨fun b t hb => ?_, fun b x t hb halive => ?_, fun k t n hk => ?_⟩
  · by_cases hba : b = a
    · subst hba
      rw [attempts_putLocks, attempts_enter_self, hp] at hb
      exact absurd hb (Option.some_ne_none t).symm
    · rw [attempts_putLocks, attempts_enter_of_ne hba, attempts_dispose] at hb
      rw [sessions_putLocks, sessions_enter]
      by_cases hts : t = s
      · have hended := hsession b t hba hb hts
        have hdead : ¬ st.alive s = true := by simp [alive, hended]
        rw [dispose_of_not_alive hdead]
        exact h.uses b t hb
      · rw [sessions_dispose_of_ne hts]
        exact h.uses b t hb
  · have hba : b ≠ a := by
      rintro rfl
      exact hnot x t (by simpa using hb)
    rw [attempts_putLocks, attempts_enter_of_ne hba, attempts_dispose] at hb
    rw [alive_putLocks, alive_enter, alive_dispose] at halive
    have hts : t ≠ s := by
      rintro rfl
      exact alive_iff.mp halive (hsession b t hba (leads_session hb) rfl)
    exact (hother _ t 1 hts).mpr (h.holds b x t hb halive)
  · rw [sessions_putLocks, sessions_enter]
    by_cases hts : t = s
    · subst hts
      obtain ⟨halive, hstray⟩ := hself k n hk
      exact Or.inl ⟨sessions_dispose_of_alive halive, hstray⟩
    · rw [sessions_dispose_of_ne hts]
      rcases h.holders k t n ((hother k t n hts).mp hk) with hidle | ⟨b, x, hused, hleads, hkey⟩
      · exact Or.inl hidle
      · have hba : b ≠ a := by
          rintro rfl
          rw [leads_session hleads] at hs
          exact hts (Option.some.inj hs)
        refine Or.inr ⟨b, x, hused, ?_, hkey⟩
        rwa [attempts_putLocks, attempts_enter_of_ne hba, attempts_dispose]

/-- A phase with the same session that leads the same keeps the invariant. -/
lemma Sound.enter (h : Sound stray st) (hs : p.session? = (st.attempts a).session?)
    (hleads : ∀ x t, p.leads x t = (st.attempts a).leads x t) : Sound stray (st.enter a p) := by
  have hsame : ∀ b, ((st.enter a p).attempts b).session? = (st.attempts b).session? ∧
      ∀ x t, ((st.enter a p).attempts b).leads x t = (st.attempts b).leads x t := by
    intro b
    by_cases hba : b = a
    · subst hba
      rw [attempts_enter_self]
      exact ⟨hs, hleads⟩
    · rw [attempts_enter_of_ne hba]
      exact ⟨rfl, fun x t => rfl⟩
  refine ⟨fun b t hb => ?_, fun b x t hb halive => ?_, fun k t n hk => ?_⟩
  · rw [(hsame b).1] at hb
    exact h.uses b t hb
  · rw [(hsame b).2] at hb
    exact h.holds b x t hb halive
  · rcases h.holders k t n hk with hidle | ⟨b, x, hused, hb, hkey⟩
    · exact Or.inl hidle
    · exact Or.inr ⟨b, x, hused, by rwa [(hsame b).2], hkey⟩

/-- The end of a session keeps the invariant. -/
lemma Sound.drop (h : Sound stray st) (s : SessionId) : Sound stray (st.drop s) := by
  have hsessions : ∀ t, t ≠ s → (st.drop s).sessions t = st.sessions t :=
    fun t ht => Function.update_of_ne ht ..
  have hended : (st.drop s).sessions s = .ended := Function.update_self ..
  refine ⟨fun b t hb => ?_, fun b x t hb halive => ?_, fun k t n hk => ?_⟩
  · by_cases hts : t = s
    · exact Or.inr (hts ▸ hended)
    · rw [hsessions t hts]
      exact h.uses b t hb
  · have hts : t ≠ s := by
      rintro rfl
      exact alive_iff.mp halive hended
    rw [alive, hsessions t hts] at halive
    exact SessionLocks.holder_release.mpr ⟨h.holds b x t hb halive, hts⟩
  · obtain ⟨hk, hts⟩ := SessionLocks.holder_release.mp hk
    rw [hsessions t hts]
    exact h.holders k t n hk

/-- A granted lock keeps the invariant. -/
lemma Sound.grant (h : Sound stray st) (hs : st.attempts a = .connected service s)
    (halive : st.alive s = true) (hgrant : (st.locks.tryLock s service.lockKey).1 = true) :
    Sound stray ((st.enter a (.ticking service s)).putLocks
      (st.locks.tryLock s service.lockKey).2) := by
  have hsession : (st.attempts a).session? = some s := by rw [hs]; rfl
  have hnone : ∀ x t, (st.attempts a).leads x t = false := fun x t => by rw [hs]; rfl
  have hfree : st.locks.holder service.lockKey = none := by
    rcases hk : st.locks.holder service.lockKey with _ | ⟨t, n⟩
    · rfl
    · obtain rfl := SessionLocks.tryLock_granted.mp hgrant t n hk
      exact absurd hk (h.holds_none hsession (fun x => hnone x t) _ n)
  have htaken := SessionLocks.holder_tryLock_of_free (s := s) hfree
  refine ⟨fun b t hb => ?_, fun b x t hb hlive => ?_, fun k t n hk => ?_⟩
  · by_cases hba : b = a
    · subst hba
      rw [attempts_putLocks, attempts_enter_self] at hb
      obtain rfl := Option.some.inj hb
      exact h.uses b s hsession
    · rw [attempts_putLocks, attempts_enter_of_ne hba] at hb
      exact h.uses b t hb
  · by_cases hba : b = a
    · subst hba
      rw [attempts_putLocks, attempts_enter_self, leads_iff_of_ticking] at hb
      obtain ⟨rfl, rfl⟩ := hb
      exact htaken
    · rw [attempts_putLocks, attempts_enter_of_ne hba] at hb
      have hold := h.holds b x t hb hlive
      have hne : x.lockKey ≠ service.lockKey := fun heq => by
        rw [heq, hfree] at hold
        exact Option.some_ne_none _ hold.symm
      exact (SessionLocks.holder_tryLock_of_ne hne).trans hold
  · by_cases hkey : k = service.lockKey
    · subst hkey
      obtain ⟨rfl, rfl⟩ : s = t ∧ 1 = n := by simpa using htaken.symm.trans hk
      refine Or.inr ⟨a, service, h.usedBy hsession halive, ?_, rfl⟩
      rw [attempts_putLocks, attempts_enter_self, leads_iff_of_ticking]
      exact ⟨rfl, rfl⟩
    · have hold := (SessionLocks.holder_tryLock_of_ne hkey).symm.trans hk
      rcases h.holders k t n hold with hidle | ⟨b, x, hused, hleads, hkx⟩
      · exact Or.inl hidle
      · have hba : b ≠ a := by
          rintro rfl
          exact absurd hleads (by simp [hnone])
        refine Or.inr ⟨b, x, hused, ?_, hkx⟩
        rwa [attempts_putLocks, attempts_enter_of_ne hba]

/-- A query on a connected session. -/
lemma Sound.acquire (h : Sound stray st) (hs : st.attempts a = .connected service s) :
    Sound stray (st.acquire a service s) := by
  have hsession : (st.attempts a).session? = some s := by rw [hs]; rfl
  have hnone := h.holds_none hsession fun x => by rw [hs]; rfl
  rw [Election.acquire]
  by_cases halive : st.alive s = true
  · rw [if_pos halive]
    by_cases hgrant : (st.locks.tryLock s service.lockKey).1 = true
    · simp only [hgrant, if_true]
      exact h.grant hs halive hgrant
    · rw [Bool.not_eq_true] at hgrant
      simp only [hgrant, if_false, SessionLocks.tryLock_refused hgrant, Bool.false_eq_true]
      exact h.leave hsession rfl (fun k t n _ => Iff.rfl) fun k n hk => absurd hk (hnone k n)
  · rw [if_neg halive, ← dispose_of_not_alive halive]
    exact h.leave hsession rfl (fun k t n _ => by rw [dispose_of_not_alive halive])
      fun k n hk => absurd (by rwa [dispose_of_not_alive halive] at hk) (hnone k n)

/-- A cancelled query leaves its lock, if it was granted, with a session of the pool. -/
lemma Sound.cancelAcquire (h : Sound stray st) (hstray : stray)
    (hs : st.attempts a = .connected service s) : Sound stray (st.cancelAcquire a service s) := by
  have hsession : (st.attempts a).session? = some s := by rw [hs]; rfl
  have hnone := h.holds_none hsession fun x => by rw [hs]; rfl
  rw [Election.cancelAcquire]
  by_cases halive : st.alive s = true
  · rw [if_pos halive]
    refine h.leave hsession rfl (fun k t n hts => ?_) fun k n _ => ⟨halive, hstray⟩
    by_cases hgrant : (st.locks.tryLock s service.lockKey).1 = true
    · by_cases hkey : k = service.lockKey
      · subst hkey
        rcases hk : st.locks.holder service.lockKey with _ | ⟨u, m⟩
        · rw [SessionLocks.holder_tryLock_of_free hk]
          simp [Ne.symm hts]
        · obtain rfl := SessionLocks.tryLock_granted.mp hgrant u m hk
          exact absurd hk (hnone _ m)
      · rw [SessionLocks.holder_tryLock_of_ne hkey]
    · rw [SessionLocks.tryLock_refused (Bool.not_eq_true _ ▸ hgrant)]
  · rw [if_neg halive, ← dispose_of_not_alive halive]
    exact h.leave hsession rfl (fun k t n _ => by rw [dispose_of_not_alive halive])
      fun k n hk => absurd (by rwa [dispose_of_not_alive halive] at hk) (hnone k n)

/-- The end of a `finally`. -/
lemma Sound.unlock {raised : Bool} (h : Sound stray st)
    (hs : st.attempts a = .unlocking service s raised) :
    Sound stray (st.unlock a service s raised) := by
  have hsession : (st.attempts a).session? = some s := by rw [hs]; rfl
  have hleads : (st.attempts a).leads service s = true := by
    rw [hs]
    simp [LeaderCall.Phase.leads]
  have hp : (if raised then LeaderCall.Phase.failed else .returned true).session? = none := by
    cases raised <;> rfl
  have honly : ∀ k n, st.locks.holder k = some (s, n) → st.alive s = true →
      k = service.lockKey := by
    intro k n hk halive
    have hused := h.usedBy hsession halive
    rcases h.holders k s n hk with ⟨hidle, -⟩ | ⟨b, x, hb, hx, rfl⟩
    · exact absurd (hused.symm.trans hidle) (by simp)
    · obtain rfl : a = b := by simpa using hused.symm.trans hb
      rw [hs] at hx
      simp only [LeaderCall.Phase.leads, Bool.and_eq_true, decide_eq_true_eq] at hx
      rw [hx.1]
  simp only [Election.unlock]
  by_cases halive : st.alive s = true
  · rw [if_pos halive]
    have hheld := h.holds a service s hleads halive
    refine h.leave hsession hp (fun k t n hts => ?_) fun k n hk => ?_
    · by_cases hkey : k = service.lockKey
      · subst hkey
        rw [SessionLocks.holder_unlock_of_once hheld, hheld]
        simp [Ne.symm hts]
      · rw [SessionLocks.holder_unlock_of_ne hkey]
    · by_cases hkey : k = service.lockKey
      · subst hkey
        rw [SessionLocks.holder_unlock_of_once hheld] at hk
        exact absurd hk (by simp)
      · rw [SessionLocks.holder_unlock_of_ne hkey] at hk
        exact absurd (honly k n hk halive) hkey
  · rw [if_neg halive, ← dispose_of_not_alive halive]
    refine h.leave hsession hp (fun k t n _ => by rw [dispose_of_not_alive halive]) fun k n hk => ?_
    rw [dispose_of_not_alive halive] at hk
    have hended : st.sessions s = .ended := by simpa [alive] using halive
    rcases h.holders k s n hk with ⟨hidle, -⟩ | ⟨b, x, hb, -, -⟩
    · simp [hended] at hidle
    · simp [hended] at hb

/-- Every step keeps the invariant. -/
lemma Sound.exec (h : Sound stray st) {l : ElectionStep} (hcan : l.can st = true)
    (hstray : (∃ a, l = .cancelAcquire a) → stray) : Sound stray (l.exec st) := by
  cases l with
  | openConnection a service s =>
      simp only [ElectionStep.can, Bool.and_eq_true, Bool.or_eq_true, beq_iff_eq] at hcan
      exact h.openConnection hcan.1 hcan.2 service
  | acquire a =>
      simp only [ElectionStep.exec]
      split
      · exact h.acquire ‹_›
      · exact h
  | cancelAcquire a =>
      simp only [ElectionStep.exec]
      split
      · exact h.cancelAcquire (hstray ⟨a, rfl⟩) ‹_›
      · exact h
  | tickEnds a raised =>
      simp only [ElectionStep.exec]
      split
      · rename_i service s hs
        exact h.enter (by rw [hs]; rfl) fun x t => by rw [hs]; rfl
      · exact h
  | unlock a =>
      simp only [ElectionStep.exec]
      split
      · exact h.unlock ‹_›
      · exact h
  | sessionEnds s => exact h.drop s
  | processDies a =>
      simp only [ElectionStep.exec]
      split
      · rename_i s hs
        have hdead : ¬ (st.drop s).alive s = true := by
          simp [alive, Election.drop, give, putLocks]
        have hnone : ∀ k n, (st.drop s).locks.holder k ≠ some (s, n) := fun k n hk =>
          (SessionLocks.holder_release.mp hk).2 rfl
        have hleave := (h.drop s).leave (a := a) (p := .failed) (L := (st.drop s).locks) hs rfl
          (fun k t n _ => Iff.rfl) fun k n hk => absurd hk (hnone k n)
        rwa [dispose_of_not_alive hdead] at hleave
      · exact h

/-- The invariant holds in every state of a run. -/
lemma Sound.run (h : Sound stray st) {steps : List ElectionStep}
    (hstray : ∀ a, .cancelAcquire a ∈ steps → stray) :
    Sound stray (election.run st steps) := by
  refine Machine.run_inv_mem (K := fun l => (∃ a, l = .cancelAcquire a) → stray)
    (fun l st hcan hs hl => hs.exec hcan hl) h steps ?_
  rintro _ hl ⟨a, rfl⟩
  exact hstray a hl

/-! ### The results -/

/-- **One tick at a time.**  However the calls of all replicas interleave, whatever sessions
break and processes die: at most one call on a connected session runs the tick of a service. -/
theorem one_tick_of_a_service (steps : List ElectionStep) (service : OpsService) :
    {a | ∃ s, (election.run start steps).attempts a = .ticking service s ∧
      (election.run start steps).alive s = true}.Subsingleton := by
  have hsound : Sound True (election.run start steps) := Sound.start.run fun _ _ => trivial
  have hleads : ∀ {c u}, (election.run start steps).attempts c = .ticking service u →
      ((election.run start steps).attempts c).leads service u = true := fun hc => by
    rw [hc, leads_iff_of_ticking]
    exact ⟨rfl, rfl⟩
  rintro a ⟨s, ha, hs⟩ b ⟨t, hb, ht⟩
  have hheld := (hsound.holds a service s (hleads ha) hs).symm.trans
    (hsound.holds b service t (hleads hb) ht)
  obtain rfl : s = t := by simpa using hheld
  have hua := hsound.usedBy (leads_session (hleads ha)) hs
  have hub := hsound.usedBy (leads_session (hleads hb)) hs
  simpa using hua.symm.trans hub

/-- **A tick is skipped only for a tick.**  In every run without a cancelled query: a call is
refused exactly if another call on a connected session is between the acquisition of the same
service and the end of its `finally`; a broken session, a dead process and another service
refuse nobody. -/
theorem refused_iff_busy (a : LeaderCall) (service : OpsService) (s : SessionId)
    (steps : List ElectionStep) (hclean : ∀ c, .cancelAcquire c ∉ steps)
    (ha : (election.run start steps).attempts a = .connected service s)
    (hs : (election.run start steps).alive s = true) :
    (election.run start (steps ++ [.acquire a])).attempts a = .returned false ↔
      ∃ b t, ((election.run start steps).attempts b).leads service t = true ∧
        (election.run start steps).alive t = true := by
  have hsound : Sound False (election.run start steps) := Sound.start.run hclean
  rw [Machine.run_append]
  set st := election.run start steps with hst
  have hnext : election.run st [.acquire a] = st.acquire a service s := by
    have hmoves : election.moves (.acquire a) st = true := rfl
    rw [Machine.run_cons, Machine.run_nil, Machine.next, if_pos hmoves]
    change ElectionStep.exec (.acquire a) st = _
    simp only [ElectionStep.exec, ha]
  rw [hnext, Election.acquire, if_pos hs]
  by_cases hgrant : (st.locks.tryLock s service.lockKey).1 = true
  · simp only [hgrant, if_true, attempts_putLocks, attempts_enter_self]
    refine iff_of_false (by simp) ?_
    rintro ⟨b, t, hleads, ht⟩
    have hheld := hsound.holds b service t hleads ht
    obtain rfl := SessionLocks.tryLock_granted.mp hgrant t 1 hheld
    refine absurd hheld (hsound.holds_none (a := a) (by rw [ha]; rfl) (fun x => ?_) _ 1)
    rw [ha]
    rfl
  · rw [Bool.not_eq_true] at hgrant
    simp only [hgrant, Bool.false_eq_true, if_false, attempts_putLocks, attempts_enter_self]
    refine iff_of_true trivial ?_
    have hheld : ∃ t n, st.locks.holder service.lockKey = some (t, n) ∧ t ≠ s := by
      by_contra hnone
      push Not at hnone
      exact absurd (SessionLocks.tryLock_granted.mpr hnone) (by simp [hgrant])
    obtain ⟨t, n, hk, -⟩ := hheld
    rcases hsound.holders _ t n hk with ⟨-, hfalse⟩ | ⟨b, x, hused, hleads, hkey⟩
    · exact hfalse.elim
    · obtain rfl := OpsService.lockKey_injective hkey
      exact ⟨b, t, hleads, alive_iff.mpr (by simp [hused])⟩

/-- A second call finds the tick of the first one running. -/
theorem refused_while_ticking :
    (election.run start ([.openConnection 0 .watchdog 0, .acquire 0,
      .openConnection 1 .watchdog 1] ++ [.acquire 1])).attempts 1 = .returned false :=
  (refused_iff_busy 1 .watchdog 1
    [.openConnection 0 .watchdog 0, .acquire 0, .openConnection 1 .watchdog 1]
    (by simp) (by decide) (by decide)).mpr ⟨0, 0, by decide, by decide⟩

end Election

end Networker
