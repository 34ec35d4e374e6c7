/-
The status of an agent against its entry in the connection registry.

* `Presence.online`, `Presence.mapped`: the two stores, read for one agent;
* `Stage.joins`, `Stage.parts`: a connect between its save and its register, a
  disconnect between its unregister and its save;
* `Presence.Agrees`: what the two stores and the handlers between their steps have to
  do with each other; `Agrees.advance` is its step lemma;
* `status_follows_registry`: the two stores agree between handlers along every run in
  which no disconnect saves its row across a newer connect.
-/
import Networker.ControlPlane.AgentSockets

namespace Networker

open Data Concurrency AgentConnectionRegistry AgentMessageProcessor AgentSocketEndpoint

namespace Stage

/-- The connect has written the status and has not registered. -/
def joins : Stage → Bool
  | marked _ | announced => true
  | _ => false

/-- The disconnect has unregistered and has not written the status. -/
def parts : Stage → Bool
  | unregistered | leaving _ => true
  | _ => false

/-- The unregister is still to come or under way. -/
def unregisters : Stage → Bool
  | closing | unregistering => true
  | _ => false

/-- A disconnect whose save is going to write the column. -/
def clears : Stage → Bool
  | unregistered => true
  | leaving found => found != some "offline"
  | _ => false

/-- The row was there when the handler read it. -/
def sawRow : Stage → Bool
  | connecting found _ | leaving found => found.isSome
  | _ => true

end Stage

namespace Presence

variable {s : Presence} {a b : Guid} {i : ConnectionId} {x : AgentSocket} {st st' : Stage}

/-- The row of the agent says `online`. -/
def online (s : Presence) (a : Guid) : Prop := readStatus a s = some "online"

/-- The registry holds a connection of the agent. -/
def mapped (s : Presence) (a : Guid) : Prop := (s.connections a).isSome

/-- Some handler of the agent stands at such a stage. -/
def has (s : Presence) (a : Guid) (p : Stage → Bool) : Prop :=
  ∃ x ∈ s.sockets, x.agent = a ∧ p x.stage = true

/-- No handler of the agent is between its steps. -/
def quiet (s : Presence) (a : Guid) : Prop := ¬ s.has a Stage.joins ∧ ¬ s.has a Stage.parts

instance : Decidable (s.online a) := inferInstanceAs (Decidable (_ = _))
instance : Decidable (s.mapped a) := inferInstanceAs (Decidable (_ = true))
instance {p : Stage → Bool} : Decidable (s.has a p) := inferInstanceAs (Decidable (∃ _ ∈ _, _))
instance : Decidable (s.quiet a) := inferInstanceAs (Decidable (_ ∧ _))

/-! ### The handlers at a stage -/

/-- Some other handler of the agent stands at such a stage. -/
def hasBeside (s : Presence) (i : ConnectionId) (a : Guid) (p : Stage → Bool) : Prop :=
  ∃ j x, j ≠ i ∧ s.sockets[j]? = some x ∧ x.agent = a ∧ p x.stage = true

lemma has_iff {p : Stage → Bool} (hget : s.sockets[i]? = some x) :
    s.has a p ↔ (x.agent = a ∧ p x.stage = true) ∨ s.hasBeside i a p := by
  constructor
  · rintro ⟨y, hy, hya, hp⟩
    obtain ⟨j, hj⟩ := List.mem_iff_getElem?.mp hy
    by_cases hji : j = i
    · subst hji
      obtain rfl := Option.some.inj (hget.symm.trans hj)
      exact Or.inl ⟨hya, hp⟩
    · exact Or.inr ⟨j, y, hji, hj, hya, hp⟩
  · rintro (⟨hxa, hp⟩ | ⟨j, y, -, hj, hya, hp⟩)
    · exact ⟨x, List.mem_of_getElem? hget, hxa, hp⟩
    · exact ⟨y, List.mem_of_getElem? hj, hya, hp⟩

/-- The handlers after one of them has moved on. -/
lemma has_set {p : Stage → Bool} {s' : Presence} (hget : s.sockets[i]? = some x)
    (hs' : s'.sockets = s.sockets.set i ⟨b, st⟩) :
    s'.has a p ↔ (b = a ∧ p st = true) ∨ s.hasBeside i a p := by
  have hi : i < s.sockets.length := (List.getElem?_eq_some_iff.mp hget).1
  have hself : s'.sockets[i]? = some ⟨b, st⟩ := by
    rw [hs', List.getElem?_set_self hi]
  rw [has_iff hself]
  have hbeside : s'.hasBeside i a p ↔ s.hasBeside i a p := by
    constructor <;> rintro ⟨j, y, hji, hj, h⟩
    · exact ⟨j, y, hji, by rwa [hs', List.getElem?_set_ne (Ne.symm hji)] at hj, h⟩
    · exact ⟨j, y, hji, by rwa [hs', List.getElem?_set_ne (Ne.symm hji)], h⟩
  rw [hbeside]

/-! ### The two stores and the handlers -/

/-- The agreement of the two stores up to the handlers between their steps. -/
structure Agrees (s : Presence) (a : Guid) : Prop where
  /-- An online row has a connection, or a handler that is about to settle it. -/
  settled : s.online a → s.mapped a ∨ s.has a Stage.joins ∨ s.has a Stage.clears
  live : s.mapped a → s.online a
  joined : s.has a Stage.joins → s.online a
  row : s.has a (fun _ => true) → (readStatus a s).isSome
  read : ¬ s.has a fun st => !st.sawRow

lemma clears_parts (h : st.clears = true) : st.parts = true := by
  cases st <;> simp_all [Stage.clears, Stage.parts]

/-- Between handlers the two stores agree. -/
lemma Agrees.iff (h : s.Agrees a) (hq : s.quiet a) : s.online a ↔ s.mapped a := by
  refine ⟨fun ho => ?_, h.live⟩
  rcases h.settled ho with hm | hj | ⟨x, hx, hxa, hc⟩
  · exact hm
  · exact absurd hj hq.1
  · exact absurd ⟨x, hx, hxa, clears_parts hc⟩ hq.2

/-- A handler of the agent moves on: what it leaves to show. -/
lemma Agrees.move (h : s.Agrees a) (st' : Stage) {s' : Presence}
    (hget : s.sockets[i]? = some ⟨a, st⟩)
    (hs' : s'.sockets = s.sockets.set i ⟨a, st'⟩)
    (honline : s'.online a → s'.mapped a ∨ (st'.joins = true ∨ s.hasBeside i a Stage.joins) ∨
      (st'.clears = true ∨ s.hasBeside i a Stage.clears))
    (hmapped : s'.mapped a → s'.online a)
    (hjoins : st'.joins = true ∨ s.hasBeside i a Stage.joins → s'.online a)
    (hrow : (readStatus a s').isSome = (readStatus a s).isSome) (hsaw : st'.sawRow = true) :
    s'.Agrees a where
  settled ho := by
    rw [has_set hget hs', has_set hget hs']
    simpa using honline ho
  live := hmapped
  joined hj := hjoins (by simpa [has_set hget hs'] using hj)
  row _ := hrow ▸ h.row ⟨_, List.mem_of_getElem? hget, rfl, rfl⟩
  read := by
    have hbeside : ¬ s.hasBeside i a fun st => !st.sawRow := fun hb =>
      h.read ((has_iff hget).mpr (Or.inr hb))
    rw [has_set hget hs']
    simp [hsaw, hbeside]

/-- A handler that only changes its stage, between stages that stand alike. -/
lemma Agrees.keep (h : s.Agrees a) (st' : Stage) {s' : Presence}
    (hget : s.sockets[i]? = some ⟨a, st⟩)
    (hs' : s'.sockets = s.sockets.set i ⟨a, st'⟩) (hstatus : readStatus a s' = readStatus a s)
    (hmap : s'.connections a = s.connections a) (hj : st'.joins = st.joins)
    (hc : st'.clears = st.clears) (hsaw : st'.sawRow = true) : s'.Agrees a := by
  have ho : s'.online a ↔ s.online a := by rw [online, online, hstatus]
  have hm : s'.mapped a ↔ s.mapped a := by rw [mapped, mapped, hmap]
  have hjoins := has_iff (a := a) (p := Stage.joins) hget
  have hclears := has_iff (a := a) (p := Stage.clears) hget
  refine h.move _ hget hs' ?_ ?_ ?_ (by rw [hstatus]) hsaw
  · rw [ho, hm, hj, hc]
    simpa [hjoins, hclears] using h.settled
  · rw [ho, hm]
    exact h.live
  · rw [ho, hj]
    simpa [hjoins] using h.joined

/-! ### What the statements do to the two stores -/

@[simp] lemma readStatus_enter : readStatus a (enter i b st s) = readStatus a s := rfl

@[simp] lemma connections_enter : (enter i b st s).connections = s.connections := rfl

@[simp] lemma sockets_enter : (enter i b st s).sockets = s.sockets.set i ⟨b, st⟩ := rfl

@[simp] lemma readStatus_register : readStatus a (register b i s) = readStatus a s := rfl

@[simp] lemma readStatus_remove : readStatus a (remove b s) = readStatus a s := rfl

@[simp] lemma readStatus_publish {e : DashboardEvent} :
    readStatus a (publish e s) = readStatus a s := rfl

section Save

variable {found status : String} {hb : Option Time} {f : Option String}

@[simp] lemma connections_saveStatus :
    (saveStatus b f status hb s).connections = s.connections := by
  cases f <;> rfl

@[simp] lemma sockets_saveStatus : (saveStatus b f status hb s).sockets = s.sockets := by
  cases f <;> rfl

/-- The status after a save: the read one stays where the save does not write. -/
lemma readStatus_saveStatus :
    readStatus a (saveStatus a (some found) status hb s) =
      (readStatus a s).map fun current => if found = status then current else status := by
  simp only [readStatus, saveStatus, Table.find?_update_self, Option.map_map]
  rfl

lemma readStatus_saveStatus_ne (hne : a ≠ b) :
    readStatus a (saveStatus b f status hb s) = readStatus a s := by
  cases f with
  | none => rfl
  | some found => simp only [readStatus, saveStatus, Table.find?_update_ne hne]

lemma readStatus_saveStatus_isSome :
    (readStatus a (saveStatus b f status hb s)).isSome = (readStatus a s).isSome := by
  by_cases hab : a = b
  · subst hab
    cases f with
    | none => rfl
    | some found => rw [readStatus_saveStatus, Option.isSome_map]
  · rw [readStatus_saveStatus_ne hab]

end Save

/-- The next statement of a handler moves the handler and nothing else of the sockets. -/
lemma exists_sockets_statement (hget : s.sockets[i]? = some ⟨b, st⟩) :
    ∃ st', (statement i b st s).sockets = s.sockets.set i ⟨b, st'⟩ := by
  cases st with
  | closing | unregistering =>
      rw [statement]
      split_ifs <;> exact ⟨_, rfl⟩
  | closed =>
      refine ⟨.closed, ?_⟩
      obtain ⟨hi, hx⟩ := List.getElem?_eq_some_iff.mp hget
      rw [← hx, List.set_getElem_self]
      rfl
  | connecting found now => exact ⟨.marked now, by simp [statement, saveOnline]⟩
  | leaving found => exact ⟨.left, by simp [statement, saveOffline]⟩
  | _ => exact ⟨_, rfl⟩

/-- A handler leaves the stores of the other agents alone. -/
lemma stores_statement_ne (i : ConnectionId) (st : Stage) (s : Presence) (hne : a ≠ b) :
    readStatus a (statement i b st s) = readStatus a s ∧
      (statement i b st s).connections a = s.connections a := by
  cases st with
  | closing =>
      rw [statement]
      split_ifs <;> exact ⟨rfl, rfl⟩
  | unregistering =>
      rw [statement]
      split_ifs
      · exact ⟨rfl, if_neg hne⟩
      · exact ⟨rfl, rfl⟩
  | connecting found now =>
      exact ⟨by rw [statement, readStatus_enter, saveOnline, readStatus_saveStatus_ne hne],
        by simp [statement, saveOnline]⟩
  | leaving found =>
      exact ⟨by rw [statement, readStatus_enter, saveOffline, readStatus_saveStatus_ne hne],
        by simp [statement, saveOffline]⟩
  | announced => exact ⟨rfl, if_neg hne⟩
  | _ => exact ⟨rfl, rfl⟩

/-! ### Steps that keep the agreement -/

/-- The save of a connect or a disconnect is not overtaken: a connect that read `online`
saves while the row still says so, and a disconnect that writes `offline` saves while the
agent has neither a connection nor a handler that is about to register one. -/
def Undisturbed (s : Presence) (a : Guid) : Stage → Prop
  | .connecting found _ => found = some "online" → s.online a
  | .leaving found => found ≠ some "offline" → ¬ s.mapped a ∧ ¬ s.has a Stage.joins
  | _ => True

instance : DecidablePred (s.Undisturbed a)
  | .connecting _ _ => inferInstanceAs (Decidable (_ → _))
  | .leaving _ => inferInstanceAs (Decidable (_ → _))
  | .accepted | .marked _ | .announced | .serving | .closing | .unregistering | .unregistered
  | .left | .closed => isTrue trivial

/-- The statement of a handler of the agent. -/
lemma Agrees.step (h : s.Agrees a) (hget : s.sockets[i]? = some ⟨a, st⟩)
    (hok : s.Undisturbed a st) : (statement i a st s).Agrees a := by
  have hjoins := has_iff (a := a) (p := Stage.joins) hget
  have hclears := has_iff (a := a) (p := Stage.clears) hget
  have hsaw : st.sawRow = true := by
    by_contra hn
    exact h.read ((has_iff hget).mpr (Or.inl ⟨rfl, by simpa using hn⟩))
  have hrow : (readStatus a s).isSome = true :=
    h.row ⟨_, List.mem_of_getElem? hget, rfl, rfl⟩
  cases st with
  | accepted => exact h.keep _ hget rfl rfl rfl rfl rfl hrow
  | connecting found now =>
      -- the row says `online` now, whether or not the save wrote it
      obtain ⟨found, rfl⟩ := Option.isSome_iff_exists.mp hsaw
      have hon : (statement i a (.connecting (some found) now) s).online a := by
        obtain ⟨current, hcur⟩ := Option.isSome_iff_exists.mp hrow
        rw [statement, online, readStatus_enter, saveOnline,
          readStatus_saveStatus, hcur, Option.map_some]
        split_ifs with hf
        · rw [← hcur]
          exact hok (by rw [hf])
        · rfl
      refine h.move (.marked now) hget ?_ (fun _ => Or.inr (Or.inl (Or.inl rfl)))
        (fun _ => hon) (fun _ => hon) ?_ rfl
      · simp [statement, saveOnline]
      · rw [statement, readStatus_enter, saveOnline,
          readStatus_saveStatus_isSome]
  | marked now => exact h.keep _ hget rfl rfl rfl rfl rfl rfl
  | announced =>
      have hon : s.online a := h.joined (hjoins.mpr (Or.inl ⟨rfl, rfl⟩))
      refine h.move .serving hget rfl (fun _ => Or.inl ?_) (fun _ => hon) (fun _ => hon)
        rfl rfl
      simp [mapped, statement, register, enter]
  | serving => exact h.keep _ hget rfl rfl rfl rfl rfl rfl
  | closing =>
      rw [statement]
      split_ifs
      · exact h.keep .unregistering hget rfl rfl rfl rfl rfl rfl
      · exact h.keep .closed hget rfl rfl rfl rfl rfl rfl
  | unregistering =>
      rw [statement]
      split_ifs
      · -- the row stays online until this handler has saved it
        refine h.move .unregistered hget rfl (fun _ => Or.inr (Or.inr (Or.inl rfl)))
          (fun hm => ?_) (fun hj => ?_) rfl rfl
        · simp [mapped, remove, enter] at hm
        · exact h.joined (hjoins.mpr (hj.imp (fun hj => absurd hj (by decide)) id))
      · exact h.keep .closed hget rfl rfl rfl rfl rfl rfl
  | unregistered =>
      refine h.move (.leaving (readStatus a s)) hget rfl
        (fun ho => Or.inr (Or.inr (Or.inl ?_))) h.live (fun hj => ?_) rfl hrow
      · have ho : readStatus a s = some "online" := ho
        rw [ho]
        rfl
      · exact h.joined (hjoins.mpr (hj.imp (fun hj => absurd hj (by simp [Stage.joins])) id))
  | leaving found =>
      obtain ⟨found, rfl⟩ := Option.isSome_iff_exists.mp hsaw
      have hsockets : (statement i a (.leaving (some found)) s).sockets =
          s.sockets.set i ⟨a, .left⟩ := by
        simp [statement, saveOffline]
      have hmap : (statement i a (.leaving (some found)) s).connections a =
          s.connections a := by
        simp [statement, saveOffline]
      have hstatus : readStatus a (statement i a (.leaving (some found)) s) =
          (readStatus a s).map fun current => if found = "offline" then current else "offline" := by
        rw [statement, readStatus_enter, saveOffline, readStatus_saveStatus]
      by_cases hf : found = "offline"
      · -- the save does not write the column
        subst hf
        refine h.keep _ hget hsockets ?_ hmap rfl rfl rfl
        rw [hstatus]
        simp
      · obtain ⟨hm, hj⟩ := hok (by simpa using hf)
        have hoff : ¬ (statement i a (.leaving (some found)) s).online a := by
          obtain ⟨current, hcur⟩ := Option.isSome_iff_exists.mp hrow
          rw [online, hstatus, hcur]
          simp [hf]
        refine h.move _ hget hsockets (fun ho => absurd ho hoff) (fun hm' => ?_) (fun hj' => ?_) ?_ rfl
        · rw [mapped, hmap] at hm'
          exact absurd hm' hm
        · exact absurd (hjoins.mpr (hj'.imp (fun h => absurd h (by decide)) id)) hj
        · rw [hstatus, Option.isSome_map]
  | left => exact h.keep _ hget rfl rfl rfl rfl rfl rfl
  | closed => exact h

/-- A handler that moves on without a statement on the stores of the agent. -/
lemma Agrees.beside (h : s.Agrees a) (hne : a ≠ b) (st' : Stage) {s' : Presence}
    (hget : s.sockets[i]? = some ⟨b, st⟩) (hs' : s'.sockets = s.sockets.set i ⟨b, st'⟩)
    (hstatus : readStatus a s' = readStatus a s) (hmap : s'.connections a = s.connections a) :
    s'.Agrees a := by
  have hhas : ∀ p, s'.has a p ↔ s.has a p := by
    intro p
    rw [has_set hget hs', has_iff hget]
    simp [Ne.symm hne]
  have ho : s'.online a ↔ s.online a := by simp only [Presence.online, hstatus]
  have hm : s'.mapped a ↔ s.mapped a := by simp only [Presence.mapped, hmap]
  exact ⟨by simpa only [ho, hm, hhas] using h.settled, by simpa only [ho, hm] using h.live,
    by simpa only [ho, hhas] using h.joined, by simpa only [hstatus, hhas] using h.row,
    by simpa only [hhas] using h.read⟩

/-- The next statement of a handler of any agent. -/
lemma Agrees.advance (h : s.Agrees a)
    (hok : ∀ x ∈ s.sockets[i]?, x.agent = a → s.Undisturbed a x.stage) :
    (AgentSocketEndpoint.advance i s).Agrees a := by
  rw [AgentSocketEndpoint.advance]
  cases hget : s.sockets[i]? with
  | none => exact h
  | some x =>
      obtain ⟨b, st⟩ := x
      by_cases hab : a = b
      · subst hab
        exact h.step hget (hok _ hget rfl)
      · obtain ⟨st', hs'⟩ := exists_sockets_statement hget
        obtain ⟨hstatus, hmap⟩ := stores_statement_ne i st s hab
        exact h.beside hab st' hget hs' hstatus hmap

/-- An aborted request. -/
lemma Agrees.abort (h : s.Agrees a) : (AgentSocketEndpoint.abort i s).Agrees a := by
  have key : ∀ b st, s.sockets[i]? = some ⟨b, st⟩ → st.joins = false → st.clears = false →
      (enter i b .closing s).Agrees a := by
    intro b st hget hj hc
    by_cases hab : a = b
    · subst hab
      exact h.keep .closing hget rfl rfl rfl hj.symm hc.symm rfl
    · exact h.beside hab .closing hget rfl rfl rfl
  rw [AgentSocketEndpoint.abort]
  split
  · rename_i b hget
    exact key b _ hget rfl rfl
  · rename_i b found now hget
    exact key b _ hget rfl rfl
  · exact h

/-- An accepted socket of an agent that has a row. -/
lemma Agrees.accept (h : s.Agrees a) (hb : (s.agents.find? b).isSome = true) :
    (SocketStep.exec (.accept b) s).Agrees a := by
  have hhas : ∀ p : Stage → Bool, p .accepted = false →
      ((SocketStep.exec (.accept b) s).has a p ↔ s.has a p) := by
    intro p hp
    simp [SocketStep.exec, has, or_and_right, exists_or, hp]
  refine ⟨fun ho => ?_, h.live, fun hj => h.joined ((hhas _ rfl).mp hj), ?_, fun hr => ?_⟩
  · rw [hhas _ rfl, hhas _ rfl]
    exact h.settled ho
  · rintro ⟨x, hx, hxa, -⟩
    rcases List.mem_append.mp hx with hx | hx
    · exact h.row ⟨x, hx, hxa, rfl⟩
    · obtain rfl := List.mem_singleton.mp hx
      obtain rfl : b = a := hxa
      exact (Option.isSome_map).trans hb
  · exact h.read ((hhas _ rfl).mp hr)

/-- A control plane that has just started agrees on every agent whose row is not online. -/
lemma Agrees.started {now : Time} {agents : Table Agent} (h : ¬ (started now agents).online a) :
    (started now agents).Agrees a :=
  ⟨fun ho => absurd ho h, fun hm => absurd hm (by simp [mapped, Presence.started]),
    fun ⟨_, hx, _⟩ => absurd hx (by simp [Presence.started]),
    fun ⟨_, hx, _⟩ => absurd hx (by simp [Presence.started]),
    fun ⟨_, hx, _⟩ => absurd hx (by simp [Presence.started])⟩

/-- An unregister takes no connection but its own off the registry. -/
lemma unregister_keeps {j : ConnectionId} (hget : s.sockets[i]? = some x)
    (hst : x.stage.unregisters = true) (hb : s.connections b = some j) (hji : j ≠ i) :
    (AgentSocketEndpoint.advance i s).connections b = some j := by
  obtain ⟨c, st⟩ := x
  simp only [AgentSocketEndpoint.advance, hget]
  cases st with
  | closing =>
      rw [statement]
      split_ifs <;> exact hb
  | unregistering =>
      rw [statement]
      split_ifs with hown
      · -- the compare sees the own id, so the connection removed is not the kept one
        have hc : s.connections c = some i := by simpa [tryGetValue] using hown
        have hbc : b ≠ c := by
          rintro rfl
          exact hji (Option.some.inj (hb.symm.trans hc))
        exact (if_neg hbc).trans hb
      · exact hb
  | _ => simp [Stage.unregisters] at hst

end Presence

open Presence

/-- No save of the agent's handlers is overtaken. -/
def SocketStep.Orderly (a : Guid) : SocketStep → Presence → Prop
  | .advance i, s => ∀ x ∈ s.sockets[i]?, x.agent = a → s.Undisturbed a x.stage
  | _, _ => True

instance SocketStep.decidableOrderly (a : Guid) : ∀ l s, Decidable (SocketStep.Orderly a l s)
  | .advance i, s => inferInstanceAs (Decidable (∀ x ∈ s.sockets[i]?, _))
  | .elapse _, _ | .accept _, _ | .abort _, _ => isTrue trivial

/-- The agreement along a run. -/
lemma Presence.Agrees.run {s : Presence} {a : Guid} (h : s.Agrees a) :
    ∀ ls, agentSockets.Along (SocketStep.Orderly a) s ls → (agentSockets.run s ls).Agrees a := by
  refine Machine.run_inv (I := fun s : Presence => s.Agrees a) (fun l s hcan hs hok => ?_) h
  cases l with
  | elapse span => exact ⟨hs.settled, hs.live, hs.joined, hs.row, hs.read⟩
  | accept b => exact hs.accept hcan
  | advance i => exact hs.advance hok
  | abort i => exact hs.abort

/-- The status of an agent follows its entry in the registry.  In every state of every run
an unregister takes no connection off the registry but its own.  In every run of an agent
whose row is not online at the start, and in which none of its saves is overtaken, the row
is online between handlers if and only if the registry holds a connection. -/
theorem status_follows_registry (now : Time) (agents : Table Agent) (a : Guid)
    (ls : List SocketStep) :
    (∀ i x b j, (agentSockets.run (.started now agents) ls).sockets[i]? = some x →
      x.stage.unregisters = true →
      (agentSockets.run (.started now agents) ls).connections b = some j → j ≠ i →
      (agentSockets.run (.started now agents) (ls ++ [.advance i])).connections b = some j) ∧
    (¬ (Presence.started now agents).online a →
      agentSockets.Along (SocketStep.Orderly a) (.started now agents) ls →
      (agentSockets.run (.started now agents) ls).quiet a →
      ((agentSockets.run (.started now agents) ls).online a ↔
        (agentSockets.run (.started now agents) ls).mapped a)) := by
  refine ⟨fun i x b j hget hst hb hji => ?_, fun h0 h hq => ?_⟩
  · rw [Machine.run_append]
    exact unregister_keeps hget hst hb hji
  · exact ((Agrees.started h0).run ls h).iff hq

namespace OneAgent

/-- One agent of a project, offline. -/
def agents : Table Agent :=
  ⟨[⟨0, "p", some "0.30.0", none, "offline", none⟩], 1, by decide, by decide⟩

/-- A socket is accepted, connects and registers. -/
def connects (i : ConnectionId) : List SocketStep := .accept 0 :: List.replicate 4 (.advance i)

/-- Two sockets one after the other; the second one stays. -/
def reconnects : List SocketStep :=
  connects 0 ++ List.replicate 7 (.advance 0) ++ .elapse (seconds 5) :: connects 1

/-- The second socket registers between the unregister and the save of the first. -/
def overtaken : List SocketStep :=
  connects 0 ++ List.replicate 3 (.advance 0) ++ connects 1 ++ List.replicate 3 (.advance 0)

end OneAgent

open OneAgent in
theorem status_follows_registry_reconnected :
    (agentSockets.run (.started 0 agents) reconnects).online 0 ↔
      (agentSockets.run (.started 0 agents) reconnects).mapped 0 :=
  (status_follows_registry 0 agents 0 reconnects).2 (by decide +kernel) (by decide +kernel)
    (by decide +kernel)

open OneAgent in
/-- The disconnect of the first socket marks the agent offline under its second one. -/
theorem live_agent_marked_offline :
    ¬ (Presence.started 0 agents).online 0 ∧
      (agentSockets.run (.started 0 agents) overtaken).quiet 0 ∧
      (agentSockets.run (.started 0 agents) overtaken).connections 0 = some 1 ∧
      ¬ (agentSockets.run (.started 0 agents) overtaken).online 0 := by
  decide +kernel

end Networker
