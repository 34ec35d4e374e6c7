/-
The sockets of the agents: connect, serve and disconnect.

* `Stage`: where the handler of one socket stands, named by the statement it has
  executed last;
* `Presence`: the agent rows, the connection registry, the sockets accepted so far
  and the event bus;
* `AgentConnectionRegistry`: the map from agents to connections;
* `AgentMessageProcessor.readStatus`, `saveOnline`, `saveOffline`: the tracked row of a
  connect and of a disconnect;
* `AgentSocketEndpoint.advance`: the statements of one handler;
* `SocketStep`, `agentSockets`: the machine of all sockets.
-/
import Networker.Concurrency.Machine
import Networker.ControlPlane.World

namespace Networker

open Data Concurrency

/-- The id of a connection: its place in the order the sockets were accepted in. -/
abbrev ConnectionId : Type := ℕ

/-- Where the handler of a socket stands. -/
inductive Stage
  /-- The upgrade is accepted. -/
  | accepted
  /-- The connect has read the row with this status at this time. -/
  | connecting (found : Option String) (now : Time)
  /-- The connect has saved the row. -/
  | marked (now : Time)
  /-- The connect has published the status. -/
  | announced
  /-- The connection is registered, the frames are pumped. -/
  | serving
  /-- The pump has ended. -/
  | closing
  /-- The unregister has seen its own connection in the registry. -/
  | unregistering
  /-- The unregister has removed the connection. -/
  | unregistered
  /-- The disconnect has read the row with this status. -/
  | leaving (found : Option String)
  /-- The disconnect has saved the row. -/
  | left
  | closed
  deriving DecidableEq

/-- An accepted socket of an authenticated agent. -/
structure AgentSocket where
  agent : Guid
  stage : Stage

/-- The state the handlers of the agent sockets share. -/
structure Presence where
  now : Time
  agents : Table Agent
  connections : Guid → Option ConnectionId
  sockets : List AgentSocket
  bus : List DashboardEvent

/-! ### The registry -/

namespace AgentConnectionRegistry

/-- The last writer wins. -/
def register (agentId : Guid) (connectionId : ConnectionId) (s : Presence) : Presence :=
  { s with connections := fun a => if a = agentId then some connectionId else s.connections a }

/-- The read of `Unregister`. -/
def tryGetValue (agentId : Guid) (connectionId : ConnectionId) (s : Presence) : Bool :=
  s.connections agentId == some connectionId

/-- The compare-and-remove of `Unregister`, where the compare succeeds. -/
def remove (agentId : Guid) (s : Presence) : Presence :=
  { s with connections := fun a => if a = agentId then none else s.connections a }

end AgentConnectionRegistry

/-! ### The row -/

/-- A tracked row saved with a status: the column is written only where the status
differs from the one that was read. -/
def Agent.save (found status : String) (heartbeat : Option Time) (a : Agent) : Agent :=
  a.mark (if found = status then a.status else status) heartbeat

lemma Agent.key_save (found status : String) (heartbeat : Option Time) (a : Agent) :
    Keyed.key (a.save found status heartbeat) = Keyed.key a := rfl

namespace AgentMessageProcessor

/-- The status a connect or a disconnect reads; `none` where there is no row. -/
def readStatus (agentId : Guid) (s : Presence) : Option String :=
  (s.agents.find? agentId).map Agent.status

/-- Save a row that was read with a status; a missing row is not saved. -/
def saveStatus (agentId : Guid) (found : Option String) (status : String)
    (heartbeat : Option Time) (s : Presence) : Presence :=
  match found with
  | none => s
  | some found =>
      { s with agents := s.agents.update agentId (fun _ => true) (Agent.save found status heartbeat)
                 (Agent.key_save found status heartbeat) }

def saveOnline (agentId : Guid) (found : Option String) (now : Time) : Presence → Presence :=
  saveStatus agentId found "online" (some now)

def saveOffline (agentId : Guid) (found : Option String) : Presence → Presence :=
  saveStatus agentId found "offline" none

def publish (e : DashboardEvent) (s : Presence) : Presence := { s with bus := s.bus ++ [e] }

end AgentMessageProcessor

/-! ### The handler of one socket -/

namespace AgentSocketEndpoint

open AgentConnectionRegistry AgentMessageProcessor

/-- The handler of the socket `i` of an agent moves on. -/
def enter (i : ConnectionId) (agentId : Guid) (stage : Stage) (s : Presence) : Presence :=
  { s with sockets := s.sockets.set i ⟨agentId, stage⟩ }

/-- The next statement of the handler of the socket `i`, by the stage it stands at. -/
def statement (i : ConnectionId) (agentId : Guid) : Stage → Presence → Presence
  | .accepted, s => enter i agentId (.connecting (readStatus agentId s) s.now) s
  | .connecting found now, s => enter i agentId (.marked now) (saveOnline agentId found now s)
  | .marked now, s =>
      enter i agentId .announced (publish (.agentStatus agentId "online" (some now)) s)
  | .announced, s => enter i agentId .serving (register agentId i s)
  -- the pump ends when the peer closes, falls silent or the send of the welcome fails
  | .serving, s => enter i agentId .closing s
  | .closing, s =>
      if tryGetValue agentId i s then enter i agentId .unregistering s
      else enter i agentId .closed s
  -- the cleanup is skipped unless this connection was the one removed
  | .unregistering, s =>
      if tryGetValue agentId i s then enter i agentId .unregistered (remove agentId s)
      else enter i agentId .closed s
  | .unregistered, s => enter i agentId (.leaving (readStatus agentId s)) s
  | .leaving found, s => enter i agentId .left (saveOffline agentId found s)
  | .left, s => enter i agentId .closed (publish (.agentStatus agentId "offline" none) s)
  | .closed, s => s

/-- Execute the next statement of the handler of the socket `i`. -/
def advance (i : ConnectionId) (s : Presence) : Presence :=
  match s.sockets[i]? with
  | some x => statement i x.agent x.stage s
  | none => s

/-- The request is aborted before the connect has saved the row: the handler goes on
with its cleanup. -/
def abort (i : ConnectionId) (s : Presence) : Presence :=
  match s.sockets[i]? with
  | some ⟨a, .accepted⟩ => enter i a .closing s
  | some ⟨a, .connecting _ _⟩ => enter i a .closing s
  | _ => s

end AgentSocketEndpoint

/-! ### All sockets -/

/-- What may happen next. -/
inductive SocketStep
  | elapse (span : Time)
  | accept (agentId : Guid)
  | advance (i : ConnectionId)
  | abort (i : ConnectionId)

namespace SocketStep

def exec : SocketStep → Presence → Presence
  | elapse span, s => { s with now := s.now + max span 0 }
  | accept agentId, s => { s with sockets := s.sockets ++ [⟨agentId, .accepted⟩] }
  | advance i, s => AgentSocketEndpoint.advance i s
  | abort i, s => AgentSocketEndpoint.abort i s

/-- The upgrade is accepted for the agent whose row carries the key. -/
def possible : SocketStep → Presence → Bool
  | accept agentId, s => (s.agents.find? agentId).isSome
  | _, _ => true

end SocketStep

/-- The sockets of the agents. -/
def agentSockets : Machine SocketStep Presence := .of SocketStep.exec SocketStep.possible

/-- A control plane that has just started. -/
def Presence.started (now : Time) (agents : Table Agent) : Presence :=
  ⟨now, agents, fun _ => none, [], []⟩

end Networker
