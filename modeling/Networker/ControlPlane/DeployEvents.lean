/-
The event stream of a deployment, from the event bus to the deploy page
(`GET …/deployments/{id}/events` in `Endpoints/DeploymentsEndpoints.cs`,
`hooks/useDeployEvents.ts`).

* `EventCodec`: the JSON of an event, written on the one side and parsed on the other;
* `DeployRow`, `StreamFrame`, `DeployConnection`, `DeployPage`, `DeployStream`: the row of the
  deployment, a response and what the page keeps across connections;
* `tail`, `postMortem`: the two ways in which a response is written;
* `DeployPage.receive`: the read loop, a chunk at a time;
* `DeployStreamStep`, `deployStream`: the machine of the bus, the responses and the page.
-/
import Networker.ControlPlane.EventFeed
import Networker.ControlPlane.ServerSentEvents

namespace Networker

open Data Concurrency ServerSentEvents

/-- The JSON of the events: `JsonSerializer.Serialize` and `JSON.parse`. -/
structure EventCodec where
  serialize : SeqEvent → List Char
  parse : List Char → Option SeqEvent

/-- The page reads an event as the endpoint has written it. -/
def EventCodec.Reads (codec : EventCodec) (e : SeqEvent) : Prop :=
  codec.parse (codec.serialize e) = some e

/-- An event of the deployment. -/
def DashboardEvent.ofDeployment (deploymentId : Guid) : DashboardEvent → Bool
  | deployLog id _ _ => id == deploymentId
  | deployComplete id _ _ => id == deploymentId
  | _ => false

/-- The end of the deployment. -/
def DashboardEvent.endsDeployment (deploymentId : Guid) : DashboardEvent → Bool
  | deployComplete id _ _ => id == deploymentId
  | _ => false

/-- What the endpoint reads of the row. -/
structure DeployRow where
  status : String
  log : Option (List Char)
  endpointIps : List String
  deriving DecidableEq

namespace DeployRow

/-- The row is in a final status. -/
def terminal (row : DeployRow) : Bool :=
  row.status == "completed" || row.status == "failed" || row.status == "cancelled" ||
    row.status == "torn_down"

/-- The lines of the stored log that are not empty. -/
def logLines (row : DeployRow) : List String :=
  ((Text.lines '\n' (row.log.getD [])).filter fun l => !l.isEmpty).map String.ofList

/-- The events of the replay from the row, numbered from one. -/
def postMortem (deploymentId : Guid) (row : DeployRow) : List SeqEvent :=
  (row.logLines.mapIdx fun i line => ⟨i + 1, .deployLog deploymentId line "stdout"⟩) ++
    [⟨row.logLines.length + 1, .deployComplete deploymentId row.status row.endpointIps⟩]

end DeployRow

/-- What a response is made of. -/
inductive StreamFrame
  | event (e : SeqEvent)
  | keepAlive

namespace StreamFrame

def toSse (codec : EventCodec) : StreamFrame → SseFrame
  | event e => .event none (codec.serialize e)
  | keepAlive => .comment ['k', 'e', 'e', 'p', '-', 'a', 'l', 'i', 'v', 'e']

def event? : StreamFrame → Option SeqEvent
  | event e => some e
  | keepAlive => none

end StreamFrame

/-- A response that is being written. -/
structure DeployConnection where
  since : ℕ
  /-- The loop over the ring goes on. -/
  tailing : Bool
  frames : List StreamFrame
  /-- How many characters the page has got. -/
  received : ℕ

namespace DeployConnection

/-- The text of the response so far. -/
def text (codec : EventCodec) (c : DeployConnection) : List Char :=
  body (c.frames.map (StreamFrame.toSse codec))

/-- The events of the response so far. -/
def events (c : DeployConnection) : List SeqEvent := c.frames.filterMap StreamFrame.event?

/-- The next characters for the page. -/
def chunk (codec : EventCodec) (n : ℕ) (c : DeployConnection) : List Char :=
  ((c.text codec).drop c.received).take n

/-- The page has got the whole text. -/
def drained (codec : EventCodec) (c : DeployConnection) : Bool :=
  decide ((c.text codec).length ≤ c.received)

/-- One round of the loop over the ring. -/
def tail (deploymentId : Guid) (buffer : List SeqEvent) (c : DeployConnection) :
    DeployConnection :=
  let batch := EventBus.replay c.since buffer
  { c with
    since := (batch.getLast?.map SeqEvent.seq).getD c.since
    tailing := !batch.any fun e => e.event.endsDeployment deploymentId
    frames := c.frames ++
      (batch.filter fun e => e.event.ofDeployment deploymentId).map StreamFrame.event }

end DeployConnection

/-- What the page keeps. -/
structure DeployPage where
  buffer : List Char
  lastSeq : ℕ
  lines : List String
  complete : Option (ℕ × String × List String)
  /-- The events that the page took in; no step reads them. -/
  shown : List SeqEvent

namespace DeployPage

/-- The page in front of its first connection. -/
def opened : DeployPage := ⟨[], 0, [], none, []⟩

/-- An event behind the guard of the sequence number. -/
def apply (e : SeqEvent) (page : DeployPage) : DeployPage :=
  match e.event with
  | .deployLog _ line _ => { page with lines := page.lines ++ [line] }
  | .deployComplete _ status ips => { page with complete := some (e.seq, status, ips) }
  | _ => page

/-- A parsed event. -/
def handle (page : DeployPage) (e : SeqEvent) : DeployPage :=
  if e.seq ≤ page.lastSeq then page
  else { page with lastSeq := e.seq, shown := page.shown ++ [e] }.apply e

/-- The body of the loop over the frames. -/
def consume (codec : EventCodec) (page : DeployPage) (frame : List Char) : DeployPage :=
  match (framePayload frame).bind codec.parse with
  | none => page
  | some e => page.handle e

/-- A chunk arrives. -/
def receive (codec : EventCodec) (chunk : List Char) (page : DeployPage) : DeployPage :=
  let pieces := Text.cut ['\n', '\n'] (page.buffer ++ chunk)
  { pieces.1.foldl (consume codec) page with buffer := pieces.2 }

end DeployPage

/-- The bus, the row, the open response and the page. -/
structure DeployStream where
  bus : Feed
  row : DeployRow
  connection : Option DeployConnection
  page : DeployPage

inductive DeployStreamStep
  /-- A call of `Publish` begins. -/
  | publish (e : DashboardEvent)
  /-- A call of `Publish` goes on. -/
  | publisher (p : ℕ)
  | save (row : DeployRow)
  /-- The page connects, and the endpoint reads the row. -/
  | connect
  /-- The next round of the loop over the ring. -/
  | poll
  | keepAlive
  /-- The page gets the next characters. -/
  | receive (n : ℕ)
  /-- The response ends or breaks off. -/
  | drop
  /-- The control plane starts again, with an empty ring. -/
  | restart

namespace DeployStream

/-- The response to a page that connects. -/
def respond (deploymentId : Guid) (row : DeployRow) : DeployConnection :=
  if row.terminal then ⟨0, false, (row.postMortem deploymentId).map StreamFrame.event, 0⟩
  else ⟨0, true, [], 0⟩

def onConnection (f : DeployConnection → DeployConnection) (st : DeployStream) : DeployStream :=
  { st with connection := st.connection.map f }

/-- The page gets the next characters of the response. -/
def receive (codec : EventCodec) (n : ℕ) (st : DeployStream) : DeployStream :=
  match st.connection with
  | none => st
  | some c =>
      { st with
        connection := some { c with received := c.received + (c.chunk codec n).length }
        page := st.page.receive codec (c.chunk codec n) }

def exec (codec : EventCodec) (deploymentId : Guid) : DeployStreamStep → DeployStream → DeployStream
  | .publish e, st => { st with bus := EventBus.publish e st.bus }
  | .publisher p, st => { st with bus := EventBus.advance p st.bus }
  | .save row, st => { st with row := row }
  | .connect, st =>
      { st with
        connection := some (respond deploymentId st.row)
        page := { st.page with buffer := [] } }
  | .poll, st => st.onConnection (DeployConnection.tail deploymentId st.bus.buffer)
  | .keepAlive, st => st.onConnection fun c => { c with frames := c.frames ++ [.keepAlive] }
  | .receive n, st => st.receive codec n
  | .drop, st => { st with connection := none }
  | .restart, st => { st with bus := Feed.started, connection := none }

def can : DeployStreamStep → DeployStream → Bool
  | .connect, st => st.connection.isNone
  | .poll, st => st.connection.any DeployConnection.tailing
  | .keepAlive, st => st.connection.any fun c => !c.tailing
  | _, _ => true

/-- A page that is opened. -/
def opened (bus : Feed) (row : DeployRow) : DeployStream := ⟨bus, row, none, .opened⟩

end DeployStream

/-- The stream of a deployment. -/
def deployStream (codec : EventCodec) (deploymentId : Guid) :
    Machine DeployStreamStep DeployStream :=
  .of (DeployStream.exec codec deploymentId) DeployStream.can

end Networker
