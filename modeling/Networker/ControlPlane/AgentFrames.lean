/-
Frames an agent sends about its runs (`Realtime/RawWs/AgentMessageProcessor.cs`).

* `AgentFrame`: the decoded run frames;
* `stripAnsi`, `isRelayedSubprocessOutput`: the text of an `error` frame;
* `extractEnvelopeJson`: the allowlisted run envelope of a `run_finished` frame;
* `onRunStarted`, `onRunProgress`, `onAttemptEvent`, `onRunFinished`, `onError` and
  `handleFrame`: the handlers.  None of them looks at the owner of the run.
-/
import Networker.ControlPlane.World

namespace Networker

open Data Concurrency

/-- A decoded frame about a run. -/
inductive AgentFrame
  | runStarted (runId : Guid) (startedAt : Time)
  | runProgress (runId : Guid) (success failure : ℤ)
  | attemptEvent (runId : Guid) (attempt : Json)
  | runFinished (runId : Guid) (status : String) (artifact envelope : Option Json)
      (attemptsOk attemptsFailed : Option ℤ)
  | error (runId : Option Guid) (message : String)

namespace AgentMessageProcessor

/-! ### The text of an error frame -/

def esc : Char := Char.ofNat 0x1b

/-- The rest of a text behind the parameters, intermediates and final byte of a
control sequence. -/
def csiTail (cs : List Char) : Option (List Char) :=
  match (cs.dropWhile fun c => c.isDigit || c == ';' || c == ':' || c == '?').dropWhile
      fun c => ' ' ≤ c && c ≤ '/' with
  | c :: rest => if '@' ≤ c ∧ c ≤ '~' then some rest else none
  | [] => none

/-- The rest of a text behind an operating-system command, up to its terminator. -/
def oscTail (cs : List Char) : Option (List Char) :=
  match cs.dropWhile fun c => c != Char.ofNat 7 && c != esc with
  | c :: rest =>
      if c = Char.ofNat 7 then some rest
      else match rest with
        | '\\' :: rest' => some rest'
        | _ => none
  | [] => none

/-- The rest of a text behind the escape sequence it starts with, if it does. -/
def ansiTail : List Char → Option (List Char)
  | [] => none
  | c :: rest =>
      if c = esc then
        match rest with
        | [] => none
        | d :: rest' =>
            if d = ']' then (oscTail rest').or (some rest')
            else if d = '[' then csiTail rest'
            else if ('@' ≤ d ∧ d ≤ 'Z') ∨ ('\\' ≤ d ∧ d ≤ '_') then some rest'
            else none
      else if c = Char.ofNat 0x9b then csiTail rest
      else none

/-- Remove the escape sequences of a text of at most the given length. -/
def stripChars : ℕ → List Char → List Char
  | 0, cs => cs
  | _ + 1, [] => []
  | n + 1, c :: cs =>
      match ansiTail (c :: cs) with
      | some rest => stripChars n rest
      | none => c :: stripChars n cs

/-- `AnsiText.Strip`. -/
def stripAnsi (s : String) : String := String.ofList (stripChars s.toList.length s.toList)

/-- `IsRelayedSubprocessOutput`: relayed child output, not an agent verdict. -/
def isRelayedSubprocessOutput (message : String) : Bool :=
  Text.startsWith message "[tester] " || Text.startsWith message "[tester/"

/-! ### The envelope -/

/-- `RunEnvelopeFields`. -/
def runEnvelopeFields : List String :=
  ["client_network", "client_geo", "target_geo", "client_load_before", "client_load_after",
   "clock_sync", "client_info", "server_info"]

/-- `ExtractEnvelopeJson`: the allowed members that are not null. -/
def extractEnvelopeJson (envelope : Option Json) : Option Json :=
  match envelope with
  | some (.obj fs) =>
      let kept := runEnvelopeFields.filterMap fun field =>
        match (Json.obj fs).get? field with
        | none => none
        | some .null => none
        | some v => some (field, v)
      if kept.isEmpty then none else some (.obj kept)
  | _ => none

/-! ### The handlers -/

/-- `OnRunStarted`. -/
def onRunStarted (agent runId : Guid) (startedAt : Time) : Svc Unit := do
  let boundTesterId ← Svc.read fun w => (w.agents.find? agent).bind Agent.testerId
  if ← Svc.updateRun runId (.runStarted agent boundTesterId startedAt) then
    Svc.publish (.jobUpdate runId "running" (some agent) (some startedAt) none)
  else return ()

/-- `OnRunProgress`. -/
def onRunProgress (runId : Guid) (success failure : ℤ) : Svc Unit := do
  let _ ← Svc.updateRun runId (.runProgress success failure)
  return ()

/-- `AttemptExtract.Parse`: an object with an attempt id. -/
def attemptId? (attempt : Json) : Option Guid :=
  ((attempt.get? "attempt_id").bind Json.str?).bind Guid.parse?

/-- Persist the attempt of an attempt event; one without an id is skipped. -/
def persistAttempt (runId : Guid) (attempt : Json) : Svc Unit :=
  match attemptId? attempt with
  | some id => Svc.exec (.insertAttempt ⟨id, runId, attempt⟩)
  | none => .ret ()

/-- `OnAttemptEvent`. -/
def onAttemptEvent (runId : Guid) (attempt : Json) : Svc Unit := do
  let _ ← Svc.updateRun runId .attemptHeartbeat
  persistAttempt runId attempt
  Svc.publish (.attemptResult runId attempt)

/-- The message stamped on a run none of whose measured attempts was persisted. -/
def attemptsLostMessage (lost : ℤ) : String :=
  "The agent measured " ++ Text.ofInt lost ++ " attempt(s) but none of them reached the database - " ++
    "the attempt frames were lost in transit or rejected on ingest, so this run has " ++
    "counters but no data. Check the agent log for dropped frames."

/-- The end-of-run counters of a `run_finished` frame, when it carries both. -/
def writeFinalCounts (runId : Guid) (attemptsOk attemptsFailed : Option ℤ) : Svc Unit :=
  match attemptsOk, attemptsFailed with
  | some ok, some failed => do
      let _ ← Svc.updateRun runId (.finalCounts ok failed)
      if 0 < ok + failed then
        if ← Svc.read fun w => (w.attempts.all fun a => a.runId != runId) then
          let _ ← Svc.updateRun runId (.attemptsLost (attemptsLostMessage (ok + failed)))
          return ()
        else return ()
      else return ()
  | _, _ => .ret ()

/-- Persist the benchmark artifact of a finished run and link it. -/
def writeArtifact (runId : Guid) (artifact : Option Json) : Svc Unit :=
  match artifact with
  | some document => do
      let artifactId ← .issue (.insertArtifact runId document) fun w => w.artifacts.next
      let _ ← Svc.updateRun runId (.linkArtifact artifactId)
      return ()
  | none => .ret ()

/-- `OnRunFinished`. -/
def onRunFinished (runId : Guid) (status : String) (artifact envelope : Option Json)
    (attemptsOk attemptsFailed : Option ℤ) : Svc Unit := do
  match RunStatus.ofTerminalText? status with
  | none => return ()
  | some st =>
      if ← Svc.updateRun runId (.runFinished st (extractEnvelopeJson envelope)) then
        writeFinalCounts runId attemptsOk attemptsFailed
        writeArtifact runId artifact
        let counts ← Svc.read fun w =>
          (w.runs.find? runId).elim (0, 0) fun r => (r.successCount, r.failureCount)
        Svc.publish (.jobComplete runId runId counts.1 counts.2)
      else return ()

/-- `OnError`: only the agent's own unlabelled messages decide the status. -/
def onError (agent : Guid) (runId : Option Guid) (message : String) : Svc Unit := do
  match runId with
  | none => return ()
  | some runId =>
      let cleanMessage := stripAnsi message
      if isRelayedSubprocessOutput cleanMessage then return () else
      if ← Svc.updateRun runId (.agentError cleanMessage) then
        let now ← Svc.read World.now
        Svc.publish (.jobUpdate runId "failed" (some agent) none (some now))
      else return ()

/-- `HandleFrameAsync`, on a decoded run frame. -/
def handleFrame (agent : Guid) : AgentFrame → Svc Unit
  | .runStarted runId startedAt => onRunStarted agent runId startedAt
  | .runProgress runId success failure => onRunProgress runId success failure
  | .attemptEvent runId attempt => onAttemptEvent runId attempt
  | .runFinished runId status artifact envelope ok failed =>
      onRunFinished runId status artifact envelope ok failed
  | .error runId message => onError agent runId message

/-- The frames of one connection, handled in the order they arrive. -/
def handleFrames (agent : Guid) (frames : List AgentFrame) : Svc Unit :=
  Proc.each (handleFrame agent) frames

end AgentMessageProcessor

end Networker
