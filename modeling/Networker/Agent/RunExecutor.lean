/-
The run executor of the agent (`RunExecutor.cs`, `BenchmarkArtifactBuilder.cs`): the tester is
started, its output is read line by line, and what it has measured is sent on.

* `Frame`, `Tally`: what is sent, and what is counted and recorded on the way;
* `BenchmarkArtifactBuilder`, `record`: the cases of the artifact and their counts;
* `tryParseAttemptEvent`, `readLine`: an attempt that is streamed, or a line of the artifact;
* `attemptsOf`, `emitAll`: the attempts of the artifact;
* `runTester`, `runTesterOnce`: one invocation of the tester;
* `executeAsync`: the invocations of a run, one after the other.

What parses a JSON text is a parameter; a text that is not JSON comes back with a message.
-/
import Networker.Data.Json

namespace Networker

open Data

namespace RunExecutor

/-- `JsonDocument.Parse`. -/
abbrev Parser : Type := String → Except String Json

/-! ### What is sent -/

/-- A message to the control plane about the run. -/
inductive Frame
  | runStarted
  | attemptEvent (attempt : Json)
  | runProgress (success failure : UInt32)
  | error (message : String)
  | runFinished (status : String) (envelope : Option Json) (attemptsOk attemptsFailed : Option UInt32)

/-! ### The cases of the artifact -/

/-- `CaseAccumulator`, without the metric and the times. -/
structure CaseAccumulator where
  caseId : String
  protocol : String
  httpStack : Option String
  payloadBytes : Option ℤ
  successCount : ℕ
  failureCount : ℕ

/-- `BenchmarkArtifactBuilder`: the cases, in the order in which they came up. -/
abbrev BenchmarkArtifactBuilder : Type := List CaseAccumulator

/-- `GetString`. -/
def getString (el : Json) (name : String) : Option String := (el.get? name).bind Json.str?

/-- The integer part of a positive number. -/
def positive? : Json → Option ℤ
  | .int n => if 0 < n then some n else none
  | .dec m e => if 0 < m then some (m / 10 ^ e) else none
  | _ => none

/-- `GetNumber`, of a positive number. -/
def getPositive (el : Json) (section_ name : String) : Option ℤ :=
  ((el.get? section_).bind (·.get? name)).bind positive?

/-- `AttemptPayloadBytes`. -/
def attemptPayloadBytes (attempt : Json) : Option ℤ :=
  (getPositive attempt "http" "payload_bytes").or
    (getPositive attempt "udp_throughput" "payload_bytes")

/-- `attempt.success` is the literal `true`. -/
def succeeded (attempt : Json) : Bool :=
  match attempt.get? "success" with
  | some (.bool b) => b
  | _ => false

/-- The case an attempt belongs to. -/
def caseIdOf (workload : Option String) (attempt : Json) : String :=
  workload.getD (((getString attempt "protocol").getD "unknown") ++ ":" ++
    ((attemptPayloadBytes attempt).elim "default" Text.ofInt) ++ ":" ++
    ((getString attempt "http_stack").getD "default").map fun c => if c = ':' then '_' else c)

/-- One more attempt of the case. -/
def CaseAccumulator.add (c : CaseAccumulator) (success : Bool) : CaseAccumulator :=
  if success then { c with successCount := c.successCount + 1 }
  else { c with failureCount := c.failureCount + 1 }

/-- The attempt is added to its case, which may be a new one. -/
def addTo (caseId : String) (fresh : CaseAccumulator) (success : Bool) :
    BenchmarkArtifactBuilder → BenchmarkArtifactBuilder
  | [] => [fresh.add success]
  | c :: cs => if c.caseId = caseId then c.add success :: cs
      else c :: addTo caseId fresh success cs

/-- `Record`. -/
def record (workload : Option String) (attempt : Json) (cases : BenchmarkArtifactBuilder) :
    BenchmarkArtifactBuilder :=
  if attempt.isObj then
    addTo (caseIdOf workload attempt)
      { caseId := caseIdOf workload attempt
        protocol := (getString attempt "protocol").getD "unknown"
        httpStack := getString attempt "http_stack"
        payloadBytes := attemptPayloadBytes attempt
        successCount := 0
        failureCount := 0 } (succeeded attempt) cases
  else cases

/-! ### An attempt is counted and sent -/

/-- The counts, the cases of a benchmark, and what was sent. -/
structure Tally where
  successCount : UInt32
  failureCount : UInt32
  artifactBuilder : Option BenchmarkArtifactBuilder
  frames : List Frame

namespace Tally

variable (t : Tally)

def send (frame : Frame) : Tally := { t with frames := t.frames ++ [frame] }

/-- The attempt is counted, recorded and sent, with the progress at every tenth of its kind. -/
def count (workload : Option String) (attempt : Json) : Tally :=
  let ok := succeeded attempt
  let successCount := if ok then t.successCount + 1 else t.successCount
  let failureCount := if ok then t.failureCount else t.failureCount + 1
  let total := if ok then successCount else failureCount
  let sent := t.frames ++ [.attemptEvent attempt]
  { successCount := successCount
    failureCount := failureCount
    artifactBuilder := t.artifactBuilder.map (record workload attempt)
    frames := if total % 10 = 0 then sent ++ [.runProgress successCount failureCount] else sent }

end Tally

/-! ### The output is read -/

section Output

variable (parse : Parser)

/-- `TryParseAttemptEvent`. -/
def tryParseAttemptEvent (line : String) : Option Json :=
  match parse line with
  | .error _ => none
  | .ok root =>
      if getString root "event" = some "attempt" then (root.get? "attempt").filter (·.isObj)
      else none

/-- The attempt of a line that streams one. -/
def attemptEvent? (line : String) : Option Json :=
  if Text.startsWith line "\x7b\"event\":\"attempt\"" then tryParseAttemptEvent parse line
  else none

/-- `MaxStdoutBytes`. -/
def maxStdoutBytes : ℕ := 128 * 1024 * 1024

/-- The number of UTF-16 code units of a text. -/
def utf16Length (s : String) : ℕ :=
  (s.toList.map fun c => if c.toNat < 65536 then 1 else 2).sum

/-- A line is added to the buffer. -/
def appendLine (buffer line : String) : String :=
  if buffer = "" then line else buffer ++ "\n" ++ line

/-- Where the read loop stands. -/
structure Reading where
  tally : Tally
  streamedAttempts : UInt32
  stdoutBuilder : String
  stdoutBytes : ℕ
  overflow : Bool

/-- In front of the first line. -/
def Reading.start (t : Tally) : Reading := ⟨t, 0, "", 0, false⟩

/-- A line is read, unless the loop has been left. -/
def readLine (workload : Option String) (r : Reading) (line : String) : Reading :=
  if r.overflow then r
  else match attemptEvent? parse line with
    | some attempt =>
        { r with tally := r.tally.count workload attempt
                 streamedAttempts := r.streamedAttempts + 1 }
    | none =>
        let stdoutBytes := r.stdoutBytes + (utf16Length line + 1)
        if maxStdoutBytes < stdoutBytes then
          { r with stdoutBytes := stdoutBytes, overflow := true }
        else
          { r with stdoutBytes := stdoutBytes
                   stdoutBuilder := appendLine r.stdoutBuilder line }

/-! ### The artifact is read -/

/-- The test runs of an artifact: one, or one for each target. -/
def runElements : Json → List Json
  | .arr elements => elements
  | root => [root]

/-- The attempts of the artifact. -/
def attemptsOf (root : Json) : List Json :=
  (runElements root).flatMap fun e => ((e.get? "attempts").bind Json.items?).getD []

/-- The attempts of the artifact are counted and sent; one that is not an object raises. -/
def emitAll (workload : Option String) (t : Tally) : List Json → Except Fault Unit × Tally
  | [] => (.ok (), t)
  | attempt :: rest =>
      match attempt.tryGetProperty "success" with
      | .error fault => (.error fault, t)
      | .ok _ => emitAll workload (t.count workload attempt) rest

/-- `RunEnvelopeFields`. -/
def runEnvelopeFields : List String :=
  ["client_network", "client_geo", "target_geo", "client_load_before", "client_load_after",
    "clock_sync", "client_info", "server_info"]

/-- The value under a name, unless it is null. -/
def present? (root : Json) (name : String) : Option (String × Json) :=
  match root.get? name with
  | none | some .null => none
  | some v => some (name, v)

/-- `ExtractRunEnvelope`. -/
def extractRunEnvelope (root : Json) : Option Json :=
  match runEnvelopeFields.filterMap (present? root) with
  | [] => none
  | fields => some (.obj fields)

/-! ### One invocation -/

/-- How waiting for the tester ends. -/
inductive Ending
  | done
  | cancelled
  | deadlineExpired
  deriving DecidableEq

/-- A tester that was started: what it prints until it ends or is killed. -/
structure TesterProcess where
  workload : Option String
  lines : List String
  readEnds : Ending := .done
  waitEnds : Ending := .done
  exitCode : ℤ := 0
  stderrTail : String := ""
  /-- The overall deadline, as text. -/
  deadline : String := ""

/-- `InvocationStatus`. -/
inductive InvocationStatus
  | completed
  | failed
  | cancelled
  deriving DecidableEq

/-- `InvocationOutcome`. -/
structure InvocationOutcome where
  status : InvocationStatus
  successCount : UInt32
  failureCount : UInt32
  envelope : Option Json := none

/-- An outcome with the counts so far. -/
def Tally.outcome (t : Tally) (status : InvocationStatus) (envelope : Option Json) :
    InvocationOutcome :=
  ⟨status, t.successCount, t.failureCount, envelope⟩

namespace TesterProcess

variable (p : TesterProcess)

def label : String := p.workload.elim "tester" ("tester/" ++ ·)

def deadlineText : String :=
  "Tester (" ++ p.label ++ ") exceeded the overall run deadline of " ++ p.deadline ++ " — killed"

def overflowText : String :=
  "Tester stdout exceeded safety limit of " ++ Text.ofNat maxStdoutBytes ++ " bytes"

def unparseableText (stdoutText parseErr : String) : String :=
  if p.stderrTail = "" then
    "Tester (" ++ p.label ++ ") exited with code " ++ Text.ofInt p.exitCode ++
      " and unparseable JSON: " ++ parseErr ++ " (stdout starts: " ++
      String.ofList (stdoutText.toList.take 512) ++ ")"
  else
    "Tester (" ++ p.label ++ ") exited with code " ++ Text.ofInt p.exitCode ++ ": " ++
      p.stderrTail ++ " (unparseable stdout: " ++ parseErr ++ ")"

/-- The read loop. -/
def read (t : Tally) : Reading := p.lines.foldl (readLine parse p.workload) (.start t)

end TesterProcess

/-- An invocation that fails, with the reason as an error. -/
def failWith (t : Tally) (message : String) : Except Fault InvocationOutcome × Tally :=
  (.ok (t.outcome .failed none), t.send (.error message))

/-- The end of the invocation: the artifact is parsed, and its attempts are sent unless some
were streamed. -/
def finish (p : TesterProcess) (r : Reading) : Except Fault InvocationOutcome × Tally :=
  match parse r.stdoutBuilder with
  | .error parseErr => failWith r.tally (p.unparseableText r.stdoutBuilder parseErr)
  | .ok root =>
      let envelope := (runElements root).head?.bind extractRunEnvelope
      if r.streamedAttempts = 0 then
        match emitAll p.workload r.tally (attemptsOf root) with
        | (.error fault, t) => (.error fault, t)
        | (.ok (), t) => (.ok (t.outcome .completed envelope), t)
      else (.ok (r.tally.outcome .completed envelope), r.tally)

/-- `RunTesterOnceAsync`, of a tester that was started. -/
def runTester (p : TesterProcess) (t : Tally) : Except Fault InvocationOutcome × Tally :=
  let r := p.read parse t
  if r.overflow then failWith r.tally TesterProcess.overflowText
  else match p.readEnds with
    | .cancelled => (.ok (r.tally.outcome .cancelled none), r.tally)
    | .deadlineExpired => failWith r.tally p.deadlineText
    | .done =>
        match p.waitEnds with
        | .cancelled => (.ok (r.tally.outcome .cancelled none), r.tally)
        | .deadlineExpired => failWith r.tally p.deadlineText
        | .done => finish parse p r

/-- `RunTesterOnceAsync`: the tester is started, or the start has failed. -/
def runTesterOnce (spawn : Except String TesterProcess) (t : Tally) :
    Except Fault InvocationOutcome × Tally :=
  match spawn with
  | .error ex => failWith t ("Failed to spawn tester: " ++ ex)
  | .ok p => runTester parse p t

/-! ### A run -/

/-- The invocations one after the other, until one does not complete. -/
def runInvocations (envelope : Option Json) (t : Tally) :
    List (Except String TesterProcess) → Except Fault Unit × Tally
  | [] => (.ok (), (t.send (.runProgress t.successCount t.failureCount)).send
      (.runFinished "completed" envelope (some t.successCount) (some t.failureCount)))
  | spawn :: rest =>
      match runTesterOnce parse spawn t with
      | (.error fault, t) => (.error fault, t)
      | (.ok outcome, t) =>
          match outcome.status with
          | .completed => runInvocations (outcome.envelope.or envelope) t rest
          | .failed => (.ok (), t.send (.runFinished "failed" none (some outcome.successCount)
              (some outcome.failureCount)))
          | .cancelled => (.ok (), t.send (.runFinished "cancelled" none none none))

/-- `ExecuteAsync`, from the plan of the invocations on. -/
def executeAsync (isBenchmark : Bool) (invocations : List (Except String TesterProcess)) :
    Except Fault Unit × Tally :=
  runInvocations parse none ⟨0, 0, if isBenchmark then some [] else none, [.runStarted]⟩ invocations

end Output

end RunExecutor

end Networker
