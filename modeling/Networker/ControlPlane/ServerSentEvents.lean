/-
Server-sent events between the control plane and the dashboard (`ServerSentEvents` in
`Endpoints/ApprovalsEndpoints.cs`, the read loops of `hooks/useDeployEvents.ts` and
`hooks/useSSE.ts`).

* `formatEvent`, `formatComment`, `SseFrame`: what the server writes;
* `framePayload`, `readFrames`: the loop of `useDeployEvents`, over the chunks of a response;
* `readLines`: the loop of `useApprovalSSE`;
* `payloads_of_frames`, `payloads_of_lines`: both find the data of the events, whatever the
  chunks are, and nothing else where the response breaks off.
-/
import Networker.Data.ChunkedText

namespace Networker

open Data

namespace ServerSentEvents

/-- `"data: "`. -/
def dataPrefix : List Char := ['d', 'a', 't', 'a', ':', ' ']

/-- `"event: "`. -/
def eventPrefix : List Char := ['e', 'v', 'e', 'n', 't', ':', ' ']

/-- `data.Split('\n')`. -/
def splitLines (data : List Char) : List (List Char) := Text.lines '\n' data

/-- The `event:` line, unless the name is null or empty. -/
def nameLines : Option (List Char) → List (List Char)
  | none => []
  | some name => if name.isEmpty then [] else [eventPrefix ++ name]

/-- The lines of an event in front of its empty line. -/
def eventLines (eventName : Option (List Char)) (data : List Char) : List (List Char) :=
  nameLines eventName ++ (splitLines data).map (dataPrefix ++ ·)

/-- `FormatEvent`. -/
def formatEvent (eventName : Option (List Char)) (data : List Char) : List Char :=
  (eventLines eventName data).flatMap (· ++ ['\n']) ++ ['\n']

/-- `FormatComment`. -/
def formatComment (comment : List Char) : List Char := [':', ' '] ++ comment ++ ['\n', '\n']

/-- What the server writes into a response. -/
inductive SseFrame
  | event (eventName : Option (List Char)) (data : List Char)
  | comment (text : List Char)

namespace SseFrame

def text : SseFrame → List Char
  | event eventName data => formatEvent eventName data
  | comment text => formatComment text

def data? : SseFrame → Option (List Char)
  | event _ data => some data
  | comment _ => none

/-- The names of events and the comments are lines. -/
def WellFormed : SseFrame → Prop
  | event eventName _ => ∀ name ∈ eventName, '\n' ∉ name
  | comment text => '\n' ∉ text

end SseFrame

/-- The data of the lines that carry data. -/
def dataLines (lines : List (List Char)) : List (List Char) :=
  (lines.filter fun l => dataPrefix.isPrefixOf l).map (·.drop 6)

/-- `dataLines.join('\n')`. -/
def joinLines (lines : List (List Char)) : List Char := List.intercalate ['\n'] lines

/-- The loop body of `useDeployEvents` up to `JSON.parse`. -/
def framePayload (frame : List Char) : Option (List Char) :=
  if (dataLines (splitLines frame)).isEmpty then none
  else some (joinLines (dataLines (splitLines frame)))

/-- The read loop of `useDeployEvents`. -/
def readFrames (chunks : List (List Char)) : List (List Char) :=
  (chunks.foldl (Text.Reader.feed ['\n', '\n']) ⟨[], []⟩).pieces.filterMap framePayload

/-- The read loop of `useApprovalSSE`. -/
def readLines (chunks : List (List Char)) : List (List Char) :=
  dataLines (chunks.foldl (Text.Reader.feed ['\n']) ⟨[], []⟩).pieces

/-! ### Frames and their lines -/

variable {eventName : Option (List Char)} {data p : List Char} {frames : List SseFrame}
  {chunks : List (List Char)}

/-- The lines of a frame in front of its empty line. -/
def SseFrame.lines : SseFrame → List (List Char)
  | .event eventName data => eventLines eventName data
  | .comment text => [[':', ' '] ++ text]

lemma SseFrame.text_eq (frame : SseFrame) :
    frame.text = frame.lines.flatMap (· ++ ['\n']) ++ ['\n'] := by
  cases frame with
  | event eventName data => rfl
  | comment text =>
      simp [SseFrame.text, SseFrame.lines, formatComment]

lemma eventLines_spec (hname : ∀ name ∈ eventName, '\n' ∉ name) :
    ∀ l ∈ eventLines eventName data, l ≠ [] ∧ '\n' ∉ l := by
  intro l hl
  rw [eventLines, List.mem_append] at hl
  obtain hl | hl := hl
  · cases eventName with
    | none => cases hl
    | some name =>
        rw [nameLines] at hl
        split_ifs at hl
        · cases hl
        · obtain rfl := List.mem_singleton.mp hl
          refine ⟨List.cons_ne_nil _ _, ?_⟩
          rw [List.mem_append, not_or]
          exact ⟨by simp [eventPrefix], hname name rfl⟩
  · obtain ⟨m, hm, rfl⟩ := List.mem_map.mp hl
    refine ⟨List.cons_ne_nil _ _, ?_⟩
    rw [List.mem_append, not_or]
    exact ⟨by simp [dataPrefix], Text.notMem_lines hm⟩

lemma SseFrame.lines_spec {frame : SseFrame} (h : frame.WellFormed) :
    ∀ l ∈ frame.lines, l ≠ [] ∧ '\n' ∉ l := by
  cases frame with
  | event eventName data => exact eventLines_spec h
  | comment text =>
      intro l hl
      obtain rfl := List.mem_singleton.mp hl
      refine ⟨List.cons_ne_nil _ _, ?_⟩
      rw [List.mem_append, not_or]
      exact ⟨by simp, h⟩

lemma dataLines_append (ls ms : List (List Char)) :
    dataLines (ls ++ ms) = dataLines ls ++ dataLines ms := by
  rw [dataLines, List.filter_append, List.map_append]
  rfl

/-- The data lines of a frame are the lines of its data. -/
lemma dataLines_frame (frame : SseFrame) :
    dataLines frame.lines = (frame.data?.map splitLines).getD [] := by
  cases frame with
  | comment text => simp [SseFrame.lines, SseFrame.data?, dataLines, dataPrefix]
  | event eventName data =>
      have hdata : ∀ ls : List (List Char), dataLines (ls.map (dataPrefix ++ ·)) = ls := by
        intro ls
        induction ls with
        | nil => rfl
        | cons l ls ih => exact congrArg (l :: ·) ih
      have hname : dataLines (nameLines eventName) = [] := by
        cases eventName with
        | none => rfl
        | some name =>
            rw [nameLines]
            split_ifs
            · rfl
            · simp [dataLines, dataPrefix, eventPrefix]
      rw [SseFrame.lines, eventLines, dataLines_append, hname, hdata]
      rfl

/-- A frame without its empty line. -/
def SseFrame.block (frame : SseFrame) : List Char := ['\n'].intercalate frame.lines

lemma SseFrame.lines_ne_nil (frame : SseFrame) : frame.lines ≠ [] := by
  cases frame with
  | event eventName data => simp [SseFrame.lines, eventLines, splitLines, Text.lines]
  | comment text => simp [SseFrame.lines]

lemma SseFrame.block_append (frame : SseFrame) :
    frame.lines.flatMap (· ++ ['\n']) = frame.block ++ ['\n'] := by
  obtain ⟨ls, l, hl⟩ : ∃ ls l, frame.lines = ls ++ [l] :=
    ⟨_, _, (List.dropLast_append_getLast frame.lines_ne_nil).symm⟩
  rw [SseFrame.block, hl, Text.intercalate_concat, List.flatMap_append]
  simp

lemma SseFrame.text_block (frame : SseFrame) : frame.text = frame.block ++ ['\n', '\n'] := by
  rw [frame.text_eq, frame.block_append, List.append_assoc]
  rfl

lemma SseFrame.closed_block {frame : SseFrame} (h : frame.WellFormed) :
    Text.Closed ['\n', '\n'] frame.block :=
  Text.closed_lines (SseFrame.lines_spec h) frame.block_append

/-- The payload of a frame is its data. -/
lemma framePayload_block {frame : SseFrame} (h : frame.WellFormed) :
    framePayload frame.block = frame.data? := by
  have hlines : splitLines frame.block = frame.lines := by
    have hcut : Text.cut ['\n'] (frame.lines.flatMap (· ++ ['\n']) ++ []) =
        (frame.lines ++ (Text.cut ['\n'] []).1, (Text.cut ['\n'] []).2) :=
      Text.cut_flatMap fun l hl => Text.closed_line (SseFrame.lines_spec h l hl).2
    rw [List.append_nil, frame.block_append] at hcut
    rw [splitLines, Text.lines_eq, hcut]
    exact List.append_nil _
  rw [framePayload, hlines, dataLines_frame]
  cases frame with
  | comment text => rfl
  | event eventName data =>
      have hne : (splitLines data).isEmpty = false := by simp [splitLines, Text.lines]
      show (if (splitLines data).isEmpty then none else some (joinLines (splitLines data))) = _
      rw [hne, if_neg Bool.false_ne_true, joinLines, splitLines, Text.intercalate_lines]
      rfl

/-! ### The read loops -/

/-- What the server writes. -/
def body (frames : List SseFrame) : List Char := frames.flatMap SseFrame.text

lemma cut_body (h : ∀ frame ∈ frames, frame.WellFormed) :
    Text.cut ['\n', '\n'] (body frames) = (frames.map SseFrame.block, []) := by
  have hbody : body frames = (frames.map SseFrame.block).flatMap (· ++ ['\n', '\n']) ++ [] := by
    rw [List.append_nil, List.flatMap_map, body]
    exact List.flatMap_congr fun frame _ => frame.text_block
  rw [hbody, Text.cut_flatMap]
  · exact congrArg (·, []) (List.append_nil _)
  · intro p hp
    obtain ⟨frame, hframe, rfl⟩ := List.mem_map.mp hp
    exact SseFrame.closed_block (h frame hframe)

/-- **The frames survive the transport.**  However the response is divided into chunks, the
payloads that `useDeployEvents` parses are the data of the events, in order; where the response
breaks off, they are those of the first events. -/
theorem payloads_of_frames (frames : List SseFrame) (h : ∀ frame ∈ frames, frame.WellFormed)
    (chunks : List (List Char)) (hchunks : chunks.flatten <+: body frames) :
    readFrames chunks <+: frames.filterMap SseFrame.data? ∧
      (chunks.flatten = body frames → readFrames chunks = frames.filterMap SseFrame.data?) := by
  have hpayloads : (frames.map SseFrame.block).filterMap framePayload =
      frames.filterMap SseFrame.data? := by
    rw [List.filterMap_map]
    exact List.filterMap_congr fun frame hframe => framePayload_block (h frame hframe)
  have hread : readFrames chunks =
      (Text.cut ['\n', '\n'] chunks.flatten).1.filterMap framePayload := by
    rw [readFrames, Text.read_chunks]
    rfl
  refine ⟨?_, fun hall => ?_⟩
  · obtain ⟨rest, hrest⟩ := hchunks
    have hcut := cut_body h
    rw [← hrest, Text.cut_append, Prod.mk.injEq] at hcut
    rw [hread, ← hpayloads, ← hcut.1]
    exact (List.prefix_append _ _).filterMap framePayload
  · rw [hread, hall, cut_body h, hpayloads]

/-- A comment and an event of two lines, in chunks that cut through them. -/
theorem payloads_of_two_frames :
    readFrames [formatComment ['t'] ++ ['d', 'a'],
      ['t', 'a', ':', ' ', 'a', '\n', 'd', 'a', 't', 'a'], [':', ' ', 'b', '\n'], ['\n']] =
        [['a', '\n', 'b']] :=
  (payloads_of_frames [.comment ['t'], .event none ['a', '\n', 'b']]
    (by simp [SseFrame.WellFormed]) _ (by decide)).2 (by decide)

/-- The data of a frame is a line. -/
def SseFrame.SingleLine (frame : SseFrame) : Prop := ∀ data ∈ frame.data?, '\n' ∉ data

lemma splitLines_of_notMem (h : '\n' ∉ data) : splitLines data = [data] := by
  have hcut : Text.cut ['\n'] (data ++ ['\n']) = ([data], []) := Text.closed_line h
  rw [splitLines, Text.lines_eq, hcut]

lemma cut_lines_body (h : ∀ frame ∈ frames, frame.WellFormed) :
    Text.cut ['\n'] (body frames) = (frames.flatMap fun frame => frame.lines ++ [[]], []) := by
  have hbody : body frames =
      (frames.flatMap fun frame => frame.lines ++ [[]]).flatMap (· ++ ['\n']) ++ [] := by
    rw [List.append_nil, List.flatMap_assoc, body]
    refine List.flatMap_congr fun frame _ => ?_
    rw [frame.text_eq, List.flatMap_append]
    rfl
  rw [hbody, Text.cut_flatMap]
  · exact congrArg (·, []) (List.append_nil _)
  · intro l hl
    obtain ⟨frame, hframe, hl⟩ := List.mem_flatMap.mp hl
    rw [List.mem_append, List.mem_singleton] at hl
    obtain hl | rfl := hl
    · exact Text.closed_line (SseFrame.lines_spec (h frame hframe) l hl).2
    · exact Text.closed_line List.not_mem_nil

lemma dataLines_flatMap (frames : List SseFrame)
    (hsingle : ∀ frame ∈ frames, frame.SingleLine) :
    dataLines (frames.flatMap fun frame => frame.lines ++ [[]]) =
      frames.filterMap SseFrame.data? := by
  induction frames with
  | nil => rfl
  | cons frame frames ih =>
      rw [List.forall_mem_cons] at hsingle
      rw [List.flatMap_cons, dataLines_append, dataLines_append, ih hsingle.2, dataLines_frame]
      cases hdata : frame.data? with
      | none => simp [hdata, dataLines, dataPrefix]
      | some data =>
          have hline := splitLines_of_notMem (hsingle.1 data hdata)
          simp [hdata, hline, dataLines, dataPrefix]

/-- **The line reader agrees where the data are lines.**  Of events whose data hold no newline,
as a JSON text does, the loop of `useApprovalSSE` parses the same payloads. -/
theorem payloads_of_lines (frames : List SseFrame) (h : ∀ frame ∈ frames, frame.WellFormed)
    (hsingle : ∀ frame ∈ frames, frame.SingleLine) (chunks : List (List Char))
    (hchunks : chunks.flatten <+: body frames) :
    readLines chunks <+: frames.filterMap SseFrame.data? ∧
      (chunks.flatten = body frames → readLines chunks = frames.filterMap SseFrame.data?) := by
  have hread : readLines chunks = dataLines (Text.cut ['\n'] chunks.flatten).1 := by
    rw [readLines, Text.read_chunks]
    rfl
  refine ⟨?_, fun hall => ?_⟩
  · obtain ⟨rest, hrest⟩ := hchunks
    have hcut := cut_lines_body h
    rw [← hrest, Text.cut_append, Prod.mk.injEq] at hcut
    rw [hread, ← dataLines_flatMap frames hsingle, ← hcut.1]
    exact ((List.prefix_append _ _).filter _).map _
  · rw [hread, hall, cut_lines_body h, dataLines_flatMap frames hsingle]

/-- An event with a name, in chunks that cut through it. -/
theorem payloads_of_named_event :
    readLines [['e', 'v', 'e', 'n', 't', ':', ' ', 'x', '\n', 'd', 'a'],
      ['t', 'a', ':', ' ', '1', '\n'], ['\n']] = [['1']] :=
  (payloads_of_lines [.event (some ['x']) ['1']] (by simp [SseFrame.WellFormed])
    (by simp [SseFrame.SingleLine, SseFrame.data?]) _ (by decide)).2 (by decide)

end ServerSentEvents

end Networker
