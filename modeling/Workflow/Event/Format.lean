import Workflow.Calendar.Parser
import Workflow.Event.Basic
import Workflow.Node.Format

/-! Events as JSON. -/
namespace Workflow

open Json

def ErrorInfo.toJson (e : ErrorInfo) : Json :=
  .ofPairs [("kind", .str e.kind.name), ("message", .str e.message)]

namespace Happening

/-- The members that only events of this type have. -/
def payload : Happening → List (String × Json)
  | workflowStart workflow => [("workflowId", .str workflow)]
  | nodeStart node type name =>
    [("nodeId", .str node), ("nodeType", .str type.name), ("name", .str name)]
  | nodeOutput node data => [("nodeId", .str node), ("data", data)]
  | nodeEnd node output elapsed =>
    [("nodeId", .str node), ("output", output), ("elapsedMs", .ofNat elapsed)]
  | nodeError node error => [("nodeId", .str node), ("error", error.toJson)]
  | workflowEnd status output error elapsed =>
    [("status", .str status.name)] ++ optionalField "output" id output
      ++ optionalField "error" .str error ++ [("elapsedMs", .ofNat elapsed)]

def fields (h : Happening) : List (String × Json) := ("type", .str h.typeName) :: h.payload

end Happening

def Event.toJson (e : Event) : Json :=
  .ofPairs ([("runId", .str e.runId), ("seq", .ofNat e.seq), ("timestamp", .str e.timestamp.text)]
    ++ e.what.fields)

namespace ErrorInfo

structure Draft where
  kind : Option NodeErrorKind := none
  message : Option String := none

def slots : List (Slot Draft) := [
  .of "kind" false (·.kind) (fun d a => { d with kind := a }) (readVariant NodeErrorKind.table),
  .of "message" false (·.message) (fun d a => { d with message := a }) readText]

def read : Reader ErrorInfo :=
  (readRecord "struct NodeErrorInfo" slots {}).andThen fun d => do
    return ⟨← required "kind" d.kind, ← required "message" d.message⟩

end ErrorInfo

namespace Happening

/-- The members of an event beyond those that all events have, as far as they are read. -/
structure Draft where
  workflowId : Option String := none
  nodeId : Option String := none
  nodeType : Option NodeType := none
  name : Option String := none
  data : Option Json := none
  anyOutput : Option Json := none
  elapsedMs : Option Nat := none
  error : Option ErrorInfo := none
  status : Option RunStatus := none
  output : Option (Option Json) := none
  reason : Option (Option String) := none

inductive Tag where
  | workflowStart
  | nodeStart
  | nodeOutput
  | nodeEnd
  | nodeError
  | workflowEnd
  deriving DecidableEq, Repr

def Tag.table : List (String × Tag) := [("WORKFLOW_START", workflowStart),
  ("NODE_START", nodeStart), ("NODE_OUTPUT", nodeOutput), ("NODE_END", nodeEnd),
  ("NODE_ERROR", nodeError), ("WORKFLOW_END", workflowEnd)]

/-- How messages call what stands behind a tag. -/
def Tag.title (tag : Tag) : String :=
  "struct variant EventKind::" ++ match tag with
    | workflowStart => "WorkflowStart"
    | nodeStart => "NodeStart"
    | nodeOutput => "NodeOutput"
    | nodeEnd => "NodeEnd"
    | nodeError => "NodeError"
    | workflowEnd => "WorkflowEnd"

def nodeSlot : Slot Draft :=
  .of "nodeId" false (·.nodeId) (fun d a => { d with nodeId := a }) readText

def elapsedSlot : Slot Draft :=
  .of "elapsedMs" false (·.elapsedMs) (fun d a => { d with elapsedMs := a }) (readNatural 64 "u64")

def slots : Tag → List (Slot Draft)
  | .workflowStart => [
    .of "workflowId" false (·.workflowId) (fun d a => { d with workflowId := a }) readText]
  | .nodeStart => [nodeSlot,
    .of "nodeType" false (·.nodeType) (fun d a => { d with nodeType := a })
      (readVariant NodeType.table),
    .of "name" false (·.name) (fun d a => { d with name := a }) readText]
  | .nodeOutput => [nodeSlot,
    .of "data" false (·.data) (fun d a => { d with data := a }) readAny]
  | .nodeEnd => [nodeSlot,
    .of "output" false (·.anyOutput) (fun d a => { d with anyOutput := a }) readAny,
    elapsedSlot]
  | .nodeError => [nodeSlot,
    .of "error" false (·.error) (fun d a => { d with error := a }) ErrorInfo.read]
  | .workflowEnd => [
    .of "status" false (·.status) (fun d a => { d with status := a }) (readVariant RunStatus.table),
    .of "output" true (·.output) (fun d a => { d with output := some a }) (readOption readAny),
    .of "error" true (·.reason) (fun d a => { d with reason := some a }) (readOption readText),
    elapsedSlot]

def ofDraft (d : Draft) : Tag → ReadResult Happening
  | .workflowStart => return workflowStart (← required "workflowId" d.workflowId)
  | .nodeStart => do
    let node ← required "nodeId" d.nodeId
    let type ← required "nodeType" d.nodeType
    return nodeStart node type (← required "name" d.name)
  | .nodeOutput => do
    let node ← required "nodeId" d.nodeId
    return nodeOutput node (← required "data" d.data)
  | .nodeEnd => do
    let node ← required "nodeId" d.nodeId
    let output ← required "output" d.anyOutput
    return nodeEnd node output (← required "elapsedMs" d.elapsedMs)
  | .nodeError => do
    let node ← required "nodeId" d.nodeId
    return nodeError node (← required "error" d.error)
  | .workflowEnd => do
    let status ← required "status" d.status
    return workflowEnd status (d.output.getD none) (d.reason.getD none)
      (← required "elapsedMs" d.elapsedMs)

/-- A happening of its members, among them the tag, which comes from the given origin. -/
def ofHeld (origin : Origin) (held : Held) : ReadResult Happening := do
  let (tag, members) ← takeTag "type" Tag.table origin held none []
  ofDraft (← membersOfDocument (slots tag) .held members {}) tag

/-- A happening of a tag and its members in their order. -/
def ofItems (origin : Origin) : List Document → ReadResult Happening
  | [] => refuse (.missingField "type")
  | first :: items => do
    let tag ← origin.locate [.item 0] (readTag Tag.table origin first)
    ofDraft (← recordOfItems tag.title (slots tag) {} .held items) tag

/-- Read a happening that stands alone. -/
def read : Reader Happening := .held fun origin d => match d with
  | .obj fields => ofHeld origin fields
  | .arr items => ofItems origin items
  | d => d.mismatch "internally tagged enum EventKind"

end Happening

/-- Read a moment. -/
def readMoment : Reader Moment := .scalar fun
  | .str s => match Calendar.relaxedMoment s with
    | .ok m => .ok m
    | .error e => refuse (.other e.message)
  | d => d.mismatch "an RFC 3339 formatted date and time string"

namespace Event

structure Draft where
  runId : Option String := none
  seq : Option Nat := none
  timestamp : Option Moment := none

def slots : List (Slot Draft) := [
  .of "runId" false (·.runId) (fun d a => { d with runId := a }) readText,
  .of "seq" false (·.seq) (fun d a => { d with seq := a }) (readNatural 64 "u64"),
  .of "timestamp" false (·.timestamp) (fun d a => { d with timestamp := a }) readMoment]

def read : Reader Event :=
  (readOpenRecord "struct ExecutionEvent" slots {}).andThen fun (d, held) => do
    let runId ← required "runId" d.runId
    let seq ← required "seq" d.seq
    let timestamp ← required "timestamp" d.timestamp
    return { runId, seq, timestamp, what := ← Happening.ofHeld .held held }

def ofText (text : String) : ReadResult Event := readWhole read text

end Event
end Workflow
