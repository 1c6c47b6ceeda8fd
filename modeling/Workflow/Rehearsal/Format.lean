import Workflow.Executor
import Workflow.Failure.Format
import Workflow.Rehearsal.Script
import Workflow.Settings.Format
import Workflow.Tool.Standard

/-! Scripts as JSON. A behaviour may pause first, and fail then; else it gives its value. One
behaviour, or a list of them, tells how the calls of a capability turn out. -/
namespace Workflow.Script

open Json

/-- How a behaviour turns out that would give a value. -/
def timed {ε α : Type} (error : CallError → ε) (behaviour : Json) (value : α) :
    Timed (Except ε α) :=
  let waits := if behaviour.has "delay" then [(behaviour.field "delay").asNat 0] else []
  if (behaviour.field "hang").asFlag then { ending := .never }
  else if behaviour.has "panic" then ⟨waits, .breakdown⟩
  else if behaviour.has "err" then
    ⟨waits, .value (.error (error (.ofJson (behaviour.field "err"))))⟩
  else ⟨waits, .value (.ok value)⟩

/-- The behaviours of the calls of a capability. -/
def cues : Json → List Json
  | .arr xs => xs
  | .null => []
  | v => [v]

def toolCue (b : Json) : Timed (Except CallError ScriptedResult) :=
  timed id b (if (b.field "echo").asFlag then .echo else .value (b.field "return"))

def codeCue (b : Json) : Timed (Except CallError CodeOutput) :=
  timed id b ⟨(b.field "stdout").asText, (b.field "stderr").asText, (b.field "exit").asInt 0⟩

def httpCue (b : Json) : Timed (Except CallError HttpResponse) :=
  timed id b {
    status := (b.field "status").asNat 200
    reason := (b.field "reason").asText
    body := (b.field "body").asText }

def stopReason (v : Json) : StopReason :=
  match v.asText with
  | "MaxTokens" => .maxTokens
  | "StopSequence" => .stopSequence
  | _ => .endTurn

/-- A part of an answer; a plain text is one. -/
def delta : Json → Delta
  | .str s => .text s
  | b =>
    if b.has "usage" then
      .usage (((b.field "usage").item 0).asNat 0) (((b.field "usage").item 1).asNat 0)
    else if b.has "stop" then .stop (stopReason (b.field "stop"))
    else .text (b.field "text").asText

def chatCue (b : Json) : Timed ChatAnswer :=
  if b.has "open_err" then { ending := .value (.error (.ofJson (b.field "open_err"))) }
  else timed id b ((b.field "reply").items.map fun i => timed id i (delta i))

def route : Json → Route
  | .bool b => .branch b
  | .obj fields => .finish (Json.ofOption (Fields.get? fields "finish"))
  | _ => .all

def standIn (b : Json) : StandIn :=
  let patch := (b.field "patch").members
  let output := if b.has "output" then b.field "output" else .obj patch
  { emits := (b.field "emit").items
    lateMs := if b.has "late_emit" then some ((b.field "late_emit").asNat 0) else none
    result := timed .ofCall b ⟨patch, output, route (b.field "route")⟩ }

/-- The standard tools, if they are asked for, or none. -/
def remainingTools (v : Json) (now : Moment) (name : String) (input : Json) :
    Except CallError Json :=
  if (v.field "builtins").asFlag then
    ((Toolbox.standard {}).call name ⟨"", input⟩ false none { now }).1
  else .error (.toolNotFound name)

/-- The script that a value describes, played at the given moment. -/
def ofJson (v : Json) (now : Moment) : Script where
  tools := (v.field "tools").members.map fun (name, b) => (name, (cues b).map toolCue)
  otherTools := remainingTools v now
  code := (cues (v.field "code")).map codeCue
  http := (cues (v.field "http")).map httpCue
  chat := (cues (v.field "llm")).map chatCue
  standIns := (v.field "custom").members.filterMap fun (type, b) =>
    (NodeType.table.lookup type).map fun t => (t, (cues b).map standIn)

/-- What is at hand: the capabilities that the script names. -/
def equipment (v : Json) : Equipment where
  model :=
    if !v.has "llm" then none
    else if v.has "model" then (readJson ModelSettings.read (v.field "model")).toOption
    else some { modelId := "default-model" }
  tools := v.has "tools" || v.has "builtins"
  code := v.has "code"
  http := v.has "http"

end Workflow.Script
