import Workflow.Definition
import Workflow.Gateway.Basic
import Workflow.Graph.Compile
import Workflow.Settings

/-! The service of the gateway: it tells that it is there, checks workflows and runs them. -/
namespace Workflow.Gateway

open Json

/-- What a request to check a workflow holds, or one to run it. -/
structure Order where
  workflow : Definition
  input : Fields := []
  deriving DecidableEq, Repr

namespace Order

structure Draft where
  workflow : Option Definition := none
  input : Option Fields := none

def workflowSlot : Slot Draft :=
  .of "workflow" false (·.workflow) (fun d a => { d with workflow := a }) Definition.read

def inputSlot : Slot Draft :=
  .of "input" true (·.input) (fun d a => { d with input := a }) (readMap readAny)

def ofDraft (d : Draft) : ReadResult Order := do
  return { workflow := ← required "workflow" d.workflow, input := d.input.getD [] }

/-- A workflow to check. -/
def readCheck : Reader Order :=
  (readRecord "struct ValidateBody" [workflowSlot] {}).andThen ofDraft

/-- A workflow to run, with its input. -/
def readRun : Reader Order :=
  (readRecord "struct RunBody" [workflowSlot, inputSlot] {}).andThen ofDraft

end Order

/-- What the addresses of the gateway are for. -/
inductive Purpose where
  | health
  | check
  | run
  deriving DecidableEq, Repr

namespace Purpose

def ofPath? : String → Option Purpose
  | "/api/health" => some health
  | "/api/workflows/validate" => some check
  | "/api/workflows/run" => some run
  | _ => none

/-- The methods of an address. -/
def methods : Purpose → List String
  | health => ["GET", "HEAD"]
  | check | run => ["POST"]

def allow (p : Purpose) : String := ",".intercalate p.methods

end Purpose

/-- The JSON in the body of a request, or the response that refuses it. -/
def readBody {α : Type} (read : Reader α) (r : Request) : Except Response α :=
  if !r.hasJson then
    .error { status := 415, body := .text "Expected request with `Content-Type: application/json`" }
  else match readWhole read r.body with
    | .ok a => .ok a
    | .error e =>
      let message := e.describe ReadError.message
      match e.error with
      | .syntaxFault _ => .error {
          status := 400
          body := .text ("Failed to parse the request body as JSON: " ++ message) }
      | _ => .error {
          status := 422
          body := .text
            ("Failed to deserialize the JSON body into the target type: " ++ message) }

/-- The response to a workflow that is not valid. -/
def refusal (e : GraphError) : Response where
  status := 422
  body := .json (.ofPairs [("valid", .bool false),
    ("error", .ofPairs [("code", .str e.code), ("message", .str e.message)])])

def health : Response where
  status := 200
  body := .json (.ofPairs [("status", .str "ok"), ("version", .str version)])

/-- The response to a valid workflow. -/
def approval (g : Graph) : Response where
  status := 200
  body := .json (.ofPairs [("valid", .bool true), ("workflowId", .str g.workflowId),
    ("nodes", .ofNat g.nodes.length), ("topoOrder", .ofStrings g.topoOrder)])

/-- Who runs the workflows: from a graph and its input, the id of the run and its events. -/
abbrev Runner (σ : Type) := Graph → Fields → σ → (String × List Event) × σ

/-- The response to a request with one of the methods of its address. -/
def serve {σ : Type} (runner : Runner σ) (p : Purpose) (r : Request) (s : σ) : Response × σ :=
  let graph (read : Reader Order) : Except Response (Graph × Order) := do
    let order ← readBody read r
    return (← (Graph.compile order.workflow).mapError refusal, order)
  match p with
  | .health => (if r.method == "HEAD" then health.headOnly else health, s)
  | .check => match graph Order.readCheck with
    | .error response => (response, s)
    | .ok (g, _) => (approval g, s)
  | .run => match graph Order.readRun with
    | .error response => (response, s)
    | .ok (g, order) =>
      let ((runId, events), s) := runner g order.input s
      ({ status := 200, body := .events events, runId := some runId }, s)

/-- The response to any request. Browsers that ask for permission first always get it. -/
def answer {σ : Type} (runner : Runner σ) (r : Request) (s : σ) : Response × σ :=
  let purpose := Purpose.ofPath? r.path
  if r.method == "OPTIONS" then ({ status := 200, allow := purpose.map (·.allow) }, s)
  else match purpose with
    | none => ({ status := 404 }, s)
    | some p =>
      if p.methods.contains r.method then serve runner p r s
      else ({ status := 405, allow := some p.allow }, s)

end Workflow.Gateway
