import Workflow.Run.Basic

/-! The steps of a run: it begins, starts nodes, takes in their results, and ends. -/
namespace Workflow.Run

/-- What a run does next. -/
inductive Move where
  | start (id : String)
  /-- Wait for one of the nodes in flight. -/
  | await
  | stop (why : Termination)
  deriving DecidableEq, Repr

/-- Queue the start node. -/
def begin (r : Run) : Run :=
  let r := r.publish (.workflowStart r.graph.workflowId)
  { r with status := .running, resolved := [r.graph.start], ready := [r.graph.start] }

/-- A cancelled run stops; else queued nodes start, one after the other, before the run waits. -/
def next (r : Run) : Move :=
  if r.cancelled then .stop .cancelled
  else match r.ready with
    | id :: _ => .start id
    | [] => if r.inFlight.isEmpty then .stop .drained else .await

/-- What a node gets to see: the start node the input of the run, any other node the values of its
usage fields, or all values if it names none. -/
def snapshot (r : Run) (node : Node) : Fields :=
  if node.type = .start then r.input
  else if node.usageFields.isEmpty then r.state
  else r.state.restrict node.usageFields

def invocation (r : Run) (node : Node) : Invocation :=
  ⟨node, r.snapshot node, r.graph.condition? node.id⟩

def insertId (id : String) : List String → List String
  | [] => [id]
  | x :: xs => if id < x then id :: x :: xs else if id = x then x :: xs else x :: insertId id xs

/-- Start the node at the head of the queue. -/
def start (r : Run) : Run × Option Invocation :=
  match r.ready with
  | [] => (r, none)
  | id :: ready => match r.graph.node? id with
    | none => ({ r with ready }, none)
    | some node =>
      let r := { r with ready }.publish (.nodeStart id node.type node.name)
      let r := { r with inFlight := insertId id r.inFlight }
      (r, some (r.invocation node))

/-- Publish a part of the output of a node. -/
def emit (r : Run) (id : String) (data : Json) : Run := r.publish (.nodeOutput id data)

/-- Take in the outcome of a node that succeeded. -/
def succeed (r : Run) (id : String) (outcome : Outcome) (elapsed : Nat) :
    Run × Option Termination :=
  let r := { r with state := r.state.merge outcome.patch, inFlight := r.inFlight.erase id }
  let r := r.publish (.nodeEnd id outcome.output elapsed)
  match outcome.route with
  | .finish output => (r, some (.finished output))
  | route => (r.settleOutgoing id route.takes, none)

/-- What the failure of a node does to the run. -/
def policy (r : Run) (id : String) : ErrorPolicy :=
  match r.graph.node? id with
  | some node => node.onError
  | none => .abort

/-- Take in the failure of a node. -/
def fail (r : Run) (id : String) (fault : NodeFault) : Run × Option Termination :=
  let r := { r with inFlight := r.inFlight.erase id }.publish (.nodeError id fault.info)
  match r.policy id with
  | .abort => (r, some (.failed ⟨id, fault⟩))
  | .proceed => (r.settleOutgoing id fun _ => false, none)

/-- Take in the result of a node, with the reason to stop if there is one. -/
def complete (r : Run) (id : String) (result : Except NodeFault Outcome) (elapsed : Nat) :
    Run × Option Termination :=
  match result with
  | .ok outcome => r.succeed id outcome elapsed
  | .error fault => r.fail id fault

/-- Report a node in flight as cancelled. -/
def report (r : Run) (id : String) : Run :=
  { r with inFlight := r.inFlight.erase id }.publish (.nodeError id NodeFault.cancelled.info)

/-- Report every node in flight as cancelled. -/
def windDown (r : Run) : Run := r.inFlight.foldl report r

/-- How a run that stops turns out. -/
def outcomeOf (r : Run) : Termination → RunOutcome
  | .drained => { status := .completed, output := some (.obj r.state) }
  | .finished output => { status := .completed, output := some output }
  | .failed error => { status := .failed, error := some (.nodeFailed error) }
  | .cancelled => { status := .cancelled, error := some .cancelled }

/-- End a run that has nothing in flight. -/
def close (r : Run) (why : Termination) (elapsed : Nat) : Run :=
  let o := r.outcomeOf why
  let r := r.publish (.workflowEnd o.status o.output (o.error.map (·.message)) elapsed)
  { r with status := o.status, outcome := some o }

/-- End the run. -/
def stop (r : Run) (why : Termination) (elapsed : Nat) : Run :=
  (if why = .drained then r else r.windDown).close why elapsed

/-- What a caller hears of a run that was dropped before its end. -/
def interrupted : RunOutcome where
  status := .failed
  error := some (.interrupted "run task ended without an outcome")

end Workflow.Run
