import Workflow.Event.Basic
import Workflow.Executor.Basic
import Workflow.Graph.Basic

/-! Runs of a graph: their state, and how the arcs behind a finished node are settled. -/
namespace Workflow

/-- An arc is pending until its source is done; then the run went along it, or it did not. -/
inductive ArcState where
  | pending
  | taken
  | skipped
  deriving DecidableEq, Repr, Inhabited

/-- Why a run stops. -/
inductive Termination where
  /-- Nothing is left to do. -/
  | drained
  /-- An end node was reached. -/
  | finished (output : Json)
  /-- A node failed that must not fail. -/
  | failed (error : NodeError)
  | cancelled
  deriving DecidableEq, Repr

structure RunOutcome where
  status : RunStatus
  output : Option Json := none
  error : Option RunError := none
  deriving DecidableEq, Repr

structure Run where
  graph : Graph
  /-- What the caller gave to the run. -/
  input : Fields
  history : History := {}
  status : RunStatus := .pending
  /-- The values that nodes have written. -/
  state : Fields := []
  /-- One state for each arc of the graph. -/
  arcs : List ArcState
  /-- Nodes that are queued, started or pruned. -/
  resolved : List String := []
  /-- Nodes that may start, the next one first. -/
  ready : List String := []
  /-- Nodes that have started and are not done, in the order of their ids. -/
  inFlight : List String := []
  /-- Whether the caller asked for the run to stop. -/
  cancelled : Bool := false
  outcome : Option RunOutcome := none
  deriving DecidableEq, Repr

namespace Run

/-- A run that has not begun. -/
def ofGraph (g : Graph) (input : Fields) : Run where
  graph := g
  input
  arcs := g.arcs.map fun _ => .pending

def arcState (r : Run) (i : Nat) : ArcState := r.arcs.getD i .pending

def publish (r : Run) (what : Happening) : Run := { r with history := r.history.publish what }

def cancel (r : Run) : Run := { r with cancelled := true }

/-- The targets of the arcs at the given places. -/
def targets (r : Run) (places : List Nat) : List String :=
  places.filterMap fun i => (r.graph.arcs[i]?).map (·.target)

/-- Give a state to the arc at a place, if there is one. -/
def markAt (arcs : List Arc) (state : Arc → ArcState) (states : List ArcState) (i : Nat) :
    List ArcState :=
  match arcs[i]? with
  | some a => states.set i (state a)
  | none => states

/-- Give a state to the arcs at the given places. -/
def mark (r : Run) (state : Arc → ArcState) (places : List Nat) : Run :=
  { r with arcs := places.foldl (markAt r.graph.arcs state) r.arcs }

/-- Look at the nodes on a stack, the topmost first. A node none of whose arcs is pending is queued
if some arc to it is taken; else it is pruned, and the arcs out of it are skipped. Every arc puts
its target on the stack at most once, so the number of arcs is enough fuel. -/
def settle : Nat → List String → Run → Run
  | 0, _, r => r
  | _ + 1, [], r => r
  | fuel + 1, id :: stack, r =>
    if r.resolved.contains id then settle fuel stack r
    else
      let states := (r.graph.incoming id).map r.arcState
      if states.contains .pending then settle fuel stack r
      else
        let r := { r with resolved := id :: r.resolved }
        if states.contains .taken then settle fuel stack { r with ready := r.ready ++ [id] }
        else
          let out := r.graph.outgoing id
          settle fuel ((r.targets out).reverse ++ stack) (r.mark (fun _ => .skipped) out)

/-- Mark the arcs out of a finished node, and queue or prune what follows. -/
def settleOutgoing (r : Run) (id : String) (takes : Arc → Bool) : Run :=
  let out := r.graph.outgoing id
  (r.mark (fun a => if takes a then .taken else .skipped) out).settle (r.graph.arcs.length + 1)
    (r.targets out).reverse

end Run

/-- Whether a route goes along an arc. -/
def Route.takes : Route → Arc → Bool
  | .all, _ => true
  | .branch result, a => a.handle == some (toString result)
  | .finish _, _ => false

end Workflow
