import Workflow.Definition
import Workflow.Predicate.Eval

/-! Graphs that can run: valid workflows, with the parts that never run left out. -/
namespace Workflow

/-- Why a workflow cannot run. -/
inductive GraphError where
  | duplicateNodeId (id : String)
  | danglingEdge (edge node : String)
  | startCount (found : Nat)
  | orphanNode (id : String)
  | cycle (id : String)
  | branchCount (node : String) (found : Nat)
  | branchLabels (node : String)
  | invalidExpression (node message : String)
  deriving DecidableEq, Repr

namespace GraphError

/-- The name of the check that failed. -/
def code : GraphError → String
  | duplicateNodeId _ => "duplicate_node_id"
  | danglingEdge _ _ => "dangling_edge"
  | startCount _ => "missing_or_multiple_start"
  | orphanNode _ => "orphan_node"
  | cycle _ => "cycle_detected"
  | branchCount _ _ | branchLabels _ => "invalid_condition_branching"
  | invalidExpression _ _ => "invalid_expression"

def message : GraphError → String
  | duplicateNodeId id => "duplicate node id: " ++ id
  | danglingEdge edge node => "edge " ++ edge ++ " references unknown node " ++ node
  | startCount n => "workflow must contain exactly one start node, found " ++ toString n
  | orphanNode id => "node " ++ id ++ " is not reachable from the start node"
  | cycle id => "cycle detected through node " ++ id
  | branchCount id n =>
    "condition node " ++ id ++ ": expected exactly 2 outgoing edges, found " ++ toString n
  | branchLabels id =>
    "condition node " ++ id ++ ": outgoing edges must be labelled \"true\" and \"false\""
  | invalidExpression id m => "condition node " ++ id ++ " has an invalid expression: " ++ m

end GraphError

/-- An edge of a graph; the handle is the branch of a condition node that it belongs to. -/
structure Arc where
  id : String
  source : String
  target : String
  handle : Option String
  deriving DecidableEq, Repr

/-- The part of a valid workflow that can run, with nodes in the order of their ids. -/
structure Graph where
  workflowId : String
  start : String
  nodes : List Node
  arcs : List Arc
  /-- Information nodes that nothing leads to, in the order of their ids. -/
  standalone : List String
  /-- The predicate of each condition node. -/
  conditions : List (String × Predicate)
  /-- The nodes so that every arc leads forward, lower ids first where there is a choice. -/
  topoOrder : List String
  deriving DecidableEq, Repr

/-- The places at which the members of a list satisfy a test, the first place being `n`. -/
def indicesFrom {α : Type} (p : α → Bool) : Nat → List α → List Nat
  | _, [] => []
  | n, a :: as => if p a then n :: indicesFrom p (n + 1) as else indicesFrom p (n + 1) as

namespace Graph

def node? (g : Graph) (id : String) : Option Node := g.nodes.find? (·.id == id)

/-- The places of the arcs that leave a node. -/
def outgoing (g : Graph) (id : String) : List Nat := indicesFrom (·.source == id) 0 g.arcs

/-- The places of the arcs that enter a node. -/
def incoming (g : Graph) (id : String) : List Nat := indicesFrom (·.target == id) 0 g.arcs

def inDegree (g : Graph) (id : String) : Nat := (g.incoming id).length

def condition? (g : Graph) (id : String) : Option Predicate := g.conditions.lookup id

end Graph
end Workflow
