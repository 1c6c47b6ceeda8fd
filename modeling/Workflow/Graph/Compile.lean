import Workflow.Graph.Order

/-! Compilation: the checks that make a workflow a graph, the first failure being reported. -/
namespace Workflow.Graph

/-- The first node whose id an earlier node has. -/
def firstDuplicate (seen : List String) : List Node → Option String
  | [] => none
  | n :: ns => if seen.contains n.id then some n.id else firstDuplicate (n.id :: seen) ns

def insertNode (node : Node) : List Node → List Node
  | [] => [node]
  | n :: ns => if node.id < n.id then node :: n :: ns else n :: insertNode node ns

/-- Nodes in the order of their ids. -/
def sortNodes (nodes : List Node) : List Node := nodes.foldr insertNode []

def arcOf (e : Edge) : Arc where
  id := if e.id.isEmpty then Edge.defaultId e.source e.target else e.id
  source := e.source
  target := e.target
  handle := e.sourceHandle

/-- The first arc, and the end of it, that names no node; the source is looked at first. -/
def firstDangling (ids : List String) : List Arc → Option (String × String)
  | [] => none
  | a :: arcs =>
    if !ids.contains a.source then some (a.id, a.source)
    else if !ids.contains a.target then some (a.id, a.target)
    else firstDangling ids arcs

/-- Whether a node may stand without any arc that enters it. -/
def mayStandAlone (n : Node) : Bool := n.type == .start || n.type == .information

/-- A condition node has two arcs, one for each result. -/
def checkBranches (arcs : List Arc) (id : String) : Except GraphError Unit :=
  let out := arcs.filter (·.source == id)
  if out.length ≠ 2 then .error (.branchCount id out.length)
  else if out.any (·.handle == some "true") && out.any (·.handle == some "false") then .ok ()
  else .error (.branchLabels id)

/-- The predicates of the condition nodes among the given ones. -/
def compileConditions (arcs : List Arc) : List Node → Except GraphError (List (String × Predicate))
  | [] => .ok []
  | n :: ns => match n.payload with
    | .condition expression => do
      checkBranches arcs n.id
      match Predicate.parse expression with
      | .error e => .error (.invalidExpression n.id e.message)
      | .ok p => do
        let rest ← compileConditions arcs ns
        .ok ((n.id, p) :: rest)
    | _ => compileConditions arcs ns

/-- The graph of a workflow. -/
def compile (w : Definition) : Except GraphError Graph := do
  if let some id := firstDuplicate [] w.nodes then throw (.duplicateNodeId id)
  let nodes := sortNodes w.nodes
  let ids := nodes.map (·.id)
  let arcs := w.edges.map arcOf
  if let some (edge, node) := firstDangling ids arcs then throw (.danglingEdge edge node)
  match nodes.filter (·.type == .start) with
  | [start] => do
    if let some n := nodes.find? (fun n => !mayStandAlone n && !arcs.any (·.target == n.id)) then
      throw (.orphanNode n.id)
    if let some id := findCycle arcs ids then throw (.cycle id)
    let live := reachable arcs start.id
    let isolated := nodes.filter fun n => !live.contains n.id
    if let some n := isolated.find? (·.type != .information) then throw (.orphanNode n.id)
    let nodes := nodes.filter fun n => live.contains n.id
    let arcs := arcs.filter fun a => live.contains a.source
    let conditions ← compileConditions arcs nodes
    return {
      workflowId := w.id
      start := start.id
      nodes
      arcs
      standalone := isolated.map (·.id)
      conditions
      topoOrder := topologicalOrder arcs (nodes.map (·.id)) }
  | starts => throw (.startCount starts.length)

end Workflow.Graph
