import Workflow.Graph.Basic

/-! Reachability, cycles and topological order in lists of arcs. -/
namespace Workflow.Graph

/-- The nodes seen so far with the targets of the arcs that leave them. -/
def spread (arcs : List Arc) (seen : List String) : List String :=
  arcs.foldl (fun seen a =>
    if seen.contains a.source && !seen.contains a.target then seen ++ [a.target] else seen) seen

def spreadTimes (arcs : List Arc) : Nat → List String → List String
  | 0, seen => seen
  | n + 1, seen => spreadTimes arcs n (spread arcs seen)

/-- The nodes that arcs lead to from `start`. A round that adds nothing is the last one to add
anything, so there are at most as many rounds as arcs. -/
def reachable (arcs : List Arc) (start : String) : List String :=
  spreadTimes arcs arcs.length [start]

/-- Whether an arc leads from one of the nodes to another one of them. -/
def Arc.within (remaining : List String) (a : Arc) : Bool :=
  remaining.contains a.source && remaining.contains a.target

/-- Leave out the nodes that no arc enters, or that no arc leaves, among the nodes that remain. -/
def peel (arcs : List Arc) (remaining : List String) : List String :=
  let live := arcs.filter (Arc.within remaining)
  remaining.filter fun id => live.any (·.target == id) && live.any (·.source == id)

def peelTimes (arcs : List Arc) : Nat → List String → List String
  | 0, remaining => remaining
  | n + 1, remaining => peelTimes arcs n (peel arcs remaining)

/-- The first of the given nodes that lies on a cycle or between two cycles. -/
def findCycle (arcs : List Arc) (ids : List String) : Option String :=
  (peelTimes arcs ids.length ids).head?

/-- Insert into texts in increasing order. -/
def insertSorted (id : String) : List String → List String
  | [] => [id]
  | x :: xs => if id < x then id :: x :: xs else x :: insertSorted id xs

/-- A topological order that is being built: the numbers of arcs that still lead to each node from
nodes that are not placed, the nodes that no such arc enters, and the nodes placed. -/
structure Placing where
  degrees : List (String × Nat)
  ready : List String
  placed : List String
  deriving DecidableEq, Repr

namespace Placing

/-- Take away one arc that leads to a node. -/
def release (p : Placing) (target : String) : Placing :=
  match p.degrees.lookup target with
  | none => p
  | some d =>
    let degrees := p.degrees.map fun (id, n) => if id == target then (id, n - 1) else (id, n)
    { p with degrees, ready := if d = 1 then insertSorted target p.ready else p.ready }

/-- Place the lowest node that is ready. -/
def step (arcs : List Arc) (p : Placing) : Placing :=
  match p.ready with
  | [] => p
  | id :: ready =>
    let released := (arcs.filter (·.source == id)).foldl (fun p a => p.release a.target)
      { p with ready }
    { released with placed := released.placed ++ [id] }

def steps (arcs : List Arc) : Nat → Placing → Placing
  | 0, p => p
  | n + 1, p => steps arcs n (p.step arcs)

/-- Nothing placed yet. -/
def initial (arcs : List Arc) (ids : List String) : Placing :=
  let degrees := ids.map fun id => (id, (arcs.filter (·.target == id)).length)
  { degrees, ready := (degrees.filter (·.2 == 0)).map (·.1), placed := [] }

end Placing

/-- The given nodes, in increasing order, put into topological order. -/
def topologicalOrder (arcs : List Arc) (ids : List String) : List String :=
  (Placing.steps arcs ids.length (Placing.initial arcs ids)).placed

end Workflow.Graph
