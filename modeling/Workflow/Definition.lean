import Workflow.Node.Format

/-! Workflows as their authors write them: nodes and edges in any order. -/
namespace Workflow

structure Edge where
  id : String
  source : String
  target : String
  /-- The branch of a condition node that the edge belongs to. -/
  sourceHandle : Option String := none
  targetHandle : Option String := none
  deriving DecidableEq, Repr

namespace Edge

/-- The id of an edge that has none of its own. -/
def defaultId (source target : String) : String := source ++ "->" ++ target

def between (source target : String) : Edge := { id := defaultId source target, source, target }

/-- The edge that a condition node takes on the given result. -/
def branch (source target : String) (result : Bool) : Edge where
  id := defaultId source target ++ ":" ++ toString result
  source
  target
  sourceHandle := some (toString result)

end Edge

structure Definition where
  id : String
  name : Option String := none
  nodes : List Node
  edges : List Edge
  deriving DecidableEq, Repr

open Json

def Edge.toJson (e : Edge) : Json :=
  .ofPairs ([("id", .str e.id), ("source", .str e.source), ("target", .str e.target)]
    ++ optionalField "sourceHandle" .str e.sourceHandle
    ++ optionalField "targetHandle" .str e.targetHandle)

def Definition.toJson (d : Definition) : Json :=
  .ofPairs [("id", .str d.id), ("name", nullable .str d.name),
    ("nodes", .arr (d.nodes.map Node.toJson)), ("edges", .arr (d.edges.map Edge.toJson))]

namespace Edge

structure Draft where
  id : Option String := none
  source : Option String := none
  target : Option String := none
  sourceHandle : Option (Option String) := none
  targetHandle : Option (Option String) := none

def slots : List (Slot Draft) := [
  .of "id" true (·.id) (fun d a => { d with id := a }) readText,
  .of "source" false (·.source) (fun d a => { d with source := a }) readText,
  .of "target" false (·.target) (fun d a => { d with target := a }) readText,
  .of "sourceHandle" true (·.sourceHandle) (fun d a => { d with sourceHandle := some a })
    (readOption readText),
  .of "targetHandle" true (·.targetHandle) (fun d a => { d with targetHandle := some a })
    (readOption readText)]

def read : Reader Edge :=
  (readRecord "struct Edge" slots {}).andThen fun d => do
    return {
      id := d.id.getD ""
      source := ← required "source" d.source
      target := ← required "target" d.target
      sourceHandle := d.sourceHandle.getD none
      targetHandle := d.targetHandle.getD none }

end Edge

namespace Definition

structure Draft where
  id : Option String := none
  name : Option (Option String) := none
  nodes : Option (List Node) := none
  edges : Option (List Edge) := none

def slots : List (Slot Draft) := [
  .of "id" true (·.id) (fun d a => { d with id := a }) readText,
  .of "name" true (·.name) (fun d a => { d with name := some a }) (readOption readText),
  .of "nodes" false (·.nodes) (fun d a => { d with nodes := a }) (readList Node.read),
  .of "edges" true (·.edges) (fun d a => { d with edges := a }) (readList Edge.read)]

def read : Reader Definition :=
  (readRecord "struct Workflow" slots {}).andThen fun d => do
    return {
      id := d.id.getD ""
      name := d.name.getD none
      nodes := ← required "nodes" d.nodes
      edges := d.edges.getD [] }

def ofText (text : String) : ReadResult Definition := readWhole read text

end Definition
end Workflow
