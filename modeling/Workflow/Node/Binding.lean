import Workflow.Node

/-! The part of the run state that the result of a node goes to. -/
namespace Workflow.Node

/-- The declared keys with the members of an object that it has. -/
def matchedFields (node : Node) (members : Fields) : Fields :=
  node.generateFields.filterMap fun (key, _) => (Fields.get? members key).map fun v => (key, v)

/-- The whole result under every declared key. -/
def spreadResult (node : Node) (result : Json) : Fields :=
  node.generateFields.map fun (key, _) => (key, result)

/-- What a result writes: the declared keys that it has as members; the whole result under every
declared key when it has none of them; the result under the id of a node that declares no key. -/
def bind (node : Node) (result : Json) : Fields :=
  if node.generateFields.isEmpty then [(node.id, result)]
  else match result with
    | .obj members =>
      let matched := node.matchedFields members
      if matched.isEmpty then node.spreadResult result else matched
    | _ => node.spreadResult result

end Workflow.Node
