import Workflow.Calendar.Basic
import Workflow.Capability
import Workflow.Web.Exchange

/-! Tools that nodes can call. -/
namespace Workflow

/-- What a tool can find out besides its input, and what it leaves behind. -/
structure Surroundings where
  now : Moment := default
  peer : Web.Peer := ⟨[], []⟩
  deriving DecidableEq, Repr

/-- The result of a tool, which may be the report of an error. -/
structure ToolOutput where
  content : Json
  isError : Bool := false
  deriving DecidableEq, Repr

structure ToolCall where
  /-- The node that calls. -/
  node : String
  input : Json
  deriving DecidableEq, Repr

structure Tool where
  name : String
  description : String
  schema : Json
  timeoutSecs : Nat := 30
  run : ToolCall → Surroundings → Timed (Except CallError ToolOutput) × Surroundings

namespace Tool

/-- An answer that comes at once. -/
def atOnce {α : Type} (a : α) : Timed α := { ending := .value a }

/-- The name, the description and the schema, as models are told of a tool. -/
def definition (t : Tool) : Json :=
  .ofPairs [("name", .str t.name), ("description", .str t.description), ("input_schema", t.schema)]

/-- The schema of an object with the given properties. -/
def objectSchema (properties : List (String × Json)) (required : List String) : Json :=
  let rest := if required.isEmpty then [] else [("required", Json.ofStrings required)]
  .ofPairs ([("type", .str "object"), ("properties", .ofPairs properties)] ++ rest)

/-- The schema of a property, of a type unless any type will do. -/
def property (type : Option String) (description : Option String) : Json :=
  .ofPairs ((type.toList.map fun t => ("type", Json.str t))
    ++ description.toList.map fun d => ("description", Json.str d))

end Tool
end Workflow
