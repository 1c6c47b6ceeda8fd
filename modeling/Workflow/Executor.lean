import Workflow.Executor.Call
import Workflow.Executor.Chat
import Workflow.Executor.Control

/-! The executors of all types of nodes. -/
namespace Workflow

/-- The capabilities that are at hand. -/
structure Equipment where
  /-- The model that nodes ask unless they name another one. -/
  model : Option ModelSettings := none
  tools : Bool := false
  code : Bool := false
  http : Bool := false
  deriving DecidableEq, Repr

/-- The executor of a type of nodes, if what it needs is at hand. -/
def Equipment.executor? (e : Equipment) : NodeType → Option Executor
  | .start => some Executor.start
  | .finish => some Executor.finish
  | .condition => some Executor.condition
  | .information => some Executor.information
  | .llm => e.model.map Executor.chat
  | .tool => if e.tools then some Executor.tool else none
  | .code => if e.code then some Executor.code else none
  | .http => if e.http then some Executor.http else none

/-- The work of a node whose type has no executor. -/
def Work.unequipped (type : NodeType) : Work :=
  .failure ("no executor registered for node type " ++ type.name)

end Workflow
