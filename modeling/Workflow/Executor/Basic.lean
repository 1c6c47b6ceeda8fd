import Workflow.Capability
import Workflow.Node
import Workflow.Predicate.Basic

/-! Executions of nodes, as the work they do and the calls they make. -/
namespace Workflow

/-- The arcs out of a node that are taken when it is done. -/
inductive Route where
  | all
  | branch (result : Bool)
  /-- The run ends with this output. -/
  | finish (output : Json)
  deriving DecidableEq, Repr

structure Outcome where
  /-- What the node writes to the run state. -/
  patch : Fields
  /-- What the event that ends the node shows. -/
  output : Json
  route : Route
  deriving DecidableEq, Repr

/-- The outcome that shows what it writes. -/
def Outcome.ofPatch (patch : Fields) : Outcome := ⟨patch, .obj patch, .all⟩

/-- What an executor is given. -/
structure Invocation where
  node : Node
  input : Fields
  /-- The parsed predicate of a condition node. -/
  condition : Option Predicate := none
  deriving DecidableEq, Repr

/-- The work of an executor, step by step. A call is followed by the work for each of
its answers. -/
inductive Work where
  | done (result : Except NodeFault Outcome)
  | never
  | breakdown
  | wait (ms : Nat) (rest : Work)
  /-- Publish a part of the output. -/
  | emit (data : Json) (rest : Work)
  /-- Leave an errand behind that publishes a part of the output later on. -/
  | emitLater (ms : Nat) (data : Json) (rest : Work)
  | tool (name : String) (input : Json) (rest : Except CallError Json → Work)
  | code (request : CodeRequest) (rest : Except CallError CodeOutput → Work)
  | http (request : HttpRequest) (rest : Except CallError HttpResponse → Work)
  | chat (request : ChatRequest) (rest : ChatAnswer → Work)

namespace Work

def fail (fault : NodeFault) : Work := done (.error fault)

/-- Work that ends well and writes the given values. -/
def write (patch : Fields) : Work := done (.ok (.ofPatch patch))

def failure (message : String) : Work := fail (.executorFailure message)

/-- The work that follows an answer once it has come. -/
def after {α : Type} (answer : Timed α) (rest : α → Work) : Work :=
  let work := match answer.ending with
    | .value a => rest a
    | .never => never
    | .breakdown => breakdown
  answer.waits.foldr wait work

/-- Go on with the value of an outside call, or fail as it did. -/
def orFail {α : Type} (rest : α → Work) : Except CallError α → Work
  | .ok a => rest a
  | .error e => fail (.ofCall e)

end Work

/-- An executor of one type of nodes. -/
abbrev Executor := Invocation → Work

end Workflow
