import Workflow.Calendar.Basic
import Workflow.Failure
import Workflow.Node

/-! What happens during a run, and histories: the events of a run in their order, and the rule which
events are let in. -/
namespace Workflow

inductive RunStatus where
  | pending
  | running
  | completed
  | failed
  | cancelled
  deriving DecidableEq, Repr

namespace RunStatus

def name : RunStatus → String
  | pending => "PENDING"
  | running => "RUNNING"
  | completed => "COMPLETED"
  | failed => "FAILED"
  | cancelled => "CANCELLED"

def table : List (String × RunStatus) :=
  [pending, running, completed, failed, cancelled].map fun s => (s.name, s)

def isTerminal : RunStatus → Bool
  | completed | failed | cancelled => true
  | pending | running => false

end RunStatus

/-- What an event tells about the failure of a node. -/
structure ErrorInfo where
  kind : NodeErrorKind
  message : String
  deriving DecidableEq, Repr

def NodeFault.info (f : NodeFault) : ErrorInfo := ⟨f.kind, f.message⟩

inductive Happening where
  | workflowStart (workflow : String)
  | nodeStart (node : String) (type : NodeType) (name : String)
  | nodeOutput (node : String) (data : Json)
  | nodeEnd (node : String) (output : Json) (elapsedMs : Nat)
  | nodeError (node : String) (error : ErrorInfo)
  | workflowEnd (status : RunStatus) (output : Option Json) (error : Option String)
      (elapsedMs : Nat)
  deriving DecidableEq, Repr

namespace Happening

/-- The name of the type of events. -/
def typeName : Happening → String
  | workflowStart _ => "WORKFLOW_START"
  | nodeStart _ _ _ => "NODE_START"
  | nodeOutput _ _ => "NODE_OUTPUT"
  | nodeEnd _ _ _ => "NODE_END"
  | nodeError _ _ => "NODE_ERROR"
  | workflowEnd _ _ _ _ => "WORKFLOW_END"

/-- The node that the event is about. -/
def node? : Happening → Option String
  | nodeStart id _ _ => some id
  | nodeOutput id _ => some id
  | nodeEnd id _ _ => some id
  | nodeError id _ => some id
  | workflowStart _ | workflowEnd _ _ _ _ => none

/-- The node whose execution the event ends. -/
def ends? : Happening → Option String
  | nodeEnd id _ _ => some id
  | nodeError id _ => some id
  | _ => none

/-- Whether the event ends the run. -/
def endsRun : Happening → Bool
  | workflowEnd _ _ _ _ => true
  | _ => false

end Happening

/-- A happening with its place in the sequence of its run. -/
structure Entry where
  seq : Nat
  what : Happening
  deriving DecidableEq, Repr

/-- An event as it leaves the program. -/
structure Event where
  runId : String
  seq : Nat
  timestamp : Moment
  what : Happening
  deriving DecidableEq, Repr

structure History where
  entries : List Entry := []
  /-- The nodes whose execution has ended. -/
  sealedNodes : List String := []
  closed : Bool := false
  deriving DecidableEq, Repr

namespace History

/-- Nothing follows the end of the run, and nothing but a new start follows the end of a node. -/
def admits (h : History) (what : Happening) : Bool :=
  !h.closed && match what with
    | .nodeOutput id _ | .nodeEnd id _ _ | .nodeError id _ => !h.sealedNodes.contains id
    | .workflowStart _ | .nodeStart _ _ _ | .workflowEnd _ _ _ _ => true

/-- The history with an event that it admits. -/
def append (h : History) (what : Happening) : History where
  entries := h.entries ++ [⟨h.entries.length, what⟩]
  sealedNodes := match what.ends? with
    | some id => id :: h.sealedNodes
    | none => h.sealedNodes
  closed := what.endsRun

/-- Append the event if it is admitted. -/
def publish (h : History) (what : Happening) : History :=
  if h.admits what then h.append what else h

end History

end Workflow
