/-! Failures of outside calls, of nodes, and of whole runs. -/
namespace Workflow

/-- Why an outside call (model, tool, code or HTTP) or the loading of settings failed. -/
inductive CallError where
  | llmRequest (message : String)
  | llmStream (message : String)
  | llmParse (message : String)
  | toolNotFound (name : String)
  | toolExecution (tool message : String)
  | toolValidation (message : String)
  | timeout (what : String) (secs : Nat)
  | cancelled
  | http (message : String)
  | codeExecution (message : String)
  | config (message : String)
  | configNotFound (path : String)
  | io (message : String)
  | json (message : String)
  deriving DecidableEq, Repr, Inhabited

def CallError.message : CallError → String
  | llmRequest m => "LLM request failed: " ++ m
  | llmStream m => "LLM streaming error: " ++ m
  | llmParse m => "LLM response parse error: " ++ m
  | toolNotFound n => "Tool not found: " ++ n
  | toolExecution t m => "Tool execution failed: " ++ t ++ ": " ++ m
  | toolValidation m => "Tool input validation failed: " ++ m
  | timeout what secs => what ++ " timed out after " ++ toString secs ++ "s"
  | cancelled => "Cancelled"
  | http m => "HTTP request failed: " ++ m
  | codeExecution m => "Code execution failed: " ++ m
  | config m => "Config error: " ++ m
  | configNotFound p => "Config file not found: " ++ p
  | io m => "I/O error: " ++ m
  | json m => "JSON error: " ++ m

inductive NodeErrorKind where
  | validation
  | executorFailure
  | timeout
  | cancelled
  deriving DecidableEq, Repr

namespace NodeErrorKind

def name : NodeErrorKind → String
  | validation => "validation"
  | executorFailure => "executor_failure"
  | timeout => "timeout"
  | cancelled => "cancelled"

def table : List (String × NodeErrorKind) :=
  [validation, executorFailure, timeout, cancelled].map fun k => (k.name, k)

end NodeErrorKind

/-- Why the execution of a node failed. The node is no part of it: a failure counts as one of the
node that it comes from, whoever wrote its executor. -/
inductive NodeFault where
  | validation (message : String)
  | executorFailure (message : String)
  | timeout (secs : Nat)
  | cancelled
  deriving DecidableEq, Repr

namespace NodeFault

def kind : NodeFault → NodeErrorKind
  | validation _ => .validation
  | executorFailure _ => .executorFailure
  | timeout _ => .timeout
  | cancelled => .cancelled

/-- The message as events carry it. -/
def message : NodeFault → String
  | validation m => m
  | executorFailure m => m
  | timeout secs => "timed out after " ++ toString secs ++ "s"
  | cancelled => "cancelled"

/-- The fault of a node whose outside call failed. -/
def ofCall : CallError → NodeFault
  | .timeout _ secs => timeout secs
  | .cancelled => cancelled
  | .toolValidation m => validation m
  | e => executorFailure e.message

end NodeFault

/-- The failure of one node. -/
structure NodeError where
  node : String
  fault : NodeFault
  deriving DecidableEq, Repr

def NodeError.message (e : NodeError) : String :=
  let detail := match e.fault with
    | .validation m => "validation failed: " ++ m
    | f => f.message
  "node " ++ e.node ++ ": " ++ detail

/-- Why a run did not complete. -/
inductive RunError where
  | nodeFailed (error : NodeError)
  | cancelled
  | interrupted (reason : String)
  deriving DecidableEq, Repr

def RunError.message : RunError → String
  | nodeFailed e => "run failed: " ++ e.message
  | cancelled => "run cancelled"
  | interrupted reason => "run interrupted: " ++ reason

end Workflow
