import Workflow.Failure
import Workflow.Settings
import Workflow.Json.Basic

/-! What nodes ask of the world outside, and what they get back. -/
namespace Workflow

inductive Role where
  | system
  | user
  | assistant
  deriving DecidableEq, Repr

def Role.name : Role → String
  | system => "system"
  | user => "user"
  | assistant => "assistant"

/-- A message of a conversation with a language model. -/
structure Message where
  role : Role
  content : String
  deriving DecidableEq, Repr

/-- Why a language model stopped. -/
inductive StopReason where
  | endTurn
  | maxTokens
  | stopSequence
  deriving DecidableEq, Repr

def StopReason.name : StopReason → String
  | endTurn => "EndTurn"
  | maxTokens => "MaxTokens"
  | stopSequence => "StopSequence"

/-- A part of the streamed answer of a language model. -/
inductive Delta where
  | text (chunk : String)
  | stop (reason : StopReason)
  | usage (inputTokens outputTokens : Nat)
  deriving DecidableEq, Repr

structure ChatRequest where
  model : ModelSettings
  messages : List Message
  deriving DecidableEq, Repr

structure CodeRequest where
  language : String
  source : String
  /-- The input of the node that the code belongs to. -/
  input : Json
  deriving DecidableEq, Repr

structure CodeOutput where
  stdout : String
  stderr : String
  exitCode : Int
  deriving DecidableEq, Repr

structure HttpRequest where
  method : String
  url : String
  /-- Header fields in the order of their names. -/
  headers : List (String × String) := []
  body : Option String := none
  deriving DecidableEq, Repr

structure HttpResponse where
  status : Nat
  reason : String
  /-- Header fields in the order of their names. -/
  headers : List (String × String) := []
  body : String
  deriving DecidableEq, Repr

def HttpResponse.isSuccess (r : HttpResponse) : Bool := 200 ≤ r.status && r.status < 300

/-- How an outside call turns out. -/
inductive Ending (α : Type) where
  | value (a : α)
  /-- No answer ever comes. -/
  | never
  /-- The one who is called breaks down. -/
  | breakdown
  deriving DecidableEq, Repr

/-- An answer that takes its time: pauses in milliseconds before it comes. -/
structure Timed (α : Type) where
  waits : List Nat := []
  ending : Ending α
  deriving DecidableEq, Repr

/-- The answer of a language model: a stream of deltas, or the reason why there is none. -/
abbrev ChatAnswer := Except CallError (List (Timed (Except CallError Delta)))

end Workflow
