import Workflow.Calendar.Parser
import Workflow.Json.Record

/-! Nodes of a workflow: what all of them share, and what each kind of node carries. -/
namespace Workflow

/-- The kinds of nodes. -/
inductive NodeType where
  | start
  | finish
  | condition
  | llm
  | tool
  | code
  | http
  | information
  deriving DecidableEq, Repr, Inhabited

namespace NodeType

def name : NodeType → String
  | start => "start"
  | finish => "end"
  | condition => "condition"
  | llm => "llm"
  | tool => "tool"
  | code => "code"
  | http => "http"
  | information => "information"

def all : List NodeType := [start, finish, condition, llm, tool, code, http, information]

def table : List (String × NodeType) := all.map fun t => (t.name, t)

end NodeType

/-- Kinds of values that a node may declare for its outputs. -/
inductive FieldKind where
  | text
  | number
  | boolean
  | date
  | object
  | array
  deriving DecidableEq, Repr

namespace FieldKind

def name : FieldKind → String
  | text => "text"
  | number => "number"
  | boolean => "boolean"
  | date => "date"
  | object => "object"
  | array => "array"

/-- The name in messages. -/
def title : FieldKind → String
  | text => "Text"
  | number => "Number"
  | boolean => "Boolean"
  | date => "Date"
  | object => "Object"
  | array => "Array"

def all : List FieldKind := [text, number, boolean, date, object, array]

def table : List (String × FieldKind) := all.map fun k => (k.name, k)

/-- Whether a value is of the kind. -/
def accepts : FieldKind → Json → Bool
  | text, .str _ => true
  | number, .num _ => true
  | boolean, .bool _ => true
  | date, .str s => Calendar.isDate s
  | object, .obj _ => true
  | array, .arr _ => true
  | _, _ => false

end FieldKind

/-- What the failure of a node does to the rest of the run. -/
inductive ErrorPolicy where
  | abort
  | proceed
  deriving DecidableEq, Repr

namespace ErrorPolicy

def name : ErrorPolicy → String
  | abort => "abortWorkflow"
  | proceed => "continueOnError"

def table : List (String × ErrorPolicy) := [abort, proceed].map fun p => (p.name, p)

end ErrorPolicy

inductive OutputFormat where
  | text
  | json
  deriving DecidableEq, Repr

namespace OutputFormat

def name : OutputFormat → String
  | text => "text"
  | json => "json"

def table : List (String × OutputFormat) := [text, json].map fun f => (f.name, f)

end OutputFormat

/-- A request to a language model, the settings left out coming from the default model. -/
structure LlmConfig where
  model : Option String := none
  systemPrompt : Option String := none
  prompt : String
  outputSchema : OutputFormat := .text
  temperature : Option Single := none
  maxTokens : Option Nat := none
  deriving DecidableEq, Repr

/-- An HTTP request whose texts are templates. -/
structure HttpConfig where
  method : String := "GET"
  url : String
  headers : List (String × String) := []
  body : Option String := none
  deriving DecidableEq, Repr

/-- What a node carries beyond what all nodes share. -/
inductive Payload where
  | start (required : List String)
  | finish
  | condition (expression : String)
  | llm (config : LlmConfig)
  | tool (name : String) (arguments : Json)
  | code (language source : String)
  | http (config : HttpConfig)
  | information (content : Option String)
  deriving DecidableEq, Repr

def Payload.type : Payload → NodeType
  | start _ => .start
  | finish => .finish
  | condition _ => .condition
  | llm _ => .llm
  | tool _ _ => .tool
  | code _ _ => .code
  | http _ => .http
  | information _ => .information

structure Node where
  id : String
  name : String
  description : String
  metadata : Json
  /-- Keys of the run state that the node reads, or none to read all of it. -/
  usageFields : List String
  /-- Keys that the node writes, in increasing order. -/
  generateFields : List (String × FieldKind)
  onError : ErrorPolicy
  timeoutSecs : Option Nat
  payload : Payload
  deriving DecidableEq, Repr

namespace Node

def type (node : Node) : NodeType := node.payload.type

/-- A node of the given payload, named by its id. -/
def ofPayload (id : String) (payload : Payload) : Node where
  id
  name := id
  description := ""
  metadata := .null
  usageFields := []
  generateFields := []
  onError := .abort
  timeoutSecs := none
  payload

def withUsage (node : Node) (keys : List String) : Node := { node with usageFields := keys }

def withOutput (node : Node) (key : String) (kind : FieldKind) : Node :=
  { node with generateFields := Json.insertPair node.generateFields key kind }

def withErrorPolicy (node : Node) (policy : ErrorPolicy) : Node := { node with onError := policy }

def withTimeout (node : Node) (secs : Nat) : Node := { node with timeoutSecs := some secs }

/-- The inputs that a start node insists on; other nodes stay as they are. -/
def withRequired (node : Node) (keys : List String) : Node :=
  match node.payload with
  | .start _ => { node with payload := .start keys }
  | _ => node

end Node
end Workflow
