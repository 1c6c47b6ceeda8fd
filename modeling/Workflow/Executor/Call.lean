import Workflow.Executor.Basic
import Workflow.Json.Document
import Workflow.Node.Binding
import Workflow.Template
import Workflow.Text.Upper

/-! Executors that make one outside call: of a tool, of a piece of code, or over HTTP. -/
namespace Workflow.Executor

/-- The arguments of a tool: rendered ones, or the input when there are none. -/
def toolInput (arguments : Json) (input : Fields) : Json :=
  if arguments.isNull then .obj input else Template.renderValue input arguments

def tool : Executor := fun inv =>
  match inv.node.payload with
  | .tool name arguments =>
    .tool name (toolInput arguments inv.input) (.orFail fun result =>
      .write (inv.node.bind result))
  | _ => .failure "not a tool node"

/-- The result that code printed: its last line that is not blank if that is JSON, else all. -/
def codeResult (stdout : String) : Json :=
  let text := Text.trim stdout.toList
  let last := (Text.lines text).reverse.find? fun l => !(Text.trim l).isEmpty
  match last.bind fun l => (Json.parse (String.ofList (Text.trim l))).toOption with
  | some v => v
  | none => .str (String.ofList text)

/-- The message about code that failed. -/
def codeFailure (output : CodeOutput) : String :=
  let stderr := Text.trim output.stderr.toList
  let detail := if stderr.isEmpty then Text.trim output.stdout.toList else stderr
  "exit code " ++ toString output.exitCode ++ ": " ++ String.ofList detail

/-- Run the code as it is written; values reach it as data only. -/
def code : Executor := fun inv =>
  match inv.node.payload with
  | .code language source =>
    .code ⟨language, source, .obj inv.input⟩ (.orFail fun output =>
      if output.exitCode ≠ 0 then .failure (codeFailure output)
      else .write (inv.node.bind (codeResult output.stdout)))
  | _ => .failure "not a code node"

/-- The request of a node. -/
def httpRequest (c : HttpConfig) (input : Fields) : HttpRequest where
  method := Text.upper c.method
  url := Template.render c.url input
  headers := c.headers.map fun (k, v) => (k, Template.render v input)
  body := c.body.map fun b => Template.render b input

/-- The body of a response: as JSON if it is JSON. -/
def bodyResult (body : String) : Json :=
  match Json.parse body with
  | .ok v => v
  | .error _ => .str body

def http : Executor := fun inv =>
  match inv.node.payload with
  | .http c =>
    .http (httpRequest c inv.input) (.orFail fun response =>
      if response.isSuccess then .write (inv.node.bind (bodyResult response.body))
      else .failure ("HTTP " ++ toString response.status ++ " " ++ response.reason))
  | _ => .failure "not an http node"

end Workflow.Executor
