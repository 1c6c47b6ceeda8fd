import Workflow.Failure
import Workflow.Json.Access

/-! Failures of outside calls as JSON, each under the name of its kind. -/
namespace Workflow.CallError

def kind : CallError → String
  | llmRequest _ => "LlmRequest"
  | llmStream _ => "LlmStream"
  | llmParse _ => "LlmParse"
  | toolNotFound _ => "ToolNotFound"
  | toolExecution _ _ => "ToolExecution"
  | toolValidation _ => "ToolValidation"
  | timeout _ _ => "Timeout"
  | cancelled => "Cancelled"
  | http _ => "Http"
  | codeExecution _ => "CodeExecution"
  | config _ => "Config"
  | configNotFound _ => "ConfigNotFound"
  | io _ => "Io"
  | json _ => "Json"

/-- The failure that a value describes. -/
def ofJson (v : Json) : CallError :=
  let message := (v.field "message").asText
  match (v.field "kind").asText with
  | "LlmRequest" => llmRequest message
  | "LlmStream" => llmStream message
  | "LlmParse" => llmParse message
  | "ToolNotFound" => toolNotFound message
  | "ToolExecution" => toolExecution (v.field "tool").asText message
  | "ToolValidation" => toolValidation message
  | "Timeout" => timeout (v.field "what").asText ((v.field "secs").asNat 0)
  | "Cancelled" => cancelled
  | "Http" => http message
  | "CodeExecution" => codeExecution message
  | "Config" => config message
  | "ConfigNotFound" => configNotFound message
  | "Io" => io message
  | _ => json message

end Workflow.CallError
