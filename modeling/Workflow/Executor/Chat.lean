import Workflow.Executor.Basic
import Workflow.Json.Document
import Workflow.Node.Binding
import Workflow.Template

/-! The executor of nodes that ask a language model. -/
namespace Workflow.Executor

/-- What a model is told when its answer has to be JSON. -/
def jsonInstruction : String :=
  "Respond with a single valid JSON value and nothing else. Do not wrap it in prose."

/-- The default model with the settings of a node. -/
def modelFor (default : ModelSettings) (c : LlmConfig) : ModelSettings where
  provider := default.provider
  modelId := c.model.getD default.modelId
  apiKey := default.apiKey
  baseUrl := default.baseUrl
  maxTokens := c.maxTokens.getD default.maxTokens
  temperature := c.temperature.getD default.temperature
  extraHeaders := default.extraHeaders
  retry := default.retry

def systemMessage? (c : LlmConfig) (input : Fields) : Option String :=
  match c.systemPrompt, c.outputSchema with
  | some s, .json => some (Template.render s input ++ "\n\n" ++ jsonInstruction)
  | some s, .text => some (Template.render s input)
  | none, .json => some jsonInstruction
  | none, .text => none

/-- The conversation of a node: perhaps a system message, and the prompt. -/
def conversation (c : LlmConfig) (usage : List String) (input : Fields) : List Message :=
  let prompt : Message := ⟨.user, Template.buildPrompt c.prompt usage input⟩
  match systemMessage? c input with
  | some s => [⟨.system, s⟩, prompt]
  | none => [prompt]

def fence : List Char := "```".toList

/-- What stands inside a fenced block that opens the text; its end may be missing. -/
def unfence? (s : List Char) : Option (List Char) :=
  let inner := match Text.dropLead? (fence ++ "json".toList) s with
    | some r => some r
    | none => Text.dropLead? fence s
  inner.map fun r =>
    let r := Text.trimStart r
    if fence.isSuffixOf r then r.take (r.length - fence.length) else r

/-- The JSON value that a text is, perhaps inside a fenced block. -/
def jsonAnswer? (text : String) : Option Json :=
  let trimmed := Text.trim text.toList
  match Json.parse (String.ofList trimmed) with
  | .ok v => some v
  | .error _ => (unfence? trimmed).bind fun inner =>
    (Json.parse (String.ofList (Text.trim inner))).toOption

/-- The beginning of a text. -/
def preview (text : String) : String :=
  let cs := text.toList
  if cs.length ≤ 120 then text else String.ofList (cs.take 120) ++ "..."

/-- The result of a whole answer. -/
def chatResult (format : OutputFormat) (text : String) : Except NodeFault Json :=
  match format with
  | .text => .ok (.str text)
  | .json => match jsonAnswer? text with
    | some v => .ok v
    | none => .error (.executorFailure ("model did not return valid JSON: " ++ preview text))

/-- Pass on each text delta, and bind the whole text at the end; `text` is what came so far. -/
def listen (node : Node) (format : OutputFormat) :
    String → List (Timed (Except CallError Delta)) → Work
  | text, [] => match chatResult format text with
    | .ok result => .write (node.bind result)
    | .error fault => .fail fault
  | text, item :: rest => .after item fun delta => match delta with
    | .error e => .fail (.ofCall e)
    | .ok (.text chunk) =>
      .emit (.ofPairs [("delta", .str chunk)]) (listen node format (text ++ chunk) rest)
    | .ok _ => listen node format text rest

/-- Ask the model and stream its answer. -/
def chat (default : ModelSettings) : Executor := fun inv =>
  match inv.node.payload with
  | .llm c =>
    let request := ⟨modelFor default c, conversation c inv.node.usageFields inv.input⟩
    .chat request (.orFail (listen inv.node c.outputSchema ""))
  | _ => .failure "not an llm node"

end Workflow.Executor
