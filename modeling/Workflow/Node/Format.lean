import Workflow.Node

/-! Nodes as JSON. The members of the payload stand among those that all nodes share. -/
namespace Workflow

open Json

/-- A member that is written only when there is something to write. -/
def optionalField {α : Type} (name : String) (encode : α → Json) : Option α → List (String × Json)
  | none => []
  | some a => [(name, encode a)]

def nullable {α : Type} (encode : α → Json) : Option α → Json
  | none => .null
  | some a => encode a

def Single.toJson (x : Single) : Json := nullable .num x.toNumber?

/-- Texts under names, as an object. -/
def textsToJson (pairs : List (String × String)) : Json :=
  .obj (pairs.map fun (k, v) => (k, .str v))

namespace Payload

def fields : Payload → List (String × Json)
  | start required => [("required", .ofStrings required)]
  | finish => []
  | condition expression => [("expression", .str expression)]
  | llm c => [("model", nullable .str c.model), ("systemPrompt", nullable .str c.systemPrompt),
      ("prompt", .str c.prompt), ("outputSchema", .str c.outputSchema.name),
      ("temperature", nullable Single.toJson c.temperature),
      ("maxTokens", nullable .ofNat c.maxTokens)]
  | tool name arguments => [("tool", .str name), ("arguments", arguments)]
  | code language source => [("language", .str language), ("code", .str source)]
  | http c => [("method", .str c.method), ("url", .str c.url), ("headers", textsToJson c.headers),
      ("body", nullable .str c.body)]
  | information content => [("content", nullable .str content)]

end Payload

def Node.toJson (node : Node) : Json :=
  .ofPairs ([("id", .str node.id), ("name", .str node.name), ("description", .str node.description),
      ("usageFields", .ofStrings node.usageFields),
      ("generateFields", .obj (node.generateFields.map fun (k, f) => (k, .str f.name))),
      ("onError", .str node.onError.name), ("type", .str node.type.name)]
    ++ (if node.metadata.isNull then [] else [("metadata", node.metadata)])
    ++ optionalField "timeoutSecs" .ofNat node.timeoutSecs
    ++ node.payload.fields)

namespace Payload

/-- Payload members as far as they are read. -/
structure Draft where
  required : Option (List String) := none
  expression : Option String := none
  model : Option (Option String) := none
  systemPrompt : Option (Option String) := none
  prompt : Option String := none
  outputSchema : Option OutputFormat := none
  temperature : Option (Option Single) := none
  maxTokens : Option (Option Nat) := none
  tool : Option String := none
  arguments : Option Json := none
  language : Option String := none
  code : Option String := none
  method : Option String := none
  url : Option String := none
  headers : Option (List (String × String)) := none
  body : Option (Option String) := none
  content : Option (Option String) := none

/-- The members that a type of nodes has. -/
def slots : NodeType → List (Slot Draft)
  | .start => [.of "required" true (·.required) (fun d a => { d with required := a })
      (readList readText)]
  | .finish => []
  | .condition => [.of "expression" false (·.expression) (fun d a => { d with expression := a })
      readText]
  | .llm => [.of "model" true (·.model) (fun d a => { d with model := some a })
        (readOption readText),
      .of "systemPrompt" true (·.systemPrompt) (fun d a => { d with systemPrompt := some a })
        (readOption readText),
      .of "prompt" false (·.prompt) (fun d a => { d with prompt := a }) readText,
      .of "outputSchema" true (·.outputSchema) (fun d a => { d with outputSchema := a })
        (readVariant OutputFormat.table),
      .of "temperature" true (·.temperature) (fun d a => { d with temperature := some a })
        (readOption readSingle),
      .of "maxTokens" true (·.maxTokens) (fun d a => { d with maxTokens := some a })
        (readOption (readNatural 32 "u32"))]
  | .tool => [.of "tool" false (·.tool) (fun d a => { d with tool := a }) readText,
      .of "arguments" true (·.arguments) (fun d a => { d with arguments := a }) readAny]
  | .code => [.of "language" false (·.language) (fun d a => { d with language := a }) readText,
      .of "code" false (·.code) (fun d a => { d with code := a }) readText]
  | .http => [.of "method" true (·.method) (fun d a => { d with method := a }) readText,
      .of "url" false (·.url) (fun d a => { d with url := a }) readText,
      .of "headers" true (·.headers) (fun d a => { d with headers := a }) (readMap readText),
      .of "body" true (·.body) (fun d a => { d with body := some a }) (readOption readText)]
  | .information => [.of "content" true (·.content) (fun d a => { d with content := some a })
      (readOption readText)]

/-- The payload of a draft, its members being checked for presence in their order. -/
def ofDraft (d : Draft) : NodeType → ReadResult Payload
  | .start => .ok (start (d.required.getD []))
  | .finish => .ok finish
  | .condition => return condition (← Json.required "expression" d.expression)
  | .llm => return llm {
      model := d.model.getD none
      systemPrompt := d.systemPrompt.getD none
      prompt := ← Json.required "prompt" d.prompt
      outputSchema := d.outputSchema.getD .text
      temperature := d.temperature.getD none
      maxTokens := d.maxTokens.getD none }
  | .tool => return tool (← Json.required "tool" d.tool) (d.arguments.getD .null)
  | .code => return code (← Json.required "language" d.language) (← Json.required "code" d.code)
  | .http => return http {
      method := d.method.getD "GET"
      url := ← Json.required "url" d.url
      headers := d.headers.getD []
      body := d.body.getD none }
  | .information => .ok (information (d.content.getD none))

/-- The payload of the members of a node that not all nodes have. -/
def ofHeld (held : Held) : ReadResult Payload := do
  let (type, members) ← takeTag "type" NodeType.table .held held none []
  let draft ← membersOfDocument (slots type) .held members {}
  ofDraft draft type

end Payload

namespace Node

/-- The members that all nodes share, as far as they are read. -/
structure Draft where
  id : Option String := none
  name : Option String := none
  description : Option String := none
  metadata : Option Json := none
  usageFields : Option (List String) := none
  generateFields : Option (List (String × FieldKind)) := none
  onError : Option ErrorPolicy := none
  timeoutSecs : Option (Option Nat) := none

def slots : List (Slot Draft) := [
  .of "id" false (·.id) (fun d a => { d with id := a }) readText,
  .of "name" true (·.name) (fun d a => { d with name := a }) readText,
  .of "description" true (·.description) (fun d a => { d with description := a }) readText,
  .of "metadata" true (·.metadata) (fun d a => { d with metadata := a }) readAny,
  .of "usageFields" true (·.usageFields) (fun d a => { d with usageFields := a })
    (readList readText),
  .of "generateFields" true (·.generateFields) (fun d a => { d with generateFields := a })
    (readMap (readVariant FieldKind.table)),
  .of "onError" true (·.onError) (fun d a => { d with onError := a })
    (readVariant ErrorPolicy.table),
  .of "timeoutSecs" true (·.timeoutSecs) (fun d a => { d with timeoutSecs := some a })
    (readOption (readNatural 64 "u64"))]

def read : Reader Node :=
  (readOpenRecord "struct Node" slots {}).andThen fun (d, held) => do
    let id ← required "id" d.id
    let payload ← Payload.ofHeld held
    return {
      id
      name := d.name.getD ""
      description := d.description.getD ""
      metadata := d.metadata.getD .null
      usageFields := d.usageFields.getD []
      generateFields := d.generateFields.getD []
      onError := d.onError.getD .abort
      timeoutSecs := d.timeoutSecs.getD none
      payload }

def ofText (text : String) : ReadResult Node := readWhole read text

end Node
end Workflow
