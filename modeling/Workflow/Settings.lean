import Workflow.Number.Single

/-! Settings of the program. -/
namespace Workflow

/-- The name by which the program is known, and its version. -/
def programName : String := "flowrun"
def version : String := "0.3.0"

structure RetrySettings where
  maxRetries : Nat := 3
  initialBackoffMs : Nat := 1000
  maxBackoffMs : Nat := 30000
  deriving DecidableEq, Repr

/-- A language model and how to reach it. -/
structure ModelSettings where
  provider : String := "openai"
  modelId : String
  apiKey : Option String := none
  /-- The address of the service, in place of the one that the provider is known for. -/
  baseUrl : Option String := none
  maxTokens : Nat := 4096
  temperature : Single := .zero
  /-- Header fields in the order of their names. -/
  extraHeaders : List (String × String) := []
  retry : Option RetrySettings := none
  deriving DecidableEq, Repr

/-- The address of the chat service of a known provider. -/
def endpoint? : String → Option String
  | "openai" => some "https://api.openai.com/v1/chat/completions"
  | "ollama" => some "http://localhost:11434/v1/chat/completions"
  | "groq" => some "https://api.groq.com/openai/v1/chat/completions"
  | "openrouter" => some "https://openrouter.ai/api/v1/chat/completions"
  | "together" => some "https://api.together.xyz/v1/chat/completions"
  | "mistral" => some "https://api.mistral.ai/v1/chat/completions"
  | "deepseek" => some "https://api.deepseek.com/v1/chat/completions"
  | _ => none

/-- The address that requests to the model go to. -/
def ModelSettings.url (m : ModelSettings) : String :=
  match m.baseUrl, endpoint? m.provider with
  | some url, _ => url
  | none, some url => url
  | none, none => "https://api.openai.com/v1/chat/completions"

structure EngineSettings where
  /-- How long the nodes of a run that ends early may go on. -/
  endGraceMs : Nat := 250
  deriving DecidableEq, Repr

/-- How code is run in processes of its own. -/
structure CodeSettings where
  timeoutSecs : Nat := 60
  python : String := "python3"
  node : String := "node"
  shell : String := "bash"
  maxOutputChars : Nat := 30000
  workingDir : Option String := none
  deriving DecidableEq, Repr

structure HttpSettings where
  timeoutSecs : Nat := 30
  userAgent : String := programName ++ "/" ++ version
  deriving DecidableEq, Repr

structure GatewaySettings where
  bind : String := "127.0.0.1:18790"
  deriving DecidableEq, Repr

structure LogSettings where
  enabled : Bool := true
  directory : String := "./runs"
  level : Nat := 2
  deriving DecidableEq, Repr

structure Settings where
  engine : EngineSettings := {}
  model : Option ModelSettings := none
  fallbackModels : List ModelSettings := []
  code : CodeSettings := {}
  http : HttpSettings := {}
  gateway : Option GatewaySettings := none
  log : Option LogSettings := none
  deriving DecidableEq, Repr

end Workflow
