import Workflow.Node.Format
import Workflow.Settings

/-! Settings as documents. -/
namespace Workflow

open Json

namespace RetrySettings

def toJson (r : RetrySettings) : Json :=
  .ofPairs [("max_retries", .ofNat r.maxRetries), ("initial_backoff_ms", .ofNat r.initialBackoffMs),
    ("max_backoff_ms", .ofNat r.maxBackoffMs)]

structure Draft where
  maxRetries : Option Nat := none
  initialBackoffMs : Option Nat := none
  maxBackoffMs : Option Nat := none

def slots : List (Slot Draft) := [
  .of "max_retries" true (·.maxRetries) (fun d a => { d with maxRetries := a })
    (readNatural 32 "u32"),
  .of "initial_backoff_ms" true (·.initialBackoffMs) (fun d a => { d with initialBackoffMs := a })
    (readNatural 64 "u64"),
  .of "max_backoff_ms" true (·.maxBackoffMs) (fun d a => { d with maxBackoffMs := a })
    (readNatural 64 "u64")]

def read : Reader RetrySettings :=
  (readRecord "struct RetryConfig" slots {}).andThen fun d => do
    let standard : RetrySettings := {}
    return {
      maxRetries := d.maxRetries.getD standard.maxRetries
      initialBackoffMs := d.initialBackoffMs.getD standard.initialBackoffMs
      maxBackoffMs := d.maxBackoffMs.getD standard.maxBackoffMs }

end RetrySettings

namespace ModelSettings

def toJson (m : ModelSettings) : Json :=
  .ofPairs [("provider", .str m.provider), ("model_id", .str m.modelId),
    ("api_key", nullable .str m.apiKey), ("base_url", nullable .str m.baseUrl),
    ("max_tokens", .ofNat m.maxTokens), ("temperature", m.temperature.toJson),
    ("extra_headers", textsToJson m.extraHeaders),
    ("retry", nullable RetrySettings.toJson m.retry)]

structure Draft where
  provider : Option String := none
  modelId : Option String := none
  apiKey : Option (Option String) := none
  baseUrl : Option (Option String) := none
  maxTokens : Option Nat := none
  temperature : Option Single := none
  extraHeaders : Option (List (String × String)) := none
  retry : Option (Option RetrySettings) := none

def slots : List (Slot Draft) := [
  .of "provider" true (·.provider) (fun d a => { d with provider := a }) readText,
  .of "model_id" false (·.modelId) (fun d a => { d with modelId := a }) readText,
  .of "api_key" true (·.apiKey) (fun d a => { d with apiKey := some a }) (readOption readText),
  .of "base_url" true (·.baseUrl) (fun d a => { d with baseUrl := some a }) (readOption readText),
  .of "max_tokens" true (·.maxTokens) (fun d a => { d with maxTokens := a })
    (readNatural 32 "u32"),
  .of "temperature" true (·.temperature) (fun d a => { d with temperature := a }) readSingle,
  .of "extra_headers" true (·.extraHeaders) (fun d a => { d with extraHeaders := a })
    (readMap readText),
  .of "retry" true (·.retry) (fun d a => { d with retry := some a })
    (readOption RetrySettings.read)]

def read : Reader ModelSettings :=
  (readRecord "struct ModelConfig" slots {}).andThen fun d => do
    let standard : ModelSettings := { modelId := ← required "model_id" d.modelId }
    return { standard with
      provider := d.provider.getD standard.provider
      apiKey := d.apiKey.getD none
      baseUrl := d.baseUrl.getD none
      maxTokens := d.maxTokens.getD standard.maxTokens
      temperature := d.temperature.getD standard.temperature
      extraHeaders := d.extraHeaders.getD []
      retry := d.retry.getD none }

end ModelSettings

namespace EngineSettings

def toJson (e : EngineSettings) : Json := .ofPairs [("end_grace_ms", .ofNat e.endGraceMs)]

structure Draft where
  endGraceMs : Option Nat := none

def slots : List (Slot Draft) := [
  .of "end_grace_ms" true (·.endGraceMs) (fun d a => { d with endGraceMs := a })
    (readNatural 64 "u64")]

def read : Reader EngineSettings :=
  (readRecord "struct EngineConfig" slots {}).andThen fun d => do
    return { endGraceMs := d.endGraceMs.getD ({} : EngineSettings).endGraceMs }

end EngineSettings

namespace CodeSettings

def toJson (c : CodeSettings) : Json :=
  .ofPairs [("timeout_secs", .ofNat c.timeoutSecs), ("python", .str c.python),
    ("node", .str c.node), ("shell", .str c.shell), ("max_output_chars", .ofNat c.maxOutputChars),
    ("working_dir", nullable .str c.workingDir)]

structure Draft where
  timeoutSecs : Option Nat := none
  python : Option String := none
  node : Option String := none
  shell : Option String := none
  maxOutputChars : Option Nat := none
  workingDir : Option (Option String) := none

def slots : List (Slot Draft) := [
  .of "timeout_secs" true (·.timeoutSecs) (fun d a => { d with timeoutSecs := a })
    (readNatural 64 "u64"),
  .of "python" true (·.python) (fun d a => { d with python := a }) readText,
  .of "node" true (·.node) (fun d a => { d with node := a }) readText,
  .of "shell" true (·.shell) (fun d a => { d with shell := a }) readText,
  .of "max_output_chars" true (·.maxOutputChars) (fun d a => { d with maxOutputChars := a })
    (readNatural 64 "usize"),
  .of "working_dir" true (·.workingDir) (fun d a => { d with workingDir := some a })
    (readOption readText)]

def read : Reader CodeSettings :=
  (readRecord "struct CodeRunnerConfig" slots {}).andThen fun d => do
    let standard : CodeSettings := {}
    return {
      timeoutSecs := d.timeoutSecs.getD standard.timeoutSecs
      python := d.python.getD standard.python
      node := d.node.getD standard.node
      shell := d.shell.getD standard.shell
      maxOutputChars := d.maxOutputChars.getD standard.maxOutputChars
      workingDir := d.workingDir.getD none }

end CodeSettings

namespace HttpSettings

def toJson (h : HttpSettings) : Json :=
  .ofPairs [("timeout_secs", .ofNat h.timeoutSecs), ("user_agent", .str h.userAgent)]

structure Draft where
  timeoutSecs : Option Nat := none
  userAgent : Option String := none

def slots : List (Slot Draft) := [
  .of "timeout_secs" true (·.timeoutSecs) (fun d a => { d with timeoutSecs := a })
    (readNatural 64 "u64"),
  .of "user_agent" true (·.userAgent) (fun d a => { d with userAgent := a }) readText]

def read : Reader HttpSettings :=
  (readRecord "struct HttpClientConfig" slots {}).andThen fun d => do
    let standard : HttpSettings := {}
    return {
      timeoutSecs := d.timeoutSecs.getD standard.timeoutSecs
      userAgent := d.userAgent.getD standard.userAgent }

end HttpSettings

namespace GatewaySettings

def toJson (g : GatewaySettings) : Json := .ofPairs [("bind", .str g.bind)]

structure Draft where
  bind : Option String := none

def slots : List (Slot Draft) := [
  .of "bind" true (·.bind) (fun d a => { d with bind := a }) readText]

def read : Reader GatewaySettings :=
  (readRecord "struct GatewayConfig" slots {}).andThen fun d => do
    return { bind := d.bind.getD ({} : GatewaySettings).bind }

end GatewaySettings

namespace LogSettings

def toJson (l : LogSettings) : Json :=
  .ofPairs [("enabled", .bool l.enabled), ("log_dir", .str l.directory), ("level", .ofNat l.level)]

structure Draft where
  enabled : Option Bool := none
  directory : Option String := none
  level : Option Nat := none

def slots : List (Slot Draft) := [
  .of "enabled" true (·.enabled) (fun d a => { d with enabled := a }) readBool,
  .of "log_dir" true (·.directory) (fun d a => { d with directory := a }) readText,
  .of "level" true (·.level) (fun d a => { d with level := a }) (readNatural 8 "u8")]

def read : Reader LogSettings :=
  (readRecord "struct LogConfig" slots {}).andThen fun d => do
    let standard : LogSettings := {}
    return {
      enabled := d.enabled.getD standard.enabled
      directory := d.directory.getD standard.directory
      level := d.level.getD standard.level }

end LogSettings

namespace Settings

def toJson (s : Settings) : Json :=
  .ofPairs [("engine", s.engine.toJson), ("model", nullable ModelSettings.toJson s.model),
    ("fallback_models", .arr (s.fallbackModels.map ModelSettings.toJson)),
    ("code", s.code.toJson), ("http", s.http.toJson),
    ("gateway", nullable GatewaySettings.toJson s.gateway),
    ("log", nullable LogSettings.toJson s.log)]

structure Draft where
  engine : Option EngineSettings := none
  model : Option (Option ModelSettings) := none
  fallbackModels : Option (List ModelSettings) := none
  code : Option CodeSettings := none
  http : Option HttpSettings := none
  gateway : Option (Option GatewaySettings) := none
  log : Option (Option LogSettings) := none

def slots : List (Slot Draft) := [
  .of "engine" true (·.engine) (fun d a => { d with engine := a }) EngineSettings.read,
  .of "model" true (·.model) (fun d a => { d with model := some a })
    (readOption ModelSettings.read),
  .of "fallback_models" true (·.fallbackModels) (fun d a => { d with fallbackModels := a })
    (readList ModelSettings.read),
  .of "code" true (·.code) (fun d a => { d with code := a }) CodeSettings.read,
  .of "http" true (·.http) (fun d a => { d with http := a }) HttpSettings.read,
  .of "gateway" true (·.gateway) (fun d a => { d with gateway := some a })
    (readOption GatewaySettings.read),
  .of "log" true (·.log) (fun d a => { d with log := some a }) (readOption LogSettings.read)]

def read : Reader Settings :=
  (readRecord "struct AppConfig" slots {}).andThen fun d => do
    return {
      engine := d.engine.getD {}
      model := d.model.getD none
      fallbackModels := d.fallbackModels.getD []
      code := d.code.getD {}
      http := d.http.getD {}
      gateway := d.gateway.getD none
      log := d.log.getD none }

end Settings
end Workflow
