import Workflow.Settings
import Workflow.Toml.Printer

/-! Settings as the text of a file. What is not set is left out. -/
namespace Workflow

open Toml (Table)

/-- A whole number as a value of a table. -/
def naturalEntry (n : Nat) : Toml.Entry := .value (.num (.int n))

def textEntry (s : String) : Toml.Entry := .value (.str s)

/-- A table of its own. -/
def tableEntry (t : Table) : Toml.Entry := .table false false t

/-- The entry of a value that may not be set. -/
def optionalEntry {α : Type} (key : String) (entry : α → Toml.Entry) (value : Option α) : Table :=
  value.toList.map fun a => (key, entry a)

/-- The value in double precision. What is infinite lies beyond every bound. -/
def Single.widen : Single → Number
  | .finite x => .real (x.round .double)
  | .infinite negative => .real ⟨negative, 1, 5000⟩
  | .nan => .real ⟨false, 1, 5000⟩

def RetrySettings.table (r : RetrySettings) : Table :=
  [("max_retries", naturalEntry r.maxRetries),
    ("initial_backoff_ms", naturalEntry r.initialBackoffMs),
    ("max_backoff_ms", naturalEntry r.maxBackoffMs)]

def ModelSettings.table (m : ModelSettings) : Table :=
  [("provider", textEntry m.provider), ("model_id", textEntry m.modelId)]
    ++ optionalEntry "api_key" textEntry m.apiKey
    ++ optionalEntry "base_url" textEntry m.baseUrl
    ++ [("max_tokens", naturalEntry m.maxTokens),
      ("temperature", .value (.num m.temperature.widen)),
      ("extra_headers", tableEntry (m.extraHeaders.map fun (k, v) => (k, textEntry v)))]
    ++ optionalEntry "retry" (tableEntry ·.table) m.retry

def CodeSettings.table (c : CodeSettings) : Table :=
  [("timeout_secs", naturalEntry c.timeoutSecs), ("python", textEntry c.python),
    ("node", textEntry c.node), ("shell", textEntry c.shell),
    ("max_output_chars", naturalEntry c.maxOutputChars)]
    ++ optionalEntry "working_dir" textEntry c.workingDir

def LogSettings.table (l : LogSettings) : Table :=
  [("enabled", .value (.bool l.enabled)), ("log_dir", textEntry l.directory),
    ("level", naturalEntry l.level)]

namespace Settings

/-- The entry of the models to fall back to: tables, or an empty list. -/
def fallbackEntry (models : List ModelSettings) : Toml.Entry :=
  if models.isEmpty then .value (.arr [])
  else .tables (models.map ModelSettings.table).reverse

def table (s : Settings) : Table :=
  [("engine", tableEntry [("end_grace_ms", naturalEntry s.engine.endGraceMs)])]
    ++ optionalEntry "model" (tableEntry ·.table) s.model
    ++ [("fallback_models", fallbackEntry s.fallbackModels), ("code", tableEntry s.code.table),
      ("http", tableEntry [("timeout_secs", naturalEntry s.http.timeoutSecs),
        ("user_agent", textEntry s.http.userAgent)])]
    ++ optionalEntry "gateway" (fun g => tableEntry [("bind", textEntry g.bind)]) s.gateway
    ++ optionalEntry "log" (tableEntry ·.table) s.log

/-- The text from which the settings can be read again. -/
def text (s : Settings) : String := s.table.text

end Settings
end Workflow
