import Workflow.Json.Record
import Workflow.Text.Search
import Workflow.Tool.Basic

/-! The tool that selects a part of a JSON value. -/
namespace Workflow

open Json

namespace Json

/-- A step from a value to a part of it. -/
inductive Step where
  | key (name : String)
  | index (n : Nat)
  deriving DecidableEq, Repr

def Step.from? (v : Json) : Step → Option Json
  | key name => match v with
    | .obj fields => Fields.get? fields name
    | _ => none
  | index n => match v with
    | .arr items => items[n]?
    | _ => none

/-- The part of a value at the end of some steps. -/
def walk? (v : Json) (steps : List Step) : Option Json := steps.foldlM Step.from? v

/-- What stands between a bracket and the closing bracket at the end. -/
def indexText? (s : List Char) : Option (List Char) :=
  match s.reverse with
  | ']' :: r => some r.reverse
  | _ => none

/-- The steps of a segment: a key, unless it is empty, and indexes in brackets. An index that is no
number leads nowhere, and text between brackets is passed over. -/
def segmentSteps (s : List Char) : List (Option Step) :=
  let name := s.takeWhile (· != '[')
  let indexes := (Text.splitAt '[' (s.drop name.length)).filterMap indexText?
  (if name.isEmpty then [] else [some (.key (String.ofList name))])
    ++ indexes.map fun i => (Text.index? i).map .index

/-- The steps of a path: segments between dots, of which empty ones do not count. -/
def pathSteps (path : List Char) : List (Option Step) :=
  ((Text.splitAt '.' path).filter fun s => !s.isEmpty).flatMap segmentSteps

/-- The part of a value at a path, or null when the path leads nowhere. -/
def query (v : Json) (path : String) : Json :=
  Json.ofOption (((pathSteps path.toList).mapM id).bind fun steps => walk? v steps)

end Json

namespace Tool

structure QueryDraft where
  json : Option Json := none
  path : Option String := none

def querySlots : List (Slot QueryDraft) := [
  .of "json" false (·.json) (fun d a => { d with json := a }) readAny,
  .of "path" false (·.path) (fun d a => { d with path := a }) readText]

/-- The value and the path of a query. -/
def readQuery : Reader (Json × String) :=
  (readRecord "struct JsonQueryInput" querySlots {}).andThen fun d => do
    return (← required "json" d.json, ← required "path" d.path)

/-- The answer to a query. A text is read as JSON. -/
def answerQuery (input : Json) : Except CallError ToolOutput :=
  match readJson readQuery input with
  | .error e => .error (.toolValidation e.error.message)
  | .ok (.str s, path) => match Json.parse s with
    | .error f => .error (.toolValidation ("invalid JSON: " ++ f.describe s.toList))
    | .ok v => .ok { content := v.query path }
  | .ok (v, path) => .ok { content := v.query path }

def jsonQuery : Tool where
  name := "json_query"
  description := "Select part of a JSON value by path (e.g. 'items[0].name')."
  schema := objectSchema
    [("json", property none "JSON value, or a string containing JSON"),
      ("path", property "string" "Dot-notation path (e.g. 'items[0].name')")] ["json", "path"]
  timeoutSecs := 5
  run call s := (atOnce (answerQuery call.input), s)

end Tool
end Workflow
