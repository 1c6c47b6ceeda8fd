import Workflow.Command.Capability
import Workflow.Command.Line
import Workflow.Command.Report
import Workflow.Command.Site
import Workflow.Definition
import Workflow.Event.Format
import Workflow.Gateway.Address
import Workflow.Graph.Compile
import Workflow.Rehearsal.Stage
import Workflow.Run.Log
import Workflow.Settings.Text

/-! Commands, from their command lines to what they print. -/
namespace Workflow.Command

open Json (ReadError readWhole readMap readAny)

/-- The settings when there is no file: a model if the environment holds a key for it. -/
def settingsOf (env : Environment) : Settings where
  model := (env.get? "OPENAI_API_KEY").map fun key =>
    { modelId := (env.get? "FLOWRUN_MODEL").getD "gpt-4o-mini", apiKey := some key }

/-- The settings in a file, if there is one. -/
def loadSettings (site : Site) (path : String) : Except Failure Settings :=
  let found := site.files path
  if found.isThere then
    match found.read with
    | .error _ => .error { message := (CallError.configNotFound path).message }
    | .ok text => (Settings.ofText site.environment text).mapError fun e => { message := e.message }
  else .ok (settingsOf site.environment)

def loadWorkflow (site : Site) (path : String) : Except Failure Definition := do
  let text ← (site.files path).read.mapError fun why =>
    { message := "failed to read workflow " ++ path, reasons := [why] }
  (Definition.ofText text).mapError fun e =>
    { message := "failed to parse workflow " ++ path
      reasons := [(CallError.json e.error.message).message, e.error.message] }

/-- The text of the input of a run, if it has one. -/
def inputText (site : Site) : InputSource → Except Failure (Option String)
  | .none => .ok none
  | .text json => .ok (some json)
  | .file path => match (site.files path).read with
    | .ok text => .ok (some text)
    | .error why => .error { message := "failed to read input " ++ path, reasons := [why] }

def loadInput (site : Site) (source : InputSource) : Except Failure Fields := do
  match ← inputText site source with
  | none => return []
  | some text => (readWhole (readMap readAny) text).mapError fun e =>
    { message := "run input must be a JSON object", reasons := [e.error.message] }

/-- The report on a workflow that is not valid. -/
def refusal (e : GraphError) : Report :=
  { status := 2, err := "invalid workflow [" ++ e.code ++ "]: " ++ e.message ++ "\n" }

/-- What is told about a valid workflow. -/
def approval (g : Graph) : Report :=
  let standalone :=
    if g.standalone.isEmpty then ""
    else "standalone: " ++ ", ".intercalate g.standalone ++ "\n"
  { out := "valid: " ++ toString g.nodes.length ++ " nodes\norder: "
      ++ " -> ".intercalate g.topoOrder ++ "\n" ++ standalone }

/-- The log of a run, if the settings ask for one. -/
def logOf (site : Site) (settings : Settings) (g : Graph) (events : List Event) :
    List (String × String) :=
  match settings.logDirectory? site.environment, settings.log with
  | some directory, some log =>
    [(Settings.joinPath directory (Log.pathOf g.workflowId site.runId),
      String.join (Log.lines log.level events))]
  | _, _ => []

/-- Run a graph and print its events. -/
def runGraph (site : Site) (settings : Settings) (g : Graph) (input : Fields) : Report :=
  let script := settings.script site.launcher site.now
  let s := Stage.rehearse g input settings.equipment script none
  let events : List Event := s.run.history.entries.map fun e =>
    ⟨site.runId, e.seq, site.now, e.what⟩
  { out := String.join (events.map fun e => e.toJson.text ++ "\n")
    status := if s.run.outcome.any (·.status == .completed) then 0 else 1
    written := logOf site settings g events }

/-- The report of the gateway on an address that it cannot listen on. -/
def serve (settings : Settings) : Except Failure Report :=
  match Gateway.splitAddress (settings.gateway.getD {}).bind with
  | .error e => .error { message := e.message }
  | .ok _ => .error { message := "no network" }

def perform (site : Site) (line : Line) : Except Failure Report := do
  if let .complete shell := line.action then return { out := completionScript shell }
  let settings ← loadSettings site line.settings
  match line.action with
  | .showSettings => return { out := settings.text ++ "\n" }
  | .check path => match Graph.compile (← loadWorkflow site path) with
    | .ok g => return approval g
    | .error e => return refusal e
  | .run path source =>
    let workflow ← loadWorkflow site path
    let input ← loadInput site source
    match Graph.compile workflow with
    | .ok g => return runGraph site settings g input
    | .error e => return refusal e
  | .serve => serve settings
  | .complete shell => return { out := completionScript shell }

/-- The report on a command line that was not read to its end. -/
def Interruption.report : Interruption → Report
  | help => { out := guide }
  | version => { out := programName ++ " " ++ Workflow.version ++ "\n" }
  | misuse e =>
    { status := 2
      err := "error: " ++ e.message ++ "\n\nFor more information, try '--help'.\n" }

/-- Carry out what the arguments of the program ask for. -/
def execute (site : Site) (arguments : List String) : Report :=
  match Line.parse arguments with
  | .error why => why.report
  | .ok line => match perform site line with
    | .ok report => report
    | .error f => f.report

end Workflow.Command
