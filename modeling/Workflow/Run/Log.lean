import Workflow.Event.Format
import Workflow.Text.Encoding

/-! Logs of runs: one line of JSON for each event that the level of detail admits, in a file
of their own. -/
namespace Workflow.Log

/-- An id as the name of a file: whatever is not a plain letter, a digit, a hyphen or an underscore
becomes an underscore. -/
def safeName (id default : String) : String :=
  if id.isEmpty then default
  else String.ofList (id.toList.map fun c =>
    if c.isAlphanum || c == '_' || c == '-' then c else '_')

/-- The directory of the logs of a workflow, within the directory of all logs. -/
def directoryOf (workflow : String) : String := safeName workflow "default"

/-- The file of a run, within the directory of its workflow. -/
def fileOf (run : String) : String := safeName run "run" ++ ".jsonl"

/-- The file of a run, within the directory of all logs. -/
def pathOf (workflow run : String) : String := directoryOf workflow ++ "/" ++ fileOf run

/-- The names on the way to the file of a run. -/
def placeOf (directory : List String) (workflow run : String) : List String :=
  directory ++ [directoryOf workflow, fileOf run]

/-! ### Lines -/

/-- The level of detail from which on an event is logged. -/
def levelOf : Happening → Nat
  | .workflowStart _ | .workflowEnd _ _ _ _ => 0
  | .nodeStart _ _ _ | .nodeEnd _ _ _ | .nodeError _ _ => 2
  | .nodeOutput _ _ => 3

/-- The compact text of a value, of which no more than so many bytes are kept. -/
def brief (limit : Nat) (v : Json) : String := String.ofList (Text.truncate limit v.chars)

/-- The bytes of the output of a node that are logged. -/
def outputLimit : Nat := 500

/-- What is logged of an event besides its place, type and node. -/
def detail : Happening → Json
  | .workflowStart workflow => .ofPairs [("workflow_id", .str workflow)]
  | .workflowEnd status _ error elapsed =>
    .ofPairs [("status", .str status.name), ("error", nullable .str error),
      ("elapsed_ms", .ofNat elapsed)]
  | .nodeStart _ type _ => .ofPairs [("node_type", .str type.name)]
  | .nodeEnd _ output elapsed =>
    .ofPairs [("elapsed_ms", .ofNat elapsed),
      ("output", .str (brief outputLimit output))]
  | .nodeError _ error => .ofPairs [("kind", .str error.kind.name), ("message", .str error.message)]
  | .nodeOutput _ data => data

/-- The members of a line, in the order in which they are written. -/
def record (e : Event) : Fields :=
  [("timestamp", .str e.timestamp.numericText), ("run_id", .str e.runId), ("seq", .ofNat e.seq),
    ("event_type", .str e.what.typeName)] ++ optionalField "node_id" .str e.what.node?
    ++ [("detail", detail e.what)]

def line (e : Event) : String := (Json.obj (record e)).text ++ "\n"

/-- The line of an event, if the level admits it. -/
def line? (level : Nat) (e : Event) : Option String :=
  if levelOf e.what ≤ level then some (line e) else none

/-- The lines of the events that a level admits. -/
def lines (level : Nat) (events : List Event) : List String := events.filterMap (line? level)

/-! ### Files -/

/-- What stands at a path. -/
inductive Item where
  | directory
  | file (content : String)
  deriving DecidableEq, Repr

/-- Directories and files by the names on the way to them. `admits` tells where the system lets
things be created and files be opened. -/
structure Disk where
  item? : List String → Option Item
  admits : List String → Bool

namespace Disk

def put (d : Disk) (path : List String) (item : Item) : Disk :=
  { d with item? := fun p => if p = path then some item else d.item? p }

/-- Make the directories that are not there yet on a way from `here` on, and tell whether all of
them are there now. -/
def makeDirectories (d : Disk) (here : List String) : List String → Disk × Bool
  | [] => (d, true)
  | name :: names =>
    let next := here ++ [name]
    match d.item? next with
    | some .directory => makeDirectories d next names
    | some (.file _) => (d, false)
    | none =>
      if d.admits next then makeDirectories (d.put next .directory) next names else (d, false)

/-- Open a file to write behind its end, and tell whether it is open. A file that is not there is
created. -/
def openFile (d : Disk) (path : List String) : Disk × Bool :=
  match d.item? path with
  | some .directory => (d, false)
  | some (.file _) => (d, d.admits path)
  | none => if d.admits path then (d.put path (.file ""), true) else (d, false)

/-- Write behind the end of an open file. A file that could be opened can be written to: that
writing fails later on is left out. -/
def append (d : Disk) (path : List String) (s : String) : Disk :=
  match d.item? path with
  | some (.file content) => d.put path (.file (content ++ s))
  | some .directory | none => d

/-- Write the line of each event that the level admits as soon as the event comes. -/
def writeLines (level : Nat) (path : List String) : Disk → List Event → Disk
  | d, [] => d
  | d, e :: events => match line? level e with
    | some l => writeLines level path (d.append path l) events
    | none => writeLines level path d events

/-- Log the events of a run. Nothing is logged when the file or its directory cannot be had. -/
def log (d : Disk) (directory : List String) (level : Nat) (workflow run : String)
    (events : List Event) : Disk :=
  let (d, made) := d.makeDirectories [] (directory ++ [directoryOf workflow])
  if made then
    let (d, opened) := d.openFile (placeOf directory workflow run)
    if opened then writeLines level (placeOf directory workflow run) d events else d
  else d

end Disk
end Workflow.Log
