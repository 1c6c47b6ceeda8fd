import Workflow.Json.Printer
import Workflow.Tool.Basic

/-! Tools under their names. -/
namespace Workflow

/-- Tools in increasing order of their names. -/
structure Toolbox where
  tools : List Tool := []

namespace Toolbox

def put (t : Tool) : List Tool → List Tool
  | [] => [t]
  | u :: rest =>
    if t.name < u.name then t :: u :: rest
    else if t.name = u.name then t :: rest
    else u :: put t rest

/-- Add a tool, in the place of one of its name. -/
def register (b : Toolbox) (t : Tool) : Toolbox := ⟨put t b.tools⟩

/-- Take a tool away, with the answer whether there was one. -/
def unregister (b : Toolbox) (name : String) : Toolbox × Bool :=
  (⟨b.tools.filter (·.name != name)⟩, b.tools.any (·.name == name))

def get? (b : Toolbox) (name : String) : Option Tool := b.tools.find? (·.name == name)

def names (b : Toolbox) : List String := b.tools.map (·.name)

def definitions (b : Toolbox) : List Json := b.tools.map Tool.definition

/-- What comes of an answer within a time limit, unless it is given up before. A result in the last
millisecond counts, and the limit comes before giving up. -/
def within {α : Type} (limit : Nat) (givenUpAt : Option Nat) (overdue : CallError)
    (answer : Timed (Except CallError α)) : Except CallError α :=
  let time := answer.waits.foldr (· + ·) 0
  let isGivenUpBefore (t : Nat) : Bool := givenUpAt.any (· < t)
  match answer.ending with
  | .value result =>
    if isGivenUpBefore (min time limit) then .error .cancelled
    else if time ≤ limit then result
    else .error overdue
  | _ => if isGivenUpBefore limit then .error .cancelled else .error overdue

/-- Let a tool work. That there is no such tool is found first; a cancelled call goes no further. -/
def execute (b : Toolbox) (name : String) (call : ToolCall) (cancelled : Bool)
    (cancelAt : Option Nat) (s : Surroundings) : Except CallError ToolOutput × Surroundings :=
  match b.get? name with
  | none => (.error (.toolNotFound name), s)
  | some t =>
    if cancelled then (.error .cancelled, s)
    else
      let (answer, s) := t.run call s
      let overdue := .timeout ("tool " ++ name) t.timeoutSecs
      (within (1000 * t.timeoutSecs) cancelAt overdue answer, s)

/-- The message that the content of an error result makes. -/
def errorText : Json → String
  | .str s => s
  | v => v.text

/-- Call a tool for its content; the report of an error fails. -/
def call (b : Toolbox) (name : String) (call : ToolCall) (cancelled : Bool)
    (cancelAt : Option Nat) (s : Surroundings) : Except CallError Json × Surroundings :=
  match b.execute name call cancelled cancelAt s with
  | (.error e, s) => (.error e, s)
  | (.ok output, s) =>
    (if output.isError then .error (.toolExecution name (errorText output.content))
      else .ok output.content, s)

end Toolbox
end Workflow
