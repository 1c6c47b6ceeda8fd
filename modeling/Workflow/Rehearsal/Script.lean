import Workflow.Executor.Basic

/-! Scripts for capabilities: what each call is answered, and when. -/
namespace Workflow

/-- How a scripted tool makes its result. -/
inductive ScriptedResult where
  | value (v : Json)
  /-- The input, as the only member of an object. -/
  | echo
  deriving DecidableEq, Repr

def ScriptedResult.of (input : Json) : ScriptedResult → Json
  | value v => v
  | echo => .ofPairs [("echo", input)]

/-- What stands in for the executor of a type of nodes. -/
structure StandIn where
  emits : List Json := []
  /-- A last part of the output, published so many milliseconds later by an errand. -/
  lateMs : Option Nat := none
  result : Timed (Except NodeFault Outcome)

def StandIn.work (s : StandIn) : Work :=
  let result := Work.after s.result .done
  let result := match s.lateMs with
    | some ms => .emitLater ms (.str "late") result
    | none => result
  s.emits.foldr .emit result

/-- The answer to a call for which a script has no entry. -/
def unscripted {α : Type} : Timed (Except CallError α) :=
  { ending := .value (.error (.config "nothing is scripted")) }

/-- Answers of capabilities. Each list has one entry for each call; the last one is used again and
again. -/
structure Script where
  tools : List (String × List (Timed (Except CallError ScriptedResult))) := []
  /-- What becomes of tools that the script does not know. -/
  otherTools : String → Json → Except CallError Json := fun name _ => .error (.toolNotFound name)
  code : List (Timed (Except CallError CodeOutput)) := []
  /-- What becomes of code, requests and conversations if nothing is listed for them. -/
  otherCode : CodeRequest → Timed (Except CallError CodeOutput) := fun _ => unscripted
  http : List (Timed (Except CallError HttpResponse)) := []
  otherHttp : HttpRequest → Timed (Except CallError HttpResponse) := fun _ => unscripted
  chat : List (Timed ChatAnswer) := []
  otherChat : ChatRequest → Timed ChatAnswer := fun _ => unscripted
  standIns : List (NodeType × List StandIn) := []

namespace Script

/-- Take the entry for the next call from a list. -/
def take {α : Type} : List α → Option (α × List α)
  | [] => none
  | [a] => some (a, [a])
  | a :: rest => some (a, rest)

/-- Take the entry for the next call from the list under a key. -/
def takeAt {κ α : Type} [BEq κ] (key : κ) : List (κ × List α) → Option (α × List (κ × List α))
  | [] => none
  | (k, entries) :: rest =>
    if k == key then (take entries).map fun (a, entries) => (a, (k, entries) :: rest)
    else (takeAt key rest).map fun (a, rest) => (a, (k, entries) :: rest)

def answerTool (s : Script) (name : String) (input : Json) :
    Timed (Except CallError Json) × Script :=
  match takeAt name s.tools with
  | none => ({ ending := .value (s.otherTools name input) }, s)
  | some (cue, tools) =>
    let ending := match cue.ending with
      | .value result => .value (result.map (·.of input))
      | .never => .never
      | .breakdown => .breakdown
    (⟨cue.waits, ending⟩, { s with tools })

def answerCode (s : Script) (request : CodeRequest) :
    Timed (Except CallError CodeOutput) × Script :=
  match take s.code with
  | none => (s.otherCode request, s)
  | some (cue, code) => (cue, { s with code })

def answerHttp (s : Script) (request : HttpRequest) :
    Timed (Except CallError HttpResponse) × Script :=
  match take s.http with
  | none => (s.otherHttp request, s)
  | some (cue, http) => (cue, { s with http })

def answerChat (s : Script) (request : ChatRequest) : Timed ChatAnswer × Script :=
  match take s.chat with
  | none => (s.otherChat request, s)
  | some (cue, chat) => (cue, { s with chat })

/-- The work of a stand-in for the executor of a type of nodes. -/
def standIn? (s : Script) (type : NodeType) : Option (Work × Script) :=
  (takeAt type s.standIns).map fun (cue, standIns) => (cue.work, { s with standIns })

end Script
end Workflow
