import Workflow.Executor
import Workflow.Rehearsal.Script
import Workflow.Run.Step

/-! Runs of scripted capabilities on one thread and a clock that stands still while there is
anything to do. Whoever can go on waits in a queue; the run itself is one of them. -/
namespace Workflow

/-- A call as it was made. -/
inductive CallNote where
  | tool (name node : String) (input : Json)
  | code (request : CodeRequest)
  | http (request : HttpRequest)
  | chat (request : ChatRequest)
  deriving DecidableEq, Repr

/-- A node that has started. -/
structure Task where
  invocation : Invocation
  /-- When the task was first worked at. -/
  startedAt : Option Nat := none
  /-- When the task can go on; a task that waits for something else has no such time. -/
  resumesAt : Option Nat := none
  rest : Work

/-- Whose turn it is. -/
inductive Turn where
  | run
  | task (id : String)
  /-- An errand that a node left behind publishes a part of its output. -/
  | errand (id : String) (data : Json)
  deriving DecidableEq, Repr

inductive Alarm where
  | turn (t : Turn)
  | cancel
  deriving DecidableEq, Repr

structure Stage where
  run : Run
  script : Script
  equipment : Equipment
  /-- The type and the node of the event at which the run is cancelled. -/
  cue : Option (String × Option String) := none
  clock : Nat := 0
  queue : List Turn := []
  alarms : List (Nat × Alarm) := []
  tasks : List Task := []
  /-- Results that the run has not taken in, with the durations. -/
  results : List (String × Except NodeFault Outcome × Nat) := []
  /-- Whether the run waits for a result. -/
  waiting : Bool := false
  calls : List CallNote := []

namespace Stage

/-- Give the run a turn if it waits. -/
def wake (s : Stage) : Stage :=
  if s.waiting then { s with waiting := false, queue := s.queue ++ [.run] } else s

def cancel (s : Stage) : Stage := { s with run := s.run.cancel }.wake

/-- Whether an event is the one at which the run is cancelled. -/
def isCue (s : Stage) (what : Happening) : Bool := s.cue == some (what.typeName, what.node?)

/-- The run has gone on; it is cancelled if one of its new events says so. -/
def advance (s : Stage) (run : Run) : Stage :=
  let fresh := run.history.entries.drop s.run.history.entries.length
  let s' := { s with run }
  if fresh.any fun e => s.isCue e.what then s'.cancel else s'

def setAlarm (s : Stage) (time : Nat) (alarm : Alarm) : Stage :=
  { s with alarms := s.alarms ++ [(time, alarm)] }

/-- Where a task stands when it cannot go on for now. -/
inductive Standing where
  | finished (result : Except NodeFault Outcome)
  | waiting (until? : Option Nat) (rest : Work)

/-- The fault of an executor that broke down. -/
def brokenDown : Except NodeFault Outcome := .error (.executorFailure "executor panicked")

/-- The value of an answer that comes at once. -/
def immediate? {α : Type} (answer : Timed α) : Option α :=
  if answer.waits.all (· == 0) then
    match answer.ending with
    | .value a => some a
    | _ => none
  else none

/-- Where a task stands while it waits for an answer. -/
def await {α : Type} (s : Stage) (answer : Timed α) (rest : α → Work) : Standing :=
  match answer.waits.filter (· != 0), answer.ending with
  | ms :: waits, ending => .waiting (some (s.clock + ms)) (.after ⟨waits, ending⟩ rest)
  | [], .value a => .waiting (some s.clock) (rest a)
  | [], .never => .waiting none .never
  | [], .breakdown => .finished brokenDown

/-- Go on with the work of a node until it has to wait. -/
def perform (id : String) : Work → Stage → Stage × Standing
  | .done result, s => (s, .finished result)
  | .never, s => (s, .waiting none .never)
  | .breakdown, s => (s, .finished brokenDown)
  | .wait ms rest, s =>
    if ms = 0 then perform id rest s else (s, .waiting (some (s.clock + ms)) rest)
  | .emit data rest, s => perform id rest (s.advance (s.run.emit id data))
  | .emitLater ms data rest, s =>
    let errand := Turn.errand id data
    perform id rest (if ms = 0 then { s with queue := s.queue ++ [errand] }
      else s.setAlarm (s.clock + ms) (.turn errand))
  | .tool name input rest, s =>
    let (answer, script) := s.script.answerTool name input
    let s := { s with script, calls := s.calls ++ [.tool name id input] }
    match immediate? answer with
    | some a => perform id (rest a) s
    | none => (s, s.await answer rest)
  | .code request rest, s =>
    let (answer, script) := s.script.answerCode request
    let s := { s with script, calls := s.calls ++ [.code request] }
    match immediate? answer with
    | some a => perform id (rest a) s
    | none => (s, s.await answer rest)
  | .http request rest, s =>
    let (answer, script) := s.script.answerHttp request
    let s := { s with script, calls := s.calls ++ [.http request] }
    match immediate? answer with
    | some a => perform id (rest a) s
    | none => (s, s.await answer rest)
  | .chat request rest, s =>
    let (answer, script) := s.script.answerChat request
    let s := { s with script, calls := s.calls ++ [.chat request] }
    match immediate? answer with
    | some a => perform id (rest a) s
    | none => (s, s.await answer rest)

/-- The work of an invocation: that of a stand-in, or that of the executor of the type. -/
def workOf (s : Stage) (type : NodeType) (inv : Invocation) : Option (Work × Script) :=
  match s.script.standIn? type with
  | some r => some r
  | none => (s.equipment.executor? type).map fun e => (e inv, s.script)

/-- When the time of a task is over. -/
def deadline? (t : Task) : Option Nat := do
  return (← t.startedAt) + 1000 * (← t.invocation.node.timeoutSecs)

/-- The node has a result. -/
def finish (s : Stage) (t : Task) (result : Except NodeFault Outcome) : Stage :=
  let id := t.invocation.node.id
  wake { s with
    tasks := s.tasks.filter (·.invocation.node.id != id)
    results := s.results ++ [(id, result, s.clock - t.startedAt.getD s.clock)] }

/-- A task has done what it can do for now. A result that comes at the very end of its
time counts. -/
def settle (s : Stage) (t : Task) : Standing → Stage
  | .finished result => s.finish t result
  | .waiting until? rest =>
    if (deadline? t).any (· ≤ s.clock) then
      s.finish t (.error (.timeout (t.invocation.node.timeoutSecs.getD 0)))
    else
      let id := t.invocation.node.id
      let t := { t with resumesAt := until?, rest }
      let s := { s with tasks := s.tasks.map fun u => if u.invocation.node.id == id then t else u }
      match until? with
      | some time => s.setAlarm time (.turn (.task id))
      | none => s

/-- Start to work at a task. -/
def startTask (s : Stage) (t : Task) : Stage :=
  let type := t.invocation.node.type
  match s.workOf type t.invocation with
  | none => perform t.invocation.node.id (.unequipped type) s |> fun (s, st) => s.settle t st
  | some (work, script) =>
    let t := { t with startedAt := some s.clock }
    let s := match deadline? t with
      | some time => s.setAlarm time (.turn (.task t.invocation.node.id))
      | none => s
    let (s, standing) := perform t.invocation.node.id work { s with script }
    s.settle t standing

/-- The turn of a task. In a cancelled run nothing more is done for it. -/
def takeTaskTurn (s : Stage) (id : String) : Stage :=
  match s.tasks.find? (·.invocation.node.id == id) with
  | none => s
  | some t =>
    if s.run.cancelled then s.finish t (.error .cancelled)
    else if t.startedAt.isNone then s.startTask t
    else if t.resumesAt.any (· ≤ s.clock) then
      let (s, standing) := perform id t.rest s
      s.settle t standing
    else s.settle t (.waiting t.resumesAt t.rest)

/-- The turn of the run: it goes on until it waits for a result or stops. -/
def takeRunTurn : Nat → Stage → Stage
  | 0, s => s
  | fuel + 1, s => match s.run.next with
    | .stop why => s.advance (s.run.stop why s.clock)
    | .start _ =>
      let (run, inv) := s.run.start
      let s := s.advance run
      takeRunTurn fuel (match inv with
        | none => s
        | some inv =>
          { s with
            tasks := s.tasks ++ [{ invocation := inv, rest := .never }]
            queue := s.queue ++ [.task inv.node.id] })
    | .await => match s.results with
      | [] => { s with waiting := true }
      | (id, result, elapsed) :: results =>
        let (run, why) := s.run.complete id result elapsed
        let s := { s with results }.advance run
        match why with
        | some why => s.advance (s.run.stop why s.clock)
        | none => takeRunTurn fuel s

/-- A run takes a step for each start and each end of a node, and one more. -/
def runFuel (s : Stage) : Nat := 2 * s.run.graph.nodes.length + 2

def takeTurn (s : Stage) : Turn → Stage
  | .run => takeRunTurn s.runFuel s
  | .task id => s.takeTaskTurn id
  | .errand id data => s.advance (s.run.emit id data)

def ring (s : Stage) : Alarm → Stage
  | .turn t => { s with queue := s.queue ++ [t] }
  | .cancel => s.cancel

/-- Let time pass until the next alarm, if there is one. -/
def pass (s : Stage) : Option Stage :=
  match s.alarms with
  | [] => none
  | (time, _) :: rest =>
    let time := rest.foldl (fun t (u, _) => min t u) time
    let (due, alarms) := s.alarms.partition fun (u, _) => u == time
    some (due.foldl (fun s (_, a) => s.ring a) { s with clock := max s.clock time, alarms })

/-- Go on until the run has ended, for at most `fuel` turns and alarms. -/
def play : Nat → Stage → Stage
  | 0, s => s
  | fuel + 1, s =>
    if s.run.outcome.isSome then s
    else match s.queue with
      | t :: queue => play fuel ({ s with queue }.takeTurn t)
      | [] => match s.pass with
        | some s => play fuel s
        | none => s

/-- The turns and alarms that a rehearsal takes, at most. -/
def patience : Nat := 1000000

/-- When a rehearsed run is cancelled. -/
inductive CancelTime where
  | beforehand
  | after (ms : Nat)
  | atEvent (type : String) (node : Option String)
  deriving DecidableEq, Repr

/-- Rehearse a run of a graph. -/
def rehearse (g : Graph) (input : Fields) (equipment : Equipment) (script : Script)
    (cancel : Option CancelTime) : Stage :=
  let s : Stage := { run := Run.ofGraph g input, script, equipment }
  let s := match cancel with
    | some (.atEvent type node) => { s with cue := some (type, node) }
    | some .beforehand => s.cancel
    | some (.after ms) => s.setAlarm ms .cancel
    | none => s
  let s := s.advance s.run.begin
  play patience { s with queue := [.run] }

/-- Go on with the work of a node whatever the time, for at most `fuel` pauses. -/
def finishWork (id : String) : Nat → Work → Stage → Stage × Option (Except NodeFault Outcome)
  | 0, _, s => (s, none)
  | fuel + 1, work, s => match perform id work s with
    | (s, .finished result) => (s, some result)
    | (s, .waiting (some _) rest) => finishWork id fuel rest s
    | (s, .waiting none _) => (s, none)

end Stage
end Workflow
