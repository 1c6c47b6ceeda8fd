import Workflow.Chat.Retry
import Workflow.Chat.Wire
import Workflow.Code.Process
import Workflow.Executor
import Workflow.Rehearsal.Script
import Workflow.Tool.Standard
import Workflow.Web.Client

/-! The capabilities of runs that are started from the command line: the tools of the program, code
in processes, and a web on which nobody answers. -/
namespace Workflow.Settings

/-- What is at hand: a model only if the settings name one. -/
def equipment (s : Settings) : Equipment where
  model := s.model
  tools := true
  code := true
  http := true

/-- The service that answers the conversations of nodes: the one behind the address of the model,
asked again if the settings say so. -/
def chatService (s : Settings) : Chat.Service Web.Peer (List (Except CallError Delta)) :=
  match s.model.bind (·.retry), s.fallbackModels with
  | none, [] => Chat.ask
  | retry, others => Chat.retrying (retry.getD {}) Chat.ask (others.map fun m => (m, Chat.ask))

/-- Nobody answers. -/
def silence : Web.Peer := { servers := [] }

/-- An answer that is a moment on its way. -/
def soon {α : Type} (ms : Nat) (answer : α) : Timed α := ⟨[ms + 1], .value answer⟩

/-- The answers of the capabilities, with what starts processes and the time that the tools tell. -/
def script (s : Settings) (launcher : Launcher) (now : Moment) : Script where
  otherTools name input :=
    ((Toolbox.standard s.http).call name ⟨"", input⟩ false none { now, peer := silence }).1
  otherCode request :=
    let (ms, result) := request.attempt launcher s.code
    soon ms result
  otherHttp request := soon 0 (request.send s.http false silence).1
  otherChat request :=
    soon 0 ((s.chatService request silence).1.map (List.map fun delta => ⟨[], .value delta⟩))

end Workflow.Settings
