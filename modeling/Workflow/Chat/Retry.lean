import Workflow.Capability
import Workflow.Text.Search

/-! Asking a language model again after a failure that may pass, and asking other models after
that. -/
namespace Workflow

/-- What messages about passing failures contain. -/
def passingSigns : List String :=
  ["429", "500", "502", "503", "504", "timeout", "timed out", "connection"]

/-- Whether the same request may succeed when it is made again. -/
def CallError.isPassing : CallError → Bool
  | .llmRequest m => passingSigns.any fun sign => Text.occursIn sign.toList m.toList
  | .llmStream _ => true
  | _ => false

namespace Chat

/-- A service answers requests; `σ` is what its answers depend on and leave behind. -/
abbrev Service (σ α : Type) := ChatRequest → σ → Except CallError α × σ

/-- Ask until there is an answer or a failure that will not pass, at most `retries` times again. -/
def askAgain {σ α : Type} (service : Service σ α) (request : ChatRequest) :
    Nat → σ → Except CallError α × σ
  | 0, s => service request s
  | retries + 1, s => match service request s with
    | (.ok a, s) => (.ok a, s)
    | (.error e, s) =>
      if e.isPassing then askAgain service request retries s else (.error e, s)

/-- Ask other models in turn, each once; if all fail, the failure is the one there was before. -/
def askOthers {σ α : Type} (messages : List Message) (failure : CallError) :
    List (ModelSettings × Service σ α) → σ → Except CallError α × σ
  | [], s => (.error failure, s)
  | (model, service) :: others, s => match service ⟨model, messages⟩ s with
    | (.ok a, s) => (.ok a, s)
    | (.error _, s) => askOthers messages failure others s

/-- The service that retries, and falls back to other models. -/
def retrying {σ α : Type} (retry : RetrySettings) (service : Service σ α)
    (others : List (ModelSettings × Service σ α)) : Service σ α := fun request s =>
  match askAgain service request retry.maxRetries s with
  | (.ok a, s) => (.ok a, s)
  | (.error e, s) => askOthers request.messages e others s

end Chat
end Workflow
