import Workflow.Capability
import Workflow.EventStream.Decoder
import Workflow.Settings.Format
import Workflow.Web.Exchange

/-! Language models behind web addresses: what a request looks like, and how its answer is read. -/
namespace Workflow

open Json

namespace ChatRequest

/-- Models that reason refuse a temperature. -/
def takesTemperature (r : ChatRequest) : Bool :=
  ["o1", "o3", "o4"].all fun family => !family.isPrefixOf r.model.modelId

def toJson (r : ChatRequest) : Json :=
  let messages := r.messages.map fun m =>
    Json.ofPairs [("role", .str m.role.name), ("content", .str m.content)]
  let temperature :=
    if r.takesTemperature then [("temperature", r.model.temperature.toJson)] else []
  .ofPairs ([("model", .str r.model.modelId), ("messages", .arr messages),
    ("max_tokens", .ofNat r.model.maxTokens), ("stream", .bool true),
    ("stream_options", .ofPairs [("include_usage", .bool true)])] ++ temperature)

/-- Header fields that come before those of the settings. -/
def ownHeaders (r : ChatRequest) : List (String × String) :=
  let key := match r.model.apiKey with
    | some key => [("authorization", "Bearer " ++ key)]
    | none => []
  let title :=
    if r.model.provider = "openrouter" && (r.model.extraHeaders.lookup "X-Title").isNone then
      [("x-title", programName)]
    else []
  ("content-type", "application/json") :: key ++ title

/-- The request as it is sent. -/
def onWire (r : ChatRequest) : Except Web.Error Web.Request := do
  let w ← Web.Request.of "POST" r.model.url
  let w ← w.addHeaders (r.ownHeaders ++ r.model.extraHeaders)
  return { w with body := r.toJson.text }

end ChatRequest

namespace Chat

/-- What the model adds to its answer: a text, and the reason if it stops there. -/
structure Choice where
  content : Option String := none
  finish : Option String := none
  deriving DecidableEq, Repr

/-- A part of an answer. -/
structure Chunk where
  choices : List Choice := []
  /-- The numbers of tokens that were read and written. -/
  usage : Option (Nat × Nat) := none
  deriving DecidableEq, Repr

/-- The fields of a record of two, as far as they are read. -/
structure Draft (α : Type) where
  first : Option α := none
  second : Option α := none

def usageSlots : List (Slot (Draft Nat)) := [
  .of "prompt_tokens" true (·.first) (fun d a => { d with first := a }) (readNatural 64 "u64"),
  .of "completion_tokens" true (·.second) (fun d a => { d with second := a })
    (readNatural 64 "u64")]

def readUsage : Reader (Nat × Nat) :=
  (readRecord "struct StreamUsage" usageSlots {}).andThen fun d => do
    return (d.first.getD 0, d.second.getD 0)

def contentSlots : List (Slot (Draft (Option String))) := [
  .of "content" true (·.first) (fun d a => { d with first := some a }) (readOption readText)]

def readContent : Reader (Option String) :=
  (readRecord "struct StreamDeltaContent" contentSlots {}).andThen fun d => do
    return d.first.getD none

def choiceSlots : List (Slot (Draft (Option String))) := [
  .of "delta" true (·.first) (fun d a => { d with first := some a }) readContent,
  .of "finish_reason" true (·.second) (fun d a => { d with second := some a })
    (readOption readText)]

def readChoice : Reader Choice :=
  (readRecord "struct StreamChoice" choiceSlots {}).andThen fun d => do
    return { content := d.first.getD none, finish := d.second.getD none }

structure ChunkDraft where
  choices : Option (List Choice) := none
  usage : Option (Option (Nat × Nat)) := none

def chunkSlots : List (Slot ChunkDraft) := [
  .of "choices" true (·.choices) (fun d a => { d with choices := a }) (readList readChoice),
  .of "usage" true (·.usage) (fun d a => { d with usage := some a }) (readOption readUsage)]

def readChunk : Reader Chunk :=
  (readRecord "struct StreamChunk" chunkSlots {}).andThen fun d => do
    return { choices := d.choices.getD [], usage := d.usage.getD none }

def stopReason : String → StopReason
  | "length" => .maxTokens
  | "stop_sequence" => .stopSequence
  | _ => .endTurn

def Choice.deltas (c : Choice) : List Delta :=
  (c.content.filter (!·.isEmpty)).toList.map .text
    ++ c.finish.toList.map fun reason => .stop (stopReason reason)

/-- The deltas of a part: its first choice, and then the usage. -/
def Chunk.deltas (c : Chunk) : List Delta :=
  c.choices.head?.toList.flatMap Choice.deltas
    ++ c.usage.toList.map fun (input, output) => .usage input output

/-- The deltas of an event. The mark of the end, and what is no part, are passed over. -/
def deltas (m : EventStream.Message) : List Delta :=
  if Text.trim m.data.toList = "[DONE]".toList then []
  else match readWhole readChunk m.data with
    | .ok chunk => chunk.deltas
    | .error _ => []

/-- The deltas of a response, up to where it is cut short. -/
def readResponse (r : Web.Response) : List (Except CallError Delta) :=
  let chunks := .ok r.body :: if r.whole then [] else [.error Web.Error.cutShort]
  (EventStream.decode {} chunks).flatMap fun
    | .ok message => (deltas message).map .ok
    | .error e => [.error (.llmStream e.message)]

/-- The failure that a response stands for. -/
def refusal (r : Web.Response) : CallError :=
  let detail := match r.text with
    | .ok text => text
    | .error _ => "unknown"
  .llmRequest ("HTTP " ++ Web.statusText r.status ++ ": " ++ detail)

/-- Ask the model behind its address. -/
def ask (request : ChatRequest) (peer : Web.Peer) :
    Except CallError (List (Except CallError Delta)) × Web.Peer :=
  match request.onWire with
  | .error e => (.error (.llmRequest e.message), peer)
  | .ok w => match peer.receive w with
    | (.error e, peer) => (.error (.llmRequest e.message), peer)
    | (.ok r, peer) => (if r.isSuccess then .ok (readResponse r) else .error (refusal r), peer)

end Chat
end Workflow
