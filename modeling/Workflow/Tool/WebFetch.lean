import Workflow.Json.Record
import Workflow.Tool.Basic
import Workflow.Web.Markup
import Workflow.Web.Exchange

/-! The tool that fetches a page. -/
namespace Workflow.Tool

open Json

structure PageDraft where
  url : Option String := none
  maxLength : Option (Option Nat) := none

def pageSlots : List (Slot PageDraft) := [
  .of "url" false (·.url) (fun d a => { d with url := a }) readText,
  .of "max_length" true (·.maxLength) (fun d a => { d with maxLength := some a })
    (readOption (readNatural 64 "usize"))]

/-- The address of a page, and the number of characters that are wanted. -/
def readPage : Reader (String × Nat) :=
  (readRecord "struct WebFetchInput" pageSlots {}).andThen fun d => do
    let url ← required "url" d.url
    return (url, (d.maxLength.getD none).getD 30000)

/-- The beginning of a text that is longer than `limit`, with a note that it was cut. -/
def cutText (limit : Nat) (s : List Char) : String :=
  let head := s.take limit
  if head.length = s.length then String.ofList s
  else String.ofList head ++ "\n\n[truncated at " ++ toString limit ++ " chars]"

/-- What a tool makes of a page: its text, that of markup without the markup. -/
def readResponse (limit : Nat) (r : Web.Response) : Except CallError ToolOutput :=
  if !r.isSuccess then
    .ok {
      content := .str ("HTTP " ++ toString r.status ++ " " ++ (Web.phrase? r.status).getD "Unknown")
      isError := true }
  else
    match r.text with
    | .error e =>
      .error (.toolExecution "web_fetch" ("failed to read response body: " ++ e.message))
    | .ok body =>
      let isMarkup := ((r.header? "content-type").any fun type =>
        Text.occursIn "html".toList type.toList)
      let s := if isMarkup then Web.Markup.plainText body.toList else body.toList
      .ok { content := .str (cutText limit s) }

/-- Fetch the page that the input names. -/
def fetch (settings : HttpSettings) (input : Json) (s : Surroundings) :
    Except CallError ToolOutput × Surroundings :=
  match readJson readPage input with
  | .error e => (.error (.toolValidation e.error.message), s)
  | .ok (url, limit) =>
    let failed (e : Web.Error) : CallError :=
      .toolExecution "web_fetch" ("request failed: " ++ e.message)
    match Web.Request.of "GET" url with
    | .error e => (.error (failed e), s)
    | .ok request =>
      let (result, peer) := s.peer.receive (request.addDefault "user-agent" settings.userAgent)
      let s := { s with peer }
      match result with
      | .error e => (.error (failed e), s)
      | .ok r => (readResponse limit r, s)

def webFetch (settings : HttpSettings) : Tool where
  name := "web_fetch"
  description :=
    "Fetch content from a URL. Strips HTML tags and returns plain text, truncated to max_length."
  schema := objectSchema
    [("url", property "string" "The URL to fetch content from"),
      ("max_length", property "integer" "Maximum characters to return (default: 30000)")] ["url"]
  timeoutSecs := 60
  run call s :=
    let (result, s) := fetch settings call.input s
    (atOnce result, s)

end Workflow.Tool
