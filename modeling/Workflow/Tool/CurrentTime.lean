import Workflow.Calendar.Layout
import Workflow.Json.Record
import Workflow.Tool.Basic

/-! The tool that tells the time. -/
namespace Workflow.Tool

open Json

structure FormatDraft where
  format : Option (Option String) := none

def formatSlots : List (Slot FormatDraft) := [
  .of "format" true (·.format) (fun d a => { d with format := some a }) (readOption readText)]

def readFormat : Reader (Option String) :=
  (readRecord "struct CurrentTimeInput" formatSlots {}).andThen fun d => do
    return d.format.getD none

/-- The layout that the input asks for. Input without one is not looked at. -/
def requestedFormat (input : Json) : Except CallError (Option String) :=
  match input with
  | .obj fields =>
    if Fields.contains fields "format" then
      match readJson readFormat input with
      | .ok f => .ok f
      | .error e => .error (.toolValidation e.error.message)
    else .ok none
  | _ => .ok none

def answerTime (now : Moment) (input : Json) : Except CallError ToolOutput := do
  let formatted ← (do
    match ← requestedFormat input with
    | none => return []
    | some format => match Layout.parse format with
      | none => .error (.toolValidation ("invalid time format: " ++ format))
      | some items => return [("formatted", Json.str (Layout.text now items))])
  let date := Layout.text now [Layout.zeroed .year, .literal "-", Layout.zeroed .month,
    .literal "-", Layout.zeroed .day]
  return {
    content := .ofPairs ([("iso", .str now.numericText), ("unix", .num (.int now.unix)),
      ("date", .str date)] ++ formatted) }

def currentTime : Tool where
  name := "current_time"
  description := "Current UTC time as RFC 3339, Unix seconds and an optional custom format."
  schema := objectSchema
    [("format", property "string" "strftime format, e.g. '%Y-%m-%d'")] []
  timeoutSecs := 5
  run call s := (atOnce (answerTime s.now call.input), s)

end Workflow.Tool
