import Workflow.Json.Record
import Workflow.Regex.Replace
import Workflow.Tool.Basic

/-! The tool that replaces what a regular expression matches. -/
namespace Workflow.Tool

open Json

structure Replacement where
  text : String
  pattern : String
  replacement : String
  deriving DecidableEq, Repr

structure ReplacementDraft where
  text : Option String := none
  pattern : Option String := none
  replacement : Option String := none

def replacementSlots : List (Slot ReplacementDraft) := [
  .of "text" false (·.text) (fun d a => { d with text := a }) readText,
  .of "pattern" false (·.pattern) (fun d a => { d with pattern := a }) readText,
  .of "replacement" false (·.replacement) (fun d a => { d with replacement := a }) readText]

def readReplacement : Reader Replacement :=
  (readRecord "struct RegexInput" replacementSlots {}).andThen fun d => do
    return {
      text := ← required "text" d.text
      pattern := ← required "pattern" d.pattern
      replacement := ← required "replacement" d.replacement }

def answerReplacement (input : Json) : Except CallError ToolOutput :=
  match readJson readReplacement input with
  | .error e => .error (.toolValidation e.error.message)
  | .ok r => match Pattern.parse? r.pattern with
    | none => .error (.toolValidation ("invalid regex: " ++ r.pattern))
    | some p => .ok { content := .str (p.replaceAll r.replacement r.text) }

def regexReplace : Tool where
  name := "regex_replace"
  description := "Find and replace using a regex. `$1`-style groups are expanded."
  schema := objectSchema
    [("text", property "string" none), ("pattern", property "string" "Regex pattern"),
      ("replacement", property "string" "Replacement string")] ["text", "pattern", "replacement"]
  timeoutSecs := 5
  run call s := (atOnce (answerReplacement call.input), s)

end Workflow.Tool
