import Workflow.Calendar.Basic
import Workflow.Code.Process
import Workflow.Settings.Load

/-! Where a command runs: the files and the environment that it sees, and what starts processes. -/
namespace Workflow.Command

/-- What is found under a path. -/
inductive Found where
  | text (content : String)
  | notText
  | directory
  | nothing
  /-- A file stands where the path goes on. -/
  | blocked
  deriving DecidableEq, Repr

namespace Found

/-- The text that is found, or why it cannot be read. -/
def read : Found → Except String String
  | text content => .ok content
  | notText => .error "stream did not contain valid UTF-8"
  | directory => .error "Is a directory (os error 21)"
  | nothing => .error "No such file or directory (os error 2)"
  | blocked => .error "Not a directory (os error 20)"

def isThere : Found → Bool
  | text _ | notText | directory => true
  | nothing | blocked => false

/-- The steps of a path that lead somewhere; two points go back. -/
def steps (path : String) : List (List Char) :=
  (Text.splitAt '/' path.toList).foldl (fun steps step =>
    if step.isEmpty || step = ['.'] then steps
    else if step = ['.', '.'] then steps.dropLast
    else steps ++ [step]) []

/-- What is found in a directory of files. Outside of it there are only the given directories, and
the file that is always empty. -/
def among (directories : List String) (files : List (String × String)) (path : String) : Found :=
  if path = "/dev/null" then .text ""
  else if "/".isPrefixOf path then
    if directories.contains path then .directory else .nothing
  else
    let way := steps path
    let named := files.map fun (name, content) => (steps name, content)
    match named.lookup way with
    | some content => if "/".toList.isSuffixOf path.toList then .blocked else .text content
    | none =>
      if named.any fun (name, _) => way.isPrefixOf name then .directory
      else if way.isEmpty then .directory
      else if named.any fun (name, _) => name.isPrefixOf way then .blocked
      else .nothing

end Found

structure Site where
  files : String → Found
  launcher : Launcher
  environment : Environment := []
  now : Moment := default
  /-- The id for a run that is started. -/
  runId : String := ""

end Workflow.Command
