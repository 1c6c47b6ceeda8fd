import Std.Time.DateTime.Timestamp
import Workflow.Command.Execution
import Workflow.RunId
import Workflow.Shell.Run

/-! The program: it looks at the files, the clock and the environment, and prints a report. -/
namespace Workflow.Command

/-- What is found under a path. -/
def look (path : String) : IO Found := do
  try
    let bytes ← IO.FS.readBinFile path
    return match String.fromUTF8? bytes with
      | some text => .text text
      | none => .notText
  catch e =>
    return match e with
      | .inappropriateType _ 21 _ => .directory
      | .inappropriateType _ _ _ => .blocked
      | _ => .nothing

/-- The variables of the given names that are set. -/
def lookUp (names : List String) : IO Environment := do
  let found ← names.mapM fun name => return (name, ← IO.getEnv name)
  return found.filterMap fun (name, value) => value.map fun v => (name, v)

def currentMoment : IO Moment := do
  let now ← Std.Time.Timestamp.now
  return .ofUnix now.val.second.val now.val.nano.val.toNat

def writeAll (files : List (String × String)) : IO Unit := do
  for (path, content) in files do
    IO.FS.createDirAll ("/".intercalate (path.splitOn "/").dropLast)
    IO.FS.writeFile path content

end Workflow.Command

open Workflow Command

def main (arguments : List String) : IO UInt32 := do
  let line := (Line.parse arguments).toOption
  let paths := (line.map Line.files).getD []
  let found ← paths.mapM fun path => return (path, ← look path)
  let mentioned := found.flatMap fun (_, f) => match f with
    | .text text => Environment.mentionedIn text.toList
    | _ => []
  let site : Site :=
    { files := fun path => (found.lookup path).getD .nothing
      launcher := Shell.launcher
      environment := ← lookUp (["OPENAI_API_KEY", "FLOWRUN_MODEL", "HOME"] ++ mentioned)
      now := ← currentMoment
      runId := RunId.ofBytes (← IO.getRandomBytes 16).toList }
  let report := execute site arguments
  IO.print report.out
  IO.eprint report.err
  try writeAll report.written
  catch e => IO.eprintln (toString e)
  return report.status.toUInt32
