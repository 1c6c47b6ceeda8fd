import Workflow.Failure
import Workflow.Settings.Format
import Workflow.Text.Search
import Workflow.Toml.Parser

/-! Settings from a file and the environment. -/
namespace Workflow

/-- Variables of the environment that are set. -/
abbrev Environment := List (String × String)

namespace Environment

def get? (env : Environment) (name : String) : Option String := env.lookup name

/-- A variable in braces, with its value in its place. One that is not set stays, and so does one
whose brace is not closed, which is closed then. -/
def variableRule (env : Environment) : Text.Rule
  | '$' :: '\x7b' :: s =>
    let name := s.takeWhile (· != '\x7d')
    let value := match env.get? (String.ofList name) with
      | some v => v.toList
      | none => '$' :: '\x7b' :: name ++ ['\x7d']
    some (name.length + 3, value)
  | _ => none

/-- A text with the values of variables; these are not looked at again. -/
def expand (env : Environment) (text : String) : String :=
  String.ofList (Text.substitute env.variableRule text.toList)

/-- The names of variables that a text holds in braces. -/
def mentionedIn : List Char → List String
  | [] => []
  | c :: s =>
    let name := (s.drop 1).takeWhile (· != '\x7d')
    if c = '$' && s.head? == some '\x7b' then String.ofList name :: mentionedIn s
    else mentionedIn s

end Environment

namespace Settings

/-- The settings that the text of a file makes. -/
def ofText (env : Environment) (text : String) : Except CallError Settings :=
  match Toml.read? (env.expand text) with
  | none => .error (.config "TOML parse error")
  | some doc => match Settings.read.ofDocument .table doc with
    | .ok s => .ok s
    | .error e => .error (.config e.error.message)

/-- A path that starts from a directory unless it is absolute. -/
def joinPath (directory path : String) : String :=
  if "/".isPrefixOf path then path
  else if directory.isEmpty || directory.toList.getLast? == some '/' then directory ++ path
  else directory ++ "/" ++ path

/-- Where logs go, if they are kept. A tilde in front stands for the home directory. -/
def logDirectory? (env : Environment) (s : Settings) : Option String := do
  let log ← s.log.filter (·.enabled)
  match Text.dropLead? "~/".toList log.directory.toList, env.get? "HOME" with
  | some path, some home => return joinPath home (String.ofList path)
  | _, _ => return log.directory

end Settings
end Workflow
