import Workflow.Settings

/-! Command lines: options and operands, and what the program is asked to do. -/
namespace Workflow.Command

/-- Something that an argument can give a value to: an option by its name or its letter, or an
operand by its place. -/
structure Parameter where
  name : String
  letter : Option Char := none
  accepts : String → Bool := fun _ => true

/-- Why a command line means nothing. -/
inductive UsageError where
  | unknownOption (option : String)
  | superfluous (argument : String)
  | missingValue (parameter : String)
  | badValue (value parameter : String)
  | repeated (parameter : String)
  | conflict (one other : String)
  | missingOperand (operand : String)
  | unknownCommand (name : String)
  | missingCommand
  deriving DecidableEq, Repr

def UsageError.message : UsageError → String
  | unknownOption o => "unexpected argument '" ++ o ++ "' found"
  | superfluous a => "unexpected argument '" ++ a ++ "' found"
  | missingValue p => "a value is required for '" ++ p ++ "' but none was supplied"
  | badValue v p => "invalid value '" ++ v ++ "' for '" ++ p ++ "'"
  | repeated p => "the argument '" ++ p ++ "' cannot be used multiple times"
  | conflict a b => "the argument '" ++ a ++ "' cannot be used with '" ++ b ++ "'"
  | missingOperand o => "the following required arguments were not provided:\n  <" ++ o ++ ">"
  | unknownCommand n => "unrecognized subcommand '" ++ n ++ "'"
  | missingCommand => "a subcommand is required but one was not provided"

/-- What ends the reading of a command line before its end. -/
inductive Interruption where
  | help
  | version
  | misuse (error : UsageError)
  deriving DecidableEq, Repr

/-- Which arguments there may be. Help can always be asked for. -/
structure Grammar where
  options : List Parameter := []
  operands : List Parameter := []
  hasVersion : Bool := false
  /-- Names at which another grammar takes over. -/
  commands : List String := []

/-- What is read so far. A value counts once the next argument is read. -/
structure Scan where
  given : List (String × String) := []
  /-- The parameter that comes next, and its value if that is read. -/
  pending : Option (Parameter × Option String) := none
  /-- The number of operands that are read. -/
  operands : Nat := 0
  /-- Whether two hyphens are passed, behind which there are only operands. -/
  literal : Bool := false

namespace Scan

def isGiven (s : Scan) (name : String) : Bool := s.given.any (·.1 == name)

def store (s : Scan) (p : Parameter) (value : String) : Except Interruption Scan :=
  if s.isGiven p.name then .error (.misuse (.repeated p.name))
  else if p.accepts value then .ok { s with given := s.given ++ [(p.name, value)] }
  else .error (.misuse (.badValue value p.name))

/-- Let the value count that was read last. -/
def resolve (s : Scan) : Except Interruption Scan :=
  match s.pending with
  | none => .ok s
  | some (p, none) => .error (.misuse (.missingValue p.name))
  | some (p, some value) => { s with pending := none }.store p value

/-- Whether the next argument is the value of an option, unless it looks like an option itself. -/
def awaitsValue (s : Scan) : Bool := s.pending.any (·.2.isNone)

/-- Stop to give help or the version. -/
def interrupt (s : Scan) (why : Interruption) : Except Interruption Scan := do
  let _ ← s.resolve
  throw why

/-- Give a parameter its value in the same argument. -/
def attach (s : Scan) (p : Parameter) (value : List Char) : Except Interruption Scan := do
  (← s.resolve).store p (String.ofList value)

/-- Let a parameter wait for its value. -/
def await (s : Scan) (p : Parameter) : Except Interruption Scan := do
  return { ← s.resolve with pending := some (p, none) }

/-- Read an option by its name, behind two hyphens. -/
def readLong (g : Grammar) (s : Scan) (body : List Char) : Except Interruption Scan :=
  let name := String.ofList (body.takeWhile (· != '='))
  let value := (body.dropWhile (· != '=')).tail?
  let flag (why : Interruption) : Except Interruption Scan := match value with
    | none => s.interrupt why
    | some _ => .error (.misuse (.superfluous (String.ofList body)))
  if name = "help" then flag .help
  else if name = "version" && g.hasVersion then flag .version
  else match g.options.find? (·.name == name), value with
    | none, _ => .error (.misuse (.unknownOption ("--" ++ name)))
    | some p, some value => s.attach p value
    | some p, none => s.await p

/-- Read options by their letters, behind a hyphen. The value of an option may follow its letter. -/
def readLetter (g : Grammar) (s : Scan) : List Char → Except Interruption Scan
  | [] => .ok s
  | c :: rest =>
    if c = 'h' then s.interrupt .help
    else if c = 'V' && g.hasVersion then s.interrupt .version
    else match g.options.find? (·.letter == some c), rest with
      | none, _ => .error (.misuse (.unknownOption (String.ofList ['-', c])))
      | some p, [] => s.await p
      | some p, '=' :: value => s.attach p value
      | some p, value => s.attach p value

/-- Read an operand. -/
def readOperand (g : Grammar) (s : Scan) (argument : String) : Except Interruption Scan := do
  let s ← s.resolve
  match g.operands[s.operands]? with
  | some p => return { s with pending := some (p, some argument), operands := s.operands + 1 }
  | none => throw (.misuse (if g.commands.isEmpty then .superfluous argument
      else .unknownCommand argument))

/-- Read one argument. -/
def read (g : Grammar) (s : Scan) (argument : String) : Except Interruption Scan :=
  if s.literal then s.readOperand g argument
  else match argument.toList with
    | ['-', '-'] => .ok { s with literal := true }
    | '-' :: '-' :: body => s.readLong g body
    | '-' :: c :: body => s.readLetter g (c :: body)
    | _ => match s.pending with
      | some (p, none) => .ok { s with pending := some (p, some argument) }
      | _ => s.readOperand g argument

/-- Whether an argument hands over to the grammar of a command. -/
def handsOver (g : Grammar) (s : Scan) (argument : String) : Bool :=
  !s.literal && !s.awaitsValue && g.commands.contains argument

/-- Read arguments up to the name of a command, which comes with the arguments behind it. -/
def readAll (g : Grammar) : List String → Scan →
    Except Interruption (Scan × Option (String × List String))
  | [], s => .ok (s, none)
  | a :: rest, s =>
    if s.handsOver g a then .ok (s, some (a, rest))
    else do readAll g rest (← s.read g a)

/-- The values that are given, if every operand has one. -/
def finish (g : Grammar) (s : Scan) : Except Interruption (List (String × String)) := do
  let s ← s.resolve
  match g.operands.find? fun p => !s.isGiven p.name with
  | some p => throw (.misuse (.missingOperand p.name))
  | none => return s.given

end Scan

/-- Where the input of a run comes from. -/
inductive InputSource where
  | none
  | text (json : String)
  | file (path : String)
  deriving DecidableEq, Repr

/-- The shells that can be taught to complete command lines. -/
inductive Completer where
  | bash
  | elvish
  | fish
  | powershell
  | zsh
  deriving DecidableEq, Repr

def Completer.table : List (String × Completer) :=
  [("bash", .bash), ("elvish", .elvish), ("fish", .fish), ("powershell", .powershell),
    ("zsh", .zsh)]

/-- What the program is asked to do. -/
inductive Action where
  | run (workflow : String) (input : InputSource)
  | check (workflow : String)
  | serve
  | showSettings
  | complete (shell : Completer)
  deriving DecidableEq, Repr

/-- A command line that means something. -/
structure Line where
  settings : String := "flowrun.toml"
  action : Action
  deriving DecidableEq, Repr

namespace Line

/-- A path is never empty. -/
def isPath (s : String) : Bool := !s.isEmpty

def workflowOperand : Parameter := { name := "WORKFLOW", accepts := isPath }

def inputOption : Parameter := { name := "input" }
def inputFileOption : Parameter := { name := "input-file", accepts := isPath }

def settingsOption : Parameter := { name := "config", letter := some 'c', accepts := isPath }

/-- The commands, what is told about them, and their grammars. -/
def commands : List (String × String × Grammar) := [
  ("run", "Execute a workflow and print its events as JSON lines",
    { options := [inputOption, inputFileOption], operands := [workflowOperand] }),
  ("validate", "Check a workflow and print its execution order", { operands := [workflowOperand] }),
  ("serve", "Start the HTTP gateway", {}),
  ("config", "Show current configuration", {}),
  ("completions", "Generate shell completions",
    { operands := [{ name := "SHELL", accepts := fun s => (Completer.table.lookup s).isSome }] })]

/-- The grammar of what stands before the name of a command. -/
def grammar : Grammar where
  options := [settingsOption]
  hasVersion := true
  commands := commands.map (·.1) ++ ["help"]

/-- The action of a command with its values. -/
def actionOf (command : String) (given : List (String × String)) : Except Interruption Action :=
  let workflow := (given.lookup "WORKFLOW").getD ""
  match command with
  | "run" => match given.lookup "input", given.lookup "input-file" with
    | some _, some _ => .error (.misuse (.conflict "--input" "--input-file"))
    | some json, none => .ok (.run workflow (.text json))
    | none, some path => .ok (.run workflow (.file path))
    | none, none => .ok (.run workflow .none)
  | "validate" => .ok (.check workflow)
  | "serve" => .ok .serve
  | "config" => .ok .showSettings
  | _ => match (given.lookup "SHELL").bind fun s => Completer.table.lookup s with
    | some shell => .ok (.complete shell)
    | none => .error (.misuse (.missingOperand "SHELL"))

/-- What help about a command line of names gives: each name must be that of a command in the one
before it. -/
def readHelp : List String → Interruption
  | [] => .help
  | [name] => if grammar.commands.contains name then .help else .misuse (.unknownCommand name)
  | name :: other :: _ =>
    .misuse (.unknownCommand (if grammar.commands.contains name then other else name))

/-- Read the arguments of a command. -/
def readCommand (name : String) (arguments : List String) : Except Interruption Action :=
  match commands.lookup name with
  | none => .error (readHelp arguments)
  | some (_, g) => do
    let (s, _) ← Scan.readAll g arguments {}
    actionOf name (← s.finish g)

/-- Read the arguments of the program. -/
def parse (arguments : List String) : Except Interruption Line := do
  let (s, command) ← Scan.readAll grammar arguments {}
  match command with
  | none =>
    let _ ← s.resolve
    throw (.misuse .missingCommand)
  | some (name, rest) =>
    let action ← readCommand name rest
    let given ← s.finish grammar
    return { settings := (given.lookup "config").getD "flowrun.toml", action }

/-- The files that are read. -/
def files (l : Line) : List String :=
  match l.action with
  | .run workflow (.file input) => [l.settings, workflow, input]
  | .run workflow _ => [l.settings, workflow]
  | .check workflow => [l.settings, workflow]
  | .serve | .showSettings => [l.settings]
  | .complete _ => []

end Line

/-! ### What the program tells about its command line -/

/-- A table of two columns, the first one padded. -/
def columns (rows : List (String × String)) : String :=
  let width := (rows.map (·.1.length)).foldl max 0
  String.join (rows.map fun (name, about) =>
    "  " ++ name.pushn ' ' (width + 2 - name.length) ++ about ++ "\n")

def commandRows : List (String × String) :=
  (Line.commands.map fun (name, about, _) => (name, about))
    ++ [("help", "Print this message or the help of the given subcommand(s)")]

def guide : String :=
  "Run workflow graphs with streaming events\n\nUsage: " ++ programName
    ++ " [OPTIONS] <COMMAND>\n\nCommands:\n" ++ columns commandRows ++ "\nOptions:\n"
    ++ columns [
      ("-c, --config <CONFIG>", "Path to config file [default: flowrun.toml]"),
      ("-h, --help", "Print help"),
      ("-V, --version", "Print version")]

/-- The script that teaches a shell the names of the commands. -/
def completionScript (shell : Completer) : String :=
  let names := " ".intercalate (commandRows.map (·.1))
  match shell with
  | .bash => "complete -W '" ++ names ++ "' " ++ programName ++ "\n"
  | .zsh =>
    "#compdef " ++ programName ++ "\n_arguments '1:command:(" ++ names ++ ")' '*:file:_files'\n"
  | .fish => "complete -c " ++ programName ++ " -n __fish_use_subcommand -a '" ++ names ++ "'\n"
  | .elvish => "set edit:completion:arg-completer[" ++ programName ++ "] = \x7b|@words| put "
      ++ names ++ " \x7d\n"
  | .powershell => "Register-ArgumentCompleter -Native -CommandName '" ++ programName
      ++ "' -ScriptBlock \x7b '" ++ names ++ "'.Split(' ') \x7d\n"

end Workflow.Command
