import Workflow.Shell.Machine

/-! Commands that a shell carries out itself. -/
namespace Workflow.Shell

/-- The status of a script that ends with the given integer. -/
def exitStatus (n : Int) : Nat := (n % 256).toNat

namespace Machine

/-- End the script, or return from a function. -/
def leaveWith (flow : Flow) (name : String) (below : Nat) (args : List String) (m : Machine) :
    Machine :=
  if flow = .returned && m.depth = 0 then
    m.fail below 2 "return: can only \x60return' from a function or sourced script"
  else match args with
  | [] => { m with flow }
  | a :: rest => match Program.integerOf a with
    | (n, true) =>
      if rest.isEmpty then { m with flow, status := exitStatus n }
      else { m.fail below 1 (name ++ ": too many arguments") with flow }
    | (_, false) =>
      { m.fail below 2 (name ++ ": " ++ a ++ ": numeric argument required") with flow }

/-- The number of loops that a command is about. -/
def loops (args : List String) : Nat :=
  match args with
  | a :: _ => (Program.integerOf a).1.toNat - 1
  | [] => 0

/-- A directory as it is named from another one. -/
def resolve (directory path : String) : String :=
  if path == "." then directory
  else if path == ".." then Program.dirName directory
  else if path.startsWith "/" then path
  else if directory == "/" then "/" ++ path
  else directory ++ "/" ++ path

def changeDirectory (below : Nat) (args : List String) (m : Machine) : Machine :=
  let path := (args.head?.orElse fun _ => m.bindings.get? "HOME").getD "/"
  let directory := resolve m.directory path
  if Program.directories.contains directory then { m with directory, status := 0 }
  else m.fail below 1 ("cd: " ++ path ++ ": No such file or directory")

/-- The name and the value in an argument. -/
def binding (a : String) : String × Option String :=
  let cs := a.toList
  let name := cs.takeWhile (· != '=')
  (String.ofList name,
    if name.length < cs.length then some (String.ofList (cs.drop (name.length + 1))) else none)

/-- Set variables from arguments, each of them a name with a value or without. -/
def declare (args : List String) (m : Machine) : Machine :=
  (args.foldl (fun m a => match binding a with
    | (name, some value) => m.assign name value
    | (_, none) => m) m).setStatus 0

/-- Let variables be seen by programs. -/
def exportAll (args : List String) (m : Machine) : Machine :=
  let m := declare args m
  { m with exported := (args.map fun a => (binding a).1) ++ m.exported }

def setOptions (args : List String) (m : Machine) : Machine :=
  match args with
  | "--" :: rest => { m with arguments := rest, status := 0 }
  | a :: rest => match a.toList with
    | ['-', 'o'] => { m with wholePipes := m.wholePipes || rest == ["pipefail"], status := 0 }
    | ['+', 'o'] => { m with wholePipes := m.wholePipes && rest != ["pipefail"], status := 0 }
    | '-' :: r => { m with
      strict := m.strict || r.contains 'e'
      careful := m.careful || r.contains 'u'
      wholePipes := m.wholePipes || (r.contains 'o' && rest == ["pipefail"])
      status := 0 }
    | '+' :: r => { m with
      strict := m.strict && !r.contains 'e'
      careful := m.careful && !r.contains 'u'
      status := 0 }
    | _ => { m with arguments := a :: rest, status := 0 }
  | [] => m.setStatus 0

/-- A line without its backslashes, each of which keeps the character behind it as it is. -/
def dropBackslashes : List Char → List Char
  | '\\' :: c :: r => c :: dropBackslashes r
  | c :: r => c :: dropBackslashes r
  | [] => []

/-- Give the fields of a line to variables, the last one taking what is left. -/
def spread (separators : List Char) (names : List String) (line : List Char) (m : Machine) :
    Machine :=
  let isSpace (c : Char) : Bool := separators.contains c && (c == ' ' || c == '\t')
  let trimEnd (s : List Char) : List Char := (s.reverse.dropWhile isSpace).reverse
  match names with
  | [] => m
  | [name] => m.assign name (String.ofList (trimEnd (line.dropWhile isSpace)))
  | name :: rest =>
    let line := line.dropWhile isSpace
    let field := line.takeWhile fun c => !separators.contains c
    let behind := match (line.drop field.length).dropWhile isSpace with
      | c :: r => if separators.contains c then r else c :: r
      | [] => []
    spread separators rest behind (m.assign name (String.ofList field))

/-- The separators of fields. -/
def separators (m : Machine) : List Char :=
  match m.bindings.get? "IFS" with
  | some s => s.toList
  | none => [' ', '\t', '\n']

/-- Read a line of the input. -/
def readLine (args : List String) (m : Machine) : Machine :=
  let options := args.takeWhile (·.startsWith "-")
  let names := args.drop options.length
  let raw := options.any fun o => o.toList.contains 'r'
  match m.input with
  | none => m.setStatus 1
  | some bytes =>
    let line := bytes.takeWhile (· != 10)
    let rest := bytes.drop line.length
    let text := textOf line
    let text := if raw then text else dropBackslashes text
    let m := if names.isEmpty then m.assign "REPLY" (String.ofList text)
      else spread m.separators names text m
    { m with input := some (rest.drop 1), status := if rest.isEmpty then 1 else 0 }

/-- The numbers of signals by their names. -/
def signals : List (String × Nat) := [("HUP", 1), ("INT", 2), ("QUIT", 3), ("ILL", 4), ("TRAP", 5),
  ("ABRT", 6), ("BUS", 7), ("FPE", 8), ("KILL", 9), ("USR1", 10), ("SEGV", 11), ("USR2", 12),
  ("PIPE", 13), ("ALRM", 14), ("TERM", 15), ("CHLD", 17), ("CONT", 18), ("STOP", 19), ("TSTP", 20),
  ("TTIN", 21), ("TTOU", 22), ("URG", 23), ("XCPU", 24), ("XFSZ", 25), ("VTALRM", 26),
  ("PROF", 27), ("WINCH", 28), ("IO", 29), ("PWR", 30), ("SYS", 31)]

def signal? (name : String) : Option Nat :=
  match Text.index? name.toList with
  | some n => some n
  | none =>
    let name := name.toUpper
    signals.lookup (match Text.dropLead? "SIG".toList name.toList with
      | some r => String.ofList r
      | none => name)

/-- What the shell does when a signal reaches it. -/
def receive (m : Machine) (signal : Nat) : Machine :=
  if signal = 0 || [17, 18, 23, 28].contains signal then m.setStatus 0
  else if [19, 20, 21, 22].contains signal then { m with flow := .endless }
  else { m with flow := .killed }

def kill (below : Nat) (args : List String) (m : Machine) : Machine :=
  let (name, rest) := match args with
    | "-s" :: name :: rest => (name, rest)
    | "-n" :: name :: rest => (name, rest)
    | a :: rest => match a.toList with
      | '-' :: name => (String.ofList name, rest)
      | _ => ("TERM", a :: rest)
    | [] => ("TERM", [])
  match signal? name, rest with
  | none, _ => m.fail below 1 ("kill: " ++ name ++ ": invalid signal specification")
  | some _, [] => m.setStatus 2
  | some signal, ids =>
    if ids.any (· == toString processId) then m.receive signal
    else match ids with
      | id :: _ =>
        if (Program.integerOf id).2 then
          m.fail below 1 ("kill: (" ++ id ++ ") - No such process")
        else m.fail below 1 ("kill: " ++ id ++ ": arguments must be process or job IDs")
      | [] => m.setStatus 0

/-- Evaluate arithmetic expressions; the status tells whether the last one is zero. -/
def calculate (below : Nat) (expressions : List String) (m : Machine) : Machine :=
  expressions.foldl (fun m e => match Arithmetic.evaluate m.bindings e.toList with
    | .ok (n, bindings) => { m with bindings, status := if n = 0 then 1 else 0 }
    | .error fault => m.fail below 1 (e ++ ": " ++ fault.message)) m

/-- The names of the commands that change the shell itself. -/
def builtinNames : List String := [":", "break", "cd", "continue", "declare", "eval", "exec",
  "exit", "export", "kill", "let", "local", "pwd", "read", "readonly", "return", "set", "shift",
  "shopt", "trap", "typeset", "ulimit", "umask", "unset", "wait"]

/-- Programs that a shell has itself as well. -/
def ownPrograms : List String := ["[", "echo", "false", "printf", "test", "true"]

/-- A command that changes the shell itself, if there is one of the name. -/
def builtin? (name : String) (below : Nat) (args : List String) : Option (Machine → Machine) :=
  match name with
  | ":" | "wait" | "shopt" | "ulimit" | "umask" => some fun m => m.setStatus 0
  | "exit" => some (leaveWith .ended "exit" below args)
  | "return" => some (leaveWith .returned "return" below args)
  | "break" => some fun m => { m with flow := .leave (loops args), status := 0 }
  | "continue" => some fun m => { m with flow := .again (loops args), status := 0 }
  | "cd" => some (changeDirectory below args)
  | "pwd" => some fun m => (m.print (m.directory ++ "\n")).setStatus 0
  | "export" => some (exportAll args)
  | "readonly" | "declare" | "typeset" => some (declare args)
  | "local" => some fun m =>
    if m.depth = 0 then m.fail below 1 "local: can only be used in a function"
    else declare args { m with
      shadowed := (args.map fun a => ((binding a).1, m.bindings.get? (binding a).1)) ++ m.shadowed }
  | "trap" => some fun m => match args with
    | [script, signal] =>
      if signal == "EXIT" || signal == "0" then { m with atExit := script, status := 0 }
      else m.setStatus 0
    | _ => m.setStatus 0
  | "unset" => some fun m =>
    { m with bindings := args.foldl Variables.erase m.bindings, status := 0 }
  | "read" => some (readLine args)
  | "shift" => some fun m =>
    { m with arguments := m.arguments.drop (loops args + 1), status := 0 }
  | "set" => some (setOptions args)
  | "kill" => some (kill below args)
  | "let" => some (calculate below args)
  | _ => none

/-- A condition in double brackets: patterns may stand on the right of an equality. -/
def conditionHolds (m : Machine) : Nat → List Marked → Except String Bool
  | 0, _ => .error "syntax error"
  | fuel + 1, words =>
    let texts := words.map Marked.text
    match Program.splitOnce "||" texts with
    | some (a, _) => do
      let x ← conditionHolds m fuel (words.take a.length)
      if x then .ok true else conditionHolds m fuel (words.drop (a.length + 1))
    | none => match Program.splitOnce "&&" texts with
      | some (a, _) => do
        let x ← conditionHolds m fuel (words.take a.length)
        if x then conditionHolds m fuel (words.drop (a.length + 1)) else .ok false
      | none => match texts, words with
        | "!" :: _, _ :: rest => (conditionHolds m fuel rest).map (!·)
        | [a, "==", _], [_, _, pattern] => .ok (Marked.isMatch pattern a)
        | [a, "=", _], [_, _, pattern] => .ok (Marked.isMatch pattern a)
        | [a, "!=", _], [_, _, pattern] => .ok !(Marked.isMatch pattern a)
        | texts, _ => Program.holds (m.start "" []) (texts.length + 1) texts

end Machine
end Workflow.Shell
