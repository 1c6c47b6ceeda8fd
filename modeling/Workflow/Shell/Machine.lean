import Workflow.Shell.Basic
import Workflow.Shell.Pattern
import Workflow.Shell.Program.Plain

/-! The state of a shell that runs a script. -/
namespace Workflow.Shell

/-- Where an output leads. -/
inductive Sink where
  | closed
  | nowhere
  | channel (n : Nat)
  | file (path : String)
  deriving DecidableEq, Repr

/-- How a script goes on. -/
inductive Flow where
  | on
  /-- So many loops are left. -/
  | leave (loops : Nat)
  /-- The next round of a loop so many levels up begins. -/
  | again (loops : Nat)
  | returned
  | ended
  | killed
  /-- The script runs for longer than anyone waits. -/
  | endless
  deriving DecidableEq, Repr

structure Machine where
  name : String := "bash"
  /-- Whether it is the plain shell, which always writes escapes. -/
  plain : Bool := false
  arguments : List String := []
  bindings : Variables := []
  functions : List (String × Command) := []
  directory : String := "/"
  files : List (String × Bytes) := []
  input : Option Bytes := some []
  /-- What was written to each channel, the last part first. -/
  channels : List (List Bytes) := [[], []]
  out : Sink := .channel 0
  err : Sink := .channel 1
  status : Nat := 0
  pauseMs : Nat := 0
  /-- The line feeds in the script. -/
  lines : Nat := 0
  flow : Flow := .on
  /-- Whether the script ends when a command fails. -/
  strict : Bool := false
  /-- Whether the script ends when a parameter has no value. -/
  careful : Bool := false
  /-- Whether a pipe fails when its source does. -/
  wholePipes : Bool := false
  /-- How many functions are running. -/
  depth : Nat := 0
  /-- What the variables held outside that are local to the function that is running. -/
  shadowed : List (String × Option String) := []
  /-- The names of the variables that programs see. -/
  exported : List String := []
  /-- A script to run at the end. -/
  atExit : String := ""

/-- The number that a shell goes by. -/
def processId : Nat := 4242

namespace Machine

def write (m : Machine) (sink : Sink) (bytes : Bytes) : Machine :=
  match sink with
  | .closed | .nowhere => m
  | .channel n => { m with channels := m.channels.modify n (bytes :: ·) }
  | .file path =>
    let old := (m.files.lookup path).getD []
    { m with files := (path, old ++ bytes) :: m.files.filter (·.1 != path) }

def print (m : Machine) (text : String) : Machine := m.write m.out (utf8 text)

def setStatus (m : Machine) (status : Nat) : Machine := { m with status }

/-- What the shell calls itself when it complains about a command with so many lines below it. -/
def title (m : Machine) (below : Nat) : String :=
  m.name ++ (if m.plain then ": " else ": line ") ++ toString (m.lines - below + 1)

def complain (m : Machine) (below : Nat) (message : String) : Machine :=
  m.write m.err (utf8 (m.title below ++ ": " ++ message ++ "\n"))

/-- A complaint, and the status of a failure. -/
def fail (m : Machine) (below status : Nat) (message : String) : Machine :=
  (m.complain below message).setStatus status

def assign (m : Machine) (name value : String) : Machine :=
  { m with bindings := m.bindings.put name value }

/-- The value of a parameter, if it has one. -/
def parameter? (m : Machine) (name : String) : Option String :=
  match name with
  | "?" => some (toString m.status)
  | "$" => some (toString processId)
  | "#" => some (toString m.arguments.length)
  | "@" | "*" => if m.arguments.isEmpty then none else some (" ".intercalate m.arguments)
  | "0" => some m.name
  | "PWD" => some m.directory
  | name => match Text.index? name.toList with
    | some n => m.arguments[n - 1]?
    | none => m.bindings.get? name

/-- All that was written to a channel. -/
def channel (m : Machine) (n : Nat) : Bytes := ((m.channels.getD n []).reverse).flatten

/-- Run something on the side: its output goes to a channel of its own, and what it changes is
lost. -/
def capture (m : Machine) (f : Machine → Machine) : Machine × Bytes :=
  let n := m.channels.length
  let inner := f { m with channels := m.channels ++ [[]], out := .channel n }
  let flow := match inner.flow with
    | .killed => .killed
    | .endless => .endless
    | _ => .on
  ({ m with
      channels := inner.channels.take n
      files := inner.files
      input := inner.input
      status := inner.status
      pauseMs := inner.pauseMs
      flow }, inner.channel n)

/-- Run something whose changes are lost but for its output. -/
def aside (m : Machine) (f : Machine → Machine) : Machine :=
  let inner := f m
  let flow := match inner.flow with
    | .killed => .killed
    | .endless => .endless
    | _ => .on
  { m with
    channels := inner.channels
    files := inner.files
    input := inner.input
    status := inner.status
    pauseMs := inner.pauseMs
    flow }

/-- Take in what a program gives back. -/
def absorb (m : Machine) (f : Program.Finish) : Machine :=
  let m := (m.write m.out f.out).write m.err f.err
  let m := f.written.foldl (fun m (path, bytes) =>
    if path == "/dev/stderr" then m.write m.err bytes
    else if path == "/dev/stdout" then m.write m.out bytes
    else m) m
  { m with
    input := f.input
    status := f.status
    pauseMs := m.pauseMs + f.pauseMs
    files := f.written ++ m.files.filter fun (path, _) =>
      (f.written.lookup path).isNone && !f.removed.contains path }

/-- What a program is started with. -/
def start (m : Machine) (title : String) (arguments : List String) : Program.Start :=
  { title
    arguments
    bindings := m.bindings.filter fun (name, _) => m.exported.contains name
    input := m.input
    files := m.files }

end Machine

/-- A part of what a word expands to. -/
inductive Fragment where
  /-- A character that may be a sign in a pattern. -/
  | plain (c : Char)
  | quoted (s : List Char)
  /-- A text that is split into fields. -/
  | loose (s : List Char)
  /-- The end of a field. -/
  | stop
  deriving DecidableEq, Repr

/-- Characters, each with whether it stands for itself in a pattern. -/
abbrev Marked := List (Char × Bool)

namespace Fragment

/-- The fields as far as they are known: those that are done, and the one that goes on. -/
structure Split where
  done : List Marked := []
  current : Option Marked := none
  deriving DecidableEq, Repr

def Split.close (p : Split) : Split :=
  match p.current with
  | some field => { done := p.done ++ [field] }
  | none => p

def Split.add (p : Split) (cs : Marked) : Split :=
  { p with current := some (p.current.getD [] ++ cs) }

/-- Take in a character of a text that is split at the given separators. -/
def Split.addLoose (separators : List Char) (p : Split) (c : Char) : Split :=
  if !separators.contains c then p.add [(c, false)]
  else if c == ' ' || c == '\t' || c == '\n' then p.close
  else { done := p.done ++ [p.current.getD []] }

def Split.take (separators : List Char) (p : Split) : Fragment → Split
  | .plain c => p.add [(c, false)]
  | .quoted s => p.add (s.map fun c => (c, true))
  | .loose s => s.foldl (Split.addLoose separators) p
  | .stop => p.close

/-- The fields of fragments. -/
def fields (separators : List Char) (fragments : List Fragment) : List Marked :=
  (fragments.foldl (Split.take separators) {}).close.done

/-- All characters of fragments, as one field. -/
def joined (fragments : List Fragment) : Marked :=
  fragments.flatMap fun f => match f with
    | .plain c => [(c, false)]
    | .quoted s => s.map fun c => (c, true)
    | .loose s => s.map fun c => (c, false)
    | .stop => [(' ', true)]

end Fragment

def Marked.text (cs : Marked) : String := String.ofList (cs.map (·.1))

/-- Whether a pattern matches a whole text. -/
def Marked.isMatch (pattern : Marked) (text : String) : Bool :=
  matchesPattern (Sign.ofMarked pattern.length pattern) text.toList

/-- Drop what a pattern matches at an end of a text: its shortest match there, or its longest. -/
def Marked.trim (pattern : Marked) (atEnd longest : Bool) (text : List Char) : List Char :=
  let signs := Sign.ofMarked pattern.length pattern
  let lengths := List.range (text.length + 1)
  let lengths := if longest then lengths.reverse else lengths
  let part (n : Nat) : List Char := if atEnd then text.drop (text.length - n) else text.take n
  match lengths.find? fun n => matchesPattern signs (part n) with
  | some n => if atEnd then text.take (text.length - n) else text.drop n
  | none => text

/-- Put a text in the place of the longest matches of a pattern, from left to right. The fuel is the
length of the text. -/
def Marked.substitute (pattern : Marked) (everywhere : Bool) (new : List Char) :
    Nat → List Char → List Char
  | 0, s => s
  | _, [] => []
  | fuel + 1, c :: cs =>
    let signs := Sign.ofMarked pattern.length pattern
    let lengths := ((List.range (cs.length + 2)).drop 1).reverse
    match lengths.find? fun n => matchesPattern signs ((c :: cs).take n) with
    | some n =>
      let rest := (c :: cs).drop n
      new ++ if everywhere then Marked.substitute pattern everywhere new fuel rest else rest
    | none => c :: Marked.substitute pattern everywhere new fuel cs

/-- The alternatives in braces: parts between commas, or the integers or letters of a range. -/
def alternatives? (inner : List Char) : Option (List (List Char)) :=
  match Text.splitAt ',' inner with
  | a :: b :: more => some (a :: b :: more)
  | _ => match Text.splitAt '.' inner with
    | [[], [], _] | [_, [], []] => none
    | [a, [], b] =>
      match Program.integerOf (String.ofList a), Program.integerOf (String.ofList b) with
      | (n, true), (m, true) =>
        some ((Program.integersFrom n (if n ≤ m then 1 else -1) ((m - n).natAbs + 1)).map
          fun i => (toString i).toList)
      | _, _ => match a, b with
        | [x], [y] =>
          if x.isAlpha && y.isAlpha && x ≤ y then
            some ((List.range (y.toNat + 1 - x.toNat)).map fun i => [Char.ofNat (x.toNat + i)])
          else none
        | _, _ => none
    | _ => none

/-- The words that a word with braces stands for. The fuel is its length. -/
def expandBraces : Nat → List Char → List (List Char)
  | 0, s => [s]
  | fuel + 1, s =>
    let before := s.takeWhile (· != '\x7b')
    let rest := (s.drop before.length).drop 1
    let inner := rest.takeWhile (· != '\x7d')
    match rest.drop inner.length with
    | [] => [s]
    | _ :: behind =>
      let ends := expandBraces fuel behind
      match alternatives? inner with
      | some parts => parts.flatMap fun part => ends.map fun e => before ++ part ++ e
      | none => ends.map fun e => before ++ '\x7b' :: inner ++ '\x7d' :: e

/-- A word without quotes and expansions as characters. -/
def plainChars? (w : Word) : Option (List Char) :=
  w.mapM fun p => match p with
    | .plain c => some c
    | _ => none

/-- The words that a word stands for before it is expanded. -/
def Word.alternatives (w : Word) : List Word :=
  match plainChars? w with
  | some cs => (expandBraces cs.length cs).map fun cs => cs.map Piece.plain
  | none => [w]

end Workflow.Shell
