import Workflow.Shell.Arithmetic
import Workflow.Text.Encoding

/-! What programs are given, and what they give back. -/
namespace Workflow.Shell

abbrev Bytes := List UInt8

def utf8 (s : String) : Bytes := s.toUTF8.toList

def utf8Chars (s : List Char) : Bytes := utf8 (String.ofList s)

/-- The text of bytes. -/
def textOf (bytes : Bytes) : List Char := Text.decodeLossy bytes

namespace Program

structure Start where
  /-- How the program calls itself when it complains. -/
  title : String
  arguments : List String
  bindings : Variables := []
  /-- What is left of the input, unless it is closed. -/
  input : Option Bytes
  files : List (String × Bytes) := []
  deriving DecidableEq, Repr

structure Finish where
  out : Bytes := []
  err : Bytes := []
  status : Nat := 0
  /-- What is left of the input. -/
  input : Option Bytes
  pauseMs : Nat := 0
  /-- The files that were written, and those that were removed. -/
  written : List (String × Bytes) := []
  removed : List String := []
  deriving DecidableEq, Repr

/-- A program, as what it makes of its start. -/
abbrev Behaviour := Start → Finish

namespace Start

/-- The end of a program that has nothing to say. -/
def quit (s : Start) (status : Nat) : Finish := { status, input := s.input }

def print (s : Start) (out : Bytes) : Finish := { out, input := s.input }

/-- A line about what is wrong. -/
def complaint (s : Start) (message : String) : Bytes := utf8 (s.title ++ ": " ++ message ++ "\n")

def fail (s : Start) (status : Nat) (message : String) : Finish :=
  { err := s.complaint message, status, input := s.input }

/-- The end of a program that was started in a wrong way. -/
def misuse (s : Start) (message : String) : Finish :=
  { err := s.complaint message
      ++ utf8 ("Try '" ++ s.title ++ " --help' for more information.\n")
    status := 1
    input := s.input }

/-- The end of a program that has read all of its input. -/
def printAll (s : Start) (out : Bytes) : Finish := { out, input := s.input.map fun _ => [] }

end Start

/-- Characters that a name in a message may have without being quoted. -/
def isSafeInName (c : Char) : Bool := c.isAlphanum || "_-./:+,@%^".toList.contains c

/-- A name of a file in a message. -/
def quoteName (name : String) : String :=
  if !name.isEmpty && name.toList.all isSafeInName then name
  else if name.toList.contains '\'' then "\"" ++ name ++ "\""
  else "'" ++ name ++ "'"

/-- An argument in a message, with backslashes and quotes escaped. -/
def quoteArgument (a : String) : String :=
  String.ofList ('\'' :: a.toList.flatMap (fun c =>
    if c == '\\' || c == '\'' then ['\\', c] else [c]) ++ ['\''])

/-- The directories that there are. -/
def directories : List String := ["/", "/tmp", "/usr", "/etc", "/bin", "/dev", "/var", "/home",
  "/root", "/opt", "/proc", "/usr/bin", ".", ".."]

/-- What a file holds. -/
def contents? (s : Start) (name : String) : Except String Bytes :=
  match name, s.input with
  | "-", some bytes | "/dev/stdin", some bytes => .ok bytes
  | "-", none | "/dev/stdin", none => .error "Bad file descriptor"
  | "/dev/null", _ => .ok []
  | name, _ => match s.files.lookup name with
    | some bytes => .ok bytes
    | none =>
      if directories.contains name then .error "Is a directory"
      else .error "No such file or directory"

/-- The contents of the operands, or of the input if there are none, with complaints about those
that cannot be read. -/
def readOperands (s : Start) (operands : List String) : List (String × Bytes) × Bytes :=
  let names := if operands.isEmpty then ["-"] else operands
  names.foldl (fun (read, err) name => match contents? s name with
    | .ok bytes =>
      (read ++ [(name, if name == "-" && read.any (·.1 == "-") then [] else bytes)], err)
    | .error why => (read, err ++ s.complaint (quoteName name ++ ": " ++ why))) ([], [])

/-- Options and operands. -/
structure Options where
  given : List (Char × String) := []
  operands : List String := []
  deriving DecidableEq, Repr

namespace Options

def has (o : Options) (c : Char) : Bool := o.given.any (·.1 == c)

/-- The last value of an option. -/
def value? (o : Options) (c : Char) : Option String :=
  (o.given.reverse.find? (·.1 == c)).map (·.2)

/-- The options in one argument, with the one that waits for its value. -/
def letters (flags valued : List Char) : List Char → Options →
    Except Char (Options × Option Char)
  | [], o => .ok (o, none)
  | c :: r, o =>
    if flags.contains c then letters flags valued r { o with given := o.given ++ [(c, "")] }
    else if valued.contains c then
      if r.isEmpty then .ok (o, some c)
      else .ok ({ o with given := o.given ++ [(c, String.ofList r)] }, none)
    else .error c

/-- Read arguments: options may stand anywhere in front of two hyphens. The argument behind an
option that waits for its value is that value. -/
def parse (flags valued : List Char) : Option Char → List String → Options → Except Char Options
  | none, [], o => .ok o
  | some c, [], _ => .error c
  | some c, a :: rest, o => parse flags valued none rest { o with given := o.given ++ [(c, a)] }
  | none, a :: rest, o => match a.toList with
    | ['-', '-'] => .ok { o with operands := o.operands ++ rest }
    | '-' :: c :: r => match letters flags valued (c :: r) o with
      | .ok (o, waiting) => parse flags valued waiting rest o
      | .error c => .error c
    | _ => parse flags valued none rest { o with operands := o.operands ++ [a] }

end Options

/-- A program with options. -/
def withOptions (flags valued : String) (run : Start → Options → Finish) : Behaviour := fun s =>
  match Options.parse flags.toList valued.toList none s.arguments {} with
  | .ok o => run s o
  | .error c =>
    if valued.toList.contains c then
      s.misuse ("option requires an argument -- '" ++ String.singleton c ++ "'")
    else s.misuse ("invalid option -- '" ++ String.singleton c ++ "'")

/-- The lines of bytes with their line feeds. -/
def linesOf (bytes : Bytes) : List Bytes :=
  bytes.foldr (fun b lines =>
    if b = 10 then [b] :: lines
    else match lines with
      | [] => [[b]]
      | line :: rest => (b :: line) :: rest) []

/-- A line without its line feed. -/
def bare (line : Bytes) : Bytes := line.filter (· != 10)

end Program
end Workflow.Shell
