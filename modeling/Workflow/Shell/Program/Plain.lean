import Workflow.Shell.Program.Filter

/-! Small programs: conditions, sequences, names of files, pauses. -/
namespace Workflow.Shell.Program

/-- Whether a condition on one argument holds. -/
def unaryHolds? (s : Start) (o a : String) : Option Bool :=
  let isFile := (s.files.lookup a).isSome || a == "/dev/null"
  let isDirectory := directories.contains a
  match o with
  | "-n" => some !a.isEmpty
  | "-z" => some a.isEmpty
  | "-e" | "-r" | "-w" => some (isFile || isDirectory)
  | "-x" => some isDirectory
  | "-f" => some ((s.files.lookup a).isSome)
  | "-d" => some isDirectory
  | "-s" => some (((s.files.lookup a).any fun bytes => !bytes.isEmpty) || isDirectory)
  | "-b" | "-c" | "-g" | "-h" | "-k" | "-L" | "-p" | "-S" | "-t" | "-u" => some false
  | "-v" => some (s.bindings.get? a).isSome
  | _ => none

/-- A condition on two arguments, which may not be what they have to be. -/
def binaryHolds? (a o b : String) : Option (Except String Bool) :=
  let compare (f : Int → Int → Bool) : Option (Except String Bool) :=
    match integerOf a, integerOf b with
    | (n, true), (m, true) =>
      if a.isEmpty then some (.error a)
      else if b.isEmpty then some (.error b)
      else some (.ok (f n m))
    | (_, false), _ => some (.error a)
    | _, _ => some (.error b)
  match o with
  | "=" | "==" => some (.ok (a == b))
  | "!=" => some (.ok (a != b))
  | "<" => some (.ok (a < b))
  | ">" => some (.ok (b < a))
  | "-eq" => compare (· == ·)
  | "-ne" => compare (· != ·)
  | "-lt" => compare (· < ·)
  | "-le" => compare (· ≤ ·)
  | "-gt" => compare fun n m => m < n
  | "-ge" => compare fun n m => m ≤ n
  | _ => none

/-- The arguments before and behind a connective. -/
def splitOnce (mark : String) : List String → Option (List String × List String)
  | [] => none
  | a :: rest =>
    if a = mark then some ([], rest)
    else (splitOnce mark rest).map fun (before, behind) => (a :: before, behind)

/-- Whether a condition holds. The fuel is the number of its arguments. -/
def holds (s : Start) : Nat → List String → Except String Bool
  | 0, args => .ok !args.isEmpty
  | fuel + 1, args => match args with
    | [] => .ok false
    | [a] => .ok !a.isEmpty
    | [o, a] =>
      if o = "!" then .ok a.isEmpty
      else match unaryHolds? s o a with
        | some b => .ok b
        | none => .error (o ++ ": unary operator expected")
    | args =>
      let three : Option (Except String Bool) := match args with
        | [a, o, b] => (binaryHolds? a o b).map fun r =>
            r.mapError fun arg => arg ++ ": integer expression expected"
        | _ => none
      match three with
      | some r => r
      | none => match splitOnce "-o" args with
        | some (a, b) => do
          let x ← holds s fuel a
          let y ← holds s fuel b
          .ok (x || y)
        | none => match splitOnce "-a" args with
          | some (a, b) => do
            let x ← holds s fuel a
            let y ← holds s fuel b
            .ok (x && y)
          | none => match args with
            | "!" :: rest => (holds s fuel rest).map (!·)
            | [_, o, _] => .error (o ++ ": binary operator expected")
            | _ => .error "too many arguments"

def test : Behaviour := fun s =>
  match holds s (s.arguments.length + 1) s.arguments with
  | .ok b => s.quit (if b then 0 else 1)
  | .error why => s.fail 2 why

def bracket : Behaviour := fun s =>
  match s.arguments.reverse with
  | "]" :: rest => test { s with arguments := rest.reverse }
  | _ => s.fail 2 "missing \x60]'"

/-- The milliseconds of a pause, with a letter for its unit. -/
def pauseOf? (a : String) : Option Nat :=
  let reversed := a.toList.reverse
  let (digits, unit) := match reversed with
    | 's' :: r => (r.reverse, 1000)
    | 'm' :: r => (r.reverse, 60000)
    | 'h' :: r => (r.reverse, 3600000)
    | 'd' :: r => (r.reverse, 86400000)
    | r => (r.reverse, 1000)
  match decimalOf (String.ofList digits) with
  | some (false, n, places) => some (n * unit / Nat.pow 10 places)
  | _ => none

def sleep : Behaviour := withOptions "" "" fun s o =>
  if o.operands.isEmpty then s.misuse "missing operand"
  else match o.operands.find? fun a => (pauseOf? a).isNone with
    | some a => s.misuse ("invalid time interval " ++ quoteArgument a)
    | none =>
      { s.quit 0 with pauseMs := (o.operands.map fun a => (pauseOf? a).getD 0).foldr (· + ·) 0 }

/-- The integers from one to another by equal steps. -/
def integersFrom (first step : Int) (count : Nat) : List Int :=
  (List.range count).map fun i => first + step * Int.ofNat i

def seq : Behaviour := fun s =>
  let (separator, rest) := match s.arguments with
    | "-s" :: sep :: rest => (sep, rest)
    | rest => ("\n", rest)
  let (wide, rest) := match rest with
    | "-w" :: rest => (true, rest)
    | rest => (false, rest)
  let bad := rest.find? fun a => a.isEmpty || !(integerOf a).2
  let option := rest.findSome? fun a => match a.toList with
    | '-' :: c :: _ => if c.isDigit then none else some c
    | _ => none
  let write (first step last : Int) : Finish :=
    let count := if step = 0 then 0
      else if 0 < step then (if first ≤ last then ((last - first) / step).toNat + 1 else 0)
      else (if last ≤ first then ((first - last) / (-step)).toNat + 1 else 0)
    let texts := (integersFrom first step count).map toString
    let width := (texts.map String.length).foldl max 0
    let texts := if wide then
        texts.map fun t => String.ofList (List.replicate (width - t.length) '0') ++ t
      else texts
    s.print (if texts.isEmpty then [] else utf8 (separator.intercalate texts ++ "\n"))
  let n (a : String) : Int := (integerOf a).1
  match option with
  | some c => s.misuse ("invalid option -- '" ++ String.singleton c ++ "'")
  | none => match bad, rest with
  | some a, _ => s.misuse ("invalid floating point argument: " ++ quoteArgument a)
  | none, [] => s.misuse "missing operand"
  | none, [last] => write 1 1 (n last)
  | none, [first, last] => write (n first) 1 (n last)
  | none, [first, step, last] =>
    if n step = 0 then s.misuse ("invalid Zero increment value: '" ++ step ++ "'")
    else write (n first) (n step) (n last)
  | none, _ :: _ :: _ :: extra :: _ => s.misuse ("extra operand '" ++ extra ++ "'")

/-- The path without slashes at its end. -/
def dropSlashes (path : List Char) : List Char := (path.reverse.dropWhile (· == '/')).reverse

def baseName (path : String) : String :=
  let trimmed := dropSlashes path.toList
  if trimmed.isEmpty then if path.isEmpty then "" else "/"
  else String.ofList (trimmed.reverse.takeWhile (· != '/')).reverse

def dirName (path : String) : String :=
  let trimmed := dropSlashes path.toList
  match trimmed.reverse.dropWhile (· != '/') with
  | [] => if path.toList.head? == some '/' then "/" else "."
  | r => match (r.dropWhile (· == '/')).reverse with
    | [] => "/"
    | cs => String.ofList cs

def basename : Behaviour := fun s =>
  match s.arguments with
  | [] => s.misuse "missing operand"
  | path :: rest =>
    let name := baseName path
    let name := match rest with
      | suffix :: _ =>
        if name != suffix && name.endsWith suffix then
          String.ofList (name.toList.take (name.length - suffix.length))
        else name
      | [] => name
    s.print (utf8 (name ++ "\n"))

def dirname : Behaviour := fun s =>
  if s.arguments.isEmpty then s.misuse "missing operand"
  else s.print (utf8 (String.join (s.arguments.map fun a => dirName a ++ "\n")))

def printenv : Behaviour := fun s =>
  let values := s.arguments.map fun a => s.bindings.get? a
  { s.print (utf8 (String.join (values.filterMap id |>.map fun v => v ++ "\n"))) with
    status := if values.all Option.isSome then 0 else 1 }

/-- The lines that a program writes that never stops on its own, as far as others read them. -/
def yes : Behaviour := fun s =>
  let line := if s.arguments.isEmpty then "y" else " ".intercalate s.arguments
  s.print (List.replicate 20000 (utf8 (line ++ "\n"))).flatten

/-- Make files that are not there yet. -/
def touch : Behaviour := withOptions "acmf" "" fun s o =>
  { s.quit 0 with
    written := (o.operands.filter fun p => (s.files.lookup p).isNone).map fun p => (p, []) }

def rm : Behaviour := withOptions "frRiv" "" fun s o =>
  let missing := o.operands.filter fun p => (s.files.lookup p).isNone && !o.has 'f'
  { s.quit (if missing.isEmpty then 0 else 1) with
    err := missing.flatMap fun p =>
      s.complaint ("cannot remove '" ++ p ++ "': No such file or directory")
    removed := o.operands }

/-- Arithmetic on two operands, each of them an argument of its own. -/
def expr : Behaviour := fun s =>
  let answer (text : String) : Finish :=
    { s.print (utf8 (text ++ "\n")) with status := if text.isEmpty || text == "0" then 1 else 0 }
  let number (b : Bool) : Finish := answer (if b then "1" else "0")
  match s.arguments with
  | [] => s.misuse "missing operand"
  | [a] => answer a
  | ["length", a] => answer (toString (utf8 a).length)
  | [a, o, b] =>
    let (n, isInt) := integerOf a
    let (m, isInt') := integerOf b
    let arithmetic (f : Int → Int → Int) : Finish :=
      if isInt && isInt' && !a.isEmpty && !b.isEmpty then
        if (o == "/" || o == "%") && m = 0 then s.fail 2 "division by zero"
        else answer (toString (f n m))
      else s.fail 2 "non-integer argument"
    let compare (f : Int → Int → Bool) (g : String → String → Bool) : Finish :=
      if isInt && isInt' then number (f n m) else number (g a b)
    match o with
    | "+" => arithmetic (· + ·)
    | "-" => arithmetic (· - ·)
    | "*" => arithmetic (· * ·)
    | "/" => arithmetic Int.tdiv
    | "%" => arithmetic Int.tmod
    | "=" => compare (· == ·) (· == ·)
    | "!=" => compare (· != ·) (· != ·)
    | "<" => compare (· < ·) fun a b => a < b
    | ">" => compare (fun n m => m < n) fun a b => b < a
    | "<=" => compare (· ≤ ·) fun a b => !(b < a)
    | ">=" => compare (fun n m => m ≤ n) fun a b => !(a < b)
    | "|" => answer (if a.isEmpty || a == "0" then b else a)
    | "&" => if a.isEmpty || a == "0" || b.isEmpty || b == "0" then answer "0" else answer a
    | _ => s.fail 2 "syntax error"
  | _ => s.fail 2 "syntax error"

/-- The programs that there are besides shells. -/
def table : List (String × Behaviour) := [
  ("[", bracket), ("base64", base64), ("basename", basename), ("cat", cat), ("cut", cut),
  ("dirname", dirname), ("echo", echo), ("expr", expr), ("false", fun s => s.quit 1),
  ("head", head), ("printenv", printenv), ("printf", printf), ("rev", rev), ("rm", rm),
  ("seq", seq), ("sleep", sleep), ("sort", sort), ("tac", tac), ("tail", tail), ("tee", tee),
  ("test", test), ("touch", touch), ("tr", tr), ("true", fun s => s.quit 0), ("uniq", uniq),
  ("wc", wc), ("yes", yes)]

/-- The names of the shells. -/
def shells : List String := ["bash", "sh"]

/-- The directories in which programs are. -/
def programDirectories : List String := ["/bin/", "/usr/bin/"]

/-- The name of a program without the directory of programs in which it is. -/
def commandName (path : String) : String :=
  match programDirectories.findSome? fun d => Text.dropLead? d.toList path.toList with
  | some name => String.ofList name
  | none => path

def behaviour? (path : String) : Option Behaviour := table.lookup (commandName path)

/-- Whether a program is the plain shell. -/
def isPlainShell (path : String) : Bool := commandName path == "sh"

def isShell (path : String) : Bool := shells.contains (commandName path)

end Workflow.Shell.Program
