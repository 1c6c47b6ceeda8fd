import Workflow.Code.Process
import Workflow.Shell.Builtin
import Workflow.Shell.Parser

/-! Running scripts, and a launcher that starts the shell and its programs. Code of nodes only asks
for some launcher; this one is for a program that is not to start processes of the system. -/
namespace Workflow.Shell

namespace Machine

/-- Where the given descriptor leads. -/
def sinkOf (m : Machine) (descriptor : String) : Option Sink :=
  match descriptor with
  | "1" => some m.out
  | "2" => some m.err
  | "-" => some .closed
  | _ => none

/-- Let an output descriptor lead elsewhere. -/
def point (m : Machine) (descriptor : Nat) (sink : Sink) : Machine :=
  match descriptor with
  | 1 => { m with out := sink }
  | 2 => { m with err := sink }
  | _ => m

/-- Open a file for writing, or tell why that is impossible. -/
def openSink (m : Machine) (path : String) (keep : Bool) : Except String (Machine × Sink) :=
  if path == "/dev/null" then .ok (m, .nowhere)
  else if path == "/dev/stdout" then .ok (m, m.out)
  else if path == "/dev/stderr" then .ok (m, m.err)
  else if Program.directories.contains path then .error "Is a directory"
  else if path.toList.contains '/' && !Program.directories.contains (Program.dirName path) then
    .error "No such file or directory"
  else
    let old := if keep then (m.files.lookup path).getD [] else []
    .ok ({ m with files := (path, old) :: m.files.filter (·.1 != path) }, .file path)

/-- Carry out a redirection. -/
def redirect (m : Machine) (descriptor : Nat) (direction : Direction) (word : String) :
    Except String Machine :=
  let failure (why : String) : String := word ++ ": " ++ why
  match direction with
  | .supply line =>
    .ok { m with input := some (utf8 (if line then word ++ "\n" else word)) }
  | .read => match Program.contents? (m.start "" []) word with
    | .ok bytes => .ok { m with input := some bytes }
    | .error why => .error (failure why)
  | .write => match m.openSink word false with
    | .ok (m, sink) => .ok (m.point descriptor sink)
    | .error why => .error (failure why)
  | .append => match m.openSink word true with
    | .ok (m, sink) => .ok (m.point descriptor sink)
    | .error why => .error (failure why)
  | .writeAll => match m.openSink word false with
    | .ok (m, sink) => .ok ((m.point 1 sink).point 2 sink)
    | .error why => .error (failure why)
  | .duplicate =>
    if descriptor = 0 then .ok (if word == "-" then { m with input := none } else m)
    else match m.sinkOf word with
      | some sink => .ok (m.point descriptor sink)
      | none => match m.openSink word false with
        | .ok (m, sink) => .ok ((m.point 1 sink).point 2 sink)
        | .error why => .error (failure why)

/-- Where a command is found: under its own name if the shell has it. -/
def locate? (m : Machine) (name : String) : Option String :=
  if (m.functions.lookup name).isSome || builtinNames.contains name || ownPrograms.contains name
  then some name
  else if (Program.behaviour? name).isSome || Program.isShell name then
    some (if name.toList.contains '/' then name else "/usr/bin/" ++ name)
  else none

/-- A shell that is started by this one, which sees only what is exported. -/
def fresh (m : Machine) : Machine :=
  { directory := m.directory
    bindings := m.bindings.filter fun (name, _) => m.exported.contains name
    exported := m.exported
    files := m.files
    input := m.input
    channels := m.channels
    out := m.out
    err := m.err
    pauseMs := m.pauseMs }

/-- The message about a script that cannot be read. -/
def syntaxMessage (name : String) (script : List Char) : SyntaxFault → String
  | .unclosed mark =>
    name ++ ": -c: line 1: unexpected EOF while looking for matching \x60" ++ String.singleton mark
      ++ "'\n"
  | .unexpectedEnd =>
    name ++ ": -c: line " ++ toString (script.count '\n' + 2)
      ++ ": syntax error: unexpected end of file\n"
  | .unexpected token =>
    let lines := Text.splitAt '\n' script
    name ++ ": -c: line 1: syntax error near unexpected token \x60" ++ token ++ "'\n" ++ name
      ++ ": -c: line 1: \x60" ++ String.ofList (lines.headD []) ++ "'\n"

/-- Leave a loop or go on with its next round. The answer tells whether the loop goes on. -/
def endRound (m : Machine) : Machine × Bool :=
  match m.flow with
  | .on => (m, true)
  | .leave 0 => ({ m with flow := .on }, false)
  | .leave (n + 1) => ({ m with flow := .leave n }, false)
  | .again 0 => ({ m with flow := .on }, true)
  | .again (n + 1) => ({ m with flow := .again n }, false)
  | _ => (m, false)

/-- End a script in which a command failed that must not fail. -/
def checkStrict (guarded : Bool) (m : Machine) : Machine :=
  if m.strict && !guarded && m.flow = .on && m.status != 0 then { m with flow := .ended } else m

/-- The output of a script as it takes the place of a word. -/
def withoutLastLines (bytes : Bytes) : List Char :=
  ((textOf bytes).reverse.dropWhile (· == '\n')).reverse

mutual
/-- What a word expands to. -/
def fragments : Nat → Word → Machine → List Fragment × Machine
  | 0, _, m => ([], { m with flow := .endless })
  | _ + 1, [], m => ([], m)
  | fuel + 1, p :: rest, m =>
    let (first, m) := fragment fuel p m
    let (more, m) := fragments fuel rest m
    (first ++ more, m)
def fragment : Nat → Piece → Machine → List Fragment × Machine
  | 0, _, m => ([], { m with flow := .endless })
  | fuel + 1, p, m =>
    let text (quoted : Bool) (s : List Char) : List Fragment :=
      [if quoted then .quoted s else .loose s]
    match p with
    | .plain c => ([.plain c], m)
    | .quoted s => ([.quoted s], m)
    | .output c quoted =>
      let (m, bytes) := m.capture (run fuel false c)
      (text quoted (withoutLastLines bytes), m)
    | .number e quoted =>
      let (fs, m) := fragments fuel e m
      match Arithmetic.evaluate m.bindings ((Fragment.joined fs).map (·.1)) with
      | .ok (n, bindings) => (text quoted (toString n).toList, { m with bindings })
      | .error fault =>
        ([], { m.fail 0 1 (Marked.text (Fragment.joined fs) ++ ": " ++ fault.message) with
          flow := .ended })
    | .parameter name treatment quoted =>
      let value? := m.parameter? name
      match treatment with
      | .value =>
        if name == "@" || (name == "*" && !quoted) then
          ((m.arguments.map fun a => text quoted a.toList).intersperse [.stop] |>.flatten, m)
        else if m.careful && value?.isNone && name != "*" then
          ([], { m.fail 0 127 (name ++ ": unbound variable") with flow := .ended })
        else (text quoted (value?.getD "").toList, m)
      | .length =>
        let n := if name == "@" || name == "*" then m.arguments.length
          else (value?.getD "").length
        (text quoted (toString n).toList, m)
      | .trim atEnd longest pattern =>
        let (fs, m) := fragments fuel pattern m
        (text quoted (Marked.trim (Fragment.joined fs) atEnd longest (value?.getD "").toList), m)
      | .slice offset length? =>
        let (fs, m) := fragments fuel offset m
        let n := (Arithmetic.evaluate m.bindings ((Fragment.joined fs).map (·.1))).toOption
        let s := (value?.getD "").toList
        let from_ (n : Int) : Nat := if n < 0 then s.length - n.natAbs else n.toNat
        let s' := s.drop (from_ ((n.map (·.1)).getD 0))
        match length? with
        | none => (text quoted s', m)
        | some w =>
          let (fs, m) := fragments fuel w m
          let n := (Arithmetic.evaluate m.bindings ((Fragment.joined fs).map (·.1))).toOption
          let k := (n.map (·.1)).getD 0
          (text quoted (s'.take (if k < 0 then s'.length - k.natAbs else k.toNat)), m)
      | .substitute everywhere pattern replacement =>
        let (fs, m) := fragments fuel pattern m
        let (gs, m) := fragments fuel replacement m
        let s := (value?.getD "").toList
        (text quoted (Marked.substitute (Fragment.joined fs) everywhere
          ((Fragment.joined gs).map (·.1)) s.length s), m)
      | .recase upper all =>
        let change (c : Char) : Char := if upper then c.toUpper else c.toLower
        (text quoted (match (value?.getD "").toList with
          | [] => []
          | c :: cs => change c :: (if all then cs.map change else cs)), m)
      | .remedy kind emptyToo word =>
        let isWanting := match value? with
          | none => true
          | some v => emptyToo && v.isEmpty
        match kind, isWanting with
        | .replace, false => fragments fuel word m
        | .replace, true => (text quoted [], m)
        | _, false => (text quoted (value?.getD "").toList, m)
        | .use, true => fragments fuel word m
        | .assign, true =>
          let (fs, m) := fragments fuel word m
          (fs, m.assign name (Marked.text (Fragment.joined fs)))
        | .complain, true =>
          let (fs, m) := fragments fuel word m
          let message := Marked.text (Fragment.joined fs)
          let message := if message.isEmpty then "parameter null or not set" else message
          ([], { m.fail 0 127 (name ++ ": " ++ message) with flow := .ended })
/-- A word as one text. -/
def textOfWord : Nat → Word → Machine → String × Machine
  | 0, _, m => ("", { m with flow := .endless })
  | fuel + 1, w, m =>
    let (fs, m) := fragments fuel w m
    (Marked.text (Fragment.joined fs), m)
/-- Words as fields. -/
def fieldsOfWords : Nat → List Word → Machine → List String × Machine
  | 0, _, m => ([], { m with flow := .endless })
  | _ + 1, [], m => ([], m)
  | fuel + 1, w :: rest, m =>
    let (fs, m) := fragments fuel w m
    let fields := (Fragment.fields m.separators fs).map Marked.text
    let (more, m) := fieldsOfWords fuel rest m
    (fields ++ more, m)
/-- Words as patterns. -/
def patternsOfWords : Nat → List Word → Machine → List Marked × Machine
  | 0, _, m => ([], { m with flow := .endless })
  | _ + 1, [], m => ([], m)
  | fuel + 1, w :: rest, m =>
    let (fs, m) := fragments fuel w m
    let (more, m) := patternsOfWords fuel rest m
    (Fragment.joined fs :: more, m)
/-- Carry out redirections, or tell why that is impossible. -/
def redirectAll : Nat → List Redirection → Machine → Except (String × Machine) Machine
  | 0, _, m => .ok { m with flow := .endless }
  | _ + 1, [], m => .ok m
  | fuel + 1, .mk descriptor direction word :: rest, m =>
    let (text, m) := textOfWord fuel word m
    match m.redirect descriptor direction text with
    | .ok m => redirectAll fuel rest m
    | .error why => .error (why, m)
def assignAll : Nat → List (String × Word) → Machine → Machine
  | 0, _, m => { m with flow := .endless }
  | _ + 1, [], m => m
  | fuel + 1, (name, word) :: rest, m =>
    let (text, m) := textOfWord fuel word m
    assignAll fuel rest (m.assign name text)
/-- Run a command by its name. -/
def invoke : Nat → Nat → List String → Machine → Machine
  | 0, _, _, m => { m with flow := .endless }
  | fuel + 1, below, words, m => match words with
    | [] => m
    | name :: args => match m.functions.lookup name with
      | some body =>
        let inner := run fuel false body
          { m with arguments := args, depth := m.depth + 1, shadowed := [] }
        let flow := match inner.flow with
          | .returned => .on
          | f => f
        { inner with
          arguments := m.arguments
          depth := m.depth
          shadowed := m.shadowed
          bindings := inner.shadowed.foldl (fun vs (name, value?) => match value? with
            | some v => vs.put name v
            | none => vs.erase name) inner.bindings
          flow }
      | none => match builtin? name below args with
        | some f => f m
        | none =>
          if name == "eval" then runText fuel (" ".intercalate args) m
          else if name == "exec" then
            if args.isEmpty then m.setStatus 0
            else { invoke fuel below args m with flow := .ended }
          else if name == "command" || name == "builtin" then match args with
            | "-v" :: sought :: _ => match m.locate? sought with
              | some path => (m.print (path ++ "\n")).setStatus 0
              | none => m.setStatus 1
            | args => invoke fuel below args m
          else if name == "timeout" then match args with
            | limit :: words =>
              let started := m.pauseMs
              let m := m.aside (invoke fuel below words)
              let limitMs := (Program.pauseOf? limit).getD 0
              if limitMs != 0 && (m.flow = .endless || limitMs < m.pauseMs - started) then
                { m with flow := .on, status := 124, pauseMs := started + limitMs }
              else m
            | [] => m.setStatus 125
          else if Program.isShell name then match args.dropWhile fun a =>
              a.startsWith "-" && a != "-c" with
            | "-c" :: script :: rest =>
              m.aside fun m => runWhole fuel script { m.fresh with
                name := rest.headD name
                plain := Program.isPlainShell name
                arguments := rest.drop 1 }
            | path :: _ =>
              if Program.isPlainShell name then
                (m.write m.err (utf8 (name ++ ": 0: cannot open " ++ path
                  ++ ": No such file\n"))).setStatus 2
              else
                (m.write m.err (utf8 (name ++ ": " ++ path
                  ++ ": No such file or directory\n"))).setStatus
                (if args.contains "-e" then 1 else 127)
            | [] =>
              let script := String.ofList (textOf (m.input.getD []))
              m.aside fun m => runWhole fuel script { m.fresh with
                name
                plain := Program.isPlainShell name
                input := m.input.map fun _ => [] }
          else match Program.behaviour? name with
            | some behaviour =>
              let own := ownPrograms.contains name
              let title := if own then m.title below ++ ": " ++ name else name
              let behaviour := if m.plain && name == "echo" then Program.echoEscaped else behaviour
              let finish := behaviour (m.start title args)
              if m.out = .closed && !finish.out.isEmpty then
                m.write m.err (utf8 (title ++ ": write error: Bad file descriptor\n"))
                  |>.setStatus 1
              else m.absorb finish
            | none =>
              if m.plain then m.fail below 127 (name ++ ": not found")
              else if !name.toList.contains '/' then
                m.fail below 127 (name ++ ": command not found")
              else if Program.directories.contains name then
                m.fail below 126 (name ++ ": Is a directory")
              else m.fail below 127 (name ++ ": No such file or directory")
/-- Run a text as a script of its own, and then what it left for its end. -/
def runWhole : Nat → String → Machine → Machine
  | 0, _, m => { m with flow := .endless }
  | fuel + 1, text, m =>
    let m := runText fuel text { m with lines := text.toList.count '\n' }
    if m.atExit.isEmpty || m.flow = .killed || m.flow = .endless then m
    else
      match Parser.script m.atExit.toList with
      | .ok c =>
        let after := run fuel false c { m with flow := .on, atExit := "" }
        if after.flow = .on then { after with status := m.status } else after
      | .error _ => m
/-- Run a text as a script. -/
def runText : Nat → String → Machine → Machine
  | 0, _, m => { m with flow := .endless }
  | fuel + 1, text, m => match Parser.script text.toList with
    | .ok c => run fuel false c { m with status := 0 }
    | .error e => (m.write m.err (utf8 (syntaxMessage m.name text.toList e))).setStatus 2
/-- Run a command. In a condition its failure is no reason to stop. -/
def run : Nat → Bool → Command → Machine → Machine
  | 0, _, _, m => { m with flow := .endless }
  | fuel + 1, guarded, c, m =>
    if m.flow != .on then m
    else match c with
    | .nothing => m
    | .define name body =>
      { m with functions := (name, body) :: m.functions.filter (·.1 != name), status := 0 }
    | .call assignments words redirections below =>
      let words := words.flatMap Word.alternatives
      let (fields, m') :=
        fieldsOfWords fuel words { m with status := if words.isEmpty then 0 else m.status }
      let done :=
        if m'.flow != .on then m'
        else match fields, redirectAll fuel redirections m' with
          | _, .error (why, m') => m'.fail below 1 why
          | [], .ok m' =>
            let m' := assignAll fuel assignments m'
            { m' with
              out := m.out
              err := m.err
              input := if redirections.isEmpty then m'.input else m.input }
          | name :: args, .ok m'' =>
            let m'' := { m'' with exported := assignments.map (·.1) ++ m''.exported }
            let ready := assignAll fuel assignments m''
            let ended := if ready.flow != .on then ready
              else invoke fuel below (name :: args) ready
            let ended := if assignments.isEmpty then ended
              else
                let restored := assignments.foldl (fun vs (n, _) => match m''.bindings.get? n with
                  | some v => Variables.put vs n v
                  | none => Variables.erase vs n) ended.bindings
                { ended with bindings := restored, exported := m'.exported }
            if name == "exec" && args.isEmpty then ended
            else
              let fed := redirections.any fun r => match r with
                | .mk 0 _ _ => true
                | _ => false
              { ended with
                out := m.out
                err := m.err
                input := if fed then m.input else ended.input }
      done.checkStrict guarded
    | .sequence a b => run fuel guarded b (run fuel guarded a m)
    | .both a b =>
      let m := run fuel true a m
      if m.status = 0 then run fuel guarded b m else m
    | .either a b =>
      let m := run fuel true a m
      if m.status = 0 then m else run fuel guarded b m
    | .negate c =>
      let m := run fuel true c m
      { m with status := if m.status = 0 then 1 else 0 }
    | .pipe a b =>
      let input := m.input
      let (m, bytes) := m.capture (run fuel true a)
      let rest := m.input
      let before := m.status
      let m := m.aside fun m => run fuel guarded b { m with input := some bytes }
      { m with
        input := if rest.isSome then rest else input
        status := if m.wholePipes && m.status = 0 then before else m.status }.checkStrict guarded
    | .side c => (m.aside (run fuel guarded c)).checkStrict guarded
    | .redirect c redirections => match redirectAll fuel redirections m with
      | .error (why, m) => m.fail 0 1 why
      | .ok ready =>
        let ended := run fuel guarded c ready
        let fed := redirections.any fun r => match r with
          | .mk 0 _ _ => true
          | _ => false
        { ended with
          out := m.out
          err := m.err
          input := if fed then m.input else ended.input }
    | .branch condition yes no =>
      let m := run fuel true condition m
      if m.flow != .on then m
      else if m.status = 0 then run fuel guarded yes m
      else run fuel guarded no (m.setStatus 0)
    | .repeatWhile result condition body => repeatRounds fuel guarded result condition body 0 m
    | .forEach name words body =>
      let (fields, m) := fieldsOfWords fuel (words.flatMap Word.alternatives) m
      eachRound fuel guarded name fields body (m.setStatus 0)
    | .count first test next body =>
      let (text, m) := textOfWord fuel first m
      let m := if text.isEmpty then m else m.calculate 0 [text]
      countRounds fuel guarded test next body (m.setStatus 0)
    | .choose word cases =>
      let (text, m) := textOfWord fuel word m
      chooseCase fuel guarded text cases (m.setStatus 0)
    | .calculate e =>
      let (text, m) := textOfWord fuel e m
      (m.calculate 0 [text]).checkStrict guarded
    | .condition words =>
      let (patterns, m) := patternsOfWords fuel words m
      match m.conditionHolds (patterns.length + 1) patterns with
      | .ok b => (m.setStatus (if b then 0 else 1)).checkStrict guarded
      | .error why => m.fail 0 2 ("[[: " ++ why)
def repeatRounds : Nat → Bool → Bool → Command → Command → Nat → Machine → Machine
  | 0, _, _, _, _, _, m => { m with flow := .endless }
  | fuel + 1, guarded, result, condition, body, last, m =>
    let m := run fuel true condition m
    let (m, goesOn) := m.endRound
    if !goesOn then m
    else if (m.status == 0) != result then m.setStatus last
    else
      let m := run fuel guarded body m
      let (m, goesOn) := m.endRound
      if goesOn then repeatRounds fuel guarded result condition body m.status m else m
def eachRound : Nat → Bool → String → List String → Command → Machine → Machine
  | 0, _, _, _, _, m => { m with flow := .endless }
  | _ + 1, _, _, [], _, m => m
  | fuel + 1, guarded, name, value :: rest, body, m =>
    let m := run fuel guarded body (m.assign name value)
    let (m, goesOn) := m.endRound
    if goesOn then eachRound fuel guarded name rest body m else m
def countRounds : Nat → Bool → Word → Word → Command → Machine → Machine
  | 0, _, _, _, _, m => { m with flow := .endless }
  | fuel + 1, guarded, test, next, body, m =>
    let (text, m) := textOfWord fuel test m
    let holds := if text.toList.all (· == ' ') then true else (m.calculate 0 [text]).status == 0
    if !holds then m
    else
      let m := run fuel guarded body m
      let (m, goesOn) := m.endRound
      if !goesOn then m
      else
        let (text, m) := textOfWord fuel next m
        let status := m.status
        let m := if text.isEmpty then m else (m.calculate 0 [text]).setStatus status
        countRounds fuel guarded test next body m
def chooseCase : Nat → Bool → String → List (List Word × Command) → Machine → Machine
  | 0, _, _, _, m => { m with flow := .endless }
  | _ + 1, _, _, [], m => m
  | fuel + 1, guarded, text, (patterns, body) :: rest, m =>
    let (patterns, m) := patternsOfWords fuel patterns m
    if patterns.any fun p => Marked.isMatch p text then run fuel guarded body m
    else chooseCase fuel guarded text rest m
end

/-- The depth of loops and calls, together, that a script reaches before it counts as endless. -/
def patience : Nat := 20000

end Machine

/-- What remains of a script that was run. -/
def Machine.processEnd (m : Machine) : ProcessEnd where
  out := m.channel 0
  err := m.channel 1
  status := if m.flow = .killed then none else some m.status
  elapsedMs := if m.flow = .endless then none else some m.pauseMs

/-- Run a program of the given name in a directory. -/
def runProgram (name : String) (arguments : List String) (directory : String)
    (bindings : Variables) (input : Bytes) : ProcessEnd :=
  let m : Machine :=
    { name, directory, bindings, input := some input, exported := bindings.map (·.1) }
  match Program.behaviour? name with
  | some behaviour => (m.absorb (behaviour (m.start name arguments))).processEnd
  | none => (m.invoke Machine.patience 0 (name :: arguments)).processEnd

/-! ### Starting programs -/

/-- Why a program cannot be started. -/
inductive StartFault where
  | notFound
  | denied
  | notDirectory
  | tooLong
  | zeroByte
  deriving DecidableEq, Repr

def StartFault.message : StartFault → String
  | notFound => "No such file or directory (os error 2)"
  | denied => "Permission denied (os error 13)"
  | notDirectory => "Not a directory (os error 20)"
  | tooLong => "Argument list too long (os error 7)"
  | zeroByte => "nul byte found in provided data"

/-- The number of bytes that an argument or a variable may have, with the zero that ends it. -/
def argumentLimit : Nat := 131072

def startFault? (l : Launch) : Option StartFault :=
  let directory := l.directory.getD "/"
  let isFile (path : String) : Bool := path == "/dev/null" || path.startsWith "/etc/passwd"
  if (l.program :: directory :: l.arguments).any fun s => s.toList.contains '\x00' then
    some .zeroByte
  else if isFile directory then some .notDirectory
  else if !Program.directories.contains directory then some .notFound
  else if (Program.behaviour? l.program).isNone && !Program.isShell l.program then
    some (if isFile l.program || Program.directories.contains l.program then .denied
      else .notFound)
  else if l.arguments.any (argumentLimit ≤ ·.utf8ByteSize)
      || l.bindings.any fun (name, value) =>
        argumentLimit ≤ name.utf8ByteSize + 1 + value.utf8ByteSize then
    some .tooLong
  else none

/-- The launcher of a system that has the shell and the programs here, and nothing else. -/
def launcher : Launcher := fun l => match startFault? l with
  | some fault => .error fault.message
  | none => .ok (runProgram l.program l.arguments (l.directory.getD "/") l.bindings l.input)

end Workflow.Shell
