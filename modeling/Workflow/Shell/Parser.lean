import Workflow.Shell.Arithmetic
import Workflow.Shell.Basic

/-! Reading scripts. -/
namespace Workflow.Shell.Parser

open Arithmetic (isNameChar isNameStart)

/-- A part of a script, with the rest of its text. -/
abbrev With (α : Type) := α × List Char

abbrev Reading := Except SyntaxFault

def isBlank (c : Char) : Bool := c == ' ' || c == '\t'

/-- Characters that end a word. -/
def endsWord (c : Char) : Bool := isBlank c || ['\n', ';', '&', '|', '<', '>', '(', ')'].contains c

/-- The text behind blanks, joined lines and a comment. -/
def skipBlanks : List Char → List Char
  | '\\' :: '\n' :: r => skipBlanks r
  | c :: r =>
    if isBlank c then skipBlanks r
    else if c == '#' then r.dropWhile (· != '\n')
    else c :: r
  | [] => []

/-- The text behind blanks, comments and line feeds. The fuel is the length of the text. -/
def skipLines : Nat → List Char → List Char
  | 0, s => s
  | fuel + 1, s => match skipBlanks s with
    | '\n' :: r => skipLines fuel r
    | r => r

def skipSpace (s : List Char) : List Char := skipLines s.length s

/-- The rest behind a reserved word. -/
def reserved? (word : String) (s : List Char) : Option (List Char) :=
  match Text.dropLead? word.toList s with
  | none => none
  | some [] => some []
  | some (c :: r) => if endsWord c then some (c :: r) else none

def closers : List String := ["then", "do", "done", "fi", "elif", "else", "esac", "\x7d"]

/-- Whether a text begins with what ends a list of commands. -/
def isClosed (s : List Char) : Bool :=
  match s with
  | [] => true
  | ')' :: _ => true
  | ';' :: ';' :: _ => true
  | s => closers.any fun w => (reserved? w s).isSome

/-- The fault of a text that goes on with something else than it should. -/
def surprise (s : List Char) : SyntaxFault :=
  match s with
  | [] => .unexpectedEnd
  | '\n' :: _ => .unexpected "newline"
  | ';' :: ';' :: _ => .unexpected ";;"
  | '&' :: '&' :: _ => .unexpected "&&"
  | '|' :: '|' :: _ => .unexpected "||"
  | c :: r =>
    if endsWord c then .unexpected (String.singleton c)
    else .unexpected (String.ofList (c :: r.takeWhile fun c => !endsWord c))

/-- The rest behind a reserved word that must be there. -/
def expect (word : String) (s : List Char) : Reading (List Char) :=
  match reserved? word (skipSpace s) with
  | some r => .ok r
  | none => .error (surprise (skipSpace s))

/-- The number that at most `count` digits denote, with the rest of the text. -/
def digits (base count : Nat) (s : List Char) : Nat × List Char :=
  let ds := (s.take count).takeWhile fun c => (Arithmetic.digit? base c).isSome
  (ds.foldl (fun n c => base * n + (Arithmetic.digit? base c).getD 0) 0, s.drop ds.length)

/-- The character of an escape behind a dollar sign and a quote, with the rest. -/
def escape : List Char → List Char × List Char
  | 'n' :: r => (['\n'], r)
  | 't' :: r => (['\t'], r)
  | 'r' :: r => (['\r'], r)
  | 'a' :: r => (['\x07'], r)
  | 'b' :: r => (['\x08'], r)
  | 'e' :: r => (['\x1b'], r)
  | 'f' :: r => (['\x0c'], r)
  | 'v' :: r => (['\x0b'], r)
  | '\\' :: r => (['\\'], r)
  | '\'' :: r => (['\''], r)
  | '"' :: r => (['"'], r)
  | 'x' :: r =>
    let (n, r) := digits 16 2 r
    ([Char.ofNat n], r)
  | 'u' :: r =>
    let (n, r) := digits 16 4 r
    ([Char.ofNat n], r)
  | c :: r =>
    if (Arithmetic.digit? 8 c).isSome then
      let (n, r) := digits 8 3 (c :: r)
      ([Char.ofNat n], r)
    else (['\\', c], r)
  | [] => (['\\'], [])

/-- A text behind a dollar sign and a quote. The fuel is its length. -/
def ansiQuoted : Nat → List Char → List Char → Reading (With (List Char))
  | 0, _, _ => .error (.unclosed '\'')
  | _ + 1, [], _ => .error (.unclosed '\'')
  | _ + 1, '\'' :: r, acc => .ok (acc.reverse, r)
  | fuel + 1, '\\' :: r, acc =>
    let (cs, r) := escape r
    ansiQuoted fuel r (cs.reverse ++ acc)
  | fuel + 1, c :: r, acc => ansiQuoted fuel r (c :: acc)

/-- The text up to a mark that is not escaped, the marks in it being unescaped. -/
def backquoted : List Char → List Char → Option (List Char × List Char)
  | [], _ => none
  | '\x60' :: r, acc => some (acc.reverse, r)
  | '\\' :: '\x60' :: r, acc => backquoted r ('\x60' :: acc)
  | '\\' :: '\\' :: r, acc => backquoted r ('\\' :: acc)
  | '\\' :: '$' :: r, acc => backquoted r ('$' :: acc)
  | c :: r, acc => backquoted r (c :: acc)

/-- The text of an arithmetic expression up to the two parentheses that close it. -/
def expression : Nat → List Char → List Char → Option (List Char × List Char)
  | _, [], _ => none
  | 0, ')' :: ')' :: r, acc => some (acc.reverse, r)
  | depth, '(' :: r, acc => expression (depth + 1) r ('(' :: acc)
  | depth, ')' :: r, acc => expression (depth - 1) r (')' :: acc)
  | depth, c :: r, acc => expression depth r (c :: acc)

/-- The name of a parameter at the front of a text. -/
def parameterName? (s : List Char) : Option (String × List Char) :=
  match s with
  | [] => none
  | c :: r =>
    if isNameStart c then
      some (String.ofList (s.takeWhile isNameChar), s.dropWhile isNameChar)
    else if c.isDigit || ['?', '$', '#', '@', '*', '!', '-'].contains c then
      some (String.singleton c, r)
    else none

/-- An assignment at the front of a text: the name, what the value begins with, and the rest behind
the sign. -/
def assignment? (s : List Char) : Option (String × Word × List Char) :=
  match s with
  | [] => none
  | c :: _ =>
    if isNameStart c then match s.dropWhile isNameChar with
      | '=' :: r => some (String.ofList (s.takeWhile isNameChar), [], r)
      | '+' :: '=' :: r =>
        let name := String.ofList (s.takeWhile isNameChar)
        some (name, [.parameter name .value true], r)
      | _ => none
    else none

/-- A redirection sign at the front of a text, with the descriptor that it is for. -/
def redirection? (s : List Char) : Option (Nat × Direction × List Char) :=
  let ds := s.takeWhile Char.isDigit
  let n? := if ds.isEmpty then none else (Text.index? ds)
  match s.drop ds.length with
  | '&' :: '>' :: r => if ds.isEmpty then some (1, .writeAll, r) else none
  | '>' :: '>' :: r => some (n?.getD 1, .append, r)
  | '>' :: '&' :: r => some (n?.getD 1, .duplicate, r)
  | '>' :: '|' :: r => some (n?.getD 1, .write, r)
  | '>' :: r => some (n?.getD 1, .write, r)
  | '<' :: '<' :: '<' :: r => some (n?.getD 0, .supply true, r)
  | '<' :: '&' :: r => some (n?.getD 0, .duplicate, r)
  | '<' :: '<' :: _ => none
  | '<' :: r => some (n?.getD 0, .read, r)
  | _ => none

/-- The text inside a document in the script: the lines up to the one that is the end mark. With a
minus sign tabs in front of lines are dropped. -/
def takeLines (mark : List Char) (indented : Bool) : List (List Char) → List Char × List (List Char)
  | [] => ([], [])
  | line :: rest =>
    let line := if indented then line.dropWhile (· == '\t') else line
    if line = mark then ([], rest)
    else
      let (body, rest) := takeLines mark indented rest
      (line ++ '\n' :: body, rest)

/-- A document in the script behind its sign: whether it is taken as it stands, its text, and what
is left of the script without it. -/
def document? (s : List Char) : Option (Bool × List Char × List Char) := do
  let s ← Text.dropLead? ['<', '<'] s
  let (indented, s) := match s with
    | '-' :: r => (true, r)
    | r => (false, r)
  let s := s.dropWhile isBlank
  let word := s.takeWhile fun c => !endsWord c
  let mark := word.filter fun c => c != '\'' && c != '"' && c != '\\'
  let rest := s.drop word.length
  let line := rest.takeWhile (· != '\n')
  let (body, below) := takeLines mark indented (Text.splitAt '\n' ((rest.drop line.length).drop 1))
  return (mark.length < word.length, body, line ++ '\n' :: ['\n'].intercalate below)

def below (s : List Char) : Nat := s.count '\n'

/-- Whether a word stands for all arguments, and for nothing when there are none. -/
def isAllArguments : Word → Bool
  | [.parameter "@" .value _] => true
  | _ => false

/-- The parts of a word between the places where a plain character stands. -/
def splitWord (mark : Char) : Word → List Word
  | [] => [[]]
  | .plain c :: rest =>
    if c = mark then [] :: splitWord mark rest
    else match splitWord mark rest with
      | part :: parts => (.plain c :: part) :: parts
      | [] => [[.plain c]]
  | p :: rest => match splitWord mark rest with
    | part :: parts => (p :: part) :: parts
    | [] => [[p]]

mutual
/-- The rest of a word. -/
def word : Nat → List Char → Word → Reading (With Word)
  | 0, _, _ => .error .unexpectedEnd
  | fuel + 1, s, acc => match s with
    | [] => .ok (acc.reverse, [])
    | '\'' :: r => match r.dropWhile (· != '\'') with
      | [] => .error (.unclosed '\'')
      | _ :: rest => word fuel rest (.quoted (r.takeWhile (· != '\'')) :: acc)
    | '"' :: r => do
      let (pieces, r) ← inQuotes fuel r []
      word fuel r (pieces.reverse ++ (if isAllArguments pieces then acc else .quoted [] :: acc))
    | '\\' :: '\n' :: r => word fuel r acc
    | '\\' :: c :: r => word fuel r (.quoted [c] :: acc)
    | '$' :: '\'' :: r => do
      let (cs, r) ← ansiQuoted (r.length + 1) r []
      word fuel r (.quoted cs :: acc)
    | '$' :: r => do
      let (piece, r) ← dollar fuel false r
      word fuel r (piece :: acc)
    | '\x60' :: r => do
      let (piece, r) ← backquote fuel false r
      word fuel r (piece :: acc)
    | c :: r => if endsWord c then .ok (acc.reverse, c :: r) else word fuel r (.plain c :: acc)
/-- The pieces up to the closing quote. -/
def inQuotes : Nat → List Char → Word → Reading (With Word)
  | 0, _, _ => .error .unexpectedEnd
  | fuel + 1, s, acc => match s with
    | [] => .error (.unclosed '"')
    | '"' :: r => .ok (acc.reverse, r)
    | '\\' :: '\n' :: r => inQuotes fuel r acc
    | '\\' :: c :: r =>
      let cs := if ['"', '\\', '$', '\x60'].contains c then [c] else ['\\', c]
      inQuotes fuel r (.quoted cs :: acc)
    | '$' :: r => do
      let (piece, r) ← dollar fuel true r
      inQuotes fuel r (piece :: acc)
    | '\x60' :: r => do
      let (piece, r) ← backquote fuel true r
      inQuotes fuel r (piece :: acc)
    | c :: r => inQuotes fuel r (.quoted [c] :: acc)
/-- All of a text with its expansions, as in quotes. -/
def wholeText : Nat → List Char → Word → Reading Word
  | 0, _, _ => .error .unexpectedEnd
  | fuel + 1, s, acc => match s with
    | [] => .ok acc.reverse
    | '\\' :: c :: r =>
      let cs := if ['\\', '$', '\x60'].contains c then [c] else ['\\', c]
      wholeText fuel r (.quoted cs :: acc)
    | '$' :: r => do
      let (piece, r) ← dollar fuel true r
      wholeText fuel r (piece :: acc)
    | '\x60' :: r => do
      let (piece, r) ← backquote fuel true r
      wholeText fuel r (piece :: acc)
    | c :: r => wholeText fuel r (.quoted [c] :: acc)
def backquote : Nat → Bool → List Char → Reading (With Piece)
  | 0, _, _ => .error .unexpectedEnd
  | fuel + 1, quoted, s => match backquoted s [] with
    | none => .error (.unclosed '\x60')
    | some (inner, r) => do
      let (c, _) ← list fuel inner
      .ok (.output c quoted, r)
/-- What follows a dollar sign. -/
def dollar : Nat → Bool → List Char → Reading (With Piece)
  | 0, _, _ => .error .unexpectedEnd
  | fuel + 1, quoted, s => match s with
    | '(' :: '(' :: r => match expression 0 r [] with
      | none => .error (.unclosed ')')
      | some (inner, r) => do
        let pieces ← wholeText fuel inner []
        .ok (.number pieces quoted, r)
    | '(' :: r => do
      let (c, r) ← list fuel r
      match r with
      | ')' :: r => .ok (.output c quoted, r)
      | _ => .error (.unclosed ')')
    | '\x7b' :: '#' :: r => match parameterName? r with
      | some (name, '\x7d' :: r) => .ok (.parameter name .length quoted, r)
      | _ => .error (.unclosed '\x7d')
    | '\x7b' :: r => match parameterName? r with
      | none => .error (.unclosed '\x7d')
      | some (name, r) => do
        let (treatment, r) ← braced fuel r
        .ok (.parameter name treatment quoted, r)
    | s => match parameterName? s with
      | some (name, r) => .ok (.parameter name .value quoted, r)
      | none => .ok (if quoted then .quoted ['$'] else .plain '$', s)
/-- What follows the name of a parameter in braces. -/
def braced : Nat → List Char → Reading (With Treatment)
  | 0, _ => .error .unexpectedEnd
  | fuel + 1, s =>
    let remedy? (c : Char) : Option Remedy := match c with
      | '-' => some .use
      | '=' => some .assign
      | '+' => some .replace
      | '?' => some .complain
      | _ => none
    match s with
    | '\x7d' :: r => .ok (.value, r)
    | '#' :: '#' :: r => do
      let (w, r) ← inBraces fuel r []
      .ok (.trim false true w, r)
    | '#' :: r => do
      let (w, r) ← inBraces fuel r []
      .ok (.trim false false w, r)
    | '%' :: '%' :: r => do
      let (w, r) ← inBraces fuel r []
      .ok (.trim true true w, r)
    | '%' :: r => do
      let (w, r) ← inBraces fuel r []
      .ok (.trim true false w, r)
    | '/' :: '/' :: r => do
      let (w, r) ← inBraces fuel r []
      let parts := splitWord '/' w
      .ok (.substitute true (parts.headD []) ((parts.drop 1).headD []), r)
    | '/' :: r => do
      let (w, r) ← inBraces fuel r []
      let parts := splitWord '/' w
      .ok (.substitute false (parts.headD []) ((parts.drop 1).headD []), r)
    | '^' :: '^' :: '\x7d' :: r => .ok (.recase true true, r)
    | '^' :: '\x7d' :: r => .ok (.recase true false, r)
    | ',' :: ',' :: '\x7d' :: r => .ok (.recase false true, r)
    | ',' :: '\x7d' :: r => .ok (.recase false false, r)
    | ':' :: c :: r => match remedy? c with
      | some kind => do
        let (w, r) ← inBraces fuel r []
        .ok (.remedy kind true w, r)
      | none => do
        let (w, r) ← inBraces fuel (c :: r) []
        let parts := splitWord ':' w
        .ok (.slice (parts.headD []) (parts.drop 1).head?, r)
    | c :: r => match remedy? c with
      | some kind => do
        let (w, r) ← inBraces fuel r []
        .ok (.remedy kind false w, r)
      | none => .error (.unclosed '\x7d')
    | [] => .error (.unclosed '\x7d')
/-- A word up to a closing brace. -/
def inBraces : Nat → List Char → Word → Reading (With Word)
  | 0, _, _ => .error .unexpectedEnd
  | fuel + 1, s, acc => match s with
    | [] => .error (.unclosed '\x7d')
    | '\x7d' :: r => .ok (acc.reverse, r)
    | '\'' :: r => match r.dropWhile (· != '\'') with
      | [] => .error (.unclosed '\'')
      | _ :: rest => inBraces fuel rest (.quoted (r.takeWhile (· != '\'')) :: acc)
    | '"' :: r => do
      let (pieces, r) ← inQuotes fuel r []
      inBraces fuel r (pieces.reverse ++ .quoted [] :: acc)
    | '\\' :: c :: r => inBraces fuel r (.quoted [c] :: acc)
    | '$' :: r => do
      let (piece, r) ← dollar fuel false r
      inBraces fuel r (piece :: acc)
    | '\x60' :: r => do
      let (piece, r) ← backquote fuel false r
      inBraces fuel r (piece :: acc)
    | c :: r => inBraces fuel r (.plain c :: acc)
/-- Commands up to what closes them. -/
def list : Nat → List Char → Reading (With Command)
  | 0, _ => .error .unexpectedEnd
  | fuel + 1, s =>
    let s := skipSpace s
    if isClosed s then .ok (.nothing, s)
    else do
      let (c, r) ← andOr fuel s
      match skipBlanks r with
      | '&' :: r => do
        let (rest, r) ← list fuel r
        .ok (.sequence (.side c) rest, r)
      | ';' :: ';' :: r => .ok (c, ';' :: ';' :: r)
      | ';' :: r => do
        let (rest, r) ← list fuel r
        .ok (.sequence c rest, r)
      | '\n' :: r => do
        let (rest, r) ← list fuel r
        .ok (.sequence c rest, r)
      | [] => .ok (c, [])
      | ')' :: r => .ok (c, ')' :: r)
      | r => .error (surprise r)
def andOr : Nat → List Char → Reading (With Command)
  | 0, _ => .error .unexpectedEnd
  | fuel + 1, s => do
    let (c, r) ← pipeline fuel s
    andOrRest fuel c r
def andOrRest : Nat → Command → List Char → Reading (With Command)
  | 0, _, _ => .error .unexpectedEnd
  | fuel + 1, c, s => match skipBlanks s with
    | '&' :: '&' :: r => do
      let (d, r) ← pipeline fuel (skipSpace r)
      andOrRest fuel (.both c d) r
    | '|' :: '|' :: r => do
      let (d, r) ← pipeline fuel (skipSpace r)
      andOrRest fuel (.either c d) r
    | r => .ok (c, r)
def pipeline : Nat → List Char → Reading (With Command)
  | 0, _ => .error .unexpectedEnd
  | fuel + 1, s => match reserved? "!" s with
    | some r => do
      let (c, r) ← pipeline fuel (skipBlanks r)
      .ok (.negate c, r)
    | none => do
      let (c, r) ← command fuel s
      match skipBlanks r with
      | '|' :: '|' :: r => .ok (c, '|' :: '|' :: r)
      | '|' :: '&' :: r =>
        let (d, r) ← pipeline fuel (skipSpace r)
        .ok (.pipe (.redirect c [.mk 2 .duplicate [.plain '1']]) d, r)
      | '|' :: r =>
        let (d, r) ← pipeline fuel (skipSpace r)
        .ok (.pipe c d, r)
      | r => .ok (c, r)
/-- The redirections behind a command. -/
def redirections : Nat → List Char → List Redirection → Reading (With (List Redirection))
  | 0, _, _ => .error .unexpectedEnd
  | fuel + 1, s, acc =>
    let s := skipBlanks s
    match redirection? s with
    | some (n, direction, r) => do
      let (w, r) ← word fuel (r.dropWhile isBlank) []
      if w.isEmpty then .error (surprise r)
      else redirections fuel r (.mk n direction w :: acc)
    | none => match document? s with
      | some (literal, body, r) => do
        let w ← if literal then .ok [.quoted body] else wholeText fuel body []
        redirections fuel r (.mk 0 (.supply false) w :: acc)
      | none => .ok (acc.reverse, s)
/-- A command with a keyword, with what may be redirected of it. -/
def command : Nat → List Char → Reading (With Command)
  | 0, _ => .error .unexpectedEnd
  | fuel + 1, s =>
    let s := skipBlanks s
    let withRedirections (c : Command) (r : List Char) : Reading (With Command) := do
      let (rs, r) ← redirections fuel r []
      .ok (if rs.isEmpty then c else .redirect c rs, r)
    match s with
    | '(' :: '(' :: r => match expression 0 r [] with
      | none => .error .unexpectedEnd
      | some (inner, r) => do
        let w ← wholeText fuel inner []
        withRedirections (.calculate w) r
    | '(' :: r => do
      let (c, r) ← list fuel r
      match skipSpace r with
      | ')' :: r => withRedirections (.side c) r
      | r => .error (surprise r)
    | s =>
      match reserved? "\x7b" s with
      | some r => do
        let (c, r) ← list fuel r
        withRedirections c (← expect "\x7d" r)
      | none => match reserved? "if" s with
        | some r => do
          let (c, r) ← conditional fuel r
          withRedirections c r
        | none => match reserved? "while" s with
          | some r => do
            let (c, r) ← loop fuel true r
            withRedirections c r
          | none => match reserved? "until" s with
            | some r => do
              let (c, r) ← loop fuel false r
              withRedirections c r
            | none => match reserved? "for" s with
              | some r => do
                let (c, r) ← forLoop fuel (skipBlanks r)
                withRedirections c r
              | none => match reserved? "case" s with
                | some r => do
                  let (w, r) ← word fuel (skipBlanks r) []
                  let (cs, r) ← choices fuel (← expect "in" r) []
                  withRedirections (.choose w cs) r
                | none => match reserved? "[[" s with
                  | some r => do
                    let (ws, r) ← conditionWords fuel r []
                    withRedirections (.condition ws) r
                  | none => match reserved? "function" s with
                  | some r => do
                    let r := skipBlanks r
                    let name := r.takeWhile fun c => !endsWord c
                    let r := match skipBlanks (r.drop name.length) with
                      | '(' :: ')' :: r => r
                      | r => r
                    let (body, r) ← command fuel (skipSpace r)
                    .ok (.define (String.ofList name) body, r)
                  | none =>
                    if isClosed s then .error (surprise s) else call fuel s [] [] []
/-- The words of a condition up to the brackets that close it. -/
def conditionWords : Nat → List Char → List Word → Reading (With (List Word))
  | 0, _, _ => .error .unexpectedEnd
  | fuel + 1, s, acc =>
    let s := skipSpace s
    match reserved? "]]" s with
    | some r => .ok (acc.reverse, r)
    | none => match s with
      | [] => .error .unexpectedEnd
      | '&' :: '&' :: r => conditionWords fuel r ([.plain '&', .plain '&'] :: acc)
      | '|' :: '|' :: r => conditionWords fuel r ([.plain '|', .plain '|'] :: acc)
      | c :: r =>
        if endsWord c then conditionWords fuel r ([.plain c] :: acc)
        else do
          let (w, r) ← word fuel s []
          conditionWords fuel r (w :: acc)
def conditional : Nat → List Char → Reading (With Command)
  | 0, _ => .error .unexpectedEnd
  | fuel + 1, s => do
    let (c, r) ← list fuel s
    let (yes, r) ← list fuel (← expect "then" r)
    let r := skipSpace r
    match reserved? "elif" r, reserved? "else" r with
    | some r, _ =>
      let (no, r) ← conditional fuel r
      .ok (.branch c yes no, r)
    | none, some r =>
      let (no, r) ← list fuel r
      .ok (.branch c yes no, ← expect "fi" r)
    | none, none => .ok (.branch c yes .nothing, ← expect "fi" r)
def loop : Nat → Bool → List Char → Reading (With Command)
  | 0, _, _ => .error .unexpectedEnd
  | fuel + 1, result, s => do
    let (c, r) ← list fuel s
    let (body, r) ← list fuel (← expect "do" r)
    .ok (.repeatWhile result c body, ← expect "done" r)
def forLoop : Nat → List Char → Reading (With Command)
  | 0, _ => .error .unexpectedEnd
  | fuel + 1, s => match s with
    | '(' :: '(' :: r => match expression 0 r [] with
      | none => .error .unexpectedEnd
      | some (inner, r) => match Text.splitAt ';' inner with
        | [a, b, c] => do
          let first ← wholeText fuel a []
          let test ← wholeText fuel b []
          let next ← wholeText fuel c []
          let r := match skipSpace r with
            | ';' :: r => r
            | r => r
          let (body, r) ← list fuel (← expect "do" r)
          .ok (.count first test next body, ← expect "done" r)
        | _ => .error .unexpectedEnd
    | s => do
      let name := String.ofList (s.takeWhile isNameChar)
      if name.isEmpty then .error (surprise s)
      else
        let r := skipSpace (s.dropWhile isNameChar)
        let (words, r) ← match reserved? "in" r with
          | some r => wordList fuel r []
          | none => .ok ([[.parameter "@" .value true]], r)
        let r := match skipBlanks r with
          | ';' :: r => r
          | r => r
        let (body, r) ← list fuel (← expect "do" r)
        .ok (.forEach name words body, ← expect "done" r)
/-- Words up to the end of the command. -/
def wordList : Nat → List Char → List Word → Reading (With (List Word))
  | 0, _, _ => .error .unexpectedEnd
  | fuel + 1, s, acc => match skipBlanks s with
    | [] => .ok (acc.reverse, [])
    | c :: r =>
      if endsWord c then .ok (acc.reverse, c :: r)
      else do
        let (w, r) ← word fuel (c :: r) []
        wordList fuel r (w :: acc)
/-- The cases of a choice. -/
def choices : Nat → List Char → List (List Word × Command) →
    Reading (With (List (List Word × Command)))
  | 0, _, _ => .error .unexpectedEnd
  | fuel + 1, s, acc =>
    let s := skipSpace s
    match reserved? "esac" s with
    | some r => .ok (acc.reverse, r)
    | none => do
      let s := match s with
        | '(' :: r => r
        | r => r
      let (patterns, r) ← patternList fuel s []
      let (c, r) ← list fuel r
      let r := match skipSpace r with
        | ';' :: ';' :: r => r
        | r => r
      choices fuel r ((patterns, c) :: acc)
/-- Patterns with bars between them, up to a parenthesis. -/
def patternList : Nat → List Char → List Word → Reading (With (List Word))
  | 0, _, _ => .error .unexpectedEnd
  | fuel + 1, s, acc => do
    let (w, r) ← word fuel (skipBlanks s) []
    match skipBlanks r with
    | '|' :: r => patternList fuel r (w :: acc)
    | ')' :: r => .ok ((w :: acc).reverse, r)
    | r => .error (surprise r)
/-- The rest of a call. -/
def call : Nat → List Char → List (String × Word) → List Word → List Redirection →
    Reading (With Command)
  | 0, _, _, _, _ => .error .unexpectedEnd
  | fuel + 1, s, assignments, words, rs =>
    let s := skipBlanks s
    let finish : Reading (With Command) :=
      if assignments.isEmpty && words.isEmpty && rs.isEmpty then .error (surprise s)
      else .ok (.call assignments.reverse words.reverse rs (below s), s)
    match redirection? s with
    | some (n, direction, r) => do
      let (w, r) ← word fuel (r.dropWhile isBlank) []
      if w.isEmpty then .error (surprise r)
      else call fuel r assignments words (rs ++ [.mk n direction w])
    | none => match document? s with
      | some (literal, body, r) => do
        let w ← if literal then .ok [.quoted body] else wholeText fuel body []
        call fuel r assignments words (rs ++ [.mk 0 (.supply false) w])
      | none => match s with
        | [] => finish
        | '(' :: ')' :: r => match words, assignments with
          | [name], [] =>
            let plain := name.filterMap fun p => match p with
              | .plain c => some c
              | _ => none
            do
              let (body, r) ← command fuel (skipSpace r)
              .ok (.define (String.ofList plain) body, r)
          | _, _ => .error (.unexpected "(")
        | c :: r =>
          if endsWord c then
            if c == '(' then .error (.unexpected "(") else finish
          else match words, assignment? (c :: r) with
            | [], some (name, before, r) => do
              let (w, r) ← word fuel r []
              call fuel r ((name, before ++ w) :: assignments) [] rs
            | _, _ => do
              let (w, r) ← word fuel (c :: r) []
              call fuel r assignments (w :: words) rs
end

/-- Read a whole script. -/
def script (s : List Char) : Reading Command := do
  let (c, r) ← list (4 * s.length + 16) s
  match skipSpace r with
  | [] => .ok c
  | r => .error (surprise r)

end Workflow.Shell.Parser
