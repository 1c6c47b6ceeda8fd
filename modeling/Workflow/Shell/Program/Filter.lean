import Workflow.Shell.Program.Writing
import Workflow.Web.Coding

/-! Programs that read bytes and write what they make of them. -/
namespace Workflow.Shell.Program

/-- A program that writes what it makes of all it has read. -/
def filter (s : Start) (operands : List String) (f : Bytes → Bytes) : Finish :=
  let (read, err) := readOperands s operands
  { s.printAll (f (read.map (·.2)).flatten) with
    err
    status := if err.isEmpty then 0 else 1 }

/-- Number the lines, all of them or only those that are not empty. -/
def numberLines (all : Bool) : Nat → List Bytes → List Bytes
  | _, [] => []
  | n, line :: rest =>
    if all || line != [10] then
      let digits := toString n
      let fill := String.ofList (List.replicate (6 - digits.length) ' ')
      (utf8 (fill ++ digits ++ "\t") ++ line) :: numberLines all (n + 1) rest
    else line :: numberLines all n rest

/-- Show the ends of lines. -/
def showEnd (line : Bytes) : Bytes := line.flatMap fun b => if b = 10 then [36, 10] else [b]

def cat : Behaviour := withOptions "AbeEnstTuv" "" fun s o =>
  let finish := filter s o.operands fun bytes =>
    let lines := linesOf bytes
    let lines := if o.has 'b' || o.has 'n' then numberLines (!o.has 'b') 1 lines else lines
    (if o.has 'e' || o.has 'E' || o.has 'A' then lines.map showEnd else lines).flatten
  if s.input.isNone && (o.operands.isEmpty || o.operands.contains "-") then
    { finish with
      err := finish.err ++ s.complaint "closing standard input: Bad file descriptor" }
  else finish

/-- Arguments whose counts are written as options of their own made options with a value. -/
def spellCounts (arguments : List String) : List String :=
  arguments.map fun a => match a.toList with
    | '-' :: c :: r => if (c :: r).all Char.isDigit then "-n" ++ String.ofList (c :: r) else a
    | _ => a

/-- A count with the sign in front of it. -/
def signedCount? (text : String) : Option (Option Char × Nat) :=
  let (sign, digits) := match text.toList with
    | '-' :: r => (some '-', r)
    | '+' :: r => (some '+', r)
    | r => (none, r)
  if digits.isEmpty || !digits.all Char.isDigit then none
  else (takeDigits 10 digits.length digits).map fun (n, _) => (sign, n)

/-- Zeros, as many as are asked for. -/
def zeros (n : Nat) : Bytes := List.replicate n 0

/-- The bytes that a program reads in one go. -/
def blockSize : Nat := 8192

/-- The beginning of the input. What is read beyond it is lost to others. -/
def head : Behaviour := fun s =>
  withOptions "qv" "nc" (fun s o =>
    let inBytes := (o.value? 'c').isSome
    let text := (o.value? 'c').getD ((o.value? 'n').getD "10")
    match signedCount? text with
    | none =>
      s.fail 1 ("invalid number of " ++ (if inBytes then "bytes" else "lines") ++ ": "
        ++ quoteArgument text)
    | some (sign, n) =>
      if o.operands = ["/dev/zero"] then s.print (zeros n)
      else
        let (read, err) := readOperands s o.operands
        let front (bytes : Bytes) : Bytes :=
          if inBytes then if sign = some '-' then bytes.take (bytes.length - n) else bytes.take n
          else
            let lines := linesOf bytes
            (if sign = some '-' then lines.take (lines.length - n) else lines.take n).flatten
        let left (bytes : Bytes) : Bytes :=
          if !o.operands.isEmpty then bytes
          else if sign = some '-' then []
          else if n = 0 then bytes
          else bytes.drop (if inBytes then n else blockSize)
        { out := (read.map fun (_, bytes) => front bytes).flatten
          err
          status := if err.isEmpty then 0 else 1
          input := s.input.map left }) { s with arguments := spellCounts s.arguments }

def tail : Behaviour := fun s =>
  withOptions "qv" "nc" (fun s o =>
    let inBytes := (o.value? 'c').isSome
    let text := (o.value? 'c').getD ((o.value? 'n').getD "10")
    match signedCount? text with
    | none =>
      s.fail 1 ("invalid number of " ++ (if inBytes then "bytes" else "lines") ++ ": "
        ++ quoteArgument text)
    | some (sign, n) =>
      filter s o.operands fun bytes =>
        let parts := if inBytes then bytes.map fun b => [b] else linesOf bytes
        (parts.drop (if sign = some '+' then n - 1 else parts.length - n)).flatten)
    { s with arguments := spellCounts s.arguments }

def isSpaceByte (b : UInt8) : Bool := b == 32 || (9 ≤ b && b ≤ 13)

/-- The number of runs of bytes that are no white space. -/
def countWords : Bool → Bytes → Nat
  | _, [] => 0
  | inside, b :: rest =>
    if isSpaceByte b then countWords false rest
    else (if inside then 0 else 1) + countWords true rest

/-- The counts of lines, words, characters and bytes that are asked for. -/
def counts (o : Options) (bytes : Bytes) : List Nat :=
  let plain := o.given.isEmpty
  (if plain || o.has 'l' then [bytes.count 10] else [])
    ++ (if plain || o.has 'w' then [countWords false bytes] else [])
    ++ (if o.has 'm' then [bytes.length] else [])
    ++ (if plain || o.has 'c' then [bytes.length] else [])

/-- Numbers in columns of at least the given width. -/
def columns (width : Nat) (ns : List Nat) : String :=
  " ".intercalate (ns.map fun n =>
    let digits := toString n
    String.ofList (List.replicate (width - digits.length) ' ') ++ digits)

def wc : Behaviour := withOptions "lwcm" "" fun s o =>
  let (read, err) := readOperands s o.operands
  let rows := read.map fun (name, bytes) => (name, counts o bytes)
  let sum := rows.foldl (fun sum (_, ns) => if sum.isEmpty then ns else sum.zipWith (· + ·) ns) []
  let total := (read.map fun (_, bytes) => bytes.length).foldr (· + ·) 0
  let single := o.given.length = 1 && rows.length ≤ 1
  let width := if single then 1 else if o.operands.isEmpty then 7 else (toString total).length
  let line (name : String) (ns : List Nat) : String :=
    columns width ns ++ (if o.operands.isEmpty then "" else " " ++ name) ++ "\n"
  let lines := rows.map (fun (name, ns) => line name ns)
    ++ (if 1 < o.operands.length then [line "total" sum] else [])
  { s.printAll (utf8 (String.join lines)) with
    err
    status := if err.isEmpty then 0 else 1 }

/-- Bytes from one to another. -/
def byteRange (a b : UInt8) : Bytes :=
  (List.range (b.toNat + 1 - a.toNat)).map fun i => (a.toNat + i).toUInt8

/-- The bytes of a named class. -/
def byteClass (name : String) : Bytes :=
  let lower := byteRange 97 122
  let upper := byteRange 65 90
  let digits := byteRange 48 57
  match name with
  | "lower" => lower
  | "upper" => upper
  | "digit" => digits
  | "alpha" => upper ++ lower
  | "alnum" => digits ++ upper ++ lower
  | "space" => [9, 10, 11, 12, 13, 32]
  | "blank" => [9, 32]
  | "punct" => byteRange 33 47 ++ byteRange 58 64 ++ byteRange 91 96 ++ byteRange 123 126
  | "xdigit" => digits ++ byteRange 65 70 ++ byteRange 97 102
  | "cntrl" => byteRange 0 31 ++ [127]
  | "print" => byteRange 32 126
  | "graph" => byteRange 33 126
  | _ => []

/-- The bytes of a set, written with escapes, ranges and classes. The fuel is its length. -/
def byteSet : Nat → List Char → Bytes
  | 0, _ => []
  | _ + 1, [] => []
  | fuel + 1, '[' :: ':' :: r =>
    let name := r.takeWhile (· != ':')
    match r.drop name.length with
    | ':' :: ']' :: r => byteClass (String.ofList name) ++ byteSet fuel r
    | _ => 91 :: byteSet fuel (':' :: r)
  | fuel + 1, s =>
    let one (s : List Char) : Bytes × List Char := match s with
      | '\\' :: r => match unescape true r with
        | .bytes bs r => (if bs.length = 1 then bs else bs.drop 1, r)
        | .stop => ([99], r.drop 1)
      | c :: r => (utf8Chars [c], r)
      | [] => ([], [])
    let (first, r) := one s
    match r with
    | '-' :: c :: r =>
      let (last, r) := one (c :: r)
      match first, last with
      | [a], [b] => byteRange a b ++ byteSet fuel r
      | _, _ => first ++ [45] ++ last ++ byteSet fuel r
    | r => first ++ byteSet fuel r

/-- Keep one of the same bytes of a set that follow each other. -/
def squeeze (set : Bytes) : Bytes → Bytes
  | [] => []
  | [b] => [b]
  | a :: b :: rest =>
    if a = b && set.contains a then squeeze set (b :: rest) else a :: squeeze set (b :: rest)

/-- Put bytes in the place of others, or drop them, as the sets say. -/
def exchange (s : Start) (has : Char → Bool) (operands : List String) : Finish :=
  let set (a : String) : Bytes := byteSet (a.length + 1) a.toList
  let first (a : String) : Bytes :=
    if has 'c' || has 'C' then (byteRange 0 255).filter fun b => !(set a).contains b else set a
  match operands, s.input with
  | [], _ => s.misuse "missing operand"
  | _, none => s.fail 1 "read error: Bad file descriptor"
  | [a], some bytes =>
    if has 'd' then s.printAll (bytes.filter fun b => !(first a).contains b)
    else if has 's' then s.printAll (squeeze (first a) bytes)
    else
      { s.misuse "missing operand" with
        err := s.complaint ("missing operand after " ++ quoteArgument a)
          ++ utf8 ("Two strings must be given when translating.\nTry '" ++ s.title
            ++ " --help' for more information.\n") }
  | a :: b :: _, some bytes =>
    if has 'd' then s.printAll (squeeze (set b) (bytes.filter fun b => !(first a).contains b))
    else
      let target := set b
      let table := (first a).zipIdx.reverse
      let map (b : UInt8) : UInt8 := match table.lookup b with
        | some i => target.getD i (target.getLast?.getD b)
        | none => b
      let bytes := bytes.map map
      s.printAll (if has 's' then squeeze target bytes else bytes)

def tr : Behaviour := withOptions "cCdst" "" fun s o => exchange s o.has o.operands

/-- Whether bytes come before others. -/
def bytesBefore : Bytes → Bytes → Bool
  | [], [] => false
  | [], _ :: _ => true
  | _ :: _, [] => false
  | a :: as, b :: bs => a < b || (a == b && bytesBefore as bs)

/-- The integer that a line begins with. -/
def leadingInt (line : Bytes) : Int :=
  let s := (textOf line).dropWhile fun c => c == ' ' || c == '\t'
  match s with
  | '-' :: r => -(((takeDigits 10 r.length r).map (·.1)).getD 0 : Nat)
  | r => ((takeDigits 10 r.length r).map (·.1)).getD 0

def sort : Behaviour := withOptions "nrufbs" "" fun s o =>
  filter s o.operands fun bytes =>
    let lines := (linesOf bytes).map bare
    let folded (l : Bytes) : Bytes :=
      if o.has 'f' then l.map fun b => if 97 ≤ b && b ≤ 122 then b - 32 else b else l
    let before (a b : Bytes) : Bool :=
      if o.has 'n' && leadingInt a != leadingInt b then leadingInt a < leadingInt b
      else if o.has 'n' && o.has 'u' then false
      else if folded a != folded b then bytesBefore (folded a) (folded b)
      else !(o.has 'u') && bytesBefore a b
    let le (a b : Bytes) : Bool := if o.has 'r' then !before a b else !before b a
    let sorted := lines.mergeSort le
    let kept := if o.has 'u' then
        sorted.foldr (fun l kept => match kept with
          | k :: rest => if before l k || before k l then l :: k :: rest else l :: rest
          | [] => [l]) []
      else sorted
    (kept.map (· ++ [10])).flatten

/-- Runs of the same lines, each with its length. -/
def runs : List Bytes → List (Bytes × Nat)
  | [] => []
  | line :: rest => match runs rest with
    | (l, n) :: more => if l = line then (l, n + 1) :: more else (line, 1) :: (l, n) :: more
    | [] => [(line, 1)]

def uniq : Behaviour := withOptions "cdui" "" fun s o =>
  filter s o.operands fun bytes =>
    let kept := (runs ((linesOf bytes).map bare)).filter fun (_, n) =>
      (!o.has 'd' || 1 < n) && (!o.has 'u' || n = 1)
    (kept.map fun (line, n) =>
      (if o.has 'c' then utf8 (columns 7 [n] ++ " ") else []) ++ line ++ [10]).flatten

/-- The places that a list names: single ones and ranges that may be open. -/
def places? (list : String) : Option (List (Nat × Option Nat)) :=
  (Text.splitAt ',' list.toList).mapM fun part =>
    match Text.splitAt '-' part with
    | [a] => (Text.index? a).map fun n => (n, some n)
    | [a, b] =>
      let first := if a.isEmpty then some 1 else Text.index? a
      let last := if b.isEmpty then some none else (Text.index? b).map some
      first.bind fun n => last.map fun m => (n, m)
    | _ => none

def isPlace (places : List (Nat × Option Nat)) (n : Nat) : Bool :=
  places.any fun (a, b) => a ≤ n && b.all (n ≤ ·)

/-- The parts of bytes between marks. -/
def splitBytes (mark : UInt8) : Bytes → List Bytes
  | [] => [[]]
  | b :: rest =>
    if b = mark then [] :: splitBytes mark rest
    else match splitBytes mark rest with
      | part :: parts => (b :: part) :: parts
      | [] => [[b]]

def cut : Behaviour := withOptions "sn" "bcfd" fun s o =>
  let list := ((o.value? 'f').orElse fun _ => o.value? 'c').orElse fun _ => o.value? 'b'
  match list with
  | none => s.misuse "you must specify a list of bytes, characters, or fields"
  | some list => match places? list with
    | none => s.misuse ("invalid field range")
    | some places => filter s o.operands fun bytes =>
      let mark := ((utf8 ((o.value? 'd').getD "\t")).head?).getD 9
      let choose {α : Type} (xs : List α) : List α :=
        (xs.zipIdx.filter fun (_, i) => isPlace places (i + 1)).map (·.1)
      let line (l : Bytes) : Option Bytes :=
        if (o.value? 'f').isNone then some (choose l)
        else if !l.contains mark then if o.has 's' then none else some l
        else some ([mark].intercalate (choose (splitBytes mark l)))
      (((linesOf bytes).filterMap fun l => line (bare l)).map (· ++ [10])).flatten

/-- Write the input to files as well. -/
def tee : Behaviour := withOptions "aip" "" fun s o =>
  match s.input with
  | none => s.fail 1 "read error: Bad file descriptor"
  | some bytes =>
    let file (name : String) : String × Bytes :=
      (name, (if o.has 'a' then (s.files.lookup name).getD [] else []) ++ bytes)
    { s.printAll bytes with written := o.operands.map file }

def rev : Behaviour := withOptions "" "" fun s o =>
  filter s o.operands fun bytes =>
    ((linesOf bytes).map fun l =>
      utf8Chars (textOf (bare l)).reverse ++ (if l.contains 10 then [10] else [])).flatten

def tac : Behaviour := withOptions "" "" fun s o =>
  filter s o.operands fun bytes => (linesOf bytes).reverse.flatten

/-- Parts of at most the given length, each closed by a line feed. The fuel is the
number of signs. -/
def wrapLines (width : Nat) : Nat → List Char → List Char
  | 0, s => s
  | fuel + 1, s =>
    if s.isEmpty then []
    else if width = 0 then s
    else s.take width ++ '\n' :: wrapLines width fuel (s.drop width)

def base64 : Behaviour := withOptions "i" "w" fun s o =>
  let width := ((o.value? 'w').bind fun t => Text.index? t.toList).getD 76
  filter s o.operands fun bytes =>
    let signs := Web.Base64.encode bytes
    utf8Chars (wrapLines width (signs.length + 1) signs)

end Workflow.Shell.Program
