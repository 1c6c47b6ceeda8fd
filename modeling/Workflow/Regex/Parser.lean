import Workflow.Regex.Basic
import Workflow.Regex.Names
import Workflow.Regex.Space
import Workflow.Text.Fold
import Workflow.Text.Letters
import Workflow.Text.Search

/-! Reading regular expressions. -/
namespace Workflow
namespace Regex

open Text (CharSet)

structure Flags where
  anyCase : Bool := false
  /-- The marks for beginning and end also stand for those of lines. -/
  multiLine : Bool := false
  /-- A dot also stands for a line feed. -/
  dotAll : Bool := false
  /-- Repetitions are as few as can be unless marked. -/
  swapGreed : Bool := false
  unicode : Bool := true
  /-- Carriage returns end lines as well. -/
  carriageReturns : Bool := false
  /-- White space and comments do not count. -/
  blanksIgnored : Bool := false
  deriving DecidableEq, Repr

/-- What a reader knows: the text that is left, the flags in force, and the groups so far. -/
structure Cursor where
  rest : List Char
  flags : Flags := {}
  groups : Nat := 0
  names : List (String × Nat) := []
  deriving DecidableEq, Repr

/-- Reading fails where the text is no regular expression. -/
abbrev Parse := StateT Cursor Option

namespace Parse

def fail {α : Type} : Parse α := fun _ => none

def flags : Parse Flags := return (← get).flags

def setFlags (flags : Flags) : Parse Unit := modify fun c => { c with flags }

def peek? : Parse (Option Char) := return (← get).rest.head?

def advance : Parse Unit := modify fun c => { c with rest := c.rest.tail }

/-- What is left without the white space and the comments before it. The fuel is its length. -/
def dropBlanks : Nat → List Char → List Char
  | 0, s => s
  | fuel + 1, s => match s with
    | [] => []
    | '#' :: s => dropBlanks fuel ((s.dropWhile (· != '\n')).drop 1)
    | c :: s => if Text.isBlank c then dropBlanks fuel s else c :: s

def skipBlanks : Parse Unit := modify fun c =>
  if c.flags.blanksIgnored then { c with rest := dropBlanks c.rest.length c.rest } else c

/-- The next character, which must be there. -/
def next : Parse Char := do
  match ← peek? with
  | some c => advance; return c
  | none => fail

/-- Skip ignored blanks, and show the character behind them. -/
def peekSolid? : Parse (Option Char) := do
  skipBlanks
  peek?

/-- Take a text if it comes next. -/
def take (s : String) : Parse Bool := do
  let c ← get
  match Text.dropLead? s.toList c.rest with
  | some rest => set { c with rest }; return true
  | none => return false

def expect (d : Char) : Parse Unit := do
  let c ← next
  if c = d then return () else fail

/-- The characters up to `stop`, which is taken as well. -/
def upTo (stop : Char) : Parse (List Char) := do
  let c ← get
  let body := c.rest.takeWhile (· != stop)
  let rest := c.rest.dropWhile (· != stop)
  if rest.isEmpty then fail
  set { c with rest := rest.tail }
  return body

end Parse

open Parse

/-- A set as it is when letters are told apart by case or not. -/
def caseSet (flags : Flags) (s : CharSet) : CharSet :=
  if !flags.anyCase then s
  else if flags.unicode then s.foldCase
  else
    let shift (lo hi : Nat) (d : Int) : CharSet :=
      ⟨(s.inter (.range lo hi)).bounds.map fun (n : Nat) => (Int.ofNat n + d).toNat⟩
    (s.union (shift 65 90 32)).union (shift 97 122 (-32))

/-- The characters that a set leaves out. -/
def negated (flags : Flags) (s : CharSet) : CharSet :=
  if flags.unicode then s.complement else (CharSet.range 0 255).diff s

/-- One character of a set. Without Unicode only ASCII stays within whole characters. -/
def oneOf (flags : Flags) (s : CharSet) : Parse Regex :=
  if flags.unicode || s.bounds.all (· ≤ 128) then return .one s else fail

def literal (flags : Flags) (c : Char) : Regex :=
  .one (if !flags.unicode && 128 ≤ c.toNat then .singleton c
    else caseSet flags (.singleton c))

/-- A single part of an expression, outside or inside of a set. -/
inductive Piece where
  | char (c : Char)
  /-- A character that is given as a byte. -/
  | byte (c : Char)
  | set (s : CharSet)
  | look (l : Look)

def isMeta (c : Char) : Bool := ("\\.+*?()|[]\x7b\x7d^$#&-~".toList).contains c

/-- Whether a backslash before the character is allowed to mean nothing. -/
def isEscapable (c : Char) : Bool :=
  isMeta c || (c.toNat < 128 && !c.isAlphanum && c != '<' && c != '>')

def hexValue? (s : List Char) : Option Nat :=
  s.foldlM (fun n c =>
    if c.isDigit then some (16 * n + (c.toNat - 48))
    else if 'a' ≤ c.toLower && c.toLower ≤ 'f' then some (16 * n + (c.toLower.toNat - 87))
    else none) 0

/-- The character with a code point. -/
def charAt? (n : Nat) : Option Char := if n.isValidChar then some (Char.ofNat n) else none

/-- Hexadecimal digits of a fixed number. -/
def hexDigits : Nat → Parse (List Char)
  | 0 => return []
  | n + 1 => do
    skipBlanks
    let c ← next
    return c :: (← hexDigits n)

/-- The character behind the sign for a code point of so many digits. -/
def hexPiece (width : Nat) : Parse Piece := do
  match ← peekSolid? with
  | some '\x7b' =>
    advance
    let flags ← flags
    let body ← upTo '\x7d'
    let digits := if flags.blanksIgnored then dropBlanks' body else body
    skipBlanks
    if digits.isEmpty then fail
    match (hexValue? digits).bind charAt? with
    | some c => return .char c
    | none => fail
  | _ =>
    let digits ← hexDigits width
    skipBlanks
    match (hexValue? digits).bind charAt? with
    | some c => return if width = 2 then .byte c else .char c
    | none => fail
where
  dropBlanks' (s : List Char) : List Char := s.filter fun c => !Text.isBlank c

/-- The two sides of the first `!=`. -/
def splitUnequal : List Char → Option (List Char × List Char)
  | [] => none
  | '!' :: '=' :: s => some ([], s)
  | c :: s => (splitUnequal s).map fun (a, b) => (c :: a, b)

/-- The set with a name, which may be a property and its value. -/
def namedSet? (name : List Char) : Option (CharSet × Bool) :=
  match splitUnequal name with
  | some (property, value) => (Names.valueOf? property value).map fun s => (s, true)
  | none =>
    let pair (mark : Char) := (Names.valueOf? (name.takeWhile (· != mark))
      ((name.dropWhile (· != mark)).drop 1)).map fun s => (s, false)
    if name.contains ':' then pair ':'
    else if name.contains '=' then pair '='
    else (Names.find? name).map fun s => (s, false)

/-- A named set behind its sign. -/
def propertyPiece (negate : Bool) : Parse Piece := do
  let flags ← flags
  let name ← (do
    match ← peekSolid? with
    | some '\x7b' =>
      advance
      let body ← upTo '\x7d'
      return if flags.blanksIgnored then body.filter fun c => !Text.isBlank c else body
    | some '\\' => fail
    | _ =>
      let c ← next
      skipBlanks
      return [c])
  if !flags.unicode then fail
  match namedSet? name with
  | none => fail
  | some (s, unequal) =>
    let s := caseSet flags s
    return .set (if negate != unequal then negated flags s else s)

/-- The set of one of the signs for digits, white space and words. -/
def shortSet (flags : Flags) (c : Char) : CharSet :=
  match c.toLower with
  | 'd' => if flags.unicode then Text.Property.digits else .range 48 57
  | 's' => if flags.unicode then Text.blanks else ⟨[9, 14, 32, 33]⟩
  | _ => wordSet flags.unicode
where
  wordSet (unicode : Bool) : CharSet :=
    if unicode then Text.Property.word else ⟨[48, 58, 65, 91, 95, 96, 97, 123]⟩

def wordSet (flags : Flags) : CharSet := shortSet flags 'w'

/-- The border that is meant by a name in braces, unless the braces hold a number. -/
def namedBorder : Parse (Option Look) := do
  let saved ← get
  let words := wordSet saved.flags
  advance
  let isNameChar (c : Char) := c.isAlpha || c == '-'
  match ← peekSolid? with
  | none => fail
  | some c =>
    if !isNameChar c then
      set saved
      return none
    let body ← upTo '\x7d'
    let name := if saved.flags.blanksIgnored then body.filter fun c => !Text.isBlank c else body
    match String.ofList name with
    | "start" => return some (.wordStart words)
    | "end" => return some (.wordEnd words)
    | "start-half" => return some (.notAfterWord words)
    | "end-half" => return some (.notBeforeWord words)
    | _ => fail

/-- What stands behind a backslash. -/
def escape : Parse Piece := do
  let flags ← flags
  let c ← next
  match c with
  | 'x' => hexPiece 2
  | 'u' => hexPiece 4
  | 'U' => hexPiece 8
  | 'p' => propertyPiece false
  | 'P' => propertyPiece true
  | 'd' | 's' | 'w' => return .set (shortSet flags c)
  | 'D' | 'S' | 'W' => return .set (negated flags (shortSet flags c))
  | 'a' => return .char '\x07'
  | 'f' => return .char '\x0c'
  | 't' => return .char '\t'
  | 'n' => return .char '\n'
  | 'r' => return .char '\r'
  | 'v' => return .char '\x0b'
  | 'A' => return .look .start
  | 'z' => return .look .finish
  | 'b' =>
    if (← peek?) = some '\x7b' then
      return .look ((← namedBorder).getD (.border (wordSet flags)))
    else return .look (.border (wordSet flags))
  | 'B' => return .look (.noBorder (wordSet flags))
  | '<' => return .look (.wordStart (wordSet flags))
  | '>' => return .look (.wordEnd (wordSet flags))
  | c => if isEscapable c then return .char c else fail

/-! Sets in brackets -/

/-- The operations between sets, of which the left ones come first. -/
inductive SetOp where
  | inter
  | diff
  | symmDiff

def SetOp.apply : SetOp → CharSet → CharSet → CharSet
  | inter => CharSet.inter
  | diff => CharSet.diff
  | symmDiff => CharSet.symmDiff

/-- A set with the greatest number of brackets, operations and unions around a character in it. -/
structure Nested where
  set : CharSet
  depth : Nat := 0

/-- The left side of an operation, with the operation, in front of a union that is being read. -/
structure Union where
  left : Option (Nested × SetOp) := none
  items : CharSet := .empty
  count : Nat := 0
  depth : Nat := 0

/-- The set that a union amounts to. A union of one item is no level of its own. -/
def Union.close (flags : Flags) (u : Union) : Nested :=
  let depth := if u.count ≤ 1 then u.depth else u.depth + 1
  match u.left with
  | none => ⟨u.items, depth⟩
  | some (l, op) => ⟨op.apply l.set (caseSet flags u.items), max l.depth depth + 1⟩

/-- The union that starts behind an operation. -/
def Union.operate (flags : Flags) (u : Union) (op : SetOp) : Union :=
  let l := u.close flags
  { left := some (⟨caseSet flags l.set, l.depth⟩, op) }

def Union.addNested (u : Union) (s : Nested) : Union :=
  { u with items := u.items.union s.set, count := u.count + 1, depth := max u.depth s.depth }

def Union.add (u : Union) (s : CharSet) : Union := u.addNested ⟨s, 0⟩

/-- One end of a range, or a set. -/
def setPiece : Parse Piece := do
  match ← next with
  | '\\' => escape
  | c => return .char c

/-- The character that a piece is as an end of a range. -/
def rangeEnd (flags : Flags) : Piece → Parse Char
  | .char c => if flags.unicode || c.toNat < 128 then return c else fail
  | .byte c => return c
  | _ => fail

/-- Whether a minus sign that comes next makes a range: not before a closing bracket or another
minus sign. -/
def startsRange : Parse Bool := do
  let c ← get
  match c.rest with
  | '-' :: rest =>
    let rest := if c.flags.blanksIgnored then dropBlanks rest.length rest else rest
    return rest.head? != some ']' && rest.head? != some '-'
  | _ => return false

/-- A character, a range or a set inside of brackets. -/
def setItem : Parse CharSet := do
  let flags ← flags
  let first ← setPiece
  if (← peekSolid?).isNone then fail
  if ← startsRange then
    advance
    if (← peekSolid?).isNone then fail
    let last ← setPiece
    let lo ← rangeEnd flags first
    let hi ← rangeEnd flags last
    if hi < lo then fail else return .range lo.toNat hi.toNat
  else match first with
    | .set s => return s
    | p => return .singleton (← rangeEnd flags p)

/-- A named set in brackets of its own, if there is one. -/
def basicSet : Parse (Option CharSet) := do
  let c ← get
  match c.rest with
  | '[' :: ':' :: rest =>
    let (negate, rest) := match rest with
      | '^' :: rest => (true, rest)
      | rest => (false, rest)
    let name := rest.takeWhile (· != ':')
    match rest.drop name.length, Names.basic? (String.ofList name) with
    | ':' :: ']' :: rest, some s =>
      set { c with rest }
      let s := caseSet c.flags s
      return some (if negate then negated c.flags s else s)
    | _, _ => return none
  | _ => return none

/-- Minus signs in front of a set stand for themselves. The fuel is the length of what is left. -/
def leadingDashes : Nat → Union → Parse Union
  | 0, u => return u
  | fuel + 1, u => do
    match ← peekSolid? with
    | some '-' =>
      advance
      leadingDashes fuel (u.add (.singleton '-'))
    | _ => return u

/-- The beginning of a set, behind its bracket: whether it is negated, and what must stand for
itself there. -/
def openSet : Parse (Bool × Union) := do
  let negate ← (do
    match ← peekSolid? with
    | some '^' =>
      advance
      return true
    | _ => return false)
  let u ← leadingDashes (← get).rest.length {}
  match ← peekSolid? with
  | some ']' =>
    if u.items.bounds.isEmpty then
      advance
      return (negate, u.add (.singleton ']'))
    else return (negate, u)
  | _ => return (negate, u)

/-- The rest of a set behind its bracket. The fuel is more than the length of what is left. -/
def readSet : Nat → Bool → Union → Parse Nested
  | 0, _, _ => fail
  | fuel + 1, negate, u => do
    let flags ← flags
    match ← peekSolid? with
    | none => fail
    | some ']' =>
      advance
      let l := u.close flags
      let s := caseSet flags l.set
      return ⟨if negate then negated flags s else s, l.depth + 1⟩
    | some '[' =>
      match ← basicSet with
      | some s => readSet fuel negate (u.add s)
      | none =>
        advance
        let (inner, v) ← openSet
        let s ← readSet fuel inner v
        readSet fuel negate (u.addNested s)
    | some _ =>
      if ← take "&&" then readSet fuel negate (u.operate flags .inter)
      else if ← take "--" then readSet fuel negate (u.operate flags .diff)
      else if ← take "~~" then readSet fuel negate (u.operate flags .symmDiff)
      else
        let s ← setItem
        readSet fuel negate (u.add s)

/-! Repetitions -/

/-- The largest number of repetitions. -/
def greatestCount : Nat := Nat.pow 2 32

/-- A number, with white space around it. -/
def decimal : Parse Nat := do
  let c ← get
  let rest := c.rest.dropWhile Text.isBlank
  let digits := if c.flags.blanksIgnored then
      (rest.takeWhile fun d => d.isDigit || Text.isBlank d).filter Char.isDigit
    else rest.takeWhile Char.isDigit
  let rest := if c.flags.blanksIgnored then rest.dropWhile fun d => d.isDigit || Text.isBlank d
    else (rest.dropWhile Char.isDigit).dropWhile Text.isBlank
  set { c with rest }
  if digits.isEmpty then fail
  let n := digits.foldl (fun n d => 10 * n + (d.toNat - 48)) 0
  if n < greatestCount then return n else fail

/-- The bounds of a repetition, behind the opening brace. -/
def counts : Parse (Nat × Option Nat) := do
  skipBlanks
  let least ← decimal
  match ← next with
  | ',' =>
    match ← peekSolid? with
    | some '\x7d' => advance; return (least, none)
    | _ =>
      let most ← decimal
      expect '\x7d'
      if most < least then fail else return (least, some most)
  | '\x7d' => return (least, some least)
  | _ => fail

/-- A repetition of a part. Of places once is enough. -/
def repetition (a : Regex) (least : Nat) (most : Option Nat) (greedy : Bool) : Regex :=
  if a.isPlace then .rep a (min least 1) (some (min (most.getD 1) 1)) greedy
  else .rep a least most greedy

/-- What was read with the greatest number of levels around a character in it: repetitions, groups,
alternatives, sequences, and those of sets. Flags that stand on their own are no expression. -/
structure Part where
  regex? : Option Regex
  depth : Nat := 0

/-- A repetition that follows a part, with the mark that makes it as short as can be. -/
def repeated (parts : List Part) (least : Nat) (most : Option Nat) : Parse (List Part) := do
  match parts with
  | ⟨some a, depth⟩ :: parts =>
    let lazy ← take "?"
    return ⟨repetition a least most (lazy == (← flags).swapGreed), depth + 1⟩ :: parts
  | _ => fail

/-- The sequence of the parts, which come in reverse order. -/
def sequence (parts : List Part) : Part where
  regex? := some (.ofList (parts.reverse.filterMap (·.regex?)))
  depth := (parts.map (·.depth)).foldl max 0 + if parts.length ≤ 1 then 0 else 1

/-! Groups -/

inductive Opening where
  | flags
  | inner (index : Option Nat) (flags : Flags)

/-- The flags up to a colon or a closing bracket. The fuel is more than the length of what is
left. -/
def readFlags : Nat → List Char → Bool → Bool → Flags → Parse Flags
  | 0, _, _, _, _ => fail
  | fuel + 1, seen, off, dangling, f => do
    match ← peek? with
    | none => fail
    | some ':' | some ')' => if dangling then fail else return f
    | some '-' =>
      if off then fail
      advance
      readFlags fuel seen true true f
    | some c =>
      if seen.contains c then fail
      advance
      let on := !off
      let f? := match c with
        | 'i' => some { f with anyCase := on }
        | 'm' => some { f with multiLine := on }
        | 's' => some { f with dotAll := on }
        | 'U' => some { f with swapGreed := on }
        | 'u' => some { f with unicode := on }
        | 'R' => some { f with carriageReturns := on }
        | 'x' => some { f with blanksIgnored := on }
        | _ => none
      match f? with
      | some f => readFlags fuel (c :: seen) off false f
      | none => fail

def isNameChar (first : Bool) (c : Char) : Bool :=
  if first then c == '_' || Text.isLetter c
  else c == '_' || c == '.' || c == '[' || c == ']' || Text.isLetterOrNumber c

/-- A group that is remembered gets the next number. -/
def newGroup : Parse Nat := do
  let c ← get
  set { c with groups := c.groups + 1 }
  return c.groups + 1

/-- The name of a group, behind its opening angle. -/
def groupName (index : Nat) : Parse Unit := do
  let name ← upTo '>'
  match name with
  | [] => fail
  | c :: cs =>
    if !isNameChar true c || !cs.all (isNameChar false) then fail
    let s ← get
    let name := String.ofList name
    if (s.names.lookup name).isSome then fail
    set { s with names := s.names ++ [(name, index)] }

/-- What an opening parenthesis begins. -/
def openGroup : Parse Opening := do
  skipBlanks
  let flags ← flags
  if ← take "?=" then fail
  if ← take "?!" then fail
  if ← take "?<=" then fail
  if ← take "?<!" then fail
  let named ← (do
    if ← take "?P<" then return true
    take "?<")
  if named then
    let index ← newGroup
    groupName index
    return .inner (some index) flags
  else if ← take "?" then
    let s ← get
    let inner ← readFlags (s.rest.length + 1) [] false false flags
    match ← next with
    | ':' => return .inner none inner
    | _ =>
      if s.rest.head? = some ')' then fail
      setFlags inner
      return .flags
  else return .inner (some (← newGroup)) flags

/-! Expressions -/

def dot (flags : Flags) : Parse Regex :=
  let s : CharSet := if flags.dotAll then Names.anything
    else if flags.carriageReturns then (CharSet.ofChars ['\n', '\r']).complement
    else (CharSet.singleton '\n').complement
  if flags.unicode then return .one s else fail

/-- A part of one character, or of one sign. -/
def single (flags : Flags) : Char → Parse Regex
  | '.' => dot flags
  | '^' => return .look (if !flags.multiLine then .start
      else if flags.carriageReturns then .lineStartAny else .lineStart)
  | '$' => return .look (if !flags.multiLine then .finish
      else if flags.carriageReturns then .lineEndAny else .lineEnd)
  | '\\' => do
    match ← escape with
    | .char c =>
      if flags.anyCase && !flags.unicode && 128 ≤ c.toNat then fail else return literal flags c
    | .byte c =>
      if !flags.unicode && 128 ≤ c.toNat then fail else return literal flags c
    | .set s => oneOf flags s
    | .look l => return .look l
  | c => if flags.anyCase && !flags.unicode && 128 ≤ c.toNat then fail else return literal flags c

/-- The choice between alternatives, which come in reverse order. -/
def choose (alternatives : List Part) : Part where
  regex? := match alternatives.filterMap (·.regex?) with
    | [] => none
    | r :: rs => some (rs.foldl (fun r a => .alt a r) r)
  depth := (alternatives.map (·.depth)).foldl max 0 + if alternatives.length ≤ 1 then 0 else 1

/-- Read up to a closing parenthesis or to the end. `done` holds the parts of the alternative in
reverse, and `before` the alternatives before it in reverse. The fuel is more than the length of
what is left. -/
def readParts : Nat → List Part → List Part → Parse Part
  | 0, _, _ => fail
  | fuel + 1, done, before => do
    match ← peekSolid? with
    | none | some ')' => return choose (sequence done :: before)
    | some '|' =>
      advance
      readParts fuel [] (sequence done :: before)
    | some '(' =>
      advance
      let saved ← flags
      match ← openGroup with
      | .flags => readParts fuel (⟨none, 0⟩ :: done) before
      | .inner index inner =>
        setFlags inner
        let p ← readParts fuel [] []
        expect ')'
        setFlags saved
        let r? := match index with
          | some i => p.regex?.map (.group i)
          | none => p.regex?
        readParts fuel (⟨r?, p.depth + 1⟩ :: done) before
    | some '[' =>
      advance
      let (negate, u) ← openSet
      let s ← readSet fuel negate u
      let r ← oneOf (← flags) s.set
      readParts fuel (⟨r, s.depth⟩ :: done) before
    | some '?' =>
      advance
      readParts fuel (← repeated done 0 (some 1)) before
    | some '*' =>
      advance
      readParts fuel (← repeated done 0 none) before
    | some '+' =>
      advance
      readParts fuel (← repeated done 1 none) before
    | some '\x7b' =>
      advance
      let (least, most) ← counts
      skipBlanks
      readParts fuel (← repeated done least most) before
    | some c =>
      advance
      let r ← single (← flags) c
      readParts fuel (⟨r, 0⟩ :: done) before

/-- The greatest number of levels around a character. -/
def greatestDepth : Nat := 250

end Regex

/-- Read a regular expression, unless it is malformed, too deep or too large. -/
def Pattern.parse? (text : String) : Option Pattern := do
  let (part, cursor) ← Regex.readParts (text.length + 1) [] [] |>.run { rest := text.toList }
  let regex ← part.regex?
  if !cursor.rest.isEmpty || Regex.greatestDepth < part.depth || !regex.isSmall then none
  return ⟨regex, cursor.groups, cursor.names⟩

end Workflow
