import Workflow.Toml.Basic
import Workflow.Toml.Scalar

/-! Reading settings files. -/
namespace Workflow.Toml

open Json (Document)
open Parse

def isBareKeyChar (c : Char) : Bool := c.isAlphanum || c == '-' || c == '_'

def simpleKey : Parse String := do
  match ← quoted false with
  | some s => return s
  | none =>
    let s ← span isBareKeyChar
    if s.isEmpty then fail else return String.ofList s

/-- Keys with dots between them. The fuel is more than the length of what is left. -/
def keyPath : Nat → Parse (List String)
  | 0 => fail
  | fuel + 1 => do
    skipBlanks
    let key ← simpleKey
    skipBlanks
    if ← take "." then return key :: (← keyPath fuel) else return [key]

/-- The number of levels that is too great, of a value or of a key with dots. -/
def depthLimit : Nat := 80

def key : Parse (List String) := do
  let path ← keyPath ((← get).length + 1)
  if depthLimit ≤ path.length then fail else return path

def comment : Parse Unit := do
  if ← take "#" then
    let _ ← span isPlain

/-- Blanks, line ends and comments. The fuel is the length of what is left. -/
def skipSpace : Nat → Parse Unit
  | 0 => return ()
  | fuel + 1 => do
    skipBlanks
    comment
    if ← lineEnd then skipSpace fuel

/-- A date as a value: its text under a key of its own. -/
def momentValue : Parse Document := do
  let s ← get
  moment
  let rest ← get
  let text := String.ofList (s.take (s.length - rest.length))
  return .obj [("$__toml_private_datetime", .str text)]

/-- A value of one word. -/
def scalar : Parse Document := do
  match ← quoted true with
  | some s => return .str s
  | none =>
    if ← take "true" then return .bool true
    else if ← take "false" then return .bool false
    else match ← attempt momentValue with
      | some d => return d
      | none => match ← attempt real with
        | some n => return .num n
        | none => return .num (← integer)

mutual
/-- A value inside of `depth` others. The fuel bounds the nesting and the number of items. -/
def value (depth : Nat) : Nat → Parse Document
  | 0 => fail
  | fuel + 1 => do
    if ← take "[" then
      if depthLimit ≤ depth + 1 then fail
      skipSpace (← get).length
      if ← take "]" then return .arr []
      return .arr (← items (depth + 1) fuel)
    else if ← take "\x7b" then
      if depthLimit ≤ depth + 1 then fail
      skipBlanks
      if ← take "\x7d" then return .obj []
      return (← members (depth + 1) fuel []).toDocument
    else scalar
/-- The items of a sequence, up to its closing bracket. -/
def items (depth : Nat) : Nat → Parse (List Document)
  | 0 => fail
  | fuel + 1 => do
    let v ← value depth fuel
    skipSpace (← get).length
    if ← take "," then
      skipSpace (← get).length
      if ← take "]" then return [v] else return v :: (← items depth fuel)
    else
      expect "]"
      return [v]
/-- The members of a table on one line, up to its closing brace. -/
def members (depth : Nat) : Nat → Table → Parse Table
  | 0, _ => fail
  | fuel + 1, t => do
    let path ← key
    expect "="
    skipBlanks
    let v ← value depth fuel
    skipBlanks
    match path.getLast?.bind fun k => Table.setDotted k v path.dropLast t with
    | none => fail
    | some t =>
      if ← take "," then members depth fuel t
      else
        expect "\x7d"
        return t
end

/-- A file as far as it is read, and where the last header leads. -/
structure File where
  root : Table := []
  header : List String := []

/-- The header of a table, or of one of several tables, behind its first bracket. -/
def header (f : File) : Parse File := do
  let several ← take "["
  let path ← key
  expect (if several then "]]" else "]")
  let begin := if several then Table.addTable else Table.openTable
  match path.getLast?.bind fun k => Table.alter (begin k) path.dropLast f.root with
  | some root => return ⟨root, path⟩
  | none => fail

/-- A key and its value under the last header. -/
def setting (f : File) : Parse File := do
  let path ← key
  expect "="
  skipBlanks
  let v ← value 0 (2 * (← get).length + 2)
  match path.getLast?.bind fun k =>
      Table.alter (Table.setDotted k v path.dropLast) f.header f.root with
  | some root => return { f with root }
  | none => fail

/-- The lines of a file. The fuel is more than the length of what is left. -/
def lines : Nat → File → Parse File
  | 0, _ => fail
  | fuel + 1, f => do
    skipBlanks
    let f ← (do
      match ← peek? with
      | none | some '#' | some '\n' | some '\r' => return f
      | some '[' =>
        let _ ← next
        header f
      | _ => setting f)
    skipBlanks
    comment
    if ← lineEnd then lines fuel f
    else if (← peek?).isNone then return f
    else fail

/-- Read a file, unless it is malformed. A byte order mark does not count. -/
def read? (text : String) : Option Document := do
  let s := match text.toList with
    | '\ufeff' :: s => s
    | s => s
  let (f, _) ← (lines (s.length + 1) {}).run s
  return f.root.toDocument

end Workflow.Toml
