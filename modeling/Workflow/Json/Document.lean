import Workflow.Json.Basic
import Workflow.Json.Place
import Workflow.Json.Syntax

/-! Values as they were written: members in order, with repetitions. -/
namespace Workflow.Json

inductive Document where
  | null
  | bool (value : Bool)
  | num (value : Number)
  | str (value : String)
  | arr (items : List Document)
  | obj (fields : List (String × Document))
  deriving Inhabited

namespace Document

/-- Read a scalar; a container is only looked at. -/
def readFront (s : List Char) : Except Fault (Document × List Char) :=
  match skipSpace s with
  | [] => .error (.behind .endInValue [])
  | 'n' :: r => (keyword ['u', 'l', 'l'] r).map fun r => (null, r)
  | 't' :: r => (keyword ['r', 'u', 'e'] r).map fun r => (bool true, r)
  | 'f' :: r => (keyword ['a', 'l', 's', 'e'] r).map fun r => (bool false, r)
  | '"' :: r => (Quotation.read r).map fun (t, r) => (str t, r)
  | '-' :: r => (Numeral.read true r).map fun (n, r) => (num n, r)
  | '[' :: r => .ok (arr [], '[' :: r)
  | '\x7b' :: r => .ok (obj [], '\x7b' :: r)
  | c :: r =>
    if c.isDigit then (Numeral.read false (c :: r)).map fun (n, r) => (num n, r)
    else .error (.behind .noValue (c :: r))

/-- A result without a place. -/
def atOnce {α : Type} (r : Except Fault α) : Except (Placed Fault) α :=
  r.mapError fun f => { error := f }

/-- What is left of the levels that a text may nest, at the bracket of one more. -/
def nest (depth : Nat) (s : List Char) : Except Fault Nat :=
  match depth with
  | 0 => .error (.behind .tooDeep s)
  | depth + 1 => .ok depth

mutual
/-- Read a value that nests at most `depth` levels. The fuel is twice the length of the text. -/
def readValue : Nat → Nat → List Char → Except (Placed Fault) (Document × List Char)
  | 0, _, _ => .error { error := .behind .endInValue [] }
  | fuel + 1, depth, s => match skipSpace s with
    | '[' :: r => do
      let depth ← atOnce (nest depth ('[' :: r))
      let (items, rest) ← readItems fuel depth 0 r
      return (arr items, ← atOnce (endOfList rest))
    | '\x7b' :: r => do
      let depth ← atOnce (nest depth ('\x7b' :: r))
      let (fields, rest) ← readFields fuel depth true r
      return (obj fields, ← atOnce (endOfObject rest))
    | s => atOnce (readFront s)
/-- Read the items of a list from the given one on. -/
def readItems : Nat → Nat → Nat → List Char →
    Except (Placed Fault) (List Document × List Char)
  | 0, _, _, _ => .error { error := .behind .endInList [] }
  | fuel + 1, depth, index, s => do
    match ← atOnce (nextItem (index == 0) s) with
    | none => return ([], s)
    | some t =>
      let (item, rest) ← (readValue fuel depth t).mapError (.under [.item index])
      let (items, rest) ← readItems fuel depth (index + 1) rest
      return (item :: items, rest)
/-- Read the members of an object from the next one on. -/
def readFields : Nat → Nat → Bool → List Char →
    Except (Placed Fault) (List (String × Document) × List Char)
  | 0, _, _, _ => .error { error := .behind .endInObject [] }
  | fuel + 1, depth, first, s => do
    match ← (nextKey first s).mapError (⟨·, [.unnamed]⟩) with
    | none => return ([], s)
    | some (key, t) =>
      let t ← atOnce (colon t)
      let (value, rest) ← (readValue fuel depth t).mapError (.under [.member key])
      let (fields, rest) ← readFields fuel depth false rest
      return ((key, value) :: fields, rest)
end

/-- Read a value from the front of a text. -/
def read (depth : Nat) (s : List Char) : Except (Placed Fault) (Document × List Char) :=
  readValue (2 * s.length + 2) depth s

mutual
/-- The value that is written; of two equal keys the later one counts. -/
def toJson : Document → Json
  | null => .null
  | bool b => .bool b
  | num n => .num n
  | str s => .str s
  | arr items => .arr (itemsToJson items)
  | obj fields => .ofPairs (fieldsToJson fields)
def itemsToJson : List Document → List Json
  | [] => []
  | d :: rest => d.toJson :: itemsToJson rest
def fieldsToJson : List (String × Document) → List (String × Json)
  | [] => []
  | (k, d) :: rest => (k, d.toJson) :: fieldsToJson rest
end

mutual
/-- The document of a value. -/
def ofJson : Json → Document
  | .null => null
  | .bool b => bool b
  | .num n => num n
  | .str s => str s
  | .arr xs => arr (ofItems xs)
  | .obj fields => obj (ofFields fields)
def ofItems : List Json → List Document
  | [] => []
  | x :: xs => ofJson x :: ofItems xs
def ofFields : List (String × Json) → List (String × Document)
  | [] => []
  | (k, v) :: rest => (k, ofJson v) :: ofFields rest
end

end Document

/-- The number of levels that a text may nest. -/
def nestingLimit : Nat := 127

/-- The value of a text that nests at most `depth` levels. -/
def parseWithin (depth : Nat) (text : List Char) : Except Fault Json := do
  let (doc, rest) ← (Document.read depth text).mapError (·.error)
  endOfText rest
  return doc.toJson

def parse (text : String) : Except Fault Json := parseWithin nestingLimit text.toList

end Workflow.Json
