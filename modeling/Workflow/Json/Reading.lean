import Workflow.Json.Document
import Workflow.Json.Printer
import Workflow.Number.Single
import Workflow.Text.Quoted

/-! Reading typed values from texts and from documents, with one error for each way to go wrong. A
text is read from the front, and the first error in it counts. -/
namespace Workflow.Json

inductive ReadError where
  | syntaxFault (fault : Fault)
  | invalidType (found expected : String)
  | invalidValue (found expected : String)
  | invalidLength (length : Nat) (expected : String)
  | missingField (name : String)
  | duplicateField (name : String)
  | unknownVariant (name : String) (allowed : List String)
  | other (message : String)
  deriving DecidableEq, Repr

namespace ReadError

/-- The choices between which a name should have been. -/
def choices : List String → String
  | [] => "there are no variants"
  | [a] => "expected `" ++ a ++ "`"
  | [a, b] => "expected `" ++ a ++ "` or `" ++ b ++ "`"
  | names => "expected one of " ++ ", ".intercalate (names.map fun n => "`" ++ n ++ "`")

/-- The message without a position. -/
def message : ReadError → String
  | syntaxFault f => f.error.message
  | invalidType found expected => "invalid type: " ++ found ++ ", expected " ++ expected
  | invalidValue found expected => "invalid value: " ++ found ++ ", expected " ++ expected
  | invalidLength n expected => "invalid length " ++ toString n ++ ", expected " ++ expected
  | missingField name => "missing field `" ++ name ++ "`"
  | duplicateField name => "duplicate field `" ++ name ++ "`"
  | unknownVariant name allowed => "unknown variant `" ++ name ++ "`, " ++ choices allowed
  | other message => message

end ReadError

/-- What reading gives: a value, or the first error with its place. -/
abbrev ReadResult (α : Type) := Except (Placed ReadError) α

/-- The error of the document at hand. -/
def refuse {α : Type} (e : ReadError) : ReadResult α := .error { error := e }

/-- A result of scanning a text. -/
def scanned {α : Type} (r : Except Fault α) : ReadResult α :=
  r.mapError fun f => { error := .syntaxFault f }

/-- A result for a part of a document, with its place in the whole. -/
def locate {α : Type} (way : Way) (r : ReadResult α) : ReadResult α := r.mapError (.under way)

/-- Where a document comes from: from parts of a text that were held back until the type of their
owner was known, from a value made by a program, or from tables of settings. -/
inductive Origin where
  | held
  | value
  | table
  deriving DecidableEq, Repr

/-- Parts that were held back have lost their places. -/
def Origin.locate {α : Type} (origin : Origin) (way : Way) (r : ReadResult α) : ReadResult α :=
  if origin = .held then r else Json.locate way r

/-- A reader of one type of values, from the front of a text that may nest so many levels, and
from a document. -/
structure Reader (α : Type) where
  ofText : Nat → List Char → ReadResult (α × List Char)
  ofDocument : Origin → Document → ReadResult α

namespace Document

/-- How an error message names a number. -/
def describeNumber : Number → String
  | .int n => "integer `" ++ toString n ++ "`"
  | .real x => "floating point `" ++ (Number.real x).text ++ "`"

/-- How an error message names what stands in the place of another value. -/
def describe : Document → String
  | bool b => "boolean `" ++ toString b ++ "`"
  | num n => describeNumber n
  | str s => "string " ++ Text.quote s
  | arr _ => "sequence"
  | obj _ => "map"
  | null => "null"

/-- The error of a document in the place of something else. -/
def mismatch {α : Type} (doc : Document) (expected : String) : ReadResult α :=
  refuse (.invalidType doc.describe expected)

end Document

open Document

namespace Reader

/-- Go on with the value that is read. -/
def andThen {α β : Type} (read : Reader α) (f : α → ReadResult β) : Reader β where
  ofText depth s := do
    let (a, rest) ← read.ofText depth s
    return (← f a, rest)
  ofDocument origin d := do f (← read.ofDocument origin d)

def map {α β : Type} (f : α → β) (read : Reader α) : Reader β := read.andThen fun a => .ok (f a)

/-- A reader of scalars. Containers are not looked into. -/
def scalar {α : Type} (f : Document → ReadResult α) : Reader α where
  ofText _ s := do
    let (d, rest) ← scanned (readFront s)
    return (← f d, rest)
  ofDocument _ d := f d

/-- A reader of what was held back. -/
def held {α : Type} (f : Origin → Document → ReadResult α) : Reader α where
  ofText depth s := do
    let (d, rest) ← (Document.read depth s).mapError fun f => ⟨.syntaxFault f.error, f.way⟩
    return (← f .held d, rest)
  ofDocument := f

end Reader

/-- The error of the front of a text in the place of something else. -/
def mismatchText {α : Type} (expected : String) (s : List Char) : ReadResult α := do
  let (d, _) ← scanned (readFront s)
  d.mismatch expected

def readText : Reader String := .scalar fun
  | .str s => .ok s
  | d => d.mismatch "a string"

def readBool : Reader Bool := .scalar fun
  | .bool b => .ok b
  | d => d.mismatch "a boolean"

/-- A natural number below `2 ^ bits` of the type that messages call `name`. -/
def readNatural (bits : Nat) (name : String) : Reader Nat := .scalar fun
  | .num (.int n) =>
    if 0 ≤ n ∧ n < Nat.pow 2 bits then .ok n.toNat
    else refuse (.invalidValue (describeNumber (.int n)) name)
  | d => d.mismatch name

def readSingle : Reader Single := .scalar fun
  | .num n => .ok (.ofNumber n)
  | d => d.mismatch "f32"

/-- Any value, as it is written. -/
def readDocument : Reader Document := .held fun _ d => .ok d

/-- Any value. -/
def readAny : Reader Json := readDocument.map Document.toJson

/-- A value, or nothing in the place of null. -/
def readOption {α : Type} (read : Reader α) : Reader (Option α) where
  ofText depth s := match skipSpace s with
    | 'n' :: r => do return (none, ← scanned (keyword ['u', 'l', 'l'] r))
    | s => do
      let (a, rest) ← read.ofText depth s
      return (some a, rest)
  ofDocument origin d := match d with
    | .null => .ok none
    | d => return some (← read.ofDocument origin d)

/-- The items of a list from the given one on. The fuel is the length of the text. -/
def itemsOfText {α : Type} (read : Reader α) (depth : Nat) :
    Nat → Nat → List Char → ReadResult (List α × List Char)
  | 0, _, _ => scanned (.error (.behind .endInList []))
  | fuel + 1, index, s => do
    match ← scanned (nextItem (index == 0) s) with
    | none => return ([], s)
    | some t =>
      let (a, rest) ← locate [.item index] (read.ofText depth t)
      let (values, rest) ← itemsOfText read depth fuel (index + 1) rest
      return (a :: values, rest)

/-- The items from the given place on. -/
def itemsOfDocument {α : Type} (read : Reader α) (origin : Origin) (index : Nat) :
    List Document → ReadResult (List α)
  | [] => .ok []
  | d :: rest => do
    let a ← origin.locate [.item index] (read.ofDocument origin d)
    return a :: (← itemsOfDocument read origin (index + 1) rest)

/-- All items of a sequence. -/
def readList {α : Type} (read : Reader α) : Reader (List α) where
  ofText depth s := match skipSpace s with
    | '[' :: r => do
      let depth ← scanned (nest depth ('[' :: r))
      let (values, rest) ← itemsOfText read depth (s.length + 1) 0 r
      return (values, ← scanned (endOfList rest))
    | s => mismatchText "a sequence" s
  ofDocument origin d := match d with
    | .arr items => itemsOfDocument read origin 0 items
    | d => d.mismatch "a sequence"

/-- Insert into pairs in increasing order of their keys, replacing a pair of the same key. -/
def insertPair {α : Type} : List (String × α) → String → α → List (String × α)
  | [], key, value => [(key, value)]
  | (k, v) :: rest, key, value =>
    if key < k then (key, value) :: (k, v) :: rest
    else if key = k then (key, value) :: rest
    else (k, v) :: insertPair rest key value

/-- The next key of an object in a text, and what stands behind it. -/
def keyOfText (first : Bool) (s : List Char) : ReadResult (Option (String × List Char)) :=
  locate [.unnamed] (scanned (nextKey first s))

/-- The value behind a key in a text. -/
def valueOfText {α : Type} (read : Reader α) (depth : Nat) (key : String) (s : List Char) :
    ReadResult (α × List Char) := do
  let s ← scanned (colon s)
  locate [.member key] (read.ofText depth s)

/-- The members of an object from the next one on. The fuel is the length of the text. -/
def pairsOfText {α : Type} (read : Reader α) (depth : Nat) :
    Nat → Bool → List Char → List (String × α) → ReadResult (List (String × α) × List Char)
  | 0, _, _, _ => scanned (.error (.behind .endInObject []))
  | fuel + 1, first, s, pairs => do
    match ← keyOfText first s with
    | none => return (pairs, s)
    | some (key, t) =>
      let (a, rest) ← valueOfText read depth key t
      pairsOfText read depth fuel false rest (insertPair pairs key a)

/-- The members of an object in increasing order of their keys. -/
def readMap {α : Type} (read : Reader α) : Reader (List (String × α)) where
  ofText depth s := match skipSpace s with
    | '\x7b' :: r => do
      let depth ← scanned (nest depth ('\x7b' :: r))
      let (pairs, rest) ← pairsOfText read depth (s.length + 1) true r []
      return (pairs, ← scanned (endOfObject rest))
    | s => mismatchText "a map" s
  ofDocument origin d := match d with
    | .obj fields => fields.foldlM (fun pairs (k, d) => do
        return insertPair pairs k (← origin.locate [.member k] (read.ofDocument origin d))) []
    | d => d.mismatch "a map"

/-- The constructor of a name, or the error that lists all names. -/
def variant {α : Type} (table : List (String × α)) (name : String) : ReadResult α :=
  match table.lookup name with
  | some a => .ok a
  | none => refuse (.unknownVariant name (table.map (·.1)))

/-- The content of a constructor without fields: null, or an empty object that was held back. -/
def readUnit : Reader Unit where
  ofText := (Reader.scalar fun
    | .null => .ok ()
    | d => d.mismatch "unit").ofText
  ofDocument origin d := match d with
    | .null => .ok ()
    | .obj [] => if origin = .held then .ok () else (Document.obj []).mismatch "unit"
    | d => d.mismatch "unit"

/-- The name of a constructor at the front of an object, from behind its bracket. -/
def readVariantKey {α : Type} (table : List (String × α)) (depth : Nat) (s : List Char) :
    ReadResult (α × List Char) :=
  match skipSpace s with
  | '"' :: t => do
    let (name, t) ← scanned (Quotation.read t)
    let a ← variant table name
    let (_, rest) ← valueOfText readUnit depth name t
    match skipSpace rest with
    | '\x7d' :: rest => return (a, rest)
    | [] => scanned (.error (.before .endInObject []))
    | rest => scanned (.error (.before .noValue rest))
  | [] => scanned (.error (.behind .endInObject []))
  | r => scanned (.error (.behind .badKey r))

/-- One of several names, written as a text or as the only key of an object that holds null. -/
def readVariant {α : Type} (table : List (String × α)) : Reader α where
  ofText depth s := match skipSpace s with
    | [] => scanned (.error (.behind .endInValue []))
    | '"' :: r => do
      let (name, rest) ← scanned (Quotation.read r)
      return (← variant table name, rest)
    | '\x7b' :: r => do
      let depth ← scanned (nest depth ('\x7b' :: r))
      readVariantKey table depth r
    | r => scanned (.error (.behind .noValue r))
  ofDocument origin d := match d with
    | .str name => variant table name
    | .obj [(name, content)] => do
      let a ← variant table name
      origin.locate [.member name] (readUnit.ofDocument origin content)
      return a
    | .obj _ => refuse (.invalidValue "map" "map with a single key")
    | d => d.mismatch "string or map"

/-- Read a whole text. -/
def readWhole {α : Type} (read : Reader α) (text : String) : ReadResult α := do
  let (a, rest) ← read.ofText nestingLimit text.toList
  scanned (endOfText rest)
  return a

/-- Read a value that is no text any more. -/
def readJson {α : Type} (read : Reader α) (v : Json) : ReadResult α :=
  read.ofDocument .value (Document.ofJson v)

end Workflow.Json
