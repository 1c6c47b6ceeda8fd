import Workflow.Json.Numeral
import Workflow.Json.Quotation

/-! The parts of JSON texts between values: white space, keywords, brackets, commas and colons. -/
namespace Workflow.Json

def isSpace (c : Char) : Bool := c == ' ' || c == '\n' || c == '\t' || c == '\r'

def skipSpace (s : List Char) : List Char := s.dropWhile isSpace

/-- Pass over the rest of a keyword. -/
def keyword : List Char → List Char → Except Fault (List Char)
  | [], s => .ok s
  | _ :: _, [] => .error (.behind .endInValue [])
  | k :: ks, c :: s => if c = k then keyword ks s else .error (.behind .badIdent (c :: s))

/-- Pass over the colon behind a key. -/
def colon (s : List Char) : Except Fault (List Char) :=
  match skipSpace s with
  | ':' :: r => .ok r
  | [] => .error (.behind .endInObject [])
  | r => .error (.behind .noColon r)

/-- The text from the next item of a list on, unless the list ends. -/
def nextItem (first : Bool) (s : List Char) : Except Fault (Option (List Char)) :=
  match skipSpace s with
  | [] => .error (.behind .endInList [])
  | ']' :: _ => .ok none
  | c :: r =>
    if first then .ok (some (c :: r))
    else if c = ',' then
      match skipSpace r with
      | [] => .error (.behind .endInValue [])
      | ']' :: t => .error (.behind .trailingComma (']' :: t))
      | t => .ok (some t)
    else .error (.behind .noCommaInList (c :: r))

/-- The next key of an object and the text behind it, unless the object ends. -/
def nextKey (first : Bool) (s : List Char) : Except Fault (Option (String × List Char)) :=
  match skipSpace s with
  | [] => .error (.behind .endInObject [])
  | '\x7d' :: _ => .ok none
  | c :: r =>
    if first then
      if c = '"' then (Quotation.read r).map some else .error (.behind .badKey (c :: r))
    else if c = ',' then
      match skipSpace r with
      | [] => .error (.behind .endInValue [])
      | '"' :: t => (Quotation.read t).map some
      | '\x7d' :: t => .error (.behind .trailingComma ('\x7d' :: t))
      | t => .error (.behind .badKey t)
    else .error (.behind .noCommaInObject (c :: r))

/-- Pass over the end of a list of which no more items are wanted. -/
def endOfList (s : List Char) : Except Fault (List Char) :=
  match skipSpace s with
  | ']' :: r => .ok r
  | ',' :: r => match skipSpace r with
    | ']' :: t => .error (.behind .trailingComma (']' :: t))
    | t => .error (.behind .trailingCharacters t)
  | [] => .error (.behind .endInList [])
  | r => .error (.behind .trailingCharacters r)

/-- Pass over the end of an object of which no more members are wanted. -/
def endOfObject (s : List Char) : Except Fault (List Char) :=
  match skipSpace s with
  | '\x7d' :: r => .ok r
  | ',' :: r => .error (.behind .trailingComma (',' :: r))
  | [] => .error (.behind .endInObject [])
  | r => .error (.behind .trailingCharacters r)

/-- A whole text ends with white space. -/
def endOfText (s : List Char) : Except Fault Unit :=
  match skipSpace s with
  | [] => .ok ()
  | r => .error (.behind .trailingCharacters r)

/-- A container that has been opened and not been closed. -/
inductive Bracket where
  | list
  | object
  deriving DecidableEq, Repr

/-- Pass over a scalar or over the opening bracket of a container. -/
def skipFront (s : List Char) : Except Fault (Option Bracket × List Char) :=
  let scalar (r : Except Fault (List Char)) : Except Fault (Option Bracket × List Char) :=
    r.map fun rest => (none, rest)
  match skipSpace s with
  | [] => .error (.behind .endInValue [])
  | 'n' :: r => scalar (keyword ['u', 'l', 'l'] r)
  | 't' :: r => scalar (keyword ['r', 'u', 'e'] r)
  | 'f' :: r => scalar (keyword ['a', 'l', 's', 'e'] r)
  | '-' :: r => scalar (Numeral.skip r)
  | '"' :: r => scalar (Quotation.skip r)
  | '[' :: r => .ok (some .list, r)
  | '\x7b' :: r => .ok (some .object, r)
  | c :: r =>
    if c.isDigit then scalar (Numeral.skip (c :: r)) else .error (.behind .noValue (c :: r))

/-- Pass over closing brackets, up to a comma or to the first part of a container that was just
opened; nothing is left open when the value has ended. -/
def skipClosed : Nat → Bool → List Bracket → List Char →
    Except Fault (List Bracket × List Char)
  | 0, _, opened, s => .ok (opened, s)
  | _, _, [], s => .ok ([], s)
  | fuel + 1, comma, bracket :: opened, s => match skipSpace s, bracket with
    | ']' :: r, .list => skipClosed fuel true opened r
    | '\x7d' :: r, .object => skipClosed fuel true opened r
    | ',' :: r, _ =>
      if comma then .ok (bracket :: opened, r) else .ok (bracket :: opened, ',' :: r)
    | [], .list => .error (.behind .endInList [])
    | [], .object => .error (.behind .endInObject [])
    | r, .list => if comma then .error (.behind .noCommaInList r) else .ok (bracket :: opened, r)
    | r, .object =>
      if comma then .error (.behind .noCommaInObject r) else .ok (bracket :: opened, r)

/-- Pass over a key and its colon. -/
def skipKey (s : List Char) : Except Fault (List Char) :=
  match skipSpace s with
  | '"' :: r => do colon (← Quotation.skip r)
  | [] => .error (.behind .endInObject [])
  | r => .error (.behind .badKey r)

/-- Pass over a value inside of containers, and over what is left of these. The fuel is the length
of the text. -/
def skipFrom : Nat → List Bracket → List Char → Except Fault (List Char)
  | 0, _, _ => .error (.behind .endInValue [])
  | fuel + 1, opened, s => do
    let (bracket, r) ← skipFront s
    let (opened, r) ← skipClosed (s.length + 1) bracket.isNone (bracket.toList ++ opened) r
    match opened with
    | [] => return r
    | .list :: _ => skipFrom fuel opened r
    | .object :: _ => do skipFrom fuel opened (← skipKey r)

/-- Pass over a value that nobody asks for. Only its brackets, its commas and its words
are looked at. -/
def skipValue (s : List Char) : Except Fault (List Char) := skipFrom (s.length + 1) [] s

end Workflow.Json
