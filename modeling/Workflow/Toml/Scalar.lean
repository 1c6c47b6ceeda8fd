import Workflow.Number.Basic
import Workflow.Text.Search

/-! Numbers, dates and quoted texts of settings files. -/
namespace Workflow.Toml

/-- A reader takes characters from the front of a text, or fails. -/
abbrev Parse := StateT (List Char) Option

namespace Parse

def fail {α : Type} : Parse α := fun _ => none

def peek? : Parse (Option Char) := return (← get).head?

def next : Parse Char := fun
  | [] => none
  | c :: s => some (c, s)

/-- Take a text if it comes next. -/
def take (s : String) : Parse Bool := fun rest =>
  match Text.dropLead? s.toList rest with
  | some rest => some (true, rest)
  | none => some (false, rest)

def expect (s : String) : Parse Unit := do
  if !(← take s) then fail

/-- The longest run of characters of a kind. -/
def span (p : Char → Bool) : Parse (List Char) := fun s => some (s.takeWhile p, s.dropWhile p)

def skipBlanks : Parse Unit := do
  let _ ← span fun c => c == ' ' || c == '\t'

/-- Try a reader, and take nothing where it fails. -/
def attempt {α : Type} (p : Parse α) : Parse (Option α) := fun s =>
  match p s with
  | some (a, rest) => some (some a, rest)
  | none => some (none, s)

end Parse

open Parse

/-! Numbers -/

/-- Digits with single lines between them. The fuel is more than the length of what is left. -/
def digitRun (isDigit : Char → Bool) : Nat → Parse (List Char)
  | 0 => fail
  | fuel + 1 => do
    let ds ← span isDigit
    if ds.isEmpty then fail
    if ← take "_" then return ds ++ (← digitRun isDigit fuel) else return ds

def digits (isDigit : Char → Bool) : Parse (List Char) := do
  digitRun isDigit ((← get).length + 1)

/-- A sign, and whether it is a minus. -/
def sign : Parse Bool := do
  if ← take "-" then return true
  let _ ← take "+"
  return false

/-- The digits of a decimal number, which has no leading zeros. -/
def wholeDigits : Parse (List Char) := do
  let ds ← digits Char.isDigit
  match ds with
  | '0' :: _ :: _ => fail
  | ds => return ds

/-- Integers have sixty-four bits. -/
def bounded (n : Int) : Parse Number :=
  if -Int.pow 2 63 ≤ n ∧ n < Int.pow 2 63 then return .int n else fail

def hexValue (c : Char) : Nat := if c.isDigit then c.toNat - 48 else c.toLower.toNat - 87

/-- An integer of another base, behind its sign. -/
def integerOf (base : Nat) : Parse Number := do
  let isDigit (c : Char) : Bool :=
    (c.isDigit || ('a' ≤ c.toLower && c.toLower ≤ 'f')) && hexValue c < base
  let ds ← digits isDigit
  bounded (ds.foldl (fun n c => base * n + hexValue c) 0 : Nat)

/-- Stands for infinity, and for what is no number: it is beyond every bound. -/
def boundless (negative : Bool) : Number := .real ⟨negative, 1, 5000⟩

/-- The value of a decimal. Too large a positive one fails. -/
def realOf (negative : Bool) (ds : List Char) (exponent : Int) : Parse Number :=
  match Decimal.toBinary .double negative ⟨Decimal.ofDigits ds, exponent⟩ with
  | some x => return .real x
  | none => if negative then return boundless true else fail

/-- The exponent of a number, if there is one. -/
def exponent? : Parse (Option Int) := do
  let marked ← (do
    if ← take "e" then return true
    take "E")
  if !marked then return none
  let negative ← sign
  let ds ← digits Char.isDigit
  let n : Int := Decimal.ofDigits ds
  return some (if negative then -n else n)

/-- A number with a fraction or an exponent. -/
def real : Parse Number := do
  let negative ← sign
  if ← take "inf" then return boundless negative
  if ← take "nan" then return boundless negative
  let whole ← wholeDigits
  let fraction ← (do
    if ← take "." then return some (← digits Char.isDigit)
    return none)
  let exponent ← exponent?
  if fraction.isNone && exponent.isNone then fail
  let fraction := fraction.getD []
  realOf negative (whole ++ fraction) (exponent.getD 0 - fraction.length)

def integer : Parse Number := do
  if ← take "0x" then integerOf 16
  else if ← take "0o" then integerOf 8
  else if ← take "0b" then integerOf 2
  else
    let negative ← sign
    let n : Int := Decimal.ofDigits (← wholeDigits)
    bounded (if negative then -n else n)

/-! Dates -/

/-- A number of so many digits within bounds. -/
def fixed (width lo hi : Nat) : Parse Nat := do
  let ds := (← get).take width
  if ds.length < width || !ds.all Char.isDigit then fail
  set ((← get).drop width)
  let n := Decimal.ofDigits ds
  if lo ≤ n ∧ n ≤ hi then return n else fail

def date : Parse Unit := do
  let year ← fixed 4 0 9999
  expect "-"
  let month ← fixed 2 1 12
  expect "-"
  let isLeap := year % 4 = 0 && (year % 100 ≠ 0 || year % 400 = 0)
  let last := if month = 2 then (if isLeap then 29 else 28)
    else if [4, 6, 9, 11].contains month then 30 else 31
  let _ ← fixed 2 1 last

def time : Parse Unit := do
  let _ ← fixed 2 0 23
  expect ":"
  let _ ← fixed 2 0 59
  expect ":"
  let _ ← fixed 2 0 60
  if ← take "." then
    let ds ← span Char.isDigit
    if ds.isEmpty then fail

def offset : Parse Unit := do
  match ← peek? with
  | some 'Z' | some 'z' => let _ ← next
  | some '+' | some '-' =>
    let _ ← next
    let _ ← fixed 2 0 23
    expect ":"
    let _ ← fixed 2 0 59
  | _ => fail

/-- A date, a time, or both, with an offset perhaps. -/
def moment : Parse Unit := do
  match ← attempt date with
  | none => time
  | some () =>
    let _ ← attempt (do
      let mark ← next
      if mark != 'T' && mark != 't' && mark != ' ' then fail
      time
      let _ ← attempt offset)

/-! Quoted texts -/

/-- Characters that may stand in texts and comments. -/
def isPlain (c : Char) : Bool := c == '\t' || (32 ≤ c.toNat && c.toNat != 127)

/-- The character with a hexadecimal number of so many digits. -/
def codePoint (width : Nat) : Parse Char := do
  let ds := (← get).take width
  if ds.length < width || !ds.all fun c => c.isDigit || ('a' ≤ c.toLower && c.toLower ≤ 'f') then
    fail
  set ((← get).drop width)
  let n := ds.foldl (fun n c => 16 * n + hexValue c) 0
  if n.isValidChar then return Char.ofNat n else fail

/-- What stands behind a backslash. -/
def escaped : Parse Char := do
  match ← next with
  | 'b' => return '\x08'
  | 't' => return '\t'
  | 'n' => return '\n'
  | 'f' => return '\x0c'
  | 'r' => return '\r'
  | '"' => return '"'
  | '\\' => return '\\'
  | 'u' => codePoint 4
  | 'U' => codePoint 8
  | _ => fail

/-- A line end, if there is one. -/
def lineEnd : Parse Bool := do
  if ← take "\r\n" then return true
  take "\n"

/-- Blanks and line ends. The fuel is the length of what is left. -/
def skipLines : Nat → Parse Unit
  | 0 => return ()
  | fuel + 1 => do
    skipBlanks
    if ← lineEnd then skipLines fuel

/-- The rest of a text in double quotes. The fuel is more than the length of what is left. -/
def basicRest : Nat → Parse (List Char)
  | 0 => fail
  | fuel + 1 => do
    match ← next with
    | '"' => return []
    | '\\' => return (← escaped) :: (← basicRest fuel)
    | c => if isPlain c then return c :: (← basicRest fuel) else fail

/-- The rest of a text in single quotes. -/
def literalRest : Parse (List Char) := do
  let s ← span fun c => isPlain c && c != '\''
  expect "'"
  return s

/-- The quotes at the end of a text of several lines: three close it, and up to two more belong to
it. -/
def closing (quote : Char) : Parse (Option (List Char)) := do
  let s ← get
  let n := (s.takeWhile (· == quote)).length
  if n < 3 then return none
  if 5 < n then fail
  set (s.drop n)
  return some (List.replicate (n - 3) quote)

/-- The rest of a text of several lines. A backslash at the end of a line joins it to what follows.
The fuel is more than the length of what is left. -/
def linesRest (quote : Char) : Nat → Parse (List Char)
  | 0 => fail
  | fuel + 1 => do
    match ← closing quote with
    | some quotes => return quotes
    | none =>
      if ← lineEnd then return '\n' :: (← linesRest quote fuel)
      else
        let c ← next
        if c == '\\' && quote == '"' then
          match ← attempt (do skipBlanks; if !(← lineEnd) then fail) with
          | some () =>
            skipLines (← get).length
            linesRest quote fuel
          | none => return (← escaped) :: (← linesRest quote fuel)
        else if isPlain c then return c :: (← linesRest quote fuel)
        else fail

/-- A quoted text; one of several lines only if it is a value. -/
def quoted (isValue : Bool) : Parse (Option String) := do
  let fuel := (← get).length + 1
  let lines (quote : Char) : Parse (Option String) := do
    let _ ← lineEnd
    return some (String.ofList (← linesRest quote fuel))
  if isValue then
    if ← take "\"\"\"" then return ← lines '"'
    if ← take "'''" then return ← lines '\''
  if ← take "\"" then return some (String.ofList (← basicRest fuel))
  else if ← take "'" then return some (String.ofList (← literalRest))
  else return none

end Workflow.Toml
