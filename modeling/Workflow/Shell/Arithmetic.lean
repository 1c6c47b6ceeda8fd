import Workflow.Text.Search

/-! Arithmetic expressions over named integers of sixty-four bits. -/
namespace Workflow.Shell

/-- Values under names. -/
abbrev Variables := List (String × String)

namespace Variables

def get? (vs : Variables) (name : String) : Option String := vs.lookup name

def put : Variables → String → String → Variables
  | [], name, value => [(name, value)]
  | (n, v) :: rest, name, value =>
    if n = name then (name, value) :: rest else (n, v) :: put rest name value

def erase (vs : Variables) (name : String) : Variables := vs.filter (·.1 != name)

end Variables

namespace Arithmetic

inductive Fault where
  /-- What is divided by: the text from there on. -/
  | divisionByZero (divisor : String)
  | malformed
  deriving DecidableEq, Repr

/-- What evaluation gives: a value, the variables after it, and the rest of the text. -/
abbrev Result := Except Fault (Int × Variables × List Char)

def wrap (n : Int) : Int := Int.bmod n (Nat.pow 2 64)

/-- All operators, no operator before a longer one that it begins. -/
def operators : List String := [
  "<<=", ">>=", "**", "||", "&&", "==", "!=", "<=", ">=", "<<", ">>", "++", "--", "+=", "-=", "*=",
  "/=", "%=", "|", "^", "&", "<", ">", "+", "-", "*", "/", "%", "?", ":", "=", "!", "~", "(", ")",
  ","]

def skipBlanks (s : List Char) : List Char :=
  s.dropWhile fun c => c == ' ' || c == '\t' || c == '\n'

/-- The operator at the front of a text. -/
def operator? (s : List Char) : Option (String × List Char) :=
  operators.findSome? fun o => (Text.dropLead? o.toList (skipBlanks s)).map fun r => (o, r)

/-- The operators with two operands from the loosest to the tightest. -/
def levels : List (List String) := [
  ["||"], ["&&"], ["|"], ["^"], ["&"], ["==", "!="], ["<=", ">=", "<", ">"], ["<<", ">>"],
  ["+", "-"], ["*", "/", "%"]]

def ofBool (b : Bool) : Int := if b then 1 else 0

/-- The numbers of bits that `f` gives for the bits of two integers. -/
def bitwise (f : BitVec 64 → BitVec 64 → BitVec 64) (a b : Int) : Int :=
  (f (BitVec.ofInt 64 a) (BitVec.ofInt 64 b)).toInt

def apply (o : String) (a b : Int) : Except Fault Int :=
  match o with
  | "||" => .ok (ofBool (a != 0 || b != 0))
  | "&&" => .ok (ofBool (a != 0 && b != 0))
  | "|" => .ok (bitwise (· ||| ·) a b)
  | "^" => .ok (bitwise (· ^^^ ·) a b)
  | "&" => .ok (bitwise (· &&& ·) a b)
  | "==" => .ok (ofBool (a == b))
  | "!=" => .ok (ofBool (a != b))
  | "<=" => .ok (ofBool (a ≤ b))
  | ">=" => .ok (ofBool (b ≤ a))
  | "<" => .ok (ofBool (a < b))
  | ">" => .ok (ofBool (b < a))
  | "<<" => .ok (wrap (a * Int.pow 2 (b.toNat % 64)))
  | ">>" => .ok (a / Int.pow 2 (b.toNat % 64))
  | "+" => .ok (wrap (a + b))
  | "-" => .ok (wrap (a - b))
  | "*" => .ok (wrap (a * b))
  | "/" => .ok (wrap (Int.tdiv a b))
  | "%" => .ok (Int.tmod a b)
  | _ => .error .malformed

def isNameChar (c : Char) : Bool := c.isAlphanum || c == '_'

def isNameStart (c : Char) : Bool := c.isAlpha || c == '_'

/-- The value of a digit in a base of at most thirty-six. -/
def digit? (base : Nat) (c : Char) : Option Nat :=
  let n := if c.isDigit then c.toNat - 48
    else if c.isAlpha then c.toLower.toNat - 87
    else 99
  if n < base then some n else none

def digits? (base : Nat) (s : List Char) : Option Int :=
  (s.foldlM (fun n c => return base * n + (← digit? base c)) 0).map Int.ofNat

/-- A number: decimal, octal behind a zero, hexadecimal, or with its base in front. -/
def number? (s : List Char) : Option Int :=
  match s with
  | '0' :: 'x' :: r | '0' :: 'X' :: r => digits? 16 r
  | '0' :: r => digits? 8 r
  | s => match Text.splitAt '#' s with
    | [base, r] => (digits? 10 base).bind fun b => digits? b.toNat r
    | _ => digits? 10 s

/-- The value of a variable, which is zero unless it is a number. -/
def valueOf (vs : Variables) (name : String) : Int :=
  let s := ((vs.get? name).getD "").toList
  match skipBlanks s with
  | '-' :: r => -((number? r).getD 0)
  | r => (number? r).getD 0

def store (vs : Variables) (name : String) (n : Int) : Variables := vs.put name (toString n)

/-- A variable that is changed before its value is taken. -/
def step (change : Int) (vs : Variables) (s : List Char) : Result :=
  let t := skipBlanks s
  let name := String.ofList (t.takeWhile isNameChar)
  if name.isEmpty then .error .malformed
  else
    let a := wrap (valueOf vs name + change)
    .ok (a, store vs name a, t.dropWhile isNameChar)

/-- A number, or a variable that may be changed after its value is taken. -/
def primary (vs : Variables) (s : List Char) : Result :=
  let t := skipBlanks s
  let word := t.takeWhile fun c => isNameChar c || c == '#'
  let r := t.dropWhile fun c => isNameChar c || c == '#'
  match word with
  | [] => .error .malformed
  | c :: _ =>
    if c.isDigit then match number? word with
      | some n => .ok (wrap n, vs, r)
      | none => .error .malformed
    else
      let name := String.ofList word
      let a := valueOf vs name
      match operator? r with
      | some ("++", r) => .ok (a, store vs name (wrap (a + 1)), r)
      | some ("--", r) => .ok (a, store vs name (wrap (a - 1)), r)
      | _ => .ok (a, vs, r)

mutual
/-- Expressions with commas between them; each function below reads a tighter kind. -/
def comma : Nat → Variables → List Char → Result
  | 0, _, _ => .error .malformed
  | fuel + 1, vs, s => do
    let (a, vs, r) ← assignment fuel vs s
    match operator? r with
    | some (",", r) => comma fuel vs r
    | _ => .ok (a, vs, r)
def assignment : Nat → Variables → List Char → Result
  | 0, _, _ => .error .malformed
  | fuel + 1, vs, s =>
    let t := skipBlanks s
    let name := String.ofList (t.takeWhile isNameChar)
    let isName := (t.head?.map isNameStart).getD false
    match isName, operator? (t.dropWhile isNameChar) with
    | true, some ("=", r) => do
      let (a, vs, r) ← assignment fuel vs r
      .ok (a, store vs name a, r)
    | true, some (o, r) =>
      if o.length = 2 && o.endsWith "=" && ["+=", "-=", "*=", "/=", "%="].contains o then do
        let (b, vs, rest) ← assignment fuel vs r
        if b = 0 && (o == "/=" || o == "%=") then
          .error (.divisionByZero (String.ofList (skipBlanks r)))
        else
          let a ← apply (String.ofList (o.toList.take 1)) (valueOf vs name) b
          .ok (a, store vs name a, rest)
      else ternary fuel vs s
    | _, _ => ternary fuel vs s
def ternary : Nat → Variables → List Char → Result
  | 0, _, _ => .error .malformed
  | fuel + 1, vs, s => do
    let (c, vs, r) ← binary fuel levels vs s
    match operator? r with
    | some ("?", r) =>
      let (a, vs, r) ← assignment fuel vs r
      match operator? r with
      | some (":", r) =>
        let (b, vs, r) ← ternary fuel vs r
        .ok (if c != 0 then a else b, vs, r)
      | _ => .error .malformed
    | _ => .ok (c, vs, r)
def binary : Nat → List (List String) → Variables → List Char → Result
  | 0, _, _, _ => .error .malformed
  | fuel + 1, [], vs, s => power fuel vs s
  | fuel + 1, level :: tighter, vs, s => do
    let (a, vs, r) ← binary fuel tighter vs s
    binaryRest fuel level tighter a vs r
def binaryRest : Nat → List String → List (List String) → Int → Variables → List Char → Result
  | 0, _, _, _, _, _ => .error .malformed
  | fuel + 1, level, tighter, a, vs, s => match operator? s with
    | some (o, r) =>
      if level.contains o then do
        let (b, vs, rest) ← binary fuel tighter vs r
        if b = 0 && (o == "/" || o == "%") then
          .error (.divisionByZero (String.ofList (skipBlanks r)))
        else binaryRest fuel level tighter (← apply o a b) vs rest
      else .ok (a, vs, s)
    | none => .ok (a, vs, s)
def power : Nat → Variables → List Char → Result
  | 0, _, _ => .error .malformed
  | fuel + 1, vs, s => do
    let (a, vs, r) ← unary fuel vs s
    match operator? r with
    | some ("**", r) =>
      let (b, vs, r) ← power fuel vs r
      if b < 0 then .error .malformed else .ok (wrap (Int.pow a (b.toNat % 1000)), vs, r)
    | _ => .ok (a, vs, r)
def unary : Nat → Variables → List Char → Result
  | 0, _, _ => .error .malformed
  | fuel + 1, vs, s => match operator? s with
    | some ("-", r) => do
      let (a, vs, r) ← unary fuel vs r
      .ok (wrap (-a), vs, r)
    | some ("+", r) => unary fuel vs r
    | some ("!", r) => do
      let (a, vs, r) ← unary fuel vs r
      .ok (ofBool (a == 0), vs, r)
    | some ("~", r) => do
      let (a, vs, r) ← unary fuel vs r
      .ok (-a - 1, vs, r)
    | some ("++", r) => step 1 vs r
    | some ("--", r) => step (-1) vs r
    | some ("(", r) => do
      let (a, vs, r) ← comma fuel vs r
      match operator? r with
      | some (")", r) => .ok (a, vs, r)
      | _ => .error .malformed
    | some _ => .error .malformed
    | none => primary vs s
end

def Fault.message : Fault → String
  | divisionByZero divisor => "division by 0 (error token is \"" ++ divisor ++ "\")"
  | malformed => "syntax error: operand expected"

/-- The value of a whole expression, which is zero when there is none. -/
def evaluate (vs : Variables) (s : List Char) : Except Fault (Int × Variables) :=
  if (skipBlanks s).isEmpty then .ok (0, vs)
  else match comma (30 * (s.length + 2)) vs s with
    | .error e => .error e
    | .ok (a, vs, r) => if (skipBlanks r).isEmpty then .ok (a, vs) else .error .malformed

end Arithmetic
end Workflow.Shell
