import Workflow.Number.Decimal
import Workflow.Text.Blank
import Workflow.Text.Letters
import Workflow.Text.Quoted

/-! Tokens of the predicate language, and the reasons why a text is not a predicate. -/
namespace Workflow

inductive Comparison where
  | eq
  | ne
  | gt
  | ge
  | lt
  | le
  | contains
  deriving DecidableEq, Repr

namespace Predicate

inductive Token where
  | ident (name : String)
  | str (value : String)
  | num (value : Binary)
  /-- A number literal whose magnitude exceeds every double. -/
  | huge (negative : Bool)
  | true
  | false
  | null
  | and
  | or
  | not
  | op (op : Comparison)
  | lparen
  | rparen
  deriving DecidableEq, Repr

inductive ParseError where
  | empty
  | unterminatedString
  | undoubled (c : Char)
  | singleEquals
  | badNumber (text : String)
  | badCharacter (c : Char)
  | unexpected (token : Token)
  | unclosed
  | endOfText
  | trailing (token : Token)
  deriving DecidableEq, Repr

end Predicate

namespace Comparison

def name : Comparison → String
  | eq => "Eq"
  | ne => "Ne"
  | gt => "Gt"
  | ge => "Ge"
  | lt => "Lt"
  | le => "Le"
  | contains => "Contains"

def symbol : Comparison → String
  | eq => "=="
  | ne => "!="
  | gt => ">"
  | ge => ">="
  | lt => "<"
  | le => "<="
  | contains => "contains"

end Comparison

namespace Predicate

/-- Positional from `0.0001` up to sixteen digits before the point, else with a bare exponent. -/
def numberLayout : Decimal.Layout := ⟨-3, 16, Bool.false⟩

namespace Token

/-- How an error message names the token. -/
def describe : Token → String
  | ident s => "Ident(" ++ Text.quote s ++ ")"
  | str s => "Str(" ++ Text.quote s ++ ")"
  | num x => "Num(" ++ x.render .double numberLayout ++ ")"
  | huge negative => if negative then "Num(-inf)" else "Num(inf)"
  | true => "True"
  | false => "False"
  | null => "Null"
  | and => "And"
  | or => "Or"
  | not => "Not"
  | op o => "Op(" ++ o.name ++ ")"
  | lparen => "LParen"
  | rparen => "RParen"

/-- Whether the token can end an operand, so that a minus behind it starts no number. -/
def endsOperand : Token → Bool
  | ident _ | str _ | num _ | huge _ | true | false | null | rparen => Bool.true
  | _ => Bool.false

/-- The token of a word: a keyword or an identifier. -/
def ofWord : String → Token
  | "true" => true
  | "false" => false
  | "null" => null
  | "and" => and
  | "or" => or
  | "not" => not
  | "contains" => op .contains
  | w => ident w

end Token

def ParseError.message : ParseError → String
  | empty => "empty expression"
  | unterminatedString => "unterminated string literal"
  | undoubled c => "expected '" ++ String.ofList [c, c] ++ "'"
  | singleEquals => "single '=' is not an operator, use '=='"
  | badNumber t => "invalid number '" ++ t ++ "'"
  | badCharacter c => "unexpected character '" ++ c.toString ++ "'"
  | unexpected t => "unexpected token " ++ t.describe
  | unclosed => "missing ')'"
  | endOfText => "unexpected end of expression"
  | trailing t => "unexpected trailing token " ++ t.describe

/-- The characters of a word behind its first one. -/
def isWordChar (c : Char) : Bool :=
  Text.isLetterOrNumber c || c == '_' || c == '.' || c == '$' || c == '-'

def startsWord (c : Char) : Bool := Text.isLetter c || c == '_' || c == '$'

/-- A string literal from behind its opening quote: a backslash stands for the
character behind it. -/
def scanString (quote : Char) : List Char → List Char → Option (List Char × List Char)
  | _, [] => none
  | _, ['\\'] => none
  | acc, '\\' :: c :: s => scanString quote (c :: acc) s
  | acc, c :: s => if c = quote then some (acc.reverse, s) else scanString quote (c :: acc) s

/-- The characters of a number behind its first one. -/
def isNumberChar (c : Char) : Bool := c.isDigit || c == '.'

/-- The token of a number literal. -/
def numberToken (text : List Char) : Except ParseError Token :=
  let (negative, digits) := match text with
    | '-' :: r => (Bool.true, r)
    | r => (Bool.false, r)
  match Decimal.ofPlain? digits with
  | none => .error (.badNumber (String.ofList text))
  | some d => match d.toBinary .double negative with
    | some x => .ok (.num x)
    | none => .ok (.huge negative)

/-- The token that starts with `c`, given whether an operand stands right before it. -/
def scanToken (afterOperand : Bool) (c : Char) (s : List Char) :
    Except ParseError (Token × List Char) :=
  if c = '(' then .ok (.lparen, s)
  else if c = ')' then .ok (.rparen, s)
  else if c = '"' || c = '\'' then
    match scanString c [] s with
    | some (text, r) => .ok (.str (String.ofList text), r)
    | none => .error .unterminatedString
  else if c = '&' || c = '|' then
    match s with
    | d :: r =>
      if d = c then .ok (if c = '&' then .and else .or, r) else .error (.undoubled c)
    | [] => .error (.undoubled c)
  else if c = '=' || c = '!' || c = '<' || c = '>' then
    match s with
    | '=' :: r =>
      let op :=
        if c = '=' then Comparison.eq else if c = '!' then .ne else if c = '<' then .le else .ge
      .ok (.op op, r)
    | r =>
      if c = '<' then .ok (.op .lt, r)
      else if c = '>' then .ok (.op .gt, r)
      else if c = '!' then .ok (.not, r)
      else .error .singleEquals
  else if c.isDigit || (c = '-' && !afterOperand && (s.head?.any Char.isDigit)) then do
    let token ← numberToken (c :: s.takeWhile isNumberChar)
    .ok (token, s.dropWhile isNumberChar)
  else if startsWord c then
    .ok (.ofWord (String.ofList (c :: s.takeWhile isWordChar)), s.dropWhile isWordChar)
  else .error (.badCharacter c)

/-- Tokens of a text, given whether an operand stands right before it. The fuel is its length. -/
def scanFrom : Nat → Bool → List Char → Except ParseError (List Token)
  | _, _, [] => .ok []
  | 0, _, _ => .ok []
  | fuel + 1, afterOperand, c :: s =>
    if Text.isBlank c then scanFrom fuel afterOperand s
    else do
      let (token, rest) ← scanToken afterOperand c s
      let tokens ← scanFrom fuel token.endsOperand rest
      .ok (token :: tokens)

def scan (text : String) : Except ParseError (List Token) :=
  scanFrom text.toList.length Bool.false text.toList

end Predicate
end Workflow
