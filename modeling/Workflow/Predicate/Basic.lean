import Workflow.Json.Basic
import Workflow.Predicate.Token

/-! Predicates over named values, and their parser. -/
namespace Workflow

inductive Predicate where
  | literal (value : Json)
  | path (name : String)
  | not (a : Predicate)
  | and (a b : Predicate)
  | or (a b : Predicate)
  | compare (op : Comparison) (a b : Predicate)
  deriving DecidableEq, Repr, Inhabited

namespace Predicate

/-- A parser of tokens: a value with the tokens that follow it. -/
abbrev Parse (α : Type) := List Token → Except ParseError (α × List Token)

mutual
/-- Operands of a disjunction, grouped to the left. -/
def parseOr : Nat → Parse Predicate
  | 0, _ => .error .endOfText
  | fuel + 1, ts => do
    let (a, r) ← parseAnd fuel ts
    parseOrTail fuel a r
def parseOrTail : Nat → Predicate → Parse Predicate
  | 0, _, _ => .error .endOfText
  | fuel + 1, a, ts => match ts with
    | .or :: r => do
      let (b, r) ← parseAnd fuel r
      parseOrTail fuel (.or a b) r
    | r => .ok (a, r)
/-- Operands of a conjunction, grouped to the left. -/
def parseAnd : Nat → Parse Predicate
  | 0, _ => .error .endOfText
  | fuel + 1, ts => do
    let (a, r) ← parseUnary fuel ts
    parseAndTail fuel a r
def parseAndTail : Nat → Predicate → Parse Predicate
  | 0, _, _ => .error .endOfText
  | fuel + 1, a, ts => match ts with
    | .and :: r => do
      let (b, r) ← parseUnary fuel r
      parseAndTail fuel (.and a b) r
    | r => .ok (a, r)
def parseUnary : Nat → Parse Predicate
  | 0, _ => .error .endOfText
  | fuel + 1, ts => match ts with
    | .not :: r => do
      let (a, r) ← parseUnary fuel r
      .ok (.not a, r)
    | r => parseComparison fuel r
/-- At most one comparison; comparisons do not chain. -/
def parseComparison : Nat → Parse Predicate
  | 0, _ => .error .endOfText
  | fuel + 1, ts => do
    let (a, r) ← parsePrimary fuel ts
    match r with
    | .op o :: r => do
      let (b, r) ← parsePrimary fuel r
      .ok (.compare o a b, r)
    | r => .ok (a, r)
def parsePrimary : Nat → Parse Predicate
  | 0, _ => .error .endOfText
  | fuel + 1, ts => match ts with
    | .ident name :: r => .ok (.path name, r)
    | .str s :: r => .ok (.literal (.str s), r)
    | .num x :: r => .ok (.literal (.num (.real x)), r)
    | .huge _ :: r => .ok (.literal .null, r)
    | .true :: r => .ok (.literal (.bool true), r)
    | .false :: r => .ok (.literal (.bool false), r)
    | .null :: r => .ok (.literal .null, r)
    | .lparen :: r => do
      let (a, r) ← parseOr fuel r
      match r with
      | .rparen :: r => .ok (a, r)
      | _ => .error .unclosed
    | t :: _ => .error (.unexpected t)
    | [] => .error .endOfText
end

/-- Every token is reached through at most five rules, so this fuel never runs out. -/
def fuelFor (ts : List Token) : Nat := 6 * ts.length + 6

def ofTokens (ts : List Token) : Except ParseError Predicate := do
  if ts.isEmpty then throw .empty
  let (p, rest) ← parseOr (fuelFor ts) ts
  match rest with
  | [] => .ok p
  | t :: _ => .error (.trailing t)

def parse (text : String) : Except ParseError Predicate := do
  ofTokens (← scan text)

end Predicate
end Workflow
