import Workflow.Number.Basic
import Workflow.Json.Fault

/-! The numbers of JSON: reading them, and passing over them. -/
namespace Workflow.Json.Numeral
open Workflow (Binary Number)

/-- Add digits to a significand as long as it stays below `2 ^ 64`. -/
def accumulate (sig : Nat) : List Char → Nat × List Char
  | [] => (sig, [])
  | c :: cs =>
    let next := 10 * sig + Decimal.digitValue c
    if next < Nat.pow 2 64 then accumulate next cs else (sig, c :: cs)

/-- The double nearest to `10 ^ n`. -/
def powerOfTen (n : Nat) : Binary := Binary.ofRatio .double false (Nat.pow 10 n) 1

/-- `x * 10 ^ e` by one rounded multiplication or division, after dividing by `10 ^ 308` as long as
the exponent is below `-308`. -/
def scale (x : Binary) (e : Int) : Nat → Option Binary
  | 0 => some x
  | fuel + 1 =>
    if e.natAbs ≤ 308 then
      if 0 ≤ e then
        let r := x.mul .double (powerOfTen e.natAbs)
        if r.overflows .double then none else some r
      else some (x.div .double (powerOfTen e.natAbs))
    else if x.isZero then some x
    else if 0 ≤ e then none
    else scale (x.div .double (powerOfTen 308)) (e + 308) fuel

/-- Four divisions by `10 ^ 308` bring every significand to zero. -/
def real (negative : Bool) (sig : Nat) (e : Int) (rest : List Char) :
    Except Fault (Number × List Char) :=
  match scale (Binary.ofInt .double sig) e 5 with
  | some x => .ok (.real { x with negative }, rest)
  | none => .error (.before .numberRange rest)

/-- An integer when it is in the exact range and not a negative zero. -/
def integer (negative : Bool) (sig : Nat) : Number :=
  if !negative then .int sig
  else if sig = 0 || Nat.pow 2 63 < sig then
    .real { Binary.ofInt .double sig with negative := true }
  else .int (-(sig : Int))

/-- The fault of a text that has to go on with a digit. -/
def noDigit {α : Type} : List Char → Except Fault α
  | [] => .error (.behind .endInValue [])
  | s => .error (.behind .badNumber s)

/-- The part after an exponent mark. -/
def exponent (negative : Bool) (sig : Nat) (e : Int) (s : List Char) :
    Except Fault (Number × List Char) :=
  let (minus, s) := match s with
    | '+' :: r => (false, r)
    | '-' :: r => (true, r)
    | r => (false, r)
  let digits := s.takeWhile Char.isDigit
  if digits.isEmpty then noDigit s
  else
    let n : Int := Decimal.ofDigits digits
    real negative sig (if minus then e - n else e + n) (s.dropWhile Char.isDigit)

/-- The part after a point: digits that no longer fit into the significand are dropped. -/
def fraction (negative : Bool) (sig : Nat) (e : Int) (s : List Char) :
    Except Fault (Number × List Char) :=
  let digits := s.takeWhile Char.isDigit
  let rest := s.dropWhile Char.isDigit
  if digits.isEmpty then noDigit s
  else
    let (sig, dropped) := accumulate sig digits
    let e := e - (digits.length - dropped.length : Nat)
    match rest with
    | 'e' :: r => exponent negative sig e r
    | 'E' :: r => exponent negative sig e r
    | _ => real negative sig e rest

/-- Read a number without its minus sign. -/
def read (negative : Bool) (s : List Char) : Except Fault (Number × List Char) :=
  let digits := s.takeWhile Char.isDigit
  let rest := s.dropWhile Char.isDigit
  match digits with
  | [] => noDigit s
  | '0' :: _ :: _ => .error (.behind .badNumber s.tail)
  | _ =>
    let (sig, dropped) := accumulate 0 digits
    match rest with
    | '.' :: r => fraction negative sig dropped.length r
    | 'e' :: r => exponent negative sig dropped.length r
    | 'E' :: r => exponent negative sig dropped.length r
    | _ =>
      if dropped.isEmpty then .ok (integer negative sig, rest)
      else real negative sig dropped.length rest

/-- Pass over at least one digit. -/
def skipDigits (s : List Char) : Except Fault (List Char) :=
  match s.head? with
  | some c => if c.isDigit then .ok (s.dropWhile Char.isDigit) else .error (.behind .badNumber s)
  | none => .error (.behind .badNumber s)

/-- Pass over an exponent, if there is one. -/
def skipExponent : List Char → Except Fault (List Char)
  | 'e' :: '+' :: r | 'e' :: '-' :: r | 'E' :: '+' :: r | 'E' :: '-' :: r => skipDigits r
  | 'e' :: r | 'E' :: r => skipDigits r
  | s => .ok s

/-- Pass over a number without its minus sign, whatever its size. -/
def skip (s : List Char) : Except Fault (List Char) := do
  let rest ← match s with
    | '0' :: r =>
      if r.head?.any Char.isDigit then throw (.behind .badNumber r) else pure r
    | s => skipDigits s
  match rest with
  | '.' :: r => skipExponent (← skipDigits r)
  | r => skipExponent r

end Workflow.Json.Numeral
