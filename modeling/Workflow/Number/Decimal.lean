import Workflow.Number.Binary

/-! Decimal texts of binary values: writing the fewest digits that read back, nearest to the value,
and reading to the nearest binary value. -/
namespace Workflow

/-- The magnitude `digits * 10 ^ exponent`. -/
structure Decimal where
  digits : Nat
  exponent : Int
  deriving DecidableEq, Repr, Inhabited

namespace Binary

/-- Twice the mantissa, with the ends of the interval that rounds to the value, all in quarters of a
unit in the last place. The lower gap is halved at a power of two. -/
def neighbourhood (f : Format) (x : Binary) : Nat × Nat × Nat :=
  let low := if x.mantissa = Nat.pow 2 (f.precision - 1) && f.minExponent < x.exponent then 1 else 2
  (4 * x.mantissa - low, 4 * x.mantissa, 4 * x.mantissa + 2)

/-- Whether `n * 10 ^ t` lies in the interval that rounds to the value; the ends count when the
mantissa is even. -/
def roundsTo (f : Format) (x : Binary) (n : Nat) (t : Int) : Bool :=
  let (lo, _, hi) := neighbourhood f x
  let e := x.exponent - 2
  let grid := n * Nat.pow 10 t.toNat * Nat.pow 2 (-e).toNat
  let unit := Nat.pow 10 (-t).toNat * Nat.pow 2 e.toNat
  if x.mantissa % 2 = 0 then lo * unit ≤ grid && grid ≤ hi * unit
  else lo * unit < grid && grid < hi * unit

/-- Magnitude divided by `10 ^ t`, as a numerator and a denominator. -/
def inTens (x : Binary) (t : Int) : Nat × Nat :=
  (x.ratio.1 * Nat.pow 10 (-t).toNat, x.ratio.2 * Nat.pow 10 t.toNat)

/-- The exponent of the leading decimal digit of a nonzero value. -/
def leadingExponent (x : Binary) : Int :=
  let (n, d) := x.ratio
  if d ≤ n then (Nat.repr (n / d)).length - 1
  else
    let j := (Nat.repr (d / n)).length
    if n * Nat.pow 10 (j - 1) = d then 1 - (j : Int) else -(j : Int)

/-- The grid point `n * 10 ^ t`, where `10 ^ k` moves up to the next power of ten. -/
def gridPoint (k n : Nat) (t : Int) : Decimal := if n = Nat.pow 10 k then ⟨1, t + k⟩ else ⟨n, t⟩

/-- The point of the grid of `k` digits that reads back and is nearest to the value, if there is
one. A tie goes to the even point. -/
def onGrid (f : Format) (x : Binary) (k : Nat) : Option Decimal :=
  let t := x.leadingExponent - (k : Int) + 1
  let (n, d) := x.inTens t
  let q := n / d
  match roundsTo f x q t, roundsTo f x (q + 1) t with
  | true, true => some (gridPoint k (divEven n d) t)
  | true, false => some (gridPoint k q t)
  | false, true => some (gridPoint k (q + 1) t)
  | false, false => none

/-- The first grid of at least `k` and at most `k + fuel` digits with a point that reads back. -/
def firstGrid (f : Format) (x : Binary) : Nat → Nat → Decimal
  | 0, k =>
    let t := x.leadingExponent - (k : Int) + 1
    let (n, d) := x.inTens t
    gridPoint k (divEven n d) t
  | fuel + 1, k => match onGrid f x k with
    | some r => r
    | none => firstGrid f x fuel (k + 1)

/-- The shortest decimal that rounds to the value. -/
def shortest (f : Format) (x : Binary) : Decimal :=
  if x.mantissa = 0 then ⟨0, 0⟩ else firstGrid f x 17 1

end Binary

namespace Decimal

/-- How a decimal is laid out: the range of the position of the point that is written without an
exponent, and whether a positive exponent has a sign. -/
structure Layout where
  least : Int
  greatest : Int
  plus : Bool

/-- The decimal text of the digits `ds` with the point after `point` of them. -/
def positional (ds : List Char) (point : Int) : List Char :=
  if point ≤ 0 then ['0', '.'] ++ List.replicate (-point).toNat '0' ++ ds
  else
    let p := point.toNat
    if ds.length ≤ p then ds ++ List.replicate (p - ds.length) '0' ++ ['.', '0']
    else ds.take p ++ '.' :: ds.drop p

/-- The digits with the point after the first one, and a power of ten. -/
def scientific (l : Layout) (ds : List Char) (point : Int) : List Char :=
  let e := point - 1
  let body := match ds with
    | [] => ['0']
    | [d] => [d]
    | d :: rest => d :: '.' :: rest
  let sign := if e < 0 then ['-'] else if l.plus then ['+'] else []
  body ++ 'e' :: sign ++ (Nat.repr e.natAbs).toList

def render (l : Layout) (x : Decimal) : List Char :=
  let ds := (Nat.repr x.digits).toList
  let point := x.exponent + ds.length
  if x.digits = 0 then ['0', '.', '0']
  else if l.least ≤ point && point ≤ l.greatest then positional ds point
  else scientific l ds point

end Decimal

/-- The shortest text of a value of format `f`. -/
def Binary.render (f : Binary.Format) (l : Decimal.Layout) (x : Binary) : String :=
  let body := (x.shortest f).render l
  String.ofList (if x.negative then '-' :: body else body)

namespace Decimal

def digitValue (c : Char) : Nat := c.toNat - 48

/-- The number that a run of digits denotes. -/
def ofDigits (ds : List Char) : Nat := ds.foldl (fun n c => 10 * n + digitValue c) 0

/-- The nearest value of `f`, or `none` when it is too large. Exponents far outside the range are
decided without writing the power out. -/
def toBinary (f : Binary.Format) (negative : Bool) (x : Decimal) : Option Binary :=
  let zero : Binary := ⟨negative, 0, f.minExponent⟩
  let top := x.exponent + (Nat.repr x.digits).length
  if x.digits = 0 then some zero
  else if top < -400 then some zero
  else if 400 < top then none
  else
    let r := Binary.ofRatio f negative (x.digits * Nat.pow 10 x.exponent.toNat)
      (Nat.pow 10 (-x.exponent).toNat)
    if r.overflows f then none else some r

/-- An unsigned decimal: digits, with at most one point among them, and at least one digit. -/
def ofPlain? (s : List Char) : Option Decimal :=
  let whole := s.takeWhile Char.isDigit
  match s.dropWhile Char.isDigit with
  | [] => if whole.isEmpty then none else some ⟨ofDigits whole, 0⟩
  | '.' :: fraction =>
    if fraction.all Char.isDigit && !(whole.isEmpty && fraction.isEmpty) then
      some ⟨ofDigits (whole ++ fraction), -(fraction.length : Int)⟩
    else none
  | _ => none

end Decimal
end Workflow
