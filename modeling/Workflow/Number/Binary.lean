/-! Binary floating-point values and exact round-to-nearest, ties-to-even, on ratios of naturals. -/
namespace Workflow

/-- The finite value `mantissa * 2 ^ exponent`, negated when `negative`. -/
structure Binary where
  negative : Bool
  mantissa : Nat
  exponent : Int
  deriving DecidableEq, Repr, Inhabited

namespace Binary

/-- Precision in bits, with the least and the greatest exponent of a mantissa. -/
structure Format where
  precision : Nat
  minExponent : Int
  maxExponent : Int
  deriving DecidableEq, Repr

/-- The format with 53 bits of precision. -/
def Format.double : Format := ⟨53, -1074, 971⟩

/-- The format with 24 bits of precision. -/
def Format.single : Format := ⟨24, -149, 104⟩

/-- Quotient rounded to the nearest natural, a midpoint going to the even neighbour. -/
def divEven (num den : Nat) : Nat :=
  let q := num / den
  let r := num % den
  if 2 * r < den then q
  else if den < 2 * r then q + 1
  else q + q % 2

/-- `num / den` in units of `2 ^ e`, as a numerator and a denominator. -/
def inUnits (num den : Nat) (e : Int) : Nat × Nat :=
  if e < 0 then (num * Nat.pow 2 e.natAbs, den) else (num, den * Nat.pow 2 e.toNat)

/-- The exponent that leaves a rounded mantissa of `f.precision` bits, or `f.minExponent` when that
would be too small. -/
def quantumExponent (f : Format) (num den : Nat) : Int :=
  let e : Int := (Nat.log2 num : Int) - Nat.log2 den - f.precision
  let (n, d) := inUnits num den e
  let e := if n / d < Nat.pow 2 f.precision then e else e + 1
  max f.minExponent e

/-- `num / den` rounded to `f`, with no upper limit on the exponent. -/
def ofRatio (f : Format) (negative : Bool) (num den : Nat) : Binary :=
  if num = 0 then ⟨negative, 0, f.minExponent⟩
  else
    let e := quantumExponent f num den
    let (n, d) := inUnits num den e
    let q := divEven n d
    if q = Nat.pow 2 f.precision then ⟨negative, Nat.pow 2 (f.precision - 1), e + 1⟩
    else ⟨negative, q, e⟩

/-- Whether the value exceeds the largest one of `f`. -/
def overflows (f : Format) (x : Binary) : Bool := f.maxExponent < x.exponent

/-- An integer rounded to `f`. -/
def ofInt (f : Format) (n : Int) : Binary := ofRatio f (n < 0) n.natAbs 1

/-- The magnitude as a ratio. -/
def ratio (x : Binary) : Nat × Nat :=
  if x.exponent < 0 then (x.mantissa, Nat.pow 2 x.exponent.natAbs)
  else (x.mantissa * Nat.pow 2 x.exponent.toNat, 1)

/-- The value rounded to another format. -/
def round (f : Format) (x : Binary) : Binary := ofRatio f x.negative x.ratio.1 x.ratio.2

def mul (f : Format) (x y : Binary) : Binary :=
  ofRatio f (x.negative != y.negative) (x.ratio.1 * y.ratio.1) (x.ratio.2 * y.ratio.2)

/-- The rounded quotient of `x` by a nonzero `y`. -/
def div (f : Format) (x y : Binary) : Binary :=
  ofRatio f (x.negative != y.negative) (x.ratio.1 * y.ratio.2) (x.ratio.2 * y.ratio.1)

def isZero (x : Binary) : Bool := x.mantissa == 0

/-- The value as an integer multiple of `2 ^ e`, for an `e` not above its exponent. -/
def scaled (x : Binary) (e : Int) : Int :=
  let m : Int := x.mantissa * Int.pow 2 (x.exponent - e).toNat
  if x.negative then -m else m

/-- Comparison by value, so that both zeros are equal. -/
def compare (x y : Binary) : Ordering :=
  let e := min x.exponent y.exponent
  Ord.compare (x.scaled e) (y.scaled e)

end Binary
end Workflow
