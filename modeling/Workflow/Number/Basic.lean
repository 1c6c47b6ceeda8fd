import Workflow.Number.Decimal

/-! Numbers of a document: integers are kept exact, all others are binary values. -/
namespace Workflow

inductive Number where
  | int (value : Int)
  | real (value : Binary)
  deriving DecidableEq, Repr, Inhabited

namespace Number

/-- The value rounded to double precision. -/
def toBinary : Number → Binary
  | .int n => Binary.ofInt .double n
  | .real x => x

def isZero (n : Number) : Bool := n.toBinary.isZero

/-- Equality of kind and value: an integer never equals a real, and both zeros are equal. -/
def same : Number → Number → Bool
  | .int a, .int b => a == b
  | .real a, .real b => a.compare b == .eq
  | _, _ => false

/-- Order of the values in double precision. -/
def compare (a b : Number) : Ordering := a.toBinary.compare b.toBinary

/-- Positional from `0.00001` up to sixteen digits before the point, else with a signed exponent. -/
def layout : Decimal.Layout := ⟨-4, 16, true⟩

def text : Number → String
  | .int n => toString n
  | .real x => x.render .double layout

/-- The integers that a document keeps as integers. -/
def exactLeast : Int := -Int.pow 2 63
def exactGreatest : Int := Int.pow 2 64 - 1

end Number
end Workflow
