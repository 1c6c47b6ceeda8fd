import Workflow.Number.Basic

/-! Values of single precision, as settings carry them. -/
namespace Workflow

inductive Single where
  | finite (value : Binary)
  | infinite (negative : Bool)
  | nan
  deriving DecidableEq, Repr, Inhabited

namespace Single

def zero : Single := finite ⟨false, 0, Binary.Format.single.minExponent⟩

/-- A double or an integer rounded to single precision. -/
def ofNumber : Number → Single
  | .int n => of (Binary.ofInt .single n)
  | .real x => of (x.round .single)
where
  of (x : Binary) : Single := if x.overflows .single then infinite x.negative else finite x

/-- The double nearest to the shortest decimal of a finite value. -/
def toNumber? : Single → Option Number
  | finite x => (x.shortest .single).toBinary .double x.negative |>.map .real
  | _ => none

end Single
end Workflow
