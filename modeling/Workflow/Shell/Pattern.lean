/-! Patterns with signs that stand for other characters. -/
namespace Workflow.Shell

/-- A part of a pattern. -/
inductive Sign where
  | exactly (c : Char)
  | one
  | any
  | among (negated : Bool) (ranges : List (Char × Char))
  deriving DecidableEq, Repr

namespace Sign

/-- The ranges up to the closing bracket. A bracket in front is a member. -/
def readRanges (first : Bool) (acc : List (Char × Char)) :
    List Char → Option (List (Char × Char) × List Char)
  | [] => none
  | ']' :: r => if first then readRanges false ((']', ']') :: acc) r else some (acc.reverse, r)
  | a :: '-' :: b :: r =>
    if b == ']' then readRanges false ((a, a) :: acc) ('-' :: ']' :: r)
    else readRanges false ((a, b) :: acc) r
  | a :: r => readRanges false ((a, a) :: acc) r
  termination_by s => s.length

/-- The signs of a pattern whose characters are marked as literal or not. The fuel is the number of
characters. -/
def ofMarked : Nat → List (Char × Bool) → List Sign
  | 0, _ => []
  | _, [] => []
  | fuel + 1, (c, literal) :: r =>
    if literal then exactly c :: ofMarked fuel r
    else match c with
      | '*' => any :: ofMarked fuel r
      | '?' => one :: ofMarked fuel r
      | '[' =>
        let chars := r.map (·.1)
        let (negated, body) := match chars with
          | '!' :: b => (true, b)
          | '^' :: b => (true, b)
          | b => (false, b)
        match readRanges true [] body with
        | some (ranges, rest) =>
          among negated ranges :: ofMarked fuel (r.drop (chars.length - rest.length))
        | none => exactly '[' :: ofMarked fuel r
      | c => exactly c :: ofMarked fuel r

def accepts : Sign → Char → Bool
  | exactly a, c => a == c
  | one, _ => true
  | any, _ => true
  | among negated ranges, c => (ranges.any fun (a, b) => a ≤ c && c ≤ b) != negated

end Sign

/-- Whether a pattern matches a whole text. -/
def matchesPattern : List Sign → List Char → Bool
  | [], s => s.isEmpty
  | .any :: signs, [] => matchesPattern signs []
  | .any :: signs, c :: s => matchesPattern signs (c :: s) || matchesPattern (.any :: signs) s
  | _ :: _, [] => false
  | sign :: signs, c :: s => sign.accepts c && matchesPattern signs s
  termination_by signs s => (signs.length, s.length)

end Workflow.Shell
