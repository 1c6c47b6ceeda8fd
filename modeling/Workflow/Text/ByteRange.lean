import Workflow.Text.CharSet

/-! Ranges of characters as sequences of byte ranges in UTF-8. -/
namespace Workflow.Text

/-- The bytes from the first to the second, both included. -/
abbrev ByteRange := Nat × Nat

namespace ByteRange

/-- What all that `k` bytes in the middle of a character can be. -/
def full (k : Nat) : List ByteRange := List.replicate k (0x80, 0xBF)

/-- The numbers from `lo` to `hi` in base 64, in `k` places behind a first one, as products of
ranges in increasing order. The first place has `lead` added to it. -/
def products (lead : Nat) : Nat → Nat → Nat → List (List ByteRange)
  | 0, lo, hi => [[(lead + lo, lead + hi)]]
  | k + 1, lo, hi =>
    let unit := Nat.pow 64 (k + 1)
    let first := lo / unit
    let last := hi / unit
    let under (n start stop : Nat) := (products 0x80 k start stop).map ((lead + n, lead + n) :: ·)
    if first = last then under first (lo % unit) (hi % unit)
    else
      let head := if lo % unit = 0 then [] else under first (lo % unit) (unit - 1)
      let tail := if hi % unit = unit - 1 then [] else under last 0 (hi % unit)
      let least := if lo % unit = 0 then first else first + 1
      let most := if hi % unit = unit - 1 then last else last - 1
      let middle := if least ≤ most then [(lead + least, lead + most) :: full (k + 1)] else []
      head ++ middle ++ tail

/-- The code points from `lo` to `hi` that are within `least` and `most`, in characters of `k + 1`
bytes whose first byte has `lead` added to it. -/
def within (lo hi : Nat) (part : Nat × Nat × Nat × Nat) : List (List ByteRange) :=
  let (k, lead, least, most) := part
  if max lo least ≤ min hi most then products lead k (max lo least) (min hi most) else []

/-- The lengths of characters, and the code points of each length: those of surrogates
are left out. -/
def lengths : List (Nat × Nat × Nat × Nat) := [
  (0, 0, 0, 0x7F), (1, 0xC0, 0x80, 0x7FF), (2, 0xE0, 0x800, 0xD7FF), (2, 0xE0, 0xE000, 0xFFFF),
  (3, 0xF0, 0x10000, 0x10FFFF)]

end ByteRange

/-- The first and the last code points of the ranges that a set consists of. -/
def CharSet.ranges (s : CharSet) : List (Nat × Nat) := pairs s.bounds
where
  pairs : List Nat → List (Nat × Nat)
    | [] => []
    | [lo] => [(lo, 0x10FFFF)]
    | lo :: stop :: rest => (lo, stop - 1) :: pairs rest

/-- The characters of a set as sequences of byte ranges, in increasing order. -/
def CharSet.byteRanges (s : CharSet) : List (List ByteRange) :=
  s.ranges.flatMap fun (lo, hi) => ByteRange.lengths.flatMap (ByteRange.within lo hi)

end Workflow.Text
