/-! Texts beyond ASCII as letters, digits and hyphens: the ASCII characters stand first, and the
others follow as differences between their numbers and places, in the order of their numbers. -/
namespace Workflow.Web.Punycode

/-- A digit is a letter or a figure. -/
def digit (n : Nat) : Char := if n < 26 then Char.ofNat (97 + n) else Char.ofNat (22 + n)

def value? (c : Char) : Option Nat :=
  let c := c.toLower
  if 'a' ≤ c ∧ c ≤ 'z' then some (c.toNat - 97)
  else if c.isDigit then some (c.toNat - 22)
  else none

/-- How the bias of the digits follows the differences. -/
def adapt (delta count : Nat) (first : Bool) : Nat :=
  let d := if first then delta / 700 else delta / 2
  go 64 (d + d / count) 0
where
  go : Nat → Nat → Nat → Nat
    | 0, d, k => k + 36 * d / (d + 38)
    | fuel + 1, d, k => if 455 < d then go fuel (d / 35) (k + 36) else k + 36 * d / (d + 38)

/-- The digit in the place `k` is the last one if it is smaller than this. -/
def threshold (k bias : Nat) : Nat := if k ≤ bias then 1 else if bias + 26 ≤ k then 26 else k - bias

/-- A difference as digits of varying weight. The fuel is its size. -/
def deltaDigits : Nat → Nat → Nat → Nat → List Char
  | 0, _, _, _ => []
  | fuel + 1, q, k, bias =>
    let t := threshold k bias
    if q < t then [digit q]
    else digit (t + (q - t) % (36 - t)) :: deltaDigits fuel ((q - t) / (36 - t)) (k + 36) bias

/-- Encode the characters from `n` on; `h` of them are encoded. The fuel is the number of
characters. -/
def encodeFrom (input : List Nat) : Nat → Nat → Nat → Nat → Nat → Bool → List Char
  | 0, _, _, _, _, _ => []
  | fuel + 1, n, delta, bias, h, first =>
    match (input.filter (n ≤ ·)).min? with
    | none => []
    | some m =>
      let step := fun (s : Nat × Nat × Nat × Bool × List Char) (c : Nat) =>
        let (delta, bias, h, first, out) := s
        if c < m then (delta + 1, bias, h, first, out)
        else if c = m then
          (0, adapt delta (h + 1) first, h + 1, false, out ++ deltaDigits (delta + 1) delta 36 bias)
        else s
      let (delta, bias, h, first, out) :=
        input.foldl step (delta + (m - n) * (h + 1), bias, h, first, [])
      out ++ encodeFrom input fuel (m + 1) (delta + 1) bias h first

def encode (s : List Char) : List Char :=
  let basic := s.filter fun c => c.toNat < 128
  let head := if basic.isEmpty then [] else basic ++ ['-']
  head ++ encodeFrom (s.map Char.toNat) s.length 128 0 72 basic.length true

/-- A difference at the front of digits, added to `i`, and the digits behind it. It has to fit
into 32 bits. -/
def readDelta (bias : Nat) : Nat → Nat → Nat → List Char → Option (Nat × List Char)
  | _, _, _, [] => none
  | i, weight, k, c :: s => do
    let d ← value? c
    let i := i + d * weight
    if Nat.pow 2 32 ≤ i then none
    let t := threshold k bias
    if d < t then some (i, s) else readDelta bias i (weight * (36 - t)) (k + 36) s

/-- Put the characters into their places. The fuel is the number of digits. -/
def decodeFrom : Nat → Nat → Nat → Nat → List Nat → List Char → Option (List Nat)
  | _, _, _, _, out, [] => some out
  | 0, _, _, _, _, _ => none
  | fuel + 1, n, i, bias, out, s => do
    let (j, s) ← readDelta bias i 1 36 s
    let count := out.length + 1
    let n := n + j / count
    let place := j % count
    decodeFrom fuel n (place + 1) (adapt (j - i) count (i = 0)) (out.insertIdx place n) s

/-- The text that was encoded. -/
def decode? (s : List Char) : Option (List Char) := do
  let tail := (s.reverse.takeWhile (· != '-')).reverse
  let basic := s.take (s.length - tail.length - 1)
  let digits := if basic.isEmpty then s else tail
  let codes ← decodeFrom digits.length 128 0 72 (basic.map Char.toNat) digits
  codes.mapM fun n => if n.isValidChar then some (Char.ofNat n) else none

end Workflow.Web.Punycode
