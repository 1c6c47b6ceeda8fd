import Workflow.Regex.Basic
import Workflow.Text.ByteRange

/-! The space that an expression takes when it is laid out as automata over bytes, one that reads
forward and one that reads backward. An expression that takes too much of it is refused. -/
namespace Workflow.Regex

open Text

/-- The ways to read a text. Groups are remembered on the way forward only. -/
inductive Direction where
  | forward
  | backward
  deriving DecidableEq, Repr

/-- What any state takes. -/
def stateSpace : Nat := 32

/-- What a way out of a state takes for a byte range. -/
def rangeSpace : Nat := 8

/-- What a way out of a state takes that reads nothing. -/
def linkSpace : Nat := 4

/-- The byte ranges at the front of sequences, each with what follows it. Equal fronts stand side by
side. -/
def branches (sequences : List (List ByteRange)) : List (ByteRange × List (List ByteRange)) :=
  sequences.foldr step []
where
  step (s : List ByteRange) (rest : List (ByteRange × List (List ByteRange))) :=
    match s, rest with
    | [], rest => rest
    | b :: s, (b', tails) :: more =>
      if b = b' then (b, s :: tails) :: more else (b, [s]) :: (b', tails) :: more
    | b :: s, [] => [(b, [s])]

/-- The fronts of sequences of up to so many byte ranges, equal ones counted once. -/
def frontCount : Nat → List (List ByteRange) → Nat
  | 0, _ => 0
  | length + 1, sequences =>
    ((branches sequences).map fun (_, tails) => 1 + frontCount length tails).foldr (· + ·) 0

/-- What can be left to read behind up to so many byte ranges. -/
def remainders : Nat → List (List (List ByteRange)) → List (List (List ByteRange))
  | 0, _ => []
  | length + 1, level =>
    let level := (level.filter (· ≠ [[]])).eraseDups
    level ++ remainders length (level.flatMap fun n => (branches n).map (·.2))

/-- The greatest number of bytes of a character. -/
def longestCharacter : Nat := 4

/-- The space for one character of a set. The way forward has a state for each remainder, and the
way backward one for each front. -/
def setSpace (direction : Direction) (s : CharSet) : Nat :=
  match s.ranges with
  | [] => stateSpace
  | [(lo, hi)] =>
    if lo = hi then (Char.ofNat lo).utf8Size * stateSpace else several
  | _ => several
where
  several : Nat :=
    if s.ranges.all (·.2 < 128) then 2 * stateSpace + s.ranges.length * rangeSpace
    else
      let sequences := s.byteRanges
      match direction with
      | .forward =>
        let states := (remainders longestCharacter [sequences]).eraseDups
        stateSpace
          + (states.map fun n => stateSpace + (branches n).length * rangeSpace).foldr (· + ·) 0
      | .backward =>
        2 * stateSpace + sequences.length * linkSpace
          + frontCount longestCharacter sequences * stateSpace

/-- The set of an alternative between single characters. -/
def choice? : Regex → Option CharSet
  | one s => some s
  | alt a b => do return (← a.choice?).union (← b.choice?)
  | _ => none

/-- The space of an expression. Alternatives that are `among` others share a state with them. -/
def space (direction : Direction) : Regex → Bool → Nat
  | empty, among => stateSpace + link among
  | one s, among => setSpace direction s + link among
  | look _, among => stateSpace + link among
  | seq a b, among =>
    link among + (if a = empty then 0 else a.space direction false)
      + if b = empty then 0 else b.space direction false
  | alt a b, among =>
    match if among then none else choice? (alt a b) with
    | some s => setSpace direction s
    | none =>
      (if among then 0 else 2 * stateSpace) + a.space direction true + b.space direction true
  | rep a least most _, among =>
    let copy := a.space direction false
    let fork := stateSpace + 2 * linkSpace
    link among + match most with
      | some 0 => stateSpace
      | some most =>
        least * copy + (if least = most then 0 else stateSpace + (most - least) * (copy + fork))
      | none => match least with
        | 0 => if a.isNullable then copy + 2 * fork + stateSpace else copy + fork
        | least => least * copy + fork
  | group _ a, among =>
    link among + a.space direction false
      + match direction with
        | .forward => 2 * stateSpace
        | .backward => 0
where
  link (among : Bool) : Nat := if among then linkSpace else 0

/-- The greatest space that an expression may take in either direction. -/
def greatestSpace : Nat := 10 * Nat.pow 2 20

/-- What an expression takes besides its own space: the state that accepts, and those in front of it
that pass over any bytes. -/
def frameSpace : Direction → Nat
  | .forward => 7 * stateSpace
  | .backward => 5 * stateSpace

def isSmall (r : Regex) : Bool :=
  [Direction.forward, .backward].all fun d => r.space d false + frameSpace d ≤ greatestSpace

end Workflow.Regex
