/-! Sets of characters as increasing lists of boundaries. -/
namespace Workflow.Text

/-- The code points where membership changes, in increasing order: a character is in the set when an
odd number of boundaries are at or below it. -/
structure CharSet where
  bounds : List Nat
  deriving DecidableEq, Repr

namespace CharSet

def inside : List Nat → Nat → Bool
  | [], _ => false
  | b :: bs, n => if n < b then false else !inside bs n

def mem (s : CharSet) (c : Char) : Bool := inside s.bounds c.toNat

def empty : CharSet := ⟨[]⟩

/-- The characters from `lo` to `hi`, both included. -/
def range (lo hi : Nat) : CharSet := if hi < lo then ⟨[]⟩ else ⟨[lo, hi + 1]⟩

def singleton (c : Char) : CharSet := range c.toNat c.toNat

/-- Sweep over both lists of boundaries, writing one where the combined membership changes. -/
def sweep (f : Bool → Bool → Bool) (a b cur : Bool) : List Nat → List Nat → List Nat
  | [], [] => []
  | x :: xs, [] => step f (!a) b cur x (sweep f (!a) b (f (!a) b) xs [])
  | [], y :: ys => step f a (!b) cur y (sweep f a (!b) (f a (!b)) [] ys)
  | x :: xs, y :: ys =>
    if x < y then step f (!a) b cur x (sweep f (!a) b (f (!a) b) xs (y :: ys))
    else if y < x then step f a (!b) cur y (sweep f a (!b) (f a (!b)) (x :: xs) ys)
    else step f (!a) (!b) cur x (sweep f (!a) (!b) (f (!a) (!b)) xs ys)
  termination_by xs ys => xs.length + ys.length
where
  step (f : Bool → Bool → Bool) (a b cur : Bool) (x : Nat) (rest : List Nat) : List Nat :=
    if f a b = cur then rest else x :: rest

/-- The set of the characters whose memberships in `s` and `t` satisfy `f`. -/
def combine (f : Bool → Bool → Bool) (s t : CharSet) : CharSet :=
  let rest := sweep f false false (f false false) s.bounds t.bounds
  ⟨if f false false then (match rest with | 0 :: r => r | r => 0 :: r) else rest⟩

def union : CharSet → CharSet → CharSet := combine (· || ·)
def inter : CharSet → CharSet → CharSet := combine (· && ·)
def diff : CharSet → CharSet → CharSet := combine fun a b => a && !b
def symmDiff : CharSet → CharSet → CharSet := combine (· != ·)
def complement (s : CharSet) : CharSet := combine (fun a _ => !a) s empty

/-- The characters of any of the sets. -/
def all (ss : List CharSet) : CharSet := ss.foldl union empty

/-- A part of a table that has been read: the boundaries in reverse order, the beginning of a range
whose end is still to come, and the number that stands last. -/
structure TablePart where
  bounds : List Nat := []
  first : Option Nat := none
  number : Option Nat := none

/-- A number has ended. -/
def TablePart.close (p : TablePart) : TablePart :=
  match p.number with
  | some n => { bounds := (n + 1) :: p.first.getD n :: p.bounds }
  | none => p

def TablePart.step (p : TablePart) (c : Char) : TablePart :=
  if c.isWhitespace then p.close
  else if c = '-' then { p with first := p.number, number := none }
  else
    let digit := if c.isDigit then c.toNat - 48 else c.toNat - 55
    { p with number := some (16 * p.number.getD 0 + digit) }

/-- The set of a table: hexadecimal code points in increasing order, where two around a hyphen are a
range. -/
def ofRanges (table : String) : CharSet :=
  ⟨((table.toList.foldl TablePart.step {}).close).bounds.reverse⟩

def ofChars (cs : List Char) : CharSet := cs.foldl (fun s c => s.union (singleton c)) empty

end CharSet
end Workflow.Text
