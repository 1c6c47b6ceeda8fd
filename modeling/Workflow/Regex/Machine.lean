import Workflow.Regex.Basic

/-! Machines that find matches: every state leads on to others. -/
namespace Workflow.Regex

/-- A state of a machine. -/
inductive State where
  | one (set : Text.CharSet) (next : Nat)
  | look (l : Look) (next : Nat)
  | split (preferred other : Nat)
  /-- Remember the place in the text under a number. -/
  | save (slot next : Nat)
  | accept
  | stuck
  deriving DecidableEq, Repr, Inhabited

structure Machine where
  states : Array State
  start : Nat
  deriving Repr

/-- Machines are built from their ends: parts know where to go on. -/
abbrev Build := StateM (Array State)

namespace Build

def add (s : State) : Build Nat := fun states => (states.size, states.push s)

def put (n : Nat) (s : State) : Build Unit := modify fun states => states.setIfInBounds n s

def branch (greedy : Bool) (more done : Nat) : State :=
  if greedy then .split more done else .split done more

/-- So many copies of a part in front of `next`. -/
def copies (part : Nat → Build Nat) : Nat → Nat → Build Nat
  | 0, next => pure next
  | n + 1, next => do copies part n (← part next)

/-- Up to so many copies of a part, each of which may lead to `stop` instead. -/
def options (part : Nat → Build Nat) (greedy : Bool) (stop : Nat) : Nat → Nat → Build Nat
  | 0, next => pure next
  | n + 1, next => do
    let start ← part next
    let choice ← add (branch greedy start stop)
    options part greedy stop n choice

/-- One copy of a part or more. -/
def loop (part : Nat → Build Nat) (greedy : Bool) (next : Nat) : Build Nat := do
  let again ← add .stuck
  let start ← part again
  put again (branch greedy start next)
  return start

/-- Any number of copies. Where a copy may match the empty text, it is a choice between one copy or
more and none, which keeps the order of preference. -/
def star (part : Nat → Build Nat) (nullable greedy : Bool) (next : Nat) : Build Nat :=
  if nullable then do
    let start ← loop part greedy next
    add (branch greedy start next)
  else do
    let again ← add .stuck
    let start ← part again
    put again (branch greedy start next)
    return again

end Build

open Build

/-- Build the machine of an expression in front of a state, and give its first state. -/
def build : Regex → Nat → Build Nat
  | empty, next => pure next
  | one chars, next => add (.one chars next)
  | look l, next => add (.look l next)
  | seq a b, next => do a.build (← b.build next)
  | alt a b, next => do
    let first ← a.build next
    let second ← b.build next
    add (.split first second)
  | rep a least most greedy, next => match most with
    | some most => do
      let rest ← options a.build greedy next (most - least) next
      copies a.build least rest
    | none => match least with
      | 0 => star a.build a.isNullable greedy next
      | least + 1 => do copies a.build least (← loop a.build greedy next)
  | group i a, next => do
    let close ← add (.save (2 * i + 1) next)
    let inner ← a.build close
    add (.save (2 * i) inner)

/-- The machine of an expression, which remembers the whole match as the group zero. -/
def machine (r : Regex) : Machine :=
  let (start, states) := (do (group 0 r).build (← add .accept) : Build Nat).run #[]
  ⟨states, start⟩

end Workflow.Regex
