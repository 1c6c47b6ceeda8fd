import Workflow.Regex.Machine
import Workflow.Regex.Parser

/-! The first match in a text, and of those the preferred one. -/
namespace Workflow.Regex

/-- The places that are remembered, the last one first. -/
abbrev Saves := List (Nat × Nat)

/-- Where a machine may go on, in the order of preference. -/
structure Threads where
  /-- Threads in reverse order. -/
  reached : List (Nat × Saves) := []
  visited : Array Bool

namespace Machine

def noThreads (m : Machine) : Threads := { visited := Array.replicate m.states.size false }

/-- Follow the states that need no character, from those on the stack. Every state is taken once, on
the preferred way to it. The fuel bounds the number of states that come onto the stack. -/
def follow (m : Machine) (place : Nat) (before after : Option Char) :
    Nat → List (Nat × Saves) → Threads → Threads
  | 0, _, t => t
  | _ + 1, [], t => t
  | fuel + 1, (n, saves) :: stack, t =>
    if t.visited.getD n true then follow m place before after fuel stack t
    else
      let t := { t with visited := t.visited.setIfInBounds n true }
      match m.states.getD n .stuck with
      | .split a b => follow m place before after fuel ((a, saves) :: (b, saves) :: stack) t
      | .save slot next =>
        follow m place before after fuel ((next, (slot, place) :: saves) :: stack) t
      | .look l next =>
        if l.holds before after then follow m place before after fuel ((next, saves) :: stack) t
        else follow m place before after fuel stack t
      | .stuck => follow m place before after fuel stack t
      | .one _ _ | .accept =>
        follow m place before after fuel stack { t with reached := (n, saves) :: t.reached }

/-- Start at a state, after the threads that there are. -/
def enter (m : Machine) (place : Nat) (before after : Option Char) (n : Nat) (saves : Saves)
    (t : Threads) : Threads :=
  m.follow place before after (2 * m.states.size + 2) [(n, saves)] t

/-- Let the threads read a character, in their order. A thread that accepts ends those behind it,
and its places are given as well. -/
def step (m : Machine) (place : Nat) (c after : Option Char) :
    List (Nat × Saves) → Threads → Option Saves × Threads
  | [], next => (none, next)
  | (n, saves) :: rest, next => match m.states.getD n .stuck with
    | .accept => (some saves, next)
    | .one set target =>
      if c.any set.mem then
        step m place c after rest (m.enter (place + 1) c after target saves next)
      else step m place c after rest next
    | _ => step m place c after rest next

/-- Go through the text from a place on. New threads start as long as there is no match. -/
def run (m : Machine) (place : Nat) (before : Option Char) :
    List Char → Threads → Option Saves → Option Saves
  | [], t, best =>
    let t := if best.isNone then m.enter place before none m.start [] t else t
    let (found, _) := m.step place none none t.reached.reverse m.noThreads
    found.or best
  | c :: rest, t, best =>
    if best.isSome && t.reached.isEmpty then best
    else
      let t := if best.isNone then m.enter place before (some c) m.start [] t else t
      let (found, next) := m.step place (some c) rest.head? t.reached.reverse m.noThreads
      run m (place + 1) (some c) rest next (found.or best)

end Machine

/-- The part of a text that a group matched. -/
structure Span where
  first : Nat
  last : Nat
  deriving DecidableEq, Repr

/-- The span of a group, if it took part. -/
def span? (saves : Saves) (group : Nat) : Option Span := do
  return ⟨← saves.lookup (2 * group), ← saves.lookup (2 * group + 1)⟩

/-- The first match at or behind a place: the rest of the text from there on, and the character
before it. -/
def Machine.find? (m : Machine) (place : Nat) (before : Option Char) (rest : List Char) :
    Option Saves :=
  m.run place before rest m.noThreads none

end Workflow.Regex
