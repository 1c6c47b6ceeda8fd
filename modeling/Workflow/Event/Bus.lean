import Workflow.Event.Basic

/-! The event bus. It hands every event to every subscriber, one at a time; a subscriber may call
the bus while it is being handed an event. -/
namespace Workflow

structure Subscriber where
  id : Nat
  /-- The number of events that were set apart for the subscriber so far. -/
  cursor : Nat
  deriving DecidableEq, Repr

/-- A bus. While a delivery is going on, `batch` holds the events that are still to be handed over,
each subscriber with at least one, and the subscriber at its head is being handed its first one. -/
structure Bus where
  history : History := {}
  subscribers : List Subscriber := []
  nextId : Nat := 0
  batch : List (Nat × List Entry) := []
  deriving DecidableEq, Repr

namespace Bus

/-- The events that a subscriber has not seen, if there are any. -/
def pending (b : Bus) (s : Subscriber) : Option (Nat × List Entry) :=
  match b.history.entries.drop s.cursor with
  | [] => none
  | entries => some (s.id, entries)

/-- Set apart for every subscriber what it has not seen. When there is nothing, the delivery is
over, and a closed bus lets its subscribers go. -/
def gather (b : Bus) : Bus :=
  match b.subscribers.filterMap b.pending with
  | [] => if b.history.closed then { b with batch := [], subscribers := [] }
    else { b with batch := [] }
  | batch =>
    let seen := b.history.entries.length
    { b with batch, subscribers := b.subscribers.map fun s => { s with cursor := seen } }

/-- Start a delivery unless one is going on. -/
def deliver (b : Bus) : Bus := if b.batch.isEmpty then b.gather else b

/-- Publish an event, with the answer whether it was let in. -/
def publish (b : Bus) (what : Happening) : Bus × Bool :=
  if b.history.admits what then
    (deliver { b with history := b.history.append what }, true)
  else (b, false)

/-- A new subscriber, with its id. It is handed all events from the first one on. -/
def subscribe (b : Bus) : Bus × Nat :=
  (deliver { b with subscribers := b.subscribers ++ [⟨b.nextId, 0⟩], nextId := b.nextId + 1 },
    b.nextId)

/-- From now on nothing is set apart for the subscriber. -/
def unsubscribe (b : Bus) (id : Nat) : Bus :=
  { b with subscribers := b.subscribers.filter (·.id != id) }

/-- The subscriber that is being handed an event, and the event. -/
def current? (b : Bus) : Option (Nat × Entry) :=
  match b.batch with
  | (id, e :: _) :: _ => some (id, e)
  | _ => none

/-- What follows when the subscriber at the head of the batch is done with its event. A subscriber
that failed is unsubscribed, and the rest of what was set apart for it is dropped. -/
def advance (b : Bus) (failed : Bool) : Bus :=
  match b.batch with
  | [] => b
  | (id, entries) :: rest =>
    let b := if failed then b.unsubscribe id else b
    let batch := if failed || entries.length ≤ 1 then rest else (id, entries.drop 1) :: rest
    if batch.isEmpty then gather { b with batch } else { b with batch }

/-- Whether the subscriber still gets events. -/
def isSubscribed (b : Bus) (id : Nat) : Bool := b.subscribers.any (·.id == id)

end Bus
end Workflow
