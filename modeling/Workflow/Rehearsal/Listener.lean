import Workflow.Event.Bus

/-! Listeners that follow a script, for trying out a bus. -/
namespace Workflow

/-- What a listener does when it is handed an event, in this order, besides noting the event down.
Types of events are given by their names. -/
structure Listener where
  name : String
  looksAtBus : Bool := false
  unsubscribesOn : Option String := none
  publishesOn : Option String := none
  publishes : Option Happening := none
  failsOn : Option String := none
  deriving DecidableEq, Repr

/-- What a listener noted down. -/
inductive Note where
  | event (entry : Entry)
  | bus (length : Nat) (closed : Bool)
  | published (accepted : Bool)
  deriving DecidableEq, Repr

/-- A bus with listeners. -/
structure Audience where
  bus : Bus := {}
  /-- The listener behind each subscription. -/
  listeners : List (Nat × Listener) := []
  /-- The subscriptions that can be given up, by the names of the listeners. -/
  tickets : List (String × Nat) := []
  notes : List (String × Note) := []
  /-- The subscription of each channel, and the places of the events in it. -/
  channels : List (String × Nat × List Nat) := []
  deriving DecidableEq, Repr

namespace Audience

def note (a : Audience) (l : Listener) (n : Note) : Audience :=
  { a with notes := a.notes ++ [(l.name, n)] }

/-- Give up the subscription of a listener, with the answer whether it had one. -/
def unsubscribe (a : Audience) (name : String) : Audience × Bool :=
  match a.tickets.lookup name with
  | none => (a, false)
  | some id =>
    ({ a with bus := a.bus.unsubscribe id, tickets := a.tickets.filter (·.1 != name) }, true)

/-- What a listener does with an event. -/
def react (a : Audience) (l : Listener) (e : Entry) : Audience :=
  let type := some e.what.typeName
  let a := a.note l (.event e)
  let a := if l.looksAtBus then
      a.note l (.bus a.bus.history.entries.length a.bus.history.closed)
    else a
  let a := if l.unsubscribesOn = type then (a.unsubscribe l.name).1 else a
  match l.publishes with
  | some what =>
    if l.publishesOn = type then
      let (bus, accepted) := a.bus.publish what
      { a with bus }.note l (.published accepted)
    else a
  | none => a

/-- Put an event into the channels of a subscription. -/
def send (a : Audience) (id : Nat) (e : Entry) : Audience :=
  { a with
    channels := a.channels.map fun (name, i, seqs) =>
      (name, i, if i = id then seqs ++ [e.seq] else seqs) }

/-- Hand over events until the delivery ends, at most `fuel` of them. -/
def settle : Nat → Audience → Audience
  | 0, a => a
  | fuel + 1, a => match a.bus.current? with
    | none => a
    | some (id, e) => match a.listeners.lookup id with
      | none => settle fuel { a.send id e with bus := a.bus.advance false }
      | some l =>
        let a := a.react l e
        settle fuel { a with bus := a.bus.advance (l.failsOn == some e.what.typeName) }

/-- The number of events that listeners are handed in one go, at most. -/
def patience : Nat := 100000

def publish (a : Audience) (what : Happening) : Audience × Bool :=
  let (bus, accepted) := a.bus.publish what
  (settle patience { a with bus }, accepted)

/-- Let a listener subscribe. It holds its ticket only after it has been handed the past events. -/
def subscribe (a : Audience) (l : Listener) : Audience :=
  let (bus, id) := a.bus.subscribe
  let a := settle patience { a with bus, listeners := (id, l) :: a.listeners }
  { a with tickets := (l.name, id) :: a.tickets.filter (·.1 != l.name) }

/-- Open a channel that keeps events until they are taken out. -/
def openChannel (a : Audience) (name : String) : Audience :=
  let (bus, id) := a.bus.subscribe
  settle patience { a with bus, channels := (name, id, []) :: a.channels.filter (·.1 != name) }

/-- Take the events out of a channel, with the answer whether it gets no more. -/
def drain (a : Audience) (name : String) : Audience × Option (List Nat × Bool) :=
  match a.channels.lookup name with
  | none => (a, none)
  | some (id, seqs) =>
    ({ a with channels := a.channels.map fun (n, i, ss) => (n, i, if n = name then [] else ss) },
      some (seqs, !(a.bus.isSubscribed id)))

/-- The notes of all listeners, which are thrown away. -/
def collect (a : Audience) : List (String × Note) × Audience := (a.notes, { a with notes := [] })

end Audience
end Workflow
