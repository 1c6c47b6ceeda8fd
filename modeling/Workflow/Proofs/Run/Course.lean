import Workflow.Graph.Compile
import Workflow.Proofs.Run.Step
import Mathlib.Logic.Relation

/-! Courses of runs: every order in which nodes may start, publish parts of their outputs and come
back, with a cancellation at any point. The steps are those of the run itself; a course also keeps
what nodes were given and what came back from them. -/
namespace Workflow

/-- A run, with what has passed between it and its nodes. -/
structure Course where
  run : Run
  /-- The invocations handed out, the latest one last. -/
  given : List Invocation := []
  /-- The results taken in, with the nodes that they came from, the latest one last. -/
  results : List (String × Except NodeFault Outcome) := []
  /-- Why the run stops, once that is decided. -/
  ending : Option Termination := none

namespace Course

/-- A run that has just begun. -/
def begin (g : Graph) (input : Fields) : Course where
  run := (Run.ofGraph g input).begin

/-- The node at the head of the queue starts. -/
def dispatch (c : Course) : Course where
  run := c.run.start.1
  given := c.given ++ c.run.start.2.toList
  results := c.results
  ending := c.ending

/-- The result of a node is taken in. -/
def complete (c : Course) (id : String) (result : Except NodeFault Outcome) (elapsed : ℕ) :
    Course where
  run := (c.run.complete id result elapsed).1
  given := c.given
  results := c.results ++ [(id, result)]
  ending := (c.run.complete id result elapsed).2

/-- The steps of a course. Which results an invocation may have is a parameter. Parts of outputs
come at any time from nodes that have started, also after they have ended; between the reports of
a run that winds down, too. -/
inductive Step (allowed : Invocation → Except NodeFault Outcome → Prop) : Course → Course → Prop
  | dispatch {c : Course} {id : String} (he : c.ending = none) (hn : c.run.next = .start id) :
    Step allowed c c.dispatch
  | complete {c : Course} {inv : Invocation} {result : Except NodeFault Outcome} (elapsed : ℕ)
    (he : c.ending = none) (hn : c.run.next = .await) (hg : inv ∈ c.given)
    (hf : inv.node.id ∈ c.run.inFlight) (ha : allowed inv result) :
    Step allowed c (c.complete inv.node.id result elapsed)
  | decide {c : Course} {why : Termination} (he : c.ending = none) (hn : c.run.next = .stop why) :
    Step allowed c { c with ending := some why }
  | report {c : Course} {why : Termination} {id : String} {rest : List String}
    (he : c.ending = some why) (hf : c.run.inFlight = id :: rest) :
    Step allowed c { c with run := c.run.report id }
  | close {c : Course} {why : Termination} (elapsed : ℕ) (he : c.ending = some why)
    (hf : c.run.inFlight = []) (ho : c.run.outcome = none) :
    Step allowed c { c with run := c.run.close why elapsed }
  | emit {c : Course} {inv : Invocation} (data : Json) (hg : inv ∈ c.given) :
    Step allowed c { c with run := c.run.emit inv.node.id data }
  | cancel {c : Course} : Step allowed c { c with run := c.run.cancel }

/-- What a course may still become. -/
abbrev Later (allowed : Invocation → Except NodeFault Outcome → Prop) : Course → Course → Prop :=
  Relation.ReflTransGen (Step allowed)

/-- The courses of a graph on an input. -/
def Reached (allowed : Invocation → Except NodeFault Outcome → Prop) (g : Graph) (input : Fields)
    (c : Course) : Prop := Later allowed (begin g input) c

/-- The run waits for a node in flight. -/
def Waits (c : Course) : Prop := c.ending = none ∧ c.run.next = .await

/-- The run ends, or has ended, because nothing is left to do. -/
def Drains (c : Course) : Prop := c.ending = some .drained

/-- The run has ended. -/
def Finished (c : Course) : Prop := c.run.outcome.isSome

/-- Some invocation went to the node. -/
def Given (c : Course) (v : String) : Prop := ∃ inv ∈ c.given, inv.node.id = v

/-- Some result came from the node. -/
def Returned (c : Course) (v : String) : Prop := ∃ result, (v, result) ∈ c.results

/-- A result came from the node that did not stop the run. -/
def Done (g : Graph) (c : Course) (v : String) : Prop :=
  ∃ result, (v, result) ∈ c.results ∧ g.verdict v result = none

/-- The node that the arc leaves has succeeded, and its route goes along the arc. -/
def Took (c : Course) (a : Arc) : Prop :=
  ∃ outcome, (a.source, .ok outcome) ∈ c.results ∧ outcome.route.takes a = true

/-! ### Going on with a course -/

section Reached

variable {allowed : Invocation → Except NodeFault Outcome → Prop} {g : Graph} {input : Fields}
  {c : Course}

theorem Reached.dispatch (h : Reached allowed g input c) (id : String) (he : c.ending = none)
    (hn : c.run.next = .start id) : Reached allowed g input c.dispatch := h.tail (.dispatch he hn)

theorem Reached.complete (h : Reached allowed g input c) (inv : Invocation)
    (result : Except NodeFault Outcome) (elapsed : ℕ) (he : c.ending = none)
    (hn : c.run.next = .await) (hg : inv ∈ c.given) (hf : inv.node.id ∈ c.run.inFlight)
    (ha : allowed inv result) : Reached allowed g input (c.complete inv.node.id result elapsed) :=
  h.tail (.complete elapsed he hn hg hf ha)

theorem Reached.decide (h : Reached allowed g input c) (why : Termination) (he : c.ending = none)
    (hn : c.run.next = .stop why) : Reached allowed g input { c with ending := some why } :=
  h.tail (.decide he hn)

end Reached

/-! ### A workflow that forks and joins -/

/-- A condition leads to one of two nodes, and both of them to the last one. -/
def forkWorkflow : Definition where
  id := "fork"
  nodes := [.ofPayload "a" (.start []), .ofPayload "b" (.condition "ready"),
    .ofPayload "c" (.information none), .ofPayload "d" (.information none),
    .ofPayload "e" (.information none)]
  edges := [.between "a" "b", .branch "b" "c" true, .branch "b" "d" false, .between "c" "e",
    .between "d" "e"]

def fork : Graph where
  workflowId := "fork"
  start := "a"
  nodes := forkWorkflow.nodes
  arcs := [⟨"a->b", "a", "b", none⟩, ⟨"b->c:true", "b", "c", some "true"⟩,
    ⟨"b->d:false", "b", "d", some "false"⟩, ⟨"c->e", "c", "e", none⟩, ⟨"d->e", "d", "e", none⟩]
  standalone := []
  conditions := [("b", .path "ready")]
  topoOrder := ["a", "b", "c", "d", "e"]

theorem compile_forkWorkflow : Graph.compile forkWorkflow = .ok fork := by decide +kernel

def forkInput : Fields := [("ready", .bool true)]

/-- The course in which the condition holds, up to the start of the node that it leads to. -/
def forkBranched : Course :=
  (((begin fork forkInput).dispatch.complete "a" (.ok (.ofPatch forkInput)) 0).dispatch.complete "b"
    (.ok ⟨[], .ofPairs [("result", .bool true)], .branch true⟩) 1).dispatch

/-- The same course up to the start of the last node. -/
def forkJoined : Course := (forkBranched.complete "c" (.ok (.ofPatch [])) 0).dispatch

/-- The same course when nothing is left to do. -/
def forkDrained : Course :=
  { forkJoined.complete "e" (.ok (.ofPatch [])) 2 with ending := some .drained }

theorem forkBranched_reached : Reached (fun _ _ => True) fork forkInput forkBranched := by
  have ha := (show Reached (fun _ _ => True) fork forkInput _ from .refl).dispatch "a" rfl
    (by decide +kernel)
  have ha' := ha.complete ⟨.ofPayload "a" (.start []), forkInput, none⟩ (.ok (.ofPatch forkInput)) 0
    rfl (by decide +kernel) (by decide +kernel) (by decide +kernel) trivial
  have hb := ha'.dispatch "b" (by decide +kernel) (by decide +kernel)
  have hb' := hb.complete ⟨.ofPayload "b" (.condition "ready"), forkInput, some (.path "ready")⟩
    (.ok ⟨[], .ofPairs [("result", .bool true)], .branch true⟩) 1 (by decide +kernel)
    (by decide +kernel) (by decide +kernel) (by decide +kernel) trivial
  exact hb'.dispatch "c" (by decide +kernel) (by decide +kernel)

theorem forkJoined_reached : Reached (fun _ _ => True) fork forkInput forkJoined := by
  have hc := forkBranched_reached.complete ⟨.ofPayload "c" (.information none), forkInput, none⟩
    (.ok (.ofPatch [])) 0 (by decide +kernel) (by decide +kernel) (by decide +kernel)
    (by decide +kernel) trivial
  exact hc.dispatch "e" (by decide +kernel) (by decide +kernel)

theorem forkDrained_reached : Reached (fun _ _ => True) fork forkInput forkDrained := by
  have he := forkJoined_reached.complete ⟨.ofPayload "e" (.information none), forkInput, none⟩
    (.ok (.ofPatch [])) 2 (by decide +kernel) (by decide +kernel) (by decide +kernel)
    (by decide +kernel) trivial
  exact he.decide .drained (by decide +kernel) (by decide +kernel)

end Course
end Workflow
