import Workflow.Proofs.Run.Merging
import Workflow.Proofs.Run.Pruning

/-! The trail of a course: the state is what its results have written, in an order that follows the
arcs, and every node saw the state at a moment when everything that leads to it was settled. -/
namespace Workflow.Course

open Workflow.Graph (Path)

variable {allowed : Invocation → Except NodeFault Outcome → Prop} {g : Graph} {input : Fields}
  {c d : Course} {inv : Invocation} {before : List (String × Except NodeFault Outcome)}

/-- The results that were there when an invocation was handed out. What leads to its node had come
back or was pruned, and nothing had come back from the node itself or from what it leads to. -/
structure Saw (g : Graph) (c : Course) (inv : Invocation)
    (before : List (String × Except NodeFault Outcome)) : Prop where
  initial : before <+: c.results
  input_eq : inv.input = inv.node.view c.run.input (merged before)
  settled : ∀ u, Path g.arcs u inv.node.id → (∃ result, (u, result) ∈ before) ∨ c.Pruned u
  fresh : ∀ x ∈ before, x.1 ≠ inv.node.id ∧ ¬ Path g.arcs inv.node.id x.1

/-- The state, and the order of the results, along a course. -/
structure Trail (g : Graph) (c : Course) : Prop where
  state_eq : c.run.state = merged c.results
  ordered : Respects (Path g.arcs) c.results
  saw : ∀ inv ∈ c.given, ∃ before, Saw g c inv before
  outcome_eq : ∀ o, c.run.outcome = some o →
    ∃ why, c.ending = some why ∧ o = c.run.outcomeOf why

theorem Saw.mono (h : Saw g c inv before) (hresults : c.results <+: d.results)
    (hinput : d.run.input = c.run.input) (hpruned : ∀ u, c.Pruned u → d.Pruned u) :
    Saw g d inv before :=
  ⟨h.initial.trans hresults, hinput ▸ h.input_eq,
    fun u hp => (h.settled u hp).imp_right (hpruned u), h.fresh⟩

theorem begin_trail : (begin g input).Trail g :=
  ⟨rfl, List.Pairwise.nil, fun _ hi => absurd hi List.not_mem_nil, fun _ ho => by cases ho⟩

/-- What leads to a node that has come back or is in flight has itself come back, or is pruned. -/
theorem Sound.settled_of_given (hg : g.Valid) (h : c.Sound allowed g input) {u v : String}
    (hv : c.Given v) (hp : Path g.arcs u v) : (∃ result, (u, result) ∈ c.results) ∨ c.Pruned u :=
  (h.settling.of_path hg hp (h.settling.started_resolved v hv)).imp_left
    fun ⟨result, hr, _⟩ => ⟨result, hr⟩

theorem Sound.saw (hg : g.Valid) (h : c.Sound allowed g input) (ht : c.Trail g) {node : Node}
    (hready : node.id ∈ c.run.ready) :
    Saw g c ((c.run.launch node).invocation node) c.results := by
  have hfresh : ¬ c.Given node.id := h.settling.ready_fresh _ hready
  have hres := h.settling.ready_resolved _ hready
  refine ⟨List.prefix_rfl, ?_, fun u hp => ?_, fun x hx => ⟨?_, fun hp => ?_⟩⟩
  · show node.view c.run.input c.run.state = node.view c.run.input (merged c.results)
    rw [ht.state_eq]
  · exact (h.settling.of_path hg hp hres).imp_left fun ⟨result, hr, _⟩ => ⟨result, hr⟩
  · rintro hx'
    exact hfresh (h.given ⟨x.2, hx' ▸ hx⟩)
  · have hgiven : c.Given x.1 := h.given ⟨x.2, hx⟩
    rcases h.settled_of_given hg hgiven hp with ⟨result, hr⟩ | hpruned
    · exact hfresh (h.given ⟨result, hr⟩)
    · exact hpruned.2.1 hready

theorem Trail.dispatch (hg : g.Valid) (ht : c.Trail g) (h : c.Sound allowed g input) {id : String}
    (he : c.ending = none) (hn : c.run.next = .start id) : c.dispatch.Trail g := by
  have hpruned : ∀ u, c.Pruned u → c.dispatch.Pruned u := fun u hp =>
    hp.step h (Step.dispatch he hn : Step allowed c c.dispatch)
  obtain ⟨node, ready, hr, hnode, rfl, heq⟩ := h.dispatch_eq hn
  have hstate : c.dispatch.run.state = c.run.state := by rw [heq]; rfl
  have hinput : c.dispatch.run.input = c.run.input := by rw [heq]; rfl
  have hout : c.dispatch.run.outcome = c.run.outcome := by rw [heq]; rfl
  refine ⟨hstate.trans ht.state_eq, ht.ordered, fun inv hi => ?_, fun o ho => ?_⟩
  · rw [heq] at hi
    rcases List.mem_append.mp hi with hi | hi
    · obtain ⟨before, hb⟩ := ht.saw inv hi
      exact ⟨before, hb.mono List.prefix_rfl hinput hpruned⟩
    · obtain rfl := List.mem_singleton.mp hi
      have hsaw := h.saw hg ht (hr ▸ List.mem_cons_self : node.id ∈ c.run.ready)
      exact ⟨c.results, hsaw.mono List.prefix_rfl hinput hpruned⟩
  · obtain ⟨why, hw, -⟩ := ht.outcome_eq o (hout.symm.trans ho)
    exact absurd (he.symm.trans hw) (by simp)

theorem Trail.complete (hg : g.Valid) (ht : c.Trail g) (h : c.Sound allowed g input)
    {result : Except NodeFault Outcome} {elapsed : ℕ} (he : c.ending = none)
    (hf : inv.node.id ∈ c.run.inFlight)
    (hpruned : ∀ u, c.Pruned u → (c.complete inv.node.id result elapsed).Pruned u) :
    (c.complete inv.node.id result elapsed).Trail g := by
  obtain ⟨arcs, resolved, ready, hrun⟩ := Run.complete_fst_eq c.run inv.node.id result elapsed
  have hstate : (c.complete inv.node.id result elapsed).run.state =
      c.run.state.merge (patch result) := congrArg Run.state hrun
  refine ⟨?_, ?_, fun inv' hi => ?_, fun o ho => ?_⟩
  · rw [hstate, ht.state_eq]
    exact (merged_concat c.results (inv.node.id, result)).symm
  · refine List.pairwise_append.mpr ⟨ht.ordered, List.pairwise_singleton _ _, ?_⟩
    intro x hx y hy hp
    obtain rfl := List.mem_singleton.mp hy
    -- What leads to a node that has come back is not in flight any more.
    rcases h.settled_of_given hg (h.given ⟨x.2, hx⟩) hp with ⟨r, hr⟩ | hpr
    · exact h.inFlight_fresh _ hf ⟨r, hr⟩
    · exact hpr.2.2 (h.inFlight_given _ hf)
  · obtain ⟨before, hb⟩ := ht.saw inv' hi
    exact ⟨before, hb.mono (List.prefix_append _ _) ((congrArg Run.input hrun).trans rfl) hpruned⟩
  · have hout : c.run.outcome = some o := ((congrArg Run.outcome hrun).trans rfl).symm.trans ho
    obtain ⟨why, hw, -⟩ := ht.outcome_eq o hout
    exact absurd (he.symm.trans hw) (by simp)

/-- Steps that leave results, input and state alone leave the trail as it is, but for how the run
turns out. -/
theorem Trail.congr (ht : c.Trail g) {run : Run} {ending : Option Termination}
    (hstate : run.state = c.run.state) (hinput : run.input = c.run.input)
    (hpruned : ∀ u, c.Pruned u → Pruned { c with run, ending } u)
    (hout : ∀ o, run.outcome = some o → ∃ why, ending = some why ∧ o = run.outcomeOf why) :
    Trail g { c with run, ending } := by
  refine ⟨hstate.trans ht.state_eq, ht.ordered, fun inv hi => ?_, hout⟩
  obtain ⟨before, hb⟩ := ht.saw inv hi
  exact ⟨before, hb.mono List.prefix_rfl hinput hpruned⟩

theorem Trail.step (hg : g.Valid) (ht : c.Trail g) (h : c.Sound allowed g input)
    (hs : Step allowed c d) : d.Trail g := by
  have hpruned : ∀ u, c.Pruned u → d.Pruned u := fun u hp => hp.step h hs
  cases hs with
  | dispatch he hn => exact ht.dispatch hg h he hn
  | complete elapsed he hn hi hf ha => exact ht.complete hg h he hf hpruned
  | decide he hn =>
    refine ht.congr rfl rfl hpruned fun o ho => ?_
    obtain ⟨why, hw, -⟩ := ht.outcome_eq o ho
    exact absurd (he.symm.trans hw) (by simp)
  | report he hf => exact ht.congr rfl rfl hpruned ht.outcome_eq
  | @close why elapsed he hf ho =>
    refine ht.congr rfl rfl hpruned fun o ho => ?_
    exact ⟨why, he, (Option.some.inj ho).symm⟩
  | emit data hi => exact ht.congr rfl rfl hpruned ht.outcome_eq
  | cancel => exact ht.congr rfl rfl hpruned ht.outcome_eq

theorem Reached.trail (hg : g.Valid) (h : Reached allowed g input c) : c.Trail g := by
  induction h with
  | refl => exact begin_trail
  | tail hl hs ih => exact ih.step hg (Reached.sound hg hl) hs

end Workflow.Course
