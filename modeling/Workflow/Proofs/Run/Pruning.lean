import Workflow.Proofs.Run.Bookkeeping

/-! Pruned nodes: only skipped arcs lead to them, they stay pruned, and a node is queued only when
all nodes on the paths to it are done or pruned. -/
namespace Workflow

open Workflow.Graph (Path)

/-- Nothing leads to the start node, from which paths lead everywhere. -/
theorem Graph.Valid.not_path_start {g : Graph} (hg : g.Valid) {u : String} :
    ¬ Path g.arcs u g.start := by
  intro hp
  obtain ⟨_, ⟨a, ha, rfl, _⟩, _⟩ := Relation.TransGen.head'_iff.mp hp
  exact hg.acyclic _ (Relation.TransGen.trans_right (hg.reached _ (hg.source_mem a ha)) hp)

/-- Whatever leads to a resolved node is done or pruned. -/
theorem Run.Settling.of_path {g : Graph} {started done : String → Prop} {took : Arc → Prop}
    {stack : List String} {r : Run} (hg : g.Valid) (h : Settling g started done took stack r)
    {u v : String} (hp : Path g.arcs u v) (hv : v ∈ r.resolved) :
    done u ∨ r.Pruned started u := by
  -- Along the last arc first: the source of a settled arc is resolved as well.
  have harc : ∀ a ∈ g.arcs, a.target ∈ r.resolved → done a.source ∨ r.Pruned started a.source := by
    intro a ha hres
    obtain ⟨i, hi⟩ := List.getElem?_of_mem ha
    have hne : a.target ≠ g.start := fun heq =>
      hg.not_path_start (heq ▸ Relation.TransGen.single (Graph.Leads.of_mem ha))
    have hnot := h.entered i a hi hres hne
    rw [ne_eq, h.pending_iff i a hi] at hnot
    tauto
  induction hp with
  | single hl =>
    obtain ⟨a, ha, rfl, rfl⟩ := hl
    exact harc a ha hv
  | tail _ hl ih =>
    obtain ⟨a, ha, rfl, rfl⟩ := hl
    refine ih ?_
    rcases harc a ha hv with hd | hpr
    · exact h.started_resolved _ (h.done_started _ hd)
    · exact hpr.1

namespace Course

variable {allowed : Invocation → Except NodeFault Outcome → Prop} {g : Graph} {input : Fields}
  {c d : Course} {v : String}

/-- The run has decided not to come to the node. -/
def Pruned (c : Course) (v : String) : Prop := c.run.Pruned c.Given v

/-- Invocations and results are never taken back. -/
theorem Step.records (hs : Step allowed c d) : c.given <+: d.given ∧ c.results <+: d.results := by
  cases hs with
  | dispatch he hn => exact ⟨List.prefix_append _ _, List.prefix_rfl⟩
  | complete elapsed he hn hi hf ha => exact ⟨List.prefix_rfl, List.prefix_append _ _⟩
  | _ => exact ⟨List.prefix_rfl, List.prefix_rfl⟩

theorem Pruned.step (h : c.Sound allowed g input) (hp : c.Pruned v) (hs : Step allowed c d) :
    d.Pruned v := by
  obtain ⟨hres, hready, hgiven⟩ := hp
  cases hs with
  | dispatch he hn =>
    obtain ⟨node, ready, hr, hnode, hid, heq⟩ := h.dispatch_eq hn
    rw [hr, List.mem_cons, not_or] at hready
    rw [heq]
    refine ⟨hres, ?_, ?_⟩
    · show v ∉ c.run.ready.tail
      rw [hr, List.tail_cons]
      exact hready.2
    · rw [given_append]
      exact not_or.mpr ⟨hgiven, fun hv => hready.1 (hv.trans hid)⟩
  | complete elapsed he hn hi hf ha =>
    obtain ⟨hres', hready'⟩ := Run.complete_resolved hres
    exact ⟨hres', fun hr => hready (hready'.mp hr), hgiven⟩
  | _ => exact ⟨hres, hready, hgiven⟩

theorem Pruned.later (hg : g.Valid) (h : c.Sound allowed g input) (hp : c.Pruned v)
    (hl : Later allowed c d) : d.Pruned v := by
  induction hl with
  | refl => exact hp
  | tail hl hs ih => exact ih.step (h.later hg hl) hs

theorem Pruned.skipped (h : c.Sound allowed g input) (hp : c.Pruned v) {i : ℕ} {a : Arc}
    (ha : g.arcs[i]? = some a) (ht : a.target = v) : c.run.arcState i = .skipped := by
  obtain ⟨hres, hready, hgiven⟩ := hp
  have hne : v ≠ g.start := by
    rintro rfl
    exact h.settling.start_kept.elim hready hgiven
  have hpending := h.settling.entered i a ha (ht ▸ hres) (ht ▸ hne)
  have htaken : c.run.arcState i ≠ .taken := by
    intro hs
    have hkept := (h.settling.kept_iff v hres hne).mpr
      ⟨a, List.mem_of_getElem? ha, ht, (h.settling.taken_iff i a ha).mp hs⟩
    exact hkept.elim hready hgiven
  cases hs : c.run.arcState i with
  | pending => exact absurd hs hpending
  | taken => exact absurd hs htaken
  | skipped => rfl

end Course
end Workflow
