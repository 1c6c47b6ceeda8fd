import Workflow.Proofs.Run.Account
import Workflow.Proofs.Run.Pruning

/-! The order of events: a node starts once, along an arc that was taken before, and only after
everything that leads to it has ended, or is known not to start at all. -/
namespace Workflow.Course

open Workflow.Graph (Path)

variable {allowed : Invocation → Except NodeFault Outcome → Prop} {g : Graph} {input : Fields}
  {c d : Course} {v : String} {before after : List Happening} {what : Happening}

/-- Some event ended the node. -/
def EndedIn (events : List Happening) (v : String) : Prop :=
  ∃ what ∈ events, what.ends? = some v

/-- How the start of a node follows the events before it; `passed` says that the run will not come
to a node. -/
structure Timely (g : Graph) (c : Course) (passed : String → Prop) (before : List Happening)
    (v : String) : Prop where
  /-- The node is the start, or an arc to it leaves a node that has succeeded and whose route goes
  along the arc. -/
  entered : v = g.start ∨ ∃ a ∈ g.arcs, a.target = v ∧ ∃ outcome elapsed,
    (a.source, .ok outcome) ∈ c.results ∧ outcome.route.takes a = true ∧
      .nodeEnd a.source outcome.output elapsed ∈ before
  first : ∀ what ∈ before, what.starts? ≠ some v
  /-- Whatever leads to the node has ended, or never starts. -/
  settled : ∀ u, Path g.arcs u v → EndedIn before u ∨ passed u

theorem Timely.mono {passed passed' : String → Prop} (h : Timely g c passed before v)
    (hresults : c.results ⊆ d.results) (hpassed : ∀ u, passed u → passed' u) :
    Timely g d passed' before v := by
  refine ⟨h.entered.imp_right ?_, h.first, fun u hp => (h.settled u hp).imp_right (hpassed u)⟩
  rintro ⟨a, ha, ht, outcome, elapsed, hmem, hrest⟩
  exact ⟨a, ha, ht, outcome, elapsed, hresults hmem, hrest⟩

/-- The node that is next may start. -/
theorem Sound.timely (hg : g.Valid) (h : c.Sound allowed g input) (ht : c.Told g)
    (hn : c.run.next = .start v) : Timely g c c.Pruned c.whats v := by
  obtain ⟨-, ready, hr⟩ := Run.next_eq_start.mp hn
  have hready : v ∈ c.run.ready := hr ▸ List.mem_cons_self
  have hres := h.settling.ready_resolved v hready
  have hfresh : ¬ c.Given v := h.settling.ready_fresh v hready
  refine ⟨?_, ?_, ?_⟩
  · by_cases hv : v = g.start
    · exact Or.inl hv
    · obtain ⟨a, ha, hat, outcome, hmem, htakes⟩ :=
        (h.settling.kept_iff v hres hv).mp (Or.inl hready)
      obtain ⟨elapsed, htold⟩ := ht.told _ _ hmem
      exact Or.inr ⟨a, ha, hat, outcome, elapsed, hmem, htakes, htold⟩
  · intro what hw hs
    exact hfresh (ht.given_iff_started.mpr ⟨what, hw, hs⟩)
  · intro u hp
    refine (h.settling.of_path hg hp hres).imp_left ?_
    rintro ⟨result, hmem, -⟩
    obtain ⟨elapsed, htold⟩ := ht.told _ _ hmem
    exact ⟨_, htold, tidings_ends? u elapsed result⟩

/-- Every start in the history was timely, with the pruned nodes as those the run will not come
to. -/
theorem Reached.timely (hg : g.Valid) (h : Reached allowed g input c) :
    ∀ before what after, c.whats = before ++ what :: after → what.starts? = some v →
      Timely g c c.Pruned before v := by
  refine Reached.forall_whats (P := fun c before what => what.starts? = some v →
    Timely g c c.Pruned before v) hg (fun hs => by cases hs) ?_ ?_ h
  · intro c d before what hc hstep hb hs
    exact (hb hs).mono hstep.records.2.subset fun u hp => hp.step (Reached.sound hg hc) hstep
  · intro c d what hc hstep hadd hs
    have hsound := Reached.sound hg hc
    have htold := Reached.told hg hc
    obtain ⟨type, name, rfl⟩ := Happening.eq_nodeStart hs
    obtain ⟨node, -, hnext, -⟩ := (hstep.account hsound htold).of_start hadd
    exact (hsound.timely hg htold hnext).mono hstep.records.2.subset fun u hp =>
      hp.step hsound hstep

/-- When a node starts, it is the start node or an arc was taken to it; it has not started before;
and whatever leads to it, also along pruned nodes, has ended or does not start in the whole run. -/
theorem start_timely {w : Definition} (hw : Graph.compile w = .ok g)
    (hc : Reached allowed g input c) (heq : c.whats = before ++ what :: after)
    (hs : what.starts? = some v) :
    Timely g c (fun u => ∀ d, Later allowed c d → ¬ d.Started u) before v := by
  have hg := Graph.compile_valid hw
  refine (hc.timely hg before what after heq hs).mono (List.Subset.refl _) ?_
  intro u hp d hl hstarted
  have htold := Reached.told hg (hc.trans hl)
  exact (hp.later hg (Reached.sound hg hc) hl).2.2 (htold.given_iff_started.mpr hstarted)

/-- The last node of the fork starts when the branch that was taken has ended, although the other
one has not. -/
theorem start_timely_at_join :
    Graph.compile forkWorkflow = .ok fork ∧ Reached (fun _ _ => True) fork forkInput forkJoined ∧
    ∃ before, forkJoined.whats = before ++ .nodeStart "e" .information "e" :: [] ∧
      Timely fork forkJoined
        (fun u => ∀ d, Later (fun _ _ => True) forkJoined d → ¬ d.Started u) before "e" :=
  have heq : forkJoined.whats =
      forkJoined.whats.dropLast ++ .nodeStart "e" .information "e" :: [] := by decide +kernel
  ⟨compile_forkWorkflow, forkJoined_reached, _, heq,
    start_timely compile_forkWorkflow forkJoined_reached heq rfl⟩

end Workflow.Course
