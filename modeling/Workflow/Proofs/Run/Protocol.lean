import Workflow.Proofs.Run.Telling

/-! The protocol of a finished run: its events are numbered, they stand between the start and the
end of the run, and those of each node between the start and the end of the node. -/
namespace Workflow

/-- A history that tells a whole run, from its start to its end. -/
structure History.Whole (workflow : String) (h : History) : Prop where
  numbered : h.Numbered
  framed : ∃ middle status output error elapsed,
    h.whats = .workflowStart workflow :: (middle ++ [.workflowEnd status output error elapsed]) ∧
      ∀ what ∈ middle, ∃ v, what.node? = some v
  /-- A node starts, publishes parts of its output and ends, each but the parts exactly once; or
  nothing at all is told of it. -/
  nodes : ∀ v, h.about v = [] ∨ Ended v (h.about v)

namespace Course

variable {allowed : Invocation → Except NodeFault Outcome → Prop} {g : Graph} {input : Fields}
  {c : Course}

/-- Whatever nodes do, and whenever the run is cancelled, its history is whole once it has
finished. -/
theorem finished_whole {w : Definition} (hw : Graph.compile w = .ok g)
    (hc : Reached allowed g input c) (hf : c.Finished) :
    c.run.history.Whole g.workflowId := by
  have h := Reached.told (Graph.compile_valid hw) hc
  refine ⟨h.numbered, ?_, fun v => ?_⟩
  · obtain ⟨middle, last, heq, hmiddle, hlast⟩ := h.framed
    obtain ⟨o, ho⟩ := Option.isSome_iff_exists.mp hf
    rw [ho] at hlast
    obtain ⟨elapsed, rfl⟩ := hlast
    exact ⟨middle, _, _, _, _, heq, hmiddle⟩
  · by_cases hv : c.Given v
    · exact Or.inr (h.landed v hv ((h.ended hf).2 ▸ List.not_mem_nil))
    · exact Or.inl (h.silent v hv)

/-- The fork cancelled while a node is in flight; the node goes on publishing parts of its output
until after the end of the run. -/
def forkCancelled : Course :=
  let late (c : Course) : Course := { c with run := c.run.emit "c" .null }
  let cancelled := late { forkBranched with run := forkBranched.run.cancel }
  let stopping : Course := { cancelled with ending := some .cancelled }
  let reported := late { stopping with run := stopping.run.report "c" }
  late { reported with run := reported.run.close .cancelled 3 }

theorem forkCancelled_reached : Reached (fun _ _ => True) fork forkInput forkCancelled := by
  have hemit : ∀ {c : Course}, Reached (fun _ _ => True) fork forkInput c →
      ⟨.ofPayload "c" (.information none), forkInput, none⟩ ∈ c.given →
      Reached (fun _ _ => True) fork forkInput { c with run := c.run.emit "c" .null } :=
    fun hc hi => hc.tail (.emit .null hi)
  have hcancelled := hemit (forkBranched_reached.tail .cancel) (by decide +kernel)
  have hstopping := hcancelled.decide .cancelled (by decide +kernel) (by decide +kernel)
  have hreported := hemit (hstopping.tail (.report rfl (show _ = "c" :: [] by decide +kernel)))
    (by decide +kernel)
  exact hemit (hreported.tail (.close 3 rfl (by decide +kernel) (by decide +kernel)))
    (by decide +kernel)

/-- What the node publishes while it is in flight is told, and nothing after that. -/
theorem finished_whole_of_cancelled :
    Graph.compile forkWorkflow = .ok fork ∧
    Reached (fun _ _ => True) fork forkInput forkCancelled ∧ forkCancelled.Finished ∧
    forkCancelled.about "c" = [.nodeStart "c" .information "c", .nodeOutput "c" .null,
      .nodeError "c" NodeFault.cancelled.info] ∧
    forkCancelled.run.history.Whole "fork" :=
  have hf : forkCancelled.Finished := rfl
  ⟨compile_forkWorkflow, forkCancelled_reached, hf, by decide +kernel,
    finished_whole compile_forkWorkflow forkCancelled_reached hf⟩

end Course
end Workflow
