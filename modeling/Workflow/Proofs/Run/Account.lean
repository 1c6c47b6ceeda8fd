import Workflow.Proofs.Run.Telling

/-! What a step does to a course, by the event that it adds to the history: a node starts, a node
comes back, or neither. Once a run is cancelled or has a reason to stop, it is neither. -/
namespace Workflow

/-- The events of a run that winds down. -/
def Happening.Fades : Happening → Prop
  | .nodeOutput _ _ | .workflowEnd _ _ _ _ => True
  | .nodeError _ error => error = NodeFault.cancelled.info
  | .workflowStart _ | .nodeStart _ _ _ | .nodeEnd _ _ _ => False

theorem Happening.Fades.starts? {what : Happening} (h : what.Fades) : what.starts? = none := by
  cases what with
  | nodeStart v type name => exact h.elim
  | _ => rfl

/-- The only end of a node that is told of while a run winds down is that it was cancelled. -/
theorem Happening.Fades.eq_nodeError {what : Happening} {v : String} (h : what.Fades)
    (hv : what.ends? = some v) : what = .nodeError v NodeFault.cancelled.info := by
  cases what with
  | nodeError id error =>
    cases hv
    exact congrArg _ h
  | nodeEnd id output elapsed => exact h.elim
  | _ => cases hv

namespace Course

variable {allowed : Invocation → Except NodeFault Outcome → Prop} {g : Graph} {input : Fields}
  {c d : Course}

/-- The run comes to no other node: it is cancelled, or has a reason to stop. -/
def Stops (c : Course) : Prop := c.run.cancelled = true ∨ c.ending ≠ none

/-- What a step does. -/
inductive Account (allowed : Invocation → Except NodeFault Outcome → Prop) (g : Graph)
    (c d : Course) : Prop
  | starts (node : Node) (hgo : ¬ c.Stops) (hn : c.run.next = .start node.id)
    (hnode : g.node? node.id = some node) (hgiven : d.given = c.given ++ [c.run.invocation node])
    (hwhats : d.whats = c.whats ++ [.nodeStart node.id node.type node.name])
    (hstate : d.run.state = c.run.state) (hending : d.ending = none)
    (hresults : d.results = c.results)
  | returns (inv : Invocation) (result : Except NodeFault Outcome) (elapsed : ℕ) (hgo : ¬ c.Stops)
    (hi : inv ∈ c.given) (ha : allowed inv result) (hgiven : d.given = c.given)
    (hwhats : d.whats = c.whats ++ [tidings inv.node.id elapsed result])
    (hstate : d.run.state = c.run.state.merge (patch result))
    (hending : d.ending = g.verdict inv.node.id result)
    (hresults : d.results = c.results ++ [(inv.node.id, result)])
  /-- Nothing, or an event of a run that winds down, but the end of a node only when the run has a
  reason to stop before everything is done. -/
  | passes (hgiven : d.given = c.given)
    (hwhats : d.whats = c.whats ∨ ∃ what, d.whats = c.whats ++ [what] ∧ what.Fades ∧
      (what.ends? ≠ none → c.ending ≠ none ∧ c.ending ≠ some .drained))
    (hstate : d.run.state = c.run.state)
    (hcancelled : c.run.cancelled = true → d.run.cancelled = true)
    (hending : d.ending = c.ending ∨ c.ending = none ∧ (d.ending = some .cancelled ∨
      d.ending = some .drained ∧ c.run.cancelled = false))
    (hresults : d.results = c.results)

theorem Step.account (h : c.Sound allowed g input) (ht : c.Told g) (hs : Step allowed c d) :
    Account allowed g c d := by
  have hgo : c.ending = none → c.run.cancelled = false → ¬ c.Stops := by
    intro he hc hstops
    rcases hstops with hx | hx
    · exact Bool.noConfusion (hc.symm.trans hx)
    · exact hx he
  have htell : ∀ (run : Run) (what : Happening), run.history = c.run.history.publish what →
      what.Fades → (what.ends? ≠ none → c.ending ≠ none ∧ c.ending ≠ some .drained) →
      run.history.whats = c.whats ∨ ∃ what, run.history.whats = c.whats ++ [what] ∧ what.Fades ∧
        (what.ends? ≠ none → c.ending ≠ none ∧ c.ending ≠ some .drained) := by
    intro run what hhist hfades hends
    rw [hhist]
    exact (History.whats_publish_cases _ what).imp_right fun hw => ⟨what, hw, hfades, hends⟩
  cases hs with
  | dispatch he hn =>
    obtain ⟨node, ready, hr, hnode, rfl, heq⟩ := h.dispatch_eq hn
    have ha := ht.admits_start (ht.not_finished he) node.id node.type node.name
    refine .starts node (hgo he (Run.next_eq_start.mp hn).1) hn hnode ?_ ?_ ?_ ?_ rfl
    · rw [heq]
    · rw [heq]
      show (c.run.history.publish _).whats = c.run.history.whats ++ _
      rw [History.whats_publish, if_pos ha]
    · rw [heq]
      rfl
    · rw [heq]
      exact he
  | @complete inv result elapsed he hn hi hf ha =>
    obtain ⟨arcs, resolved, ready, hrun⟩ := Run.complete_fst_eq c.run inv.node.id result elapsed
    have hadmits := ht.admits_end (ht.not_finished he) hf (tidings_ends? inv.node.id elapsed result)
    refine .returns inv result elapsed (hgo he (Run.next_eq_await.mp hn).1) hi ha rfl ?_
      (congrArg Run.state hrun) ?_ rfl
    · have hhist : (c.complete inv.node.id result elapsed).run.history =
          c.run.history.publish (tidings inv.node.id elapsed result) := congrArg Run.history hrun
      rw [whats, hhist, History.whats_publish, if_pos hadmits]
      rfl
    · show (c.run.complete inv.node.id result elapsed).2 = _
      rw [Run.complete_eq, h.settling.graph_eq]
  | @decide why he hn =>
    refine .passes rfl (Or.inl rfl) rfl (fun hc => hc) (Or.inr ⟨he, ?_⟩) rfl
    rcases Run.next_eq_stop.mp hn with ⟨-, rfl⟩ | ⟨hc, -, -, rfl⟩
    · exact Or.inl rfl
    · exact Or.inr ⟨rfl, hc⟩
  | @report why id rest he hf =>
    -- A run that drains has nothing in flight to report.
    have hdrained : why ≠ .drained := by
      rintro rfl
      have hnil := (h.of_drains he).2
      rw [hf] at hnil
      cases hnil
    refine .passes rfl (htell _ (.nodeError id NodeFault.cancelled.info) rfl rfl fun _ => ?_)
      rfl (fun hc => hc) (Or.inl rfl) rfl
    rw [he]
    exact ⟨Option.some_ne_none why, fun hw => hdrained (Option.some.inj hw)⟩
  | @close why elapsed he hf ho =>
    obtain ⟨what, hhist, hfades, hends⟩ : ∃ what, (c.run.close why elapsed).history =
        c.run.history.publish what ∧ what.Fades ∧ what.ends? = none := ⟨_, rfl, trivial, rfl⟩
    exact .passes rfl (htell _ what hhist hfades fun hx => absurd hends hx) rfl (fun hc => hc)
      (Or.inl rfl) rfl
  | @emit inv data hi =>
    exact .passes rfl (htell _ (.nodeOutput inv.node.id data) rfl trivial fun hx => absurd rfl hx)
      rfl (fun hc => hc) (Or.inl rfl) rfl
  | cancel => exact .passes rfl (Or.inl rfl) rfl (fun _ => rfl) (Or.inl rfl) rfl

/-- A step adds at most one event. -/
theorem Account.whats (h : Account allowed g c d) :
    d.whats = c.whats ∨ ∃ what, d.whats = c.whats ++ [what] := by
  cases h with
  | starts node hgo hn hnode hgiven hwhats hstate hending => exact Or.inr ⟨_, hwhats⟩
  | returns inv result elapsed hgo hi ha hgiven hwhats hstate hending => exact Or.inr ⟨_, hwhats⟩
  | passes hgiven hwhats hstate hcancelled hending =>
    exact hwhats.imp_right fun ⟨what, hw, _⟩ => ⟨what, hw⟩

theorem whats_concat_inj {what what' : Happening} (h : d.whats = c.whats ++ [what])
    (h' : d.whats = c.whats ++ [what']) : what = what' :=
  List.singleton_inj.mp (List.append_cancel_left (h.symm.trans h'))

/-- A step that tells of a start has handed out an invocation of the node. -/
theorem Account.of_start (h : Account allowed g c d) {v name : String} {type : NodeType}
    (hw : d.whats = c.whats ++ [.nodeStart v type name]) :
    ∃ node, node.id = v ∧ c.run.next = .start v ∧ c.run.invocation node ∈ d.given := by
  cases h with
  | starts node hgo hn hnode hgiven hwhats hstate hending =>
    cases whats_concat_inj hw hwhats
    exact ⟨node, rfl, hn, by simp [hgiven]⟩
  | returns inv result elapsed hgo hi ha hgiven hwhats hstate hending =>
    have hs := whats_concat_inj hw hwhats
    cases result <;> cases hs
  | passes hgiven hwhats hstate hcancelled hending =>
    rcases hwhats with hwhats | ⟨new, hwhats, hfades, -⟩
    · simp [hw] at hwhats
    · rw [← whats_concat_inj hw hwhats] at hfades
      exact hfades.elim

/-- A step that tells of an end has taken in the outcome of the node. -/
theorem Account.of_end (h : Account allowed g c d) {v : String} {output : Json} {elapsed : ℕ}
    (hw : d.whats = c.whats ++ [.nodeEnd v output elapsed]) :
    ∃ inv outcome, inv ∈ c.given ∧ allowed inv (.ok outcome) ∧ v = inv.node.id ∧
      output = outcome.output := by
  cases h with
  | starts node hgo hn hnode hgiven hwhats hstate hending => cases whats_concat_inj hw hwhats
  | returns inv result elapsed hgo hi ha hgiven hwhats hstate hending =>
    have hs := whats_concat_inj hw hwhats
    cases result with
    | ok outcome =>
      cases hs
      exact ⟨inv, outcome, hi, ha, rfl, rfl⟩
    | error fault => cases hs
  | passes hgiven hwhats hstate hcancelled hending =>
    rcases hwhats with hwhats | ⟨new, hwhats, hfades, -⟩
    · simp [hw] at hwhats
    · rw [← whats_concat_inj hw hwhats] at hfades
      exact hfades.elim

/-- What holds of every event when it is told, and of an event told before when a step is made,
holds of all events of the history, each with those before it. -/
theorem Reached.forall_whats (hg : g.Valid) {P : Course → List Happening → Happening → Prop}
    (hfirst : P (begin g input) [] (.workflowStart g.workflowId))
    (hkeep : ∀ c d before what, Reached allowed g input c → Step allowed c d →
      P c before what → P d before what)
    (hnew : ∀ c d what, Reached allowed g input c → Step allowed c d →
      d.whats = c.whats ++ [what] → P d c.whats what)
    (h : Reached allowed g input c) :
    ∀ before what after, c.whats = before ++ what :: after → P c before what := by
  induction h with
  | refl =>
    intro before what after heq
    have hwhats : (begin g input).whats = [.workflowStart g.workflowId] := rfl
    rw [hwhats] at heq
    obtain ⟨rfl, h⟩ | ⟨-, h⟩ := List.singleton_eq_append_iff.mp heq
    · cases h
      exact hfirst
    · cases h
  | @tail c d hl hstep ih =>
    intro before what after heq
    rcases (hstep.account (Reached.sound hg hl) (Reached.told hg hl)).whats with hsame | ⟨new, hadd⟩
    · exact hkeep c d before what hl hstep (ih before what after (hsame ▸ heq))
    · rcases List.eq_nil_or_concat after with rfl | ⟨rest, last, rfl⟩
      · -- The event is the one that the step has added.
        obtain ⟨rfl, hlast⟩ := List.append_inj' (hadd.symm.trans heq) rfl
        cases hlast
        exact hnew c d what hl hstep hadd
      · rw [List.concat_eq_append, ← List.cons_append, ← List.append_assoc] at heq
        obtain ⟨hold, -⟩ := List.append_inj' (hadd.symm.trans heq) rfl
        exact hkeep c d before what hl hstep (ih before what rest hold)

end Course
end Workflow
