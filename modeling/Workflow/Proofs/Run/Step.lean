import Workflow.Proofs.Run.Settling
import Workflow.Run.Step

/-! What the steps of a run do to it, field by field. -/
namespace Workflow

/-- What the failure of a node does to a run of the graph. -/
def Graph.policy (g : Graph) (id : String) : ErrorPolicy :=
  match g.node? id with
  | some node => node.onError
  | none => .abort

/-- The reason to stop that the result of a node gives, if it gives one. -/
def Graph.verdict (g : Graph) (id : String) : Except NodeFault Outcome → Option Termination
  | .ok outcome => match outcome.route with
    | .finish output => some (.finished output)
    | _ => none
  | .error fault => match g.policy id with
    | .abort => some (.failed ⟨id, fault⟩)
    | .proceed => none

/-- Whether the run goes along an arc after a result of its source. -/
def takes : Except NodeFault Outcome → Arc → Bool
  | .ok outcome => outcome.route.takes
  | .error _ => fun _ => false

/-- What a result writes. -/
def patch : Except NodeFault Outcome → Fields
  | .ok outcome => outcome.patch
  | .error _ => []

/-- The event that tells of a result. -/
def tidings (id : String) (elapsed : ℕ) : Except NodeFault Outcome → Happening
  | .ok outcome => .nodeEnd id outcome.output elapsed
  | .error fault => .nodeError id fault.info

/-- Only the end of an end node and a failure that must not happen stop a run. -/
theorem Graph.verdict_eq_some {g : Graph} {id : String} {result : Except NodeFault Outcome}
    {why : Termination} (h : g.verdict id result = some why) :
    (∃ outcome output, result = .ok outcome ∧ outcome.route = .finish output ∧
      why = .finished output) ∨
    ∃ fault, result = .error fault ∧ why = .failed ⟨id, fault⟩ := by
  cases result with
  | ok outcome =>
    cases hr : outcome.route with
    | finish output =>
      rw [verdict, hr] at h
      exact Or.inl ⟨outcome, output, rfl, hr, (Option.some.inj h).symm⟩
    | all => simp [verdict, hr] at h
    | branch b => simp [verdict, hr] at h
  | error fault =>
    cases hp : g.policy id with
    | abort =>
      rw [verdict, hp] at h
      exact Or.inr ⟨fault, rfl, (Option.some.inj h).symm⟩
    | proceed => simp [verdict, hp] at h

theorem Graph.verdict_ne_drained {g : Graph} {id : String} {result : Except NodeFault Outcome} :
    g.verdict id result ≠ some .drained := by
  intro h
  rcases verdict_eq_some h with ⟨_, _, _, _, hw⟩ | ⟨_, _, hw⟩ <;> cases hw

theorem Graph.verdict_ne_cancelled {g : Graph} {id : String} {result : Except NodeFault Outcome} :
    g.verdict id result ≠ some .cancelled := by
  intro h
  rcases verdict_eq_some h with ⟨_, _, _, _, hw⟩ | ⟨_, _, hw⟩ <;> cases hw

theorem Graph.verdict_of_takes {g : Graph} {id : String} {result : Except NodeFault Outcome}
    {a : Arc} (h : takes result a = true) : g.verdict id result = none := by
  by_contra hv
  obtain ⟨why, hw⟩ := Option.ne_none_iff_exists'.mp hv
  rcases verdict_eq_some hw with ⟨outcome, output, rfl, hr, -⟩ | ⟨fault, rfl, -⟩
  · simp [takes, hr, Route.takes] at h
  · cases h

theorem takes_eq_true {result : Except NodeFault Outcome} {a : Arc} :
    takes result a = true ↔ ∃ outcome, result = .ok outcome ∧ outcome.route.takes a = true := by
  cases result <;> simp [takes]

theorem tidings_ends? (id : String) (elapsed : ℕ) (result : Except NodeFault Outcome) :
    (tidings id elapsed result).ends? = some id := by
  cases result <;> rfl

namespace Run

/-! ### The next move -/

theorem next_eq_start {r : Run} {id : String} :
    r.next = .start id ↔ r.cancelled = false ∧ ∃ ready, r.ready = id :: ready := by
  unfold next
  cases r.cancelled <;> cases r.ready <;> simp
  split <;> simp

theorem next_eq_await {r : Run} :
    r.next = .await ↔ r.cancelled = false ∧ r.ready = [] ∧ r.inFlight ≠ [] := by
  unfold next
  cases r.cancelled <;> cases r.ready <;> cases r.inFlight <;> simp

theorem next_eq_stop {r : Run} {why : Termination} :
    r.next = .stop why ↔ r.cancelled = true ∧ why = .cancelled ∨
      r.cancelled = false ∧ r.ready = [] ∧ r.inFlight = [] ∧ why = .drained := by
  unfold next
  cases r.cancelled <;> cases r.ready <;> cases r.inFlight <;> simp [eq_comm]

/-! ### Starting a node -/

theorem mem_insertId {id v : String} {ids : List String} :
    v ∈ insertId id ids ↔ v = id ∨ v ∈ ids := by
  induction ids with
  | nil => simp [insertId]
  | cons x xs ih =>
    rw [insertId]
    split
    · simp
    · split
      · rename_i h
        simp [h]
      · rw [List.mem_cons, ih, List.mem_cons]
        tauto

theorem insertId_nodup {id : String} {ids : List String} (hids : ids.Nodup) (hid : id ∉ ids) :
    (insertId id ids).Nodup := by
  induction ids with
  | nil => simp [insertId]
  | cons x xs ih =>
    obtain ⟨hx, hxs⟩ := List.nodup_cons.mp hids
    simp only [List.mem_cons, not_or] at hid
    rw [insertId, if_neg hid.1]
    split
    · exact List.nodup_cons.mpr ⟨by simpa using hid, hids⟩
    · refine List.nodup_cons.mpr ⟨fun hmem => ?_, ih hxs hid.2⟩
      rcases mem_insertId.mp hmem with h | h
      · exact hid.1 h.symm
      · exact hx h

/-- The run with the node at the head of its queue in flight. -/
def launch (r : Run) (node : Node) : Run :=
  let r := { r with ready := r.ready.tail }.publish (.nodeStart node.id node.type node.name)
  { r with inFlight := insertId node.id r.inFlight }

theorem start_eq {r : Run} {id : String} {ready : List String} {node : Node}
    (hr : r.ready = id :: ready) (hn : r.graph.node? id = some node) :
    r.start = (r.launch node, some (r.invocation node)) := by
  have hid := Graph.node?_id hn
  subst hid
  simp only [start, hr, hn, launch, List.tail_cons]
  rfl

/-! ### Taking in a result -/

/-- The run after a result is noted down, before the arcs behind the node are settled. -/
def absorb (r : Run) (id : String) (result : Except NodeFault Outcome) (elapsed : ℕ) : Run :=
  { r with
    state := r.state.merge (patch result)
    inFlight := r.inFlight.erase id }.publish (tidings id elapsed result)

/-- Arcs are settled unless the result stops the run. -/
theorem complete_eq (r : Run) (id : String) (result : Except NodeFault Outcome) (elapsed : ℕ) :
    r.complete id result elapsed =
      (if r.graph.verdict id result = none then
        (r.absorb id result elapsed).settleOutgoing id (takes result)
      else r.absorb id result elapsed, r.graph.verdict id result) := by
  cases result with
  | ok outcome =>
    cases hr : outcome.route <;>
      simp [complete, succeed, Graph.verdict, absorb, takes, patch, tidings, hr]
  | error fault =>
    have hpolicy : ({ r with inFlight := r.inFlight.erase id }.publish
        (.nodeError id fault.info)).policy id = r.graph.policy id := rfl
    cases hp : r.graph.policy id <;>
      simp [complete, fail, Graph.verdict, absorb, takes, patch, tidings, hpolicy, hp,
        Fields.merge]

/-- Taking in a result changes who is resolved and ready, and the states of arcs, and beyond that
only what noting the result down changes. -/
theorem complete_fst_eq (r : Run) (id : String) (result : Except NodeFault Outcome)
    (elapsed : ℕ) : ∃ arcs resolved ready, (r.complete id result elapsed).1 =
      { r.absorb id result elapsed with arcs, resolved, ready } := by
  rw [complete_eq]
  dsimp only
  split
  · exact settleOutgoing_eq _ id (takes result)
  · exact ⟨_, _, _, rfl⟩

/-- Who is resolved when a result comes in stays so, and is not queued any more. -/
theorem complete_resolved {r : Run} {id v : String} {result : Except NodeFault Outcome}
    {elapsed : ℕ} (hv : v ∈ r.resolved) :
    v ∈ (r.complete id result elapsed).1.resolved ∧
      (v ∈ (r.complete id result elapsed).1.ready ↔ v ∈ r.ready) := by
  rw [complete_eq]
  dsimp only
  split
  · exact settle_resolved _ _ _ hv
  · exact ⟨hv, Iff.rfl⟩

/-! ### Winding down -/

theorem foldl_report_inFlight (ids : List String) (r : Run) (h : r.inFlight = ids) :
    (ids.foldl report r).inFlight = [] := by
  induction ids generalizing r with
  | nil => exact h
  | cons id ids ih =>
    rw [List.foldl_cons]
    refine ih (r.report id) ?_
    show r.inFlight.erase id = ids
    rw [h, List.erase_cons_head]

theorem windDown_inFlight (r : Run) : r.windDown.inFlight = [] :=
  foldl_report_inFlight r.inFlight r rfl

end Run
end Workflow
