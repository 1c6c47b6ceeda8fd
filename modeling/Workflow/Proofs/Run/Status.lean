import Workflow.Proofs.Run.Replay

/-! Why runs end as they do: the status, the output and the error of a finished run are those that
its history tells, and the history shows which node has decided them. -/
namespace Workflow

/-- The outcome ends the run, with the output that it shows, just if the node is an end node. -/
def Node.Finishes (node : Node) (outcome : Outcome) : Prop :=
  ∀ output, outcome.route = .finish output ↔ node.type = .finish ∧ output = outcome.output

theorem Delivers.finishes {inv : Invocation} {outcome : Outcome} (h : Delivers inv (.ok outcome)) :
    inv.node.Finishes outcome := h.outturn.finish_iff

theorem Graph.verdict_ok_eq_none {g : Graph} {v : String} {outcome : Outcome} :
    g.verdict v (.ok outcome) = none ↔ ∀ output, outcome.route ≠ .finish output := by
  cases hr : outcome.route with
  | finish output => simp [verdict, hr]
  | all => simp [verdict, hr]
  | branch result => simp [verdict, hr]

namespace Course

variable {allowed : Invocation → Except NodeFault Outcome → Prop} {g : Graph} {input : Fields}
  {c d : Course} {results prior : List (String × Except NodeFault Outcome)}
  {events before after : List Happening} {v : String} {result : Except NodeFault Outcome}
  {why : Termination}

/-! ### The result that decides how a run ends -/

/-- The nodes that have ended are those that came back, and none has given a reason to stop. -/
structure Undecided (g : Graph) (results : List (String × Except NodeFault Outcome))
    (events : List Happening) : Prop where
  verdict_eq : ∀ v result, (v, result) ∈ results → g.verdict v result = none
  returned : ∀ what ∈ events, ∀ v, what.ends? = some v →
    ∃ result elapsed, (v, result) ∈ results ∧ what = tidings v elapsed result

/-- The last result was the reason to stop; since then the run has only wound down. -/
structure Decides (g : Graph) (v : String) (result : Except NodeFault Outcome) (why : Termination)
    (prior : List (String × Except NodeFault Outcome)) (before after : List Happening)
    (c : Course) : Prop where
  results_eq : c.results = prior ++ [(v, result)]
  whats_eq : ∃ elapsed, c.whats = before ++ tidings v elapsed result :: after
  undecided : Undecided g prior before
  verdict_eq : g.verdict v result = some why
  fades : ∀ what ∈ after, what.Fades

theorem Decides.mem_results (h : Decides g v result why prior before after c) :
    (v, result) ∈ c.results :=
  h.results_eq ▸ List.mem_append_right _ (List.mem_singleton_self _)

/-- No other result was a reason to stop. -/
theorem Decides.unique (h : Decides g v result why prior before after c) {u : String}
    {r : Except NodeFault Outcome} (hr : (u, r) ∈ c.results) (hv : g.verdict u r ≠ none) :
    u = v := by
  rw [h.results_eq] at hr
  rcases List.mem_append.mp hr with hr | hr
  · exact absurd (h.undecided.verdict_eq u r hr) hv
  · cases List.mem_singleton.mp hr
    rfl

/-! ### How a run has ended -/

/-- Only nodes that may fail have failed. -/
def Tolerates (g : Graph) (events : List Happening) : Prop :=
  ∀ v error, .nodeError v error ∈ events → ∃ n ∈ g.nodes, n.id = v ∧ n.onError = .proceed

/-- The same, with the nodes whose outcomes end the run in place of the end nodes. -/
def Closes (g : Graph) (c : Course) (output : Option Json) : Prop :=
  (∃ n ∈ g.nodes, ∃ outcome value elapsed before after, (n.id, .ok outcome) ∈ c.results ∧
    outcome.route = .finish value ∧ output = some value ∧
    c.whats = before ++ .nodeEnd n.id outcome.output elapsed :: after ∧
    (∀ v shown elapsed, .nodeEnd v shown elapsed ∉ after) ∧
    ∀ v other value, (v, .ok other) ∈ c.results → other.route = .finish value → v = n.id) ∨
  (∀ v other value, (v, .ok other) ∈ c.results → other.route ≠ .finish value) ∧
    Tolerates g c.whats

theorem Decides.closes (hs : c.Sound allowed g input) {value : Json}
    (h : Decides g v result (.finished value) prior before after c) :
    Closes g c (some value) := by
  obtain ⟨outcome, rfl, hroute⟩ : ∃ outcome, result = .ok outcome ∧
      outcome.route = .finish value := by
    rcases Graph.verdict_eq_some h.verdict_eq with ⟨outcome, output, hr, hroute, hw⟩ | ⟨_, _, hw⟩
    · cases hw
      exact ⟨outcome, hr, hroute⟩
    · cases hw
  obtain ⟨inv, hi, rfl, -⟩ := hs.results_given v _ h.mem_results
  obtain ⟨elapsed, heq⟩ := h.whats_eq
  refine Or.inl ⟨inv.node, Graph.node?_mem (hs.given_node inv hi), outcome, value, elapsed, before,
    after, h.mem_results, hroute, rfl, heq, fun u shown t hw => h.fades _ hw,
    fun u other out hu hout => ?_⟩
  exact h.unique hu fun hv => Graph.verdict_ok_eq_none.mp hv out hout

def replyWorkflow : Definition where
  id := "reply"
  nodes := [.ofPayload "a" (.start []), .ofPayload "b" .finish]
  edges := [.between "a" "b"]

def reply : Graph where
  workflowId := "reply"
  start := "a"
  nodes := replyWorkflow.nodes
  arcs := [⟨"a->b", "a", "b", none⟩]
  standalone := []
  conditions := []
  topoOrder := ["a", "b"]

end Course
end Workflow
