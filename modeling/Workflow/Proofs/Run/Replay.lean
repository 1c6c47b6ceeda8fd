import Workflow.Proofs.Executor.Result
import Workflow.Proofs.Run.Account
import Workflow.Proofs.Run.Trail

/-! The state of a run as the replay of its history: merging, in order, what the ends of nodes have
shown gives the state, what each node was given, and the output of a run that drains. -/
namespace Workflow

/-- Whether the node only directs the run, so that what its end shows is not written. -/
def Graph.directs (g : Graph) (v : String) : Bool :=
  (g.node? v).any fun n => n.type == .condition || n.type == .finish

/-- The values that an event adds to the state. -/
def Happening.adds (g : Graph) : Happening → Fields
  | .nodeEnd v (.obj fields) _ => if g.directs v then [] else fields
  | _ => []

/-- The values that the events have added, later ones replacing earlier ones. -/
def replay (g : Graph) (events : List Happening) : Fields :=
  events.foldl (fun state what => state.merge (what.adds g)) []

theorem replay_concat (g : Graph) (events : List Happening) (what : Happening) :
    replay g (events ++ [what]) = (replay g events).merge (what.adds g) := by
  simp [replay]

theorem Happening.Fades.adds {g : Graph} {what : Happening} (h : what.Fades) :
    what.adds g = [] := by
  cases what with
  | nodeEnd v output elapsed => exact h.elim
  | _ => rfl

/-- Events that add nothing may be left out. -/
theorem replay_filter {g : Graph} {events : List Happening} {keep : Happening → Bool}
    (h : ∀ what ∈ events, keep what = false → what.adds g = []) :
    replay g (events.filter keep) = replay g events := by
  induction events using List.reverseRecOn with
  | nil => rfl
  | append_singleton events what ih =>
    have hrest := ih fun x hx => h x (List.mem_append_left _ hx)
    rw [List.filter_append, replay_concat]
    cases hk : keep what with
    | true => rw [List.filter_cons_of_pos hk, List.filter_nil, replay_concat, hrest]
    | false =>
      rw [List.filter_cons_of_neg (by simp [hk]), List.filter_nil, List.append_nil, hrest,
        h what (by simp) hk]
      rfl

theorem Happening.adds_of_directs {g : Graph} {v : String} (h : g.directs v = true) (output : Json)
    (elapsed : ℕ) : (Happening.nodeEnd v output elapsed).adds g = [] := by
  cases output with
  | obj fields => exact if_pos h
  | _ => rfl

theorem Happening.adds_of_not_directs {g : Graph} {v : String} (h : g.directs v = false)
    (fields : Fields) (elapsed : ℕ) :
    (Happening.nodeEnd v (.obj fields) elapsed).adds g = fields :=
  if_neg (by simp [h])

theorem Graph.directs_eq {g : Graph} {node : Node} (hnode : g.node? node.id = some node) :
    g.directs node.id = (node.type == .condition || node.type == .finish) := by
  simp [directs, hnode]

/-- What a node shows at its end is what it writes, unless it only directs the run and writes
nothing. -/
theorem Outturn.shows {inv : Invocation} {outcome : Outcome} (h : Outturn inv (.ok outcome)) :
    if inv.node.type = .condition ∨ inv.node.type = .finish then outcome.patch = []
    else outcome.output = .obj outcome.patch := by
  cases h with
  | admitted ht | branched ht | finished ht | noted ht => simp [ht, Outcome.ofPatch]
  | bound ht result => rcases ht with h | h | h | h <;> simp [h, Outcome.ofPatch]

theorem Delivers.adds_tidings {g : Graph} {inv : Invocation} {result : Except NodeFault Outcome}
    (h : Delivers inv result) (hnode : g.node? inv.node.id = some inv.node) (elapsed : ℕ) :
    (tidings inv.node.id elapsed result).adds g = patch result := by
  cases result with
  | error fault => rfl
  | ok outcome =>
    have hshows := h.outturn.shows
    have hdirects := Graph.directs_eq hnode
    show Happening.adds g (.nodeEnd inv.node.id outcome.output elapsed) = outcome.patch
    by_cases ht : inv.node.type = .condition ∨ inv.node.type = .finish
    · rw [if_pos ht] at hshows
      rw [hshows, Happening.adds_of_directs (by simpa [hdirects] using ht)]
    · rw [if_neg ht] at hshows
      rw [hshows, Happening.adds_of_not_directs (by simpa [hdirects, not_or] using ht)]

namespace Course

variable {g : Graph} {input : Fields} {c d : Course}

/-- How the history accounts for the values of a run. -/
structure Replayed (g : Graph) (c : Course) : Prop where
  state_eq : c.run.state = replay g c.whats
  /-- Ends of nodes show objects, unless the nodes only direct the run. -/
  shown : ∀ v output elapsed, .nodeEnd v output elapsed ∈ c.whats → g.directs v = false →
    ∃ fields, output = .obj fields
  given_once : (c.given.map (·.node.id)).Nodup
  /-- A node that starts, if it is no start node, is given the values that were added before. -/
  snapshot : ∀ before v type name after, c.whats = before ++ .nodeStart v type name :: after →
    ∃ inv ∈ c.given, inv.node.id = v ∧ g.node? v = some inv.node ∧ (inv.node.type ≠ .start →
      inv.input = if inv.node.usageFields = [] then replay g before
        else (replay g before).restrict inv.node.usageFields)
  /-- The state is what it would be without the events of a node that has failed. -/
  failed : ∀ v error, .nodeError v error ∈ c.whats →
    c.run.state = replay g (c.whats.filter fun what => what.node? != some v)
  drained : c.Drains → c.Finished → ∃ elapsed, c.whats.getLast? =
    some (.workflowEnd .completed (some (.obj (replay g c.whats))) none elapsed)

theorem Reached.state_eq_replay (hg : g.Valid) (h : Reached Delivers g input c) :
    c.run.state = replay g c.whats := by
  induction h with
  | refl => rfl
  | @tail c d hl hstep ih =>
    have hsound := Reached.sound hg hl
    cases hstep.account hsound (Reached.told hg hl) with
    | starts node hgo hn hnode hgiven hwhats hstate hending =>
      rw [hwhats, replay_concat, hstate, ih]
      rfl
    | returns inv result elapsed hgo hi ha hgiven hwhats hstate hending =>
      rw [hwhats, replay_concat, hstate, ih, ha.adds_tidings (hsound.given_node inv hi)]
    | passes hgiven hwhats hstate hcancelled hending =>
      rcases hwhats with hwhats | ⟨what, hwhats, hfades, -⟩
      · rw [hwhats, hstate, ih]
      · rw [hwhats, replay_concat, hstate, ih, hfades.adds]
        rfl

/-- A node that starts is given what it sees of the state at that moment. -/
theorem Reached.snapshot_eq_replay (hg : g.Valid) (h : Reached Delivers g input c)
    {before after : List Happening} {v name : String} {type : NodeType}
    (heq : c.whats = before ++ .nodeStart v type name :: after) :
    ∃ inv ∈ c.given, inv.node.id = v ∧ inv.input = inv.node.view input (replay g before) := by
  refine Reached.forall_whats (P := fun c before what => ∀ v type name,
    what = .nodeStart v type name → ∃ inv ∈ c.given, inv.node.id = v ∧
      inv.input = inv.node.view input (replay g before)) hg ?_ ?_ ?_ h before _ after heq v type
    name rfl
  · intro v type name hw
    cases hw
  · intro c d before what hc hstep hb v type name hw
    obtain ⟨inv, hi, hrest⟩ := hb v type name hw
    exact ⟨inv, hstep.records.1.subset hi, hrest⟩
  · rintro c d what hc hstep hadd v type name rfl
    have hsound := Reached.sound hg hc
    obtain ⟨node, hid, -, hi⟩ := (hstep.account hsound (Reached.told hg hc)).of_start hadd
    refine ⟨c.run.invocation node, hi, hid, ?_⟩
    show node.view c.run.input c.run.state = node.view input (replay g c.whats)
    rw [hsound.input_eq, hc.state_eq_replay hg]

/-- Ends of nodes show objects, unless the nodes only direct the run. -/
theorem Reached.shows_object (hg : g.Valid) (h : Reached Delivers g input c) {v : String}
    {output : Json} {elapsed : ℕ} (hw : .nodeEnd v output elapsed ∈ c.whats)
    (hv : g.directs v = false) : ∃ fields, output = .obj fields := by
  obtain ⟨before, after, heq⟩ := List.append_of_mem hw
  refine Reached.forall_whats (P := fun _ _ what => ∀ v output elapsed,
    what = .nodeEnd v output elapsed → g.directs v = false → ∃ fields, output = .obj fields) hg
    ?_ ?_ ?_ h before _ after heq v output elapsed rfl hv
  · intro v output elapsed hw
    cases hw
  · exact fun c d before what hc hstep hb => hb
  · rintro c d what hc hstep hadd v output elapsed rfl hv
    have hsound := Reached.sound hg hc
    obtain ⟨inv, outcome, hi, ha, rfl, rfl⟩ :=
      (hstep.account hsound (Reached.told hg hc)).of_end hadd
    have hshows := ha.outturn.shows
    rw [Graph.directs_eq (hsound.given_node inv hi)] at hv
    rw [if_neg (by simpa [not_or] using hv)] at hshows
    exact ⟨outcome.patch, hshows⟩

/-- Merging what the ends of nodes have shown, in the order of the history, gives the state, what
each node is given when it starts, and the output of a run that drains; nodes that have failed add
nothing. -/
theorem state_replays {w : Definition} (hw : Graph.compile w = .ok g)
    (hc : Reached Delivers g input c) : c.Replayed g := by
  have hg := Graph.compile_valid hw
  have hsound := Reached.sound hg hc
  have htold := Reached.told hg hc
  have hstate := hc.state_eq_replay hg
  refine ⟨hstate, ?_, hsound.given_nodup, ?_, ?_, ?_⟩
  · exact fun v output elapsed hmem hv => hc.shows_object hg hmem hv
  · intro before v type name after heq
    obtain ⟨inv, hi, rfl, hinput⟩ := hc.snapshot_eq_replay hg heq
    refine ⟨inv, hi, rfl, hsound.given_node inv hi, fun ht => ?_⟩
    rw [hinput, Node.view, if_neg ht]
    simp only [List.isEmpty_iff]
  · intro v error herror
    rw [hstate]
    refine (replay_filter fun what hmem hv => ?_).symm
    have hnode : what.node? = some v := by simpa using hv
    cases what with
    | nodeEnd u output elapsed =>
      -- A node ends only once, and this one has failed.
      cases hnode
      cases htold.ending_unique (mem_endings.mpr ⟨hmem, rfl⟩) (mem_endings.mpr ⟨herror, rfl⟩)
    | _ => rfl
  · intro hd hf
    obtain ⟨o, ho⟩ := Option.isSome_iff_exists.mp hf
    obtain ⟨why, hwhy, rfl⟩ := (Reached.trail hg hc).outcome_eq o ho
    obtain rfl := Option.some.inj (hwhy.symm.trans hd)
    rw [← hstate]
    exact htold.getLast?_whats ho

/-! ### A workflow that makes do without one of its tools -/

/-- A tool that may fail, another one that must not, and a third one that gets what the second one
has written. -/
def relayWorkflow : Definition where
  id := "relay"
  nodes := [.ofPayload "a" (.start []),
    ((Node.ofPayload "b" (.tool "b" .null)).withErrorPolicy .proceed).withTimeout 5,
    .ofPayload "c" (.tool "c" .null),
    (Node.ofPayload "d" (.tool "d" .null)).withUsage ["c"]]
  edges := [.between "a" "b", .between "a" "c", .between "b" "d", .between "c" "d"]

def relay : Graph where
  workflowId := "relay"
  start := "a"
  nodes := relayWorkflow.nodes
  arcs := [⟨"a->b", "a", "b", none⟩, ⟨"a->c", "a", "c", none⟩, ⟨"b->d", "b", "d", none⟩,
    ⟨"c->d", "c", "d", none⟩]
  standalone := []
  conditions := []
  topoOrder := ["a", "b", "c", "d"]

theorem compile_relayWorkflow : Graph.compile relayWorkflow = .ok relay := by decide +kernel

def relayInput : Fields := [("x", .bool true)]

/-- The relay with one tool in flight and the other one in the queue. -/
def relayHalved : Course :=
  ((begin relay relayInput).dispatch.complete "a" (.ok (.ofPatch relayInput)) 0).dispatch

/-- Both tools have started, and the one that may fail has failed. -/
def relayParted : Course :=
  relayHalved.dispatch.complete "b" (.error (.timeout 5)) 1

/-- The other tools have come back as well. -/
def relayDrained : Course :=
  let met := (relayParted.complete "c" (.ok (.ofPatch [("c", .str "left")])) 2).dispatch
  { met.complete "d" (.ok (.ofPatch [("d", .str "right")])) 3 with ending := some .drained }

def relayFinished : Course :=
  { relayDrained with run := relayDrained.run.close .drained 4 }

theorem relayHalved_reached : Reached Delivers relay relayInput relayHalved := by
  have ha := (show Reached Delivers relay relayInput _ from .refl).dispatch "a" rfl
    (by decide +kernel)
  have hstart : Delivers ⟨.ofPayload "a" (.start []), relayInput, none⟩
      (.ok (.ofPatch relayInput)) := Or.inl ⟨{}, .done⟩
  have ha' := ha.complete ⟨.ofPayload "a" (.start []), relayInput, none⟩ _ 0 rfl
    (by decide +kernel) (by decide +kernel) (by decide +kernel) hstart
  exact ha'.dispatch "c" (by decide +kernel) (by decide +kernel)

theorem relayParted_reached : Reached Delivers relay relayInput relayParted := by
  have hb := relayHalved_reached.dispatch "b" (by decide +kernel) (by decide +kernel)
  exact hb.complete
    ⟨((Node.ofPayload "b" (.tool "b" .null)).withErrorPolicy .proceed).withTimeout 5,
      relayInput, none⟩ _ 1 (by decide +kernel) (by decide +kernel) (by decide +kernel)
    (by decide +kernel) (Or.inr ⟨_, rfl⟩)

theorem relayFinished_reached : Reached Delivers relay relayInput relayFinished := by
  have htool : ∀ id usage input value, Delivers
      ⟨(Node.ofPayload id (.tool id .null)).withUsage usage, input, none⟩
      (.ok (.ofPatch [(id, .str value)])) := fun id usage input value =>
    Or.inl ⟨{ tools := true }, .tool (.ok (.str value)) .done⟩
  have hc := relayParted_reached.complete ⟨.ofPayload "c" (.tool "c" .null), relayInput, none⟩ _ 2
    (by decide +kernel) (by decide +kernel) (by decide +kernel) (by decide +kernel)
    (htool "c" [] _ "left")
  have hd := (hc.dispatch "d" (by decide +kernel) (by decide +kernel)).complete
    ⟨(Node.ofPayload "d" (.tool "d" .null)).withUsage ["c"], [("c", .str "left")], none⟩ _ 3
    (by decide +kernel) (by decide +kernel) (by decide +kernel) (by decide +kernel)
    (htool "d" ["c"] _ "right")
  exact (hd.decide .drained (by decide +kernel) (by decide +kernel)).tail
    (.close 4 rfl (by decide +kernel) (by decide +kernel))

/-- In the relay the tool that has failed leaves no trace in the state. -/
theorem state_replays_of_relay :
    Graph.compile relayWorkflow = .ok relay ∧ Reached Delivers relay relayInput relayFinished ∧
    relayFinished.run.state = [("c", .str "left"), ("d", .str "right"), ("x", .bool true)] ∧
    relayFinished.Replayed relay :=
  ⟨compile_relayWorkflow, relayFinished_reached, by decide +kernel,
    state_replays compile_relayWorkflow relayFinished_reached⟩

end Course
end Workflow
