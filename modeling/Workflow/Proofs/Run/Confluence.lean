import Workflow.Proofs.Run.Agreement
import Workflow.Proofs.Run.Fate

/-! Confluence: in a graph without races, the order in which results come back does not show in how
a run turns out. -/
namespace Workflow

open Workflow.Graph (Path)

/-- There is no end node, or a single one, which every other node leads to. -/
def Graph.OneEnd (g : Graph) : Prop :=
  (∀ n ∈ g.nodes, n.type ≠ .finish) ∨
    ∃ e ∈ g.nodes, e.type = .finish ∧
      ∀ n ∈ g.nodes, n ≠ e → n.type ≠ .finish ∧ Path g.arcs n.id e.id

namespace Course

variable {f : Node → Fields → Except NodeFault Outcome} {g : Graph} {input : Fields}
  {c d : Course}

/-! ### How runs end -/

/-- The history tells that the run has ended with the status and the output. -/
def Ends (c : Course) (status : RunStatus) (output : Option Json) : Prop :=
  ∃ error elapsed, .workflowEnd status output error elapsed ∈ c.whats

theorem Told.outcome_of_ends (h : c.Told g) {status : RunStatus} {output : Option Json}
    (he : c.Ends status output) :
    ∃ o, c.run.outcome = some o ∧ o.status = status ∧ o.output = output := by
  obtain ⟨error, elapsed, hmem⟩ := he
  obtain ⟨middle, last, heq, hmiddle, hlast⟩ := h.framed
  rw [heq, List.mem_cons, List.mem_append] at hmem
  rcases hmem with hmem | hmem | hmem
  · cases hmem
  · obtain ⟨v, hv⟩ := hmiddle _ hmem
    cases hv
  · cases ho : c.run.outcome with
    | none =>
      rw [ho] at hlast
      obtain rfl : last = [] := hlast
      cases hmem
    | some o =>
      rw [ho] at hlast
      obtain ⟨t, rfl⟩ := hlast
      cases List.mem_singleton.mp hmem
      exact ⟨o, rfl, rfl, rfl⟩

/-- A run that was not cancelled ends for the reason that its end tells. -/
theorem Sound.ending_of_ends (h : c.Sound (Performs f) g input) (ht : c.Trail g) (htold : c.Told g)
    (hcancelled : c.run.cancelled = false) {status : RunStatus} {output : Option Json}
    (he : c.Ends status output) :
    ∃ why, c.ending = some why ∧ why ≠ .cancelled ∧ status = (c.run.outcomeOf why).status ∧
      output = (c.run.outcomeOf why).output := by
  obtain ⟨o, ho, rfl, rfl⟩ := htold.outcome_of_ends he
  obtain ⟨why, hw, rfl⟩ := ht.outcome_eq o ho
  refine ⟨why, hw, ?_, rfl, rfl⟩
  rintro rfl
  rcases h.ending_cases _ hw with ⟨hd, -⟩ | ⟨-, hcan⟩ | ⟨v, r, -, hv⟩
  · cases hd
  · exact Bool.noConfusion (hcancelled.symm.trans hcan)
  · exact Graph.verdict_ne_cancelled hv

/-- The run stops because nothing is left to do or because an end node was reached. -/
def Completes (why : Termination) : Prop := why = .drained ∨ ∃ output, why = .finished output

/-- In a run that drains or reaches its only end node all nodes have been settled. -/
theorem Sound.exhausted (hg : g.Valid) (hend : g.OneEnd) (h : c.Sound (Performs f) g input)
    {why : Termination} (hw : c.ending = some why)
    (hwhy : Completes why) : Exhausted g c := by
  intro v hv
  rcases h.ending_cases why hw with ⟨rfl, -⟩ | ⟨rfl, -⟩ | ⟨u, r, hr, hverdict⟩
  · have hrest : c.Waits ∨ c.Drains := Or.inr hw
    have hres : v ∈ c.run.resolved := by
      by_contra hres
      exact h.not_blocked hw (h.blocked_of_unresolved hg hrest hv hres)
    refine (h.given_or_pruned hrest hres).imp_left fun hgiven => ?_
    obtain ⟨result, hr, -⟩ := ((h.at_rest hrest).2 v hgiven).resolve_right
      ((h.of_drains hw).2 ▸ List.not_mem_nil)
    exact ⟨result, hr⟩
  · rcases hwhy with hwhy | ⟨output, hwhy⟩ <;> cases hwhy
  · rcases hwhy with rfl | ⟨output, rfl⟩
    · exact absurd hverdict Graph.verdict_ne_drained
    · -- The result that finished the run is that of the end node, which all others lead to.
      obtain ⟨outcome, hroute, rfl⟩ :
          ∃ outcome, outcome.route = .finish output ∧ r = .ok outcome := by
        rcases Graph.verdict_eq_some hverdict with ⟨outcome, _, hr, hroute, hw⟩ | ⟨_, _, hw⟩
        · cases hw
          exact ⟨outcome, hroute, hr⟩
        · cases hw
      obtain ⟨inv, hi, hid, hconforms, -⟩ := h.results_given u _ hr
      have ht := hconforms.finishes outcome output rfl hroute
      have hmem := Graph.node?_mem (h.given_node inv hi)
      obtain ⟨n, hn, rfl⟩ := List.mem_map.mp hv
      rcases hend with hno | ⟨e, he, -, honly⟩
      · exact absurd ht (hno _ hmem)
      · have hie : inv.node = e := by
          by_contra hne
          exact (honly _ hmem hne).1 ht
        by_cases hne : n = e
        · exact Or.inl ⟨_, by rw [hne, ← hie, hid]; exact hr⟩
        · exact h.settled_of_given hg ⟨inv, hi, rfl⟩ (hie ▸ (honly n hn hne).2)

/-- In a run where all nodes have been settled, what stopped any other run would have stopped it
as well. -/
theorem ending_of_agrees (hc : c.Sound (Performs f) g input) (hd : d.Sound (Performs f) g input)
    (hagree : ∀ v, Agrees c d v) {why : Termination} (hw : d.ending = some why)
    (hdrained : why ≠ .drained) (hcancelled : why ≠ .cancelled) : c.ending = some why := by
  rcases hd.ending_cases why hw with ⟨hdr, -⟩ | ⟨hcan, -⟩ | ⟨v, r, hr, hverdict⟩
  · exact absurd hdr hdrained
  · exact absurd hcan hcancelled
  · exact hc.verdict_ending v r why ((hagree v).result r hr) hverdict

/-- Two courses that agree, each with the other one, stop for the same reason. -/
theorem ending_unique (hc : c.Sound (Performs f) g input) (hd : d.Sound (Performs f) g input)
    (hto : ∀ v, Agrees c d v) (hfrom : ∀ v, Agrees d c v) {why why' : Termination}
    (hw : c.ending = some why) (hw' : d.ending = some why') (hn : why ≠ .cancelled)
    (hn' : why' ≠ .cancelled) : why = why' := by
  by_cases hx : why = .drained
  · by_cases hy : why' = .drained
    · rw [hx, hy]
    · exact Option.some.inj (hw.symm.trans (ending_of_agrees hc hd hto hw' hy hn'))
  · exact Option.some.inj ((ending_of_agrees hd hc hfrom hw hx hn).symm.trans hw')

theorem Completes.status {why : Termination} (h : Completes why) (r : Run) :
    (r.outcomeOf why).status = .completed := by
  rcases h with rfl | ⟨output, rfl⟩ <;> rfl

theorem failed_of_not_completes {why : Termination} (h : ¬ Completes why) (hc : why ≠ .cancelled) :
    ∃ error, why = .failed error := by
  cases why with
  | drained => exact absurd (Or.inl rfl) h
  | finished output => exact absurd (Or.inr ⟨output, rfl⟩) h
  | failed error => exact ⟨error, rfl⟩
  | cancelled => exact absurd rfl hc

/-- If one of two courses that agree completes, then so does the other one. -/
theorem Completes.of_agrees (hc : c.Sound (Performs f) g input) (hd : d.Sound (Performs f) g input)
    (hagree : ∀ v, Agrees c d v) {why why' : Termination} (hw : c.ending = some why)
    (hw' : d.ending = some why') (h : Completes why) (hn : why' ≠ .cancelled) :
    Completes why' := by
  by_contra hno
  obtain ⟨error, rfl⟩ := failed_of_not_completes hno hn
  have heq := ending_of_agrees hc hd hagree hw' (by simp) hn
  obtain rfl := Option.some.inj (hw.symm.trans heq)
  exact hno h

theorem state_of_results (hg : g.Valid) (hrace : g.RaceFree) (hc : c.Sound (Performs f) g input)
    (hd : d.Sound (Performs f) g input) (htc : c.Trail g) (htd : d.Trail g)
    (hresults : ∀ x, x ∈ c.results ↔ x ∈ d.results) : c.run.state = d.run.state := by
  rw [htc.state_eq, htd.state_eq]
  refine (merged_sorted _).ext (merged_sorted _) fun key => ?_
  exact get?_merged_congr (R := Path g.arcs) (fun u w huw hwu => hg.acyclic u (huw.trans hwu))
    hc.results_nodup hd.results_nodup htc.ordered htd.ordered (fun x _ => hresults x)
    fun x hx y hy => hc.writers_comparable hg hrace hx hy

/-! ### Two nodes side by side -/

/-- A tool that reads one key. -/
def diamondTool (id : String) : Node := (Node.ofPayload id (.tool "t" .null)).withUsage ["x"]

/-- Two tools side by side between the start and the end. -/
def diamondWorkflow : Definition where
  id := "diamond"
  nodes := [.ofPayload "a" (.start []), diamondTool "b", diamondTool "c", .ofPayload "d" .finish]
  edges := [.between "a" "b", .between "a" "c", .between "b" "d", .between "c" "d"]

def diamond : Graph where
  workflowId := "diamond"
  start := "a"
  nodes := diamondWorkflow.nodes
  arcs := [⟨"a->b", "a", "b", none⟩, ⟨"a->c", "a", "c", none⟩, ⟨"b->d", "b", "d", none⟩,
    ⟨"c->d", "c", "d", none⟩]
  standalone := []
  conditions := []
  topoOrder := ["a", "b", "c", "d"]

theorem compile_diamondWorkflow : Graph.compile diamondWorkflow = .ok diamond := by decide +kernel

theorem diamond_paths : (Path diamond.arcs "a" "b" ∧ Path diamond.arcs "a" "c" ∧
    Path diamond.arcs "a" "d") ∧ Path diamond.arcs "b" "d" ∧ Path diamond.arcs "c" "d" := by
  have harc : ∀ a ∈ diamond.arcs, Path diamond.arcs a.source a.target := fun a ha =>
    .single (Graph.Leads.of_mem ha)
  have hab := harc ⟨"a->b", "a", "b", none⟩ (by simp [diamond])
  have hac := harc ⟨"a->c", "a", "c", none⟩ (by simp [diamond])
  have hbd := harc ⟨"b->d", "b", "d", none⟩ (by simp [diamond])
  have hcd := harc ⟨"c->d", "c", "d", none⟩ (by simp [diamond])
  exact ⟨⟨hab, hac, hab.trans hbd⟩, hbd, hcd⟩

theorem mem_diamond {n : Node} : n ∈ diamond.nodes ↔ n = .ofPayload "a" (.start []) ∨
    n = diamondTool "b" ∨ n = diamondTool "c" ∨ n = .ofPayload "d" .finish := by
  simp [diamond, diamondWorkflow]

theorem diamond_oneEnd : diamond.OneEnd := by
  obtain ⟨⟨-, -, had⟩, hbd, hcd⟩ := diamond_paths
  refine Or.inr ⟨.ofPayload "d" .finish, mem_diamond.mpr (by simp), rfl, fun n hn hne => ?_⟩
  rcases mem_diamond.mp hn with rfl | rfl | rfl | rfl
  · exact ⟨by decide, had⟩
  · exact ⟨by decide, hbd⟩
  · exact ⟨by decide, hcd⟩
  · exact absurd rfl hne

/-- Only the two tools are apart, and each of them reads and writes a key of its own. -/
theorem diamond_raceFree : diamond.RaceFree := by
  obtain ⟨⟨hab, hac, had⟩, hbd, hcd⟩ := diamond_paths
  have htools : ∀ u v key, u ≠ v → u ≠ "x" → (diamondTool u).Writes key →
      ¬ (diamondTool v).Writes key ∧ ¬ (diamondTool v).Reads key := by
    rintro u v _ hne hx rfl
    refine ⟨hne, ?_⟩
    rintro ⟨-, hall | hkey⟩
    · cases hall
    · exact hx (List.mem_singleton.mp hkey)
  rintro m hm n hn ⟨hne, hto, hfrom⟩ key hw
  rcases mem_diamond.mp hm with rfl | rfl | rfl | rfl
  · rcases mem_diamond.mp hn with rfl | rfl | rfl | rfl
    · exact absurd rfl hne
    · exact absurd hab hto
    · exact absurd hac hto
    · exact absurd had hto
  · rcases mem_diamond.mp hn with rfl | rfl | rfl | rfl
    · exact absurd hab hfrom
    · exact absurd rfl hne
    · exact htools "b" "c" key (by decide) (by decide) hw
    · exact absurd hbd hto
  · rcases mem_diamond.mp hn with rfl | rfl | rfl | rfl
    · exact absurd hac hfrom
    · exact htools "c" "b" key (by decide) (by decide) hw
    · exact absurd rfl hne
    · exact absurd hcd hto
  · exact absurd hw id

/-- Tools that give back what they are given, and an end that shows all of it. -/
def echo (node : Node) (input : Fields) : Except NodeFault Outcome :=
  match node.type with
  | .finish => .ok ⟨[], .obj input, .finish (.obj input)⟩
  | .tool => .ok (.ofPatch (node.bind (.obj input)))
  | _ => .ok (.ofPatch input)

theorem echo_performs {inv : Invocation} (h : inv.node ∈ diamond.nodes) :
    Performs echo inv (echo inv.node inv.input) := by
  refine ⟨Executes.conforms ⟨{ tools := true }, ?_⟩, rfl⟩
  obtain ⟨node, input, condition⟩ := inv
  rcases mem_diamond.mp h with rfl | rfl | rfl | rfl
  · exact .done
  · exact .tool (.ok (.obj input)) .done
  · exact .tool (.ok (.obj input)) .done
  · exact .done

def diamondInput : Fields := [("x", .bool true)]

/-- The diamond with both tools in flight. -/
def diamondParted : Course :=
  ((begin diamond diamondInput).dispatch.complete "a" (.ok (.ofPatch diamondInput)) 0)
    |>.dispatch.dispatch

/-- The orders in which the tools may come back. -/
def diamondOrders : List (String × String) := [("b", "c"), ("c", "b")]

/-- The diamond when the tools have come back in an order, and the end node is in flight. -/
def diamondMet (order : String × String) : Course :=
  ((diamondParted.complete order.1 (echo (diamondTool order.1) diamondInput) 1).complete order.2
    (echo (diamondTool order.2) diamondInput) 2).dispatch

/-- The end node has come back as well. -/
def diamondEnded (order : String × String) : Course :=
  (diamondMet order).complete "d" (echo (.ofPayload "d" .finish) (diamondMet order).run.state) 3

/-- What the end node shows. -/
def diamondOutput : Json :=
  .obj [("b", .obj diamondInput), ("c", .obj diamondInput), ("x", .bool true)]

def diamondFinished (order : String × String) : Course :=
  { diamondEnded order with run := (diamondEnded order).run.close (.finished diamondOutput) 4 }

theorem diamondParted_reached : Reached (Performs echo) diamond diamondInput diamondParted := by
  have ha := (show Reached (Performs echo) diamond diamondInput _ from .refl).dispatch "a" rfl
    (by decide +kernel)
  have ha' := ha.complete ⟨.ofPayload "a" (.start []), diamondInput, none⟩ _ 0 rfl
    (by decide +kernel) (by decide +kernel) (by decide +kernel) (echo_performs (by decide +kernel))
  have hc := ha'.dispatch "c" (by decide +kernel) (by decide +kernel)
  exact hc.dispatch "b" (by decide +kernel) (by decide +kernel)

theorem diamondMet_reached {order : String × String} (ho : order ∈ diamondOrders) :
    Reached (Performs echo) diamond diamondInput (diamondMet order) := by
  have horders : order = ("b", "c") ∨ order = ("c", "b") := by simpa [diamondOrders] using ho
  rcases horders with rfl | rfl
  all_goals
    refine Reached.dispatch (Reached.complete (Reached.complete diamondParted_reached
      ⟨diamondTool _, diamondInput, none⟩ _ 1 ?_ ?_ ?_ ?_ (echo_performs ?_))
      ⟨diamondTool _, diamondInput, none⟩ _ 2 ?_ ?_ ?_ ?_ (echo_performs ?_)) "d" ?_ ?_
    all_goals decide +kernel

theorem diamondEnded_reached {order : String × String} (ho : order ∈ diamondOrders) :
    Reached (Performs echo) diamond diamondInput (diamondEnded order) := by
  have hmet : ∀ order ∈ diamondOrders,
      (diamondMet order).ending = none ∧ (diamondMet order).run.next = .await ∧
      ⟨.ofPayload "d" .finish, (diamondMet order).run.state, none⟩ ∈ (diamondMet order).given ∧
      "d" ∈ (diamondMet order).run.inFlight := by decide +kernel
  obtain ⟨hending, hnext, hgiven, hflight⟩ := hmet order ho
  have hperforms : Performs echo ⟨.ofPayload "d" .finish, (diamondMet order).run.state, none⟩
      (echo (.ofPayload "d" .finish) (diamondMet order).run.state) :=
    echo_performs (mem_diamond.mpr (by simp))
  exact (diamondMet_reached ho).complete
    ⟨.ofPayload "d" .finish, (diamondMet order).run.state, none⟩
    (echo (.ofPayload "d" .finish) (diamondMet order).run.state) 3 hending hnext hgiven hflight
    hperforms

theorem diamondFinished_reached {order : String × String} (ho : order ∈ diamondOrders) :
    Reached (Performs echo) diamond diamondInput (diamondFinished order) := by
  have hending : ∀ order ∈ diamondOrders,
      (diamondEnded order).ending = some (.finished diamondOutput) := by decide +kernel
  have hflight : ∀ order ∈ diamondOrders, (diamondEnded order).run.inFlight = [] := by
    decide +kernel
  have hout : ∀ order ∈ diamondOrders, (diamondEnded order).run.outcome = none := by
    decide +kernel
  exact (diamondEnded_reached ho).tail (.close 4 (hending _ ho) (hflight _ ho) (hout _ ho))

theorem diamondFinished_ends : ∀ order ∈ diamondOrders,
    (diamondFinished order).Ends .completed (some diamondOutput) := by
  have hmem : ∀ order ∈ diamondOrders,
      .workflowEnd .completed (some diamondOutput) none 4 ∈ (diamondFinished order).whats := by
    decide +kernel
  exact fun order ho => ⟨none, 4, hmem order ho⟩

/-! ### Confluence -/

/-- Finished runs of a graph without races on the same input end with the same status, whatever the
order in which results come back. When they complete, they have started the same nodes, shown each
node but information nodes the same input, got the same result from each, and their outputs are the
same. -/
theorem race_free_confluent {w : Definition} (hw : Graph.compile w = .ok g) (hrace : g.RaceFree)
    (hend : g.OneEnd) (hc : Reached (Performs f) g input c) (hd : Reached (Performs f) g input d)
    (hcc : c.run.cancelled = false) (hdc : d.run.cancelled = false)
    {status status' : RunStatus} {output output' : Option Json}
    (hce : c.Ends status output) (hde : d.Ends status' output') :
    status = status' ∧ (status = .completed →
      (∀ v, c.Started v ↔ d.Started v) ∧
      (∀ i ∈ c.given, ∀ i' ∈ d.given, i.node.id = i'.node.id → i.node.type ≠ .information →
        i.input = i'.input) ∧
      (∀ v, c.Started v → c.Returned v) ∧
      (∀ v result, (v, result) ∈ c.results ↔ (v, result) ∈ d.results) ∧
      output = output') := by
  have hg := Graph.compile_valid hw
  have hsc := Reached.sound hg hc
  have hsd := Reached.sound hg hd
  have htc := Reached.trail hg hc
  have htd := Reached.trail hg hd
  obtain ⟨why, hwc, hnc, rfl, rfl⟩ := hsc.ending_of_ends htc (Reached.told hg hc) hcc hce
  obtain ⟨why', hwd, hnd, rfl, rfl⟩ := hsd.ending_of_ends htd (Reached.told hg hd) hdc hde
  have hagree : Completes why → ∀ v, Agrees c d v := fun hwhy =>
    agrees hsc hsd (hsc.exhausted hg hend hwc hwhy) hg hrace htc htd
  have hagree' : Completes why' → ∀ v, Agrees d c v := fun hwhy =>
    agrees hsd hsc (hsd.exhausted hg hend hwd hwhy) hg hrace htd htc
  have hboth : Completes why ↔ Completes why' :=
    ⟨fun hwhy => hwhy.of_agrees hsc hsd (hagree hwhy) hwc hwd hnd,
      fun hwhy => hwhy.of_agrees hsd hsc (hagree' hwhy) hwd hwc hnc⟩
  by_cases hwhy : Completes why
  · have hto := hagree hwhy
    have hfrom := hagree' (hboth.mp hwhy)
    have hresults : ∀ x, x ∈ c.results ↔ x ∈ d.results := fun x =>
      ⟨(hfrom x.1).result x.2, (hto x.1).result x.2⟩
    refine ⟨?_, fun _ => ⟨fun v => ?_, fun i hi i' hi' hid ht => ?_, fun v hv => ?_,
      fun v r => hresults (v, r), ?_⟩⟩
    · rw [hwhy.status, (hboth.mp hwhy).status]
    · rw [← (Reached.told hg hc).given_iff_started, ← (Reached.told hg hd).given_iff_started]
      exact ⟨(hfrom v).given, (hto v).given⟩
    · exact (hfrom i.node.id).input i hi i' hi' rfl hid.symm ht
    · have hgiven := (Reached.told hg hc).given_iff_started.mpr hv
      exact (hsc.exhausted hg hend hwc hwhy v (hsc.mem_ids hgiven)).resolve_right
        fun hpruned => hpruned.2.2 hgiven
    · have hstate := state_of_results hg hrace hsc hsd htc htd hresults
      have hwhys := ending_unique hsc hsd hto hfrom hwc hwd hnc hnd
      rw [← hwhys]
      cases why <;> simp [Run.outcomeOf, hstate]
  · obtain ⟨error, rfl⟩ := failed_of_not_completes hwhy hnc
    obtain ⟨error', rfl⟩ := failed_of_not_completes (fun h => hwhy (hboth.mpr h)) hnd
    exact ⟨rfl, fun h => by cases h⟩

/-- The order in which the tools come back shows in the history, but not in the results. -/
theorem race_free_confluent_of_diamond :
    Graph.compile diamondWorkflow = .ok diamond ∧ diamond.RaceFree ∧ diamond.OneEnd ∧
    (diamondFinished ("b", "c")).whats ≠ (diamondFinished ("c", "b")).whats ∧
    ∀ v result, (v, result) ∈ (diamondFinished ("b", "c")).results ↔
      (v, result) ∈ (diamondFinished ("c", "b")).results := by
  have hb : ("b", "c") ∈ diamondOrders := by decide
  have hc : ("c", "b") ∈ diamondOrders := by decide
  have hsame := (race_free_confluent compile_diamondWorkflow diamond_raceFree diamond_oneEnd
    (diamondFinished_reached hb) (diamondFinished_reached hc) (by decide +kernel)
    (by decide +kernel) (diamondFinished_ends _ hb) (diamondFinished_ends _ hc)).2 rfl
  exact ⟨compile_diamondWorkflow, diamond_raceFree, diamond_oneEnd, by decide +kernel,
    hsame.2.2.2.1⟩

end Course
end Workflow
