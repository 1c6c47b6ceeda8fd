import Workflow.Proofs.Executor.Result
import Workflow.Proofs.Run.Trail

/-! Agreement of courses: when nodes that are not ordered by the arcs do not write what the other
one writes or reads, a node sees and does the same in every course, by induction along the arcs. -/
namespace Workflow

open Workflow.Graph (Path)

/-- Neither of the two nodes leads to the other. -/
def Graph.Apart (g : Graph) (u v : String) : Prop :=
  u ≠ v ∧ ¬ Path g.arcs u v ∧ ¬ Path g.arcs v u

/-- What a node writes is neither written nor read by a node apart from it. -/
def Graph.RaceFree (g : Graph) : Prop :=
  ∀ m ∈ g.nodes, ∀ n ∈ g.nodes, g.Apart m.id n.id →
    ∀ key, m.Writes key → ¬ n.Writes key ∧ ¬ n.Reads key

/-- The results of executors, whichever they are, that keep to what nodes may do, and that give
always the same result for a node and what it sees. -/
def Performs (f : Node → Fields → Except NodeFault Outcome) (inv : Invocation)
    (result : Except NodeFault Outcome) : Prop :=
  Conforms inv.node result ∧ result = f inv.node inv.input

theorem Graph.Valid.path_of_start {g : Graph} (hg : g.Valid) {v : String} (hv : v ∈ g.ids)
    (hne : v ≠ g.start) : Path g.arcs g.start v :=
  (Relation.reflTransGen_iff_eq_or_transGen.mp (hg.reached v hv)).resolve_left hne

namespace Course

variable {f : Node → Fields → Except NodeFault Outcome} {g : Graph} {input : Fields}
  {c d : Course} {v key : String} {inv : Invocation}
  {x y : String × Except NodeFault Outcome} {before : List (String × Except NodeFault Outcome)}

/-- Two courses of a graph mean the same node by an id. -/
theorem Sound.same_node {allowed allowed' : Invocation → Except NodeFault Outcome → Prop}
    {input' : Fields} (h : c.Sound allowed g input) (h' : d.Sound allowed' g input')
    {i i' : Invocation} (hi : i ∈ c.given) (hi' : i' ∈ d.given) (hid : i.node.id = i'.node.id) :
    i.node = i'.node := by
  have hn := h.given_node i hi
  rw [hid, h'.given_node i' hi'] at hn
  exact (Option.some.inj hn).symm

/-! ### Who writes a key -/

/-- Only the start node and the nodes that declare a key write it. -/
theorem Sound.writer (hg : g.Valid) (h : c.Sound (Performs f) g input) (hx : x ∈ c.results)
    (hw : writes key x) : x.1 = g.start ∨ ∃ m ∈ g.nodes, m.id = x.1 ∧ m.Writes key := by
  obtain ⟨inv, hi, hid, hconforms, -⟩ := h.results_given x.1 x.2 hx
  have hmem := Graph.node?_mem (h.given_node inv hi)
  rcases hconforms.writes key hw with ht | hwrites
  · exact Or.inl (hid ▸ hg.start_unique inv.node hmem ht)
  · exact Or.inr ⟨inv.node, hmem, hid, hwrites⟩

theorem Sound.mem_ids {allowed : Invocation → Except NodeFault Outcome → Prop}
    (h : c.Sound allowed g input) (hv : c.Given v) : v ∈ g.ids :=
  h.settling.resolved_mem v (h.settling.started_resolved v hv)

/-- Two writers of a key are ordered by the arcs. -/
theorem Sound.writers_comparable (hg : g.Valid) (hrace : g.RaceFree)
    (h : c.Sound (Performs f) g input) (hx : x ∈ c.results) (hy : y ∈ c.results)
    (hwx : writes key x) (hwy : writes key y) (hne : x.1 ≠ y.1) :
    Path g.arcs x.1 y.1 ∨ Path g.arcs y.1 x.1 := by
  have hgx : c.Given x.1 := h.given ⟨x.2, hx⟩
  have hgy : c.Given y.1 := h.given ⟨y.2, hy⟩
  rcases h.writer hg hx hwx with hs | ⟨m, hm, hmid, hmw⟩
  · exact Or.inl (hs ▸ hg.path_of_start (h.mem_ids hgy) fun hy' => hne (hs.trans hy'.symm))
  rcases h.writer hg hy hwy with hs | ⟨n, hn, hnid, hnw⟩
  · exact Or.inr (hs ▸ hg.path_of_start (h.mem_ids hgx) fun hx' => hne (hx'.trans hs.symm))
  by_contra hno
  rw [not_or] at hno
  exact (hrace m hm n hn (by rw [hmid, hnid]; exact ⟨hne, hno⟩) key hmw).1 hnw

/-- What a node reads was written only by nodes that lead to it. -/
theorem Saw.leads_of_writes (hg : g.Valid) (hrace : g.RaceFree) (h : c.Sound (Performs f) g input)
    (hi : inv ∈ c.given) (hs : Saw g c inv before) (hx : x ∈ before) (hw : writes key x)
    (hreads : inv.node.Reads key) : Path g.arcs x.1 inv.node.id := by
  have hmem := Graph.node?_mem (h.given_node inv hi)
  obtain ⟨hne, hnot⟩ := hs.fresh x hx
  rcases h.writer hg (hs.initial.subset hx) hw with hstart | ⟨m, hm, hmid, hmw⟩
  · rw [hstart] at hne ⊢
    exact hg.path_of_start (h.mem_ids ⟨inv, hi, rfl⟩) hne.symm
  · by_contra hno
    exact (hrace m hm inv.node hmem (by rw [hmid]; exact ⟨hne, hno, hnot⟩) key hmw).2 hreads

/-! ### Agreement of two courses -/

/-- What is known of a node in one course is so in the other. -/
structure Agrees (c d : Course) (v : String) : Prop where
  given : d.Given v → c.Given v
  pruned : d.Pruned v → c.Pruned v
  input : ∀ i ∈ d.given, ∀ i' ∈ c.given, i.node.id = v → i'.node.id = v →
    i.node.type ≠ .information → i.input = i'.input
  result : ∀ r, (v, r) ∈ d.results → (v, r) ∈ c.results

/-- Every node has come back or is pruned. -/
def Exhausted (g : Graph) (c : Course) : Prop :=
  ∀ v ∈ g.ids, (∃ result, (v, result) ∈ c.results) ∨ c.Pruned v

section Agreement

variable (hc : c.Sound (Performs f) g input) (hd : d.Sound (Performs f) g input)
  (hex : Exhausted g c)

include hc hd hex

/-- A node that starts in one course starts in the other, where all nodes have been settled. -/
theorem given_of_agrees (ih : ∀ u, Path g.arcs u v → Agrees c d u) (hv : d.Given v) :
    c.Given v := by
  rcases hex v (hd.mem_ids hv) with ⟨r, hr⟩ | hpruned
  · exact hc.given ⟨r, hr⟩
  · exfalso
    by_cases hs : v = g.start
    · subst hs
      exact hc.settling.start_kept.elim hpruned.2.1 hpruned.2.2
    · obtain ⟨a, ha, rfl, outcome, hr, ht⟩ :=
        (hd.settling.kept_iff v (hd.settling.started_resolved v hv) hs).mp (Or.inr hv)
      have hr' := (ih _ (.single (Graph.Leads.of_mem ha))).result _ hr
      exact ((hc.settling.kept_iff _ hpruned.1 hs).mpr ⟨a, ha, rfl, outcome, hr', ht⟩).elim
        hpruned.2.1 hpruned.2.2

theorem pruned_of_agrees (hg : g.Valid) (ih : ∀ u, Path g.arcs u v → Agrees c d u)
    (hv : d.Pruned v) : c.Pruned v := by
  rcases hex v (hd.settling.resolved_mem v hv.1) with ⟨r, hr⟩ | hpruned
  · exfalso
    have hgiven : c.Given v := hc.given ⟨r, hr⟩
    have hs : v ≠ g.start := by
      rintro rfl
      exact hd.settling.start_kept.elim hv.2.1 hv.2.2
    obtain ⟨a, ha, rfl, outcome, hr, ht⟩ :=
      (hc.settling.kept_iff v (hc.settling.started_resolved v hgiven) hs).mp (Or.inr hgiven)
    have hl := Relation.TransGen.single (Graph.Leads.of_mem ha)
    -- The arc was taken in one course, so in the other its source has come back alike.
    rcases hd.settling.of_path hg hl hv.1 with ⟨r', hr', -⟩ | hpr
    · obtain rfl := hc.result_unique hr ((ih _ hl).result _ hr')
      exact ((hd.settling.kept_iff _ hv.1 hs).mpr ⟨a, ha, rfl, outcome, hr', ht⟩).elim
        hv.2.1 hv.2.2
    · exact ((ih _ hl).pruned hpr).2.2 (hc.given ⟨_, hr⟩)
  · exact hpruned

omit hex in
/-- A node sees the same in both courses. -/
theorem input_of_agrees (hg : g.Valid) (hrace : g.RaceFree) (htc : c.Trail g) (htd : d.Trail g)
    (ih : ∀ u, Path g.arcs u v → Agrees c d u) {i i' : Invocation} (hi : i ∈ d.given)
    (hi' : i' ∈ c.given) (hid : i.node.id = v) (hid' : i'.node.id = v)
    (ht : i.node.type ≠ .information) : i.input = i'.input := by
  have hnode : i'.node = i.node := hc.same_node hd hi' hi (hid'.trans hid.symm)
  obtain ⟨before, hs⟩ := htd.saw i hi
  obtain ⟨before', hs'⟩ := htc.saw i' hi'
  rw [hs.input_eq, hs'.input_eq, hc.input_eq, hd.input_eq, hnode]
  refine Node.view_congr fun key _ hkey => ?_
  have hreads : i.node.Reads key := ⟨ht, hkey⟩
  refine get?_merged_congr (R := Path g.arcs)
    (fun u w huw hwu => hg.acyclic u (huw.trans hwu))
    (hd.results_nodup.sublist (hs.initial.sublist.map _))
    (hc.results_nodup.sublist (hs'.initial.sublist.map _))
    (htd.ordered.sublist hs.initial.sublist) (htc.ordered.sublist hs'.initial.sublist)
    (fun x hw => ⟨fun hx => ?_, fun hx => ?_⟩)
    (fun x hx y hy => hd.writers_comparable hg hrace (hs.initial.subset hx) (hs.initial.subset hy))
  · have hp : Path g.arcs x.1 v := hid ▸ hs.leads_of_writes hg hrace hd hi hx hw hreads
    have hx' := (ih _ hp).result x.2 (hs.initial.subset hx)
    rcases hs'.settled x.1 (hid'.symm ▸ hp) with ⟨r, hr⟩ | hpruned
    · obtain rfl := hc.result_unique hx' (hs'.initial.subset hr)
      exact hr
    · exact absurd (hc.given ⟨_, hx'⟩) hpruned.2.2
  · have hp : Path g.arcs x.1 v :=
      hid' ▸ hs'.leads_of_writes hg hrace hc hi' hx hw (hnode ▸ hreads)
    have hx' := hs'.initial.subset hx
    rcases hs.settled x.1 (hid.symm ▸ hp) with ⟨r, hr⟩ | hpruned
    · obtain rfl := hc.result_unique hx' ((ih _ hp).result r (hs.initial.subset hr))
      exact hr
    · exact absurd (hc.given ⟨_, hx'⟩) ((ih _ hp).pruned hpruned).2.2

/-- A node that has come back in one course has come back alike in the other. -/
theorem result_of_agrees (ih : ∀ u, Path g.arcs u v → Agrees c d u)
    (hinput : ∀ i ∈ d.given, ∀ i' ∈ c.given, i.node.id = v → i'.node.id = v →
      i.node.type ≠ .information → i.input = i'.input)
    {r : Except NodeFault Outcome} (hr : (v, r) ∈ d.results) : (v, r) ∈ c.results := by
  obtain ⟨i, hi, hid, hconforms, hfun⟩ := hd.results_given v r hr
  have hv : c.Given v := given_of_agrees hc hd hex ih ⟨i, hi, hid⟩
  rcases hex v (hc.mem_ids hv) with ⟨r', hr'⟩ | hpruned
  · obtain ⟨i', hi', hid', hconforms', hfun'⟩ := hc.results_given v r' hr'
    have hnode : i'.node = i.node := hc.same_node hd hi' hi (hid'.trans hid.symm)
    have heq : r = r' := by
      by_cases ht : i.node.type = .information
      · rw [hconforms.silent ht, hconforms'.silent (hnode ▸ ht)]
      · rw [hfun, hfun', hnode, hinput i hi i' hi' hid hid' ht]
    exact heq ▸ hr'
  · exact absurd hv hpruned.2.2

/-- Whatever has happened in a course happens in the same way in one where all nodes have been
settled, by induction along the arcs. -/
theorem agrees (hg : g.Valid) (hrace : g.RaceFree) (htc : c.Trail g) (htd : d.Trail g)
    (v : String) : Agrees c d v := by
  induction v using hg.acyclic.wellFounded.induction with
  | _ v ih =>
    have hinput : ∀ i ∈ d.given, ∀ i' ∈ c.given, i.node.id = v → i'.node.id = v →
        i.node.type ≠ .information → i.input = i'.input := fun i hi i' hi' hid hid' ht =>
      input_of_agrees hc hd hg hrace htc htd ih hi hi' hid hid' ht
    exact ⟨given_of_agrees hc hd hex ih, pruned_of_agrees hc hd hex hg ih, hinput,
      fun r hr => result_of_agrees hc hd hex ih hinput hr⟩

end Agreement

end Course
end Workflow
