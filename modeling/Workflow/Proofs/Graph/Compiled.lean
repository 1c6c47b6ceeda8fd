import Workflow.Graph.Compile
import Workflow.Proofs.Graph.Basic
import Workflow.Proofs.Graph.Path

/-! What compiling makes sure of: the checks it has made when it gives a graph, and from them the
properties of the graph that runs rely on. -/
namespace Workflow.Graph

/-- The graph of a workflow, given its start node and the predicates of its conditions. -/
def ofParts (w : Definition) (start : Node) (conditions : List (String × Predicate)) : Graph :=
  let arcs := w.edges.map arcOf
  let live := reachable arcs start.id
  let nodes := (sortNodes w.nodes).filter fun n => live.contains n.id
  let kept := arcs.filter fun a => live.contains a.source
  { workflowId := w.id
    start := start.id
    nodes
    arcs := kept
    standalone := ((sortNodes w.nodes).filter fun n => !live.contains n.id).map (·.id)
    conditions
    topoOrder := topologicalOrder kept (nodes.map (·.id)) }

/-- The checks on nodes and edges, all of them passed. -/
structure Passes (w : Definition) (start : Node) : Prop where
  unique : firstDuplicate [] w.nodes = none
  ends : firstDangling ((sortNodes w.nodes).map (·.id)) (w.edges.map arcOf) = none
  starts : (sortNodes w.nodes).filter (·.type == .start) = [start]
  entered : (sortNodes w.nodes).find? (fun n => !mayStandAlone n
    && !(w.edges.map arcOf).any (·.target == n.id)) = none
  uncycled : findCycle (w.edges.map arcOf) ((sortNodes w.nodes).map (·.id)) = none
  joined : ((sortNodes w.nodes).filter fun n =>
    !(reachable (w.edges.map arcOf) start.id).contains n.id).find? (·.type != .information) = none

/-- Compiling gives a graph only if every check is passed. -/
theorem compile_eq_ok {w : Definition} {g : Graph} (h : compile w = .ok g) :
    ∃ start conditions, Passes w start ∧ g = ofParts w start conditions ∧
      compileConditions g.arcs g.nodes = .ok conditions := by
  unfold compile at h
  simp only [bind, Except.bind, pure, Except.pure, throw, throwThe, MonadExceptOf.throw] at h
  split at h
  · cases h
  rename_i hunique
  split at h
  · cases h
  rename_i hends
  split at h
  · rename_i start hstart
    split at h
    · cases h
    rename_i hentered
    split at h
    · cases h
    rename_i huncycled
    split at h
    · cases h
    rename_i hjoined
    split at h
    · cases h
    rename_i conditions hconditions
    cases h
    refine ⟨start, conditions, ⟨?_, ?_, hstart, ?_, ?_, ?_⟩, rfl, hconditions⟩
    · exact Option.eq_none_iff_forall_ne_some.mpr hunique
    · exact Option.eq_none_iff_forall_ne_some.mpr fun p => hends p.1 p.2
    · exact Option.eq_none_iff_forall_ne_some.mpr hentered
    · exact Option.eq_none_iff_forall_ne_some.mpr huncycled
    · exact Option.eq_none_iff_forall_ne_some.mpr hjoined
  · cases h

theorem insertNode_perm (node : Node) (nodes : List Node) :
    (insertNode node nodes).Perm (node :: nodes) := by
  induction nodes with
  | nil => exact List.Perm.refl _
  | cons n nodes ih =>
    rw [insertNode]
    split
    · exact List.Perm.refl _
    · exact (ih.cons n).trans (List.Perm.swap node n nodes)

theorem sortNodes_perm (nodes : List Node) : (sortNodes nodes).Perm nodes := by
  induction nodes with
  | nil => exact List.Perm.refl _
  | cons n nodes ih => exact (insertNode_perm n _).trans (ih.cons n)

theorem insertNode_sorted (node : Node) {nodes : List Node}
    (h : nodes.Pairwise fun a b => a.id ≤ b.id) :
    (insertNode node nodes).Pairwise fun a b => a.id ≤ b.id := by
  induction nodes with
  | nil => exact List.pairwise_singleton _ _
  | cons n nodes ih =>
    obtain ⟨hn, hnodes⟩ := List.pairwise_cons.mp h
    rw [insertNode]
    split
    · rename_i hlt
      have hle : node.id ≤ n.id := String.not_lt.mp (String.lt_asymm hlt)
      refine List.pairwise_cons.mpr ⟨List.forall_mem_cons.mpr ⟨hle, fun m hm => ?_⟩, h⟩
      exact String.le_trans hle (hn m hm)
    · rename_i hlt
      refine List.pairwise_cons.mpr ⟨fun m hm => ?_, ih hnodes⟩
      rcases List.mem_cons.mp ((insertNode_perm node nodes).mem_iff.mp hm) with rfl | hm
      · exact String.not_lt.mp hlt
      · exact hn m hm

theorem sortNodes_sorted (nodes : List Node) :
    (sortNodes nodes).Pairwise fun a b => a.id ≤ b.id := by
  induction nodes with
  | nil => exact List.Pairwise.nil
  | cons n nodes ih => exact insertNode_sorted n ih

theorem mem_sortNodes {node : Node} {nodes : List Node} : node ∈ sortNodes nodes ↔ node ∈ nodes :=
  (sortNodes_perm nodes).mem_iff

theorem sortNodes_ids_perm (nodes : List Node) :
    ((sortNodes nodes).map (·.id)).Perm (nodes.map (·.id)) := (sortNodes_perm nodes).map _

/-- Nodes with different ids are sorted into increasing order. -/
theorem sortNodes_increasing {nodes : List Node} (h : (nodes.map (·.id)).Nodup) :
    (sortNodes nodes).Pairwise fun a b => a.id < b.id := by
  have hne : (sortNodes nodes).Pairwise fun a b => a.id ≠ b.id :=
    List.pairwise_map.mp ((sortNodes_ids_perm nodes).nodup_iff.mpr h)
  refine ((sortNodes_sorted nodes).and hne).imp fun hab => ?_
  by_contra hlt
  exact hab.2 (String.le_antisymm hab.1 (String.not_lt.mp hlt))

theorem firstDuplicate_eq_none_iff {seen : List String} {nodes : List Node} :
    firstDuplicate seen nodes = none ↔ (nodes.map (·.id)).Nodup ∧ ∀ n ∈ nodes, n.id ∉ seen := by
  induction nodes generalizing seen with
  | nil => simp [firstDuplicate]
  | cons n nodes ih =>
    rw [firstDuplicate, List.map_cons, List.nodup_cons, List.forall_mem_cons]
    by_cases hn : n.id ∈ seen
    · simp [hn]
    rw [if_neg (by simpa using hn), ih]
    constructor
    · rintro ⟨hnodup, hseen⟩
      refine ⟨⟨fun hmem => ?_, hnodup⟩, hn, fun m hm hx => hseen m hm (List.mem_cons_of_mem _ hx)⟩
      obtain ⟨m, hm, hid⟩ := List.mem_map.mp hmem
      exact hseen m hm (hid ▸ List.mem_cons_self)
    · rintro ⟨⟨hfresh, hnodup⟩, -, hseen⟩
      refine ⟨hnodup, fun m hm hx => ?_⟩
      rcases List.mem_cons.mp hx with hx | hx
      · exact hfresh (hx ▸ List.mem_map_of_mem hm)
      · exact hseen m hm hx

theorem firstDangling_eq_none_iff {ids : List String} {arcs : List Arc} :
    firstDangling ids arcs = none ↔ ∀ a ∈ arcs, a.source ∈ ids ∧ a.target ∈ ids := by
  induction arcs with
  | nil => simp [firstDangling]
  | cons a arcs ih =>
    rw [firstDangling, List.forall_mem_cons, ← ih]
    by_cases hs : a.source ∈ ids
    · by_cases ht : a.target ∈ ids
      · simp [hs, ht]
      · simp [hs, ht]
    · simp [hs]

theorem Passes.start_mem {w : Definition} {start : Node} (hw : Passes w start) :
    start ∈ w.nodes ∧ start.type = .start := by
  have hmem : start ∈ (sortNodes w.nodes).filter (·.type == .start) := by simp [hw.starts]
  simpa [mem_sortNodes] using hmem

/-- The properties of graphs that runs rely on: ids are unique, arcs join executable nodes, and
paths from the start lead to all nodes but never back. -/
structure Valid (g : Graph) : Prop where
  ids_nodup : g.ids.Nodup
  source_mem : ∀ a ∈ g.arcs, a.source ∈ g.ids
  target_mem : ∀ a ∈ g.arcs, a.target ∈ g.ids
  start_mem : g.start ∈ g.ids
  start_unique : ∀ n ∈ g.nodes, n.type = .start → n.id = g.start
  reached : ∀ v ∈ g.ids, Relation.ReflTransGen (Leads g.arcs) g.start v
  acyclic : Acyclic g.arcs

/-- A path that begins at a node whose arcs are all kept is kept. -/
theorem reflTransGen_filter {arcs : List Arc} {start v : String}
    (h : Relation.ReflTransGen (Leads arcs) start v) :
    Relation.ReflTransGen
      (Leads (arcs.filter fun a => (reachable arcs start).contains a.source)) start v := by
  induction h with
  | refl => exact .refl
  | tail hp hl ih =>
    obtain ⟨a, ha, rfl, rfl⟩ := hl
    refine ih.tail ⟨a, List.mem_filter.mpr ⟨ha, ?_⟩, rfl, rfl⟩
    simpa using (mem_reachable_iff arcs start a.source).mpr hp

theorem compile_valid {w : Definition} {g : Graph} (h : compile w = .ok g) : g.Valid := by
  obtain ⟨start, conditions, hw, rfl, -⟩ := compile_eq_ok h
  have hnodup : ((sortNodes w.nodes).map (·.id)).Nodup :=
    (sortNodes_ids_perm w.nodes).nodup_iff.mpr (firstDuplicate_eq_none_iff.mp hw.unique).1
  have hends := firstDangling_eq_none_iff.mp hw.ends
  have hself : start.id ∈ reachable (w.edges.map arcOf) start.id :=
    (mem_reachable_iff _ _ _).mpr .refl
  have hids : ∀ v, v ∈ (ofParts w start conditions).ids ↔
      v ∈ (sortNodes w.nodes).map (·.id) ∧ v ∈ reachable (w.edges.map arcOf) start.id := by
    intro v
    simp only [ids, ofParts, List.mem_map, List.mem_filter, List.contains_eq_mem,
      decide_eq_true_eq]
    constructor
    · rintro ⟨n, ⟨hn, hlive⟩, rfl⟩
      exact ⟨⟨n, hn, rfl⟩, hlive⟩
    · rintro ⟨⟨n, hn, rfl⟩, hlive⟩
      exact ⟨n, ⟨hn, hlive⟩, rfl⟩
  have harcs : ∀ a ∈ (ofParts w start conditions).arcs, a ∈ w.edges.map arcOf ∧
      a.source ∈ reachable (w.edges.map arcOf) start.id := by
    intro a ha
    simpa [ofParts] using ha
  refine ⟨?_, ?_, ?_, ?_, ?_, ?_, ?_⟩
  · exact hnodup.sublist (List.filter_sublist.map _)
  · intro a ha
    obtain ⟨hmem, hlive⟩ := harcs a ha
    exact (hids _).mpr ⟨(hends a hmem).1, hlive⟩
  · intro a ha
    obtain ⟨hmem, hlive⟩ := harcs a ha
    exact (hids _).mpr ⟨(hends a hmem).2, reachable_closed _ _ a hmem hlive⟩
  · exact (hids _).mpr ⟨List.mem_map_of_mem (mem_sortNodes.mpr hw.start_mem.1), hself⟩
  · intro n hn htype
    have hmem : n ∈ (sortNodes w.nodes).filter (·.type == .start) := by
      simp only [ofParts, List.mem_filter] at hn
      simp [hn.1, htype]
    rw [hw.starts, List.mem_singleton] at hmem
    rw [hmem]
    rfl
  · intro v hv
    exact reflTransGen_filter ((mem_reachable_iff _ _ _).mp ((hids v).mp hv).2)
  · exact (acyclic_of_findCycle (fun a ha => (hends a ha).1) hw.uncycled).mono
      fun a ha => (harcs a ha).1

end Workflow.Graph
