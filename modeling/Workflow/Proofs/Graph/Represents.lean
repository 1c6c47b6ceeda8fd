import Workflow.Proofs.Graph.Checks

/-! A compiled graph in terms of its workflow: which nodes, arcs and conditions it keeps, and how
its arcs are found from their ends. -/
namespace Workflow

namespace Graph

/-- The places of all arcs, in one ascending list for each node: the list of the node that stands
at the given end of the arc. -/
structure Indexes (g : Graph) (endOf : Arc → String) (places : String → List ℕ) : Prop where
  ascending : ∀ v, (places v).Pairwise (· < ·)
  mem_iff : ∀ v i, i ∈ places v ↔ ∃ a, g.arcs[i]? = some a ∧ endOf a = v
  once : (g.ids.flatMap places).Perm (List.range g.arcs.length)

open Classical in
/-- What a graph is to the workflow that it was compiled from. -/
structure Represents (g : Graph) (w : Definition) : Prop where
  ids_nodup : (g.ids ++ g.standalone).Nodup
  /-- The nodes that are not executable are information nodes that nothing leads to. -/
  parted : ∃ notes : List Node, g.standalone = notes.map (·.id) ∧ (g.nodes ++ notes).Perm w.nodes ∧
    ∀ n ∈ notes, n.type = .information ∧ ¬ w.Reaches n.id
  reached : ∀ n ∈ g.nodes, w.Reaches n.id
  arcs_eq : g.arcs = (w.edges.filter fun e => w.Reaches e.source).map arcOf
  ends_mem : ∀ a ∈ g.arcs, a.source ∈ g.ids ∧ a.target ∈ g.ids
  outgoing : g.Indexes (·.source) g.outgoing
  incoming : g.Indexes (·.target) g.incoming
  inDegree_eq : ∀ v, g.inDegree v = (g.incoming v).length
  start_type : ∃ n ∈ g.nodes, n.id = g.start ∧ n.type = .start
  /-- The start node is the only root. -/
  inDegree_eq_zero_iff : ∀ v ∈ g.ids, g.inDegree v = 0 ↔ v = g.start
  condition?_eq_some_iff : ∀ v p, g.condition? v = some p ↔ ∃ n ∈ g.nodes, n.id = v ∧
    ∃ expression, n.payload = .condition expression ∧ Predicate.parse expression = .ok p
  condition?_isSome_iff : ∀ n ∈ g.nodes, (g.condition? n.id).isSome ↔ n.type = .condition

theorem indexes {g : Graph} (endOf : Arc → String) (hnodup : g.ids.Nodup)
    (hends : ∀ a ∈ g.arcs, endOf a ∈ g.ids) :
    g.Indexes endOf fun v => indicesFrom (endOf · == v) 0 g.arcs := by
  have hmem : ∀ v i, i ∈ indicesFrom (endOf · == v) 0 g.arcs ↔
      ∃ a, g.arcs[i]? = some a ∧ endOf a = v := by
    simp [mem_indicesFrom]
  refine ⟨fun v => indicesFrom_ascending _ 0 g.arcs, hmem, ?_⟩
  have hdistinct : (g.ids.flatMap fun v => indicesFrom (endOf · == v) 0 g.arcs).Nodup := by
    refine List.nodup_flatMap.mpr ⟨fun v _ => indicesFrom_nodup _ 0 g.arcs, ?_⟩
    refine hnodup.imp fun hne i hu hv => hne ?_
    obtain ⟨a, ha, rfl⟩ := (hmem _ i).mp hu
    obtain ⟨b, hb, rfl⟩ := (hmem _ i).mp hv
    rw [Option.some.inj (ha.symm.trans hb)]
  refine (List.perm_ext_iff_of_nodup hdistinct List.nodup_range).mpr fun i => ?_
  rw [List.mem_flatMap, List.mem_range]
  constructor
  · rintro ⟨v, -, hi⟩
    obtain ⟨a, ha, -⟩ := (hmem v i).mp hi
    exact (List.getElem?_eq_some_iff.mp ha).1
  · intro hi
    exact ⟨endOf g.arcs[i], hends _ (List.getElem_mem hi),
      (hmem _ i).mpr ⟨_, List.getElem?_eq_getElem hi, rfl⟩⟩

theorem inDegree_eq_zero_iff {g : Graph} {v : String} :
    g.inDegree v = 0 ↔ ∀ a ∈ g.arcs, a.target ≠ v := by
  rw [inDegree, List.length_eq_zero_iff, List.eq_nil_iff_forall_not_mem]
  constructor
  · intro hno a ha ht
    obtain ⟨i, hi⟩ := List.mem_iff_getElem?.mp ha
    exact hno i (mem_incoming.mpr ⟨a, hi, ht⟩)
  · intro hno i hi
    obtain ⟨a, ha, ht⟩ := mem_incoming.mp hi
    exact hno a (List.mem_of_getElem? ha) ht

/-- Nothing leads to the start, since all that leads to a node is reached from the start; and all
other nodes are reached by some arc. -/
theorem Valid.inDegree_eq_zero_iff {g : Graph} (hg : g.Valid) {v : String} (hv : v ∈ g.ids) :
    g.inDegree v = 0 ↔ v = g.start := by
  rw [Graph.inDegree_eq_zero_iff]
  constructor
  · intro hno
    rcases Relation.ReflTransGen.cases_tail (hg.reached v hv) with heq | ⟨u, -, a, ha, -, ht⟩
    · exact heq
    · exact absurd ht (hno a ha)
  · rintro rfl a ha ht
    have hpath := hg.reached a.source (hg.source_mem a ha)
    exact hg.acyclic g.start (.tail' hpath ⟨a, ha, rfl, ht⟩)

/-- The nodes that the start does not lead to. -/
def apart (w : Definition) (start : Node) : List Node :=
  (sortNodes w.nodes).filter fun n => !(reachable (w.edges.map arcOf) start.id).contains n.id

section Compiled

variable {w : Definition} {start : Node}

theorem ofParts_append_apart (conditions : List (String × Predicate)) :
    ((ofParts w start conditions).nodes ++ apart w start).Perm w.nodes :=
  (List.filter_append_perm _ _).trans (sortNodes_perm w.nodes)

theorem mem_apart (hw : Passes w start) {n : Node} :
    n ∈ apart w start ↔ n ∈ w.nodes ∧ ¬ w.Reaches n.id := by
  simp [apart, mem_sortNodes, mem_reachable_iff_reaches hw.starts]

open Classical in
theorem ofParts_arcs (hw : Passes w start) (conditions : List (String × Predicate)) :
    (ofParts w start conditions).arcs =
      (w.edges.filter fun e => w.Reaches e.source).map arcOf := by
  rw [ofParts, List.filter_map]
  refine congrArg (List.map arcOf) (List.filter_congr fun e _ => ?_)
  simp [arcOf, mem_reachable_iff_reaches hw.starts]

end Compiled

/-- Compiling keeps of a workflow what its start leads to. -/
theorem compile_represents {w : Definition} {g : Graph} (h : compile w = .ok g) :
    g.Represents w := by
  have hg := compile_valid h
  have hwell := wellFormed_of_compile h
  obtain ⟨start, conditions, hw, rfl, hconditions⟩ := compile_eq_ok h
  have hnodes : ∀ n, n ∈ (ofParts w start conditions).nodes ↔ n ∈ w.nodes ∧ w.Reaches n.id :=
    fun n => mem_ofParts_nodes hw.starts
  have hperm : ((ofParts w start conditions).nodes ++ apart w start).Perm w.nodes :=
    ofParts_append_apart conditions
  have hfound : ∀ v p, (ofParts w start conditions).condition? v = some p ↔ _ :=
    fun v p => lookup_compileConditions hconditions hg.ids_nodup
  refine {
    ids_nodup := ?_
    parted := ⟨apart w start, rfl, hperm, fun n hn => ?_⟩
    reached := fun n hn => ((hnodes n).mp hn).2
    arcs_eq := ofParts_arcs hw conditions
    ends_mem := fun a ha => ⟨hg.source_mem a ha, hg.target_mem a ha⟩
    outgoing := indexes (·.source) hg.ids_nodup hg.source_mem
    incoming := indexes (·.target) hg.ids_nodup hg.target_mem
    inDegree_eq := fun v => rfl
    start_type := ⟨start, (hnodes start).mpr ⟨hw.start_mem.1, start, hw.start_mem.1,
      hw.start_mem.2, .refl⟩, rfl, hw.start_mem.2⟩
    inDegree_eq_zero_iff := fun v hv => hg.inDegree_eq_zero_iff hv
    condition?_eq_some_iff := hfound
    condition?_isSome_iff := fun n hn => ?_ }
  · have heq : (ofParts w start conditions).ids ++ (ofParts w start conditions).standalone =
        ((ofParts w start conditions).nodes ++ apart w start).map (·.id) := by
      rw [List.map_append]
      rfl
    rw [heq, (hperm.map _).nodup_iff]
    exact hwell.unique
  · obtain ⟨hmem, hno⟩ := (mem_apart hw).mp hn
    exact ⟨by_contra fun ht => hno (hwell.joined n hmem ht), hno⟩
  · obtain ⟨hmem, hr⟩ := (hnodes n).mp hn
    rw [Option.isSome_iff_exists, type_eq_condition_iff]
    constructor
    · rintro ⟨p, hp⟩
      obtain ⟨m, hm, hid, expression, he, -⟩ := (hfound n.id p).mp hp
      rw [← List.inj_on_of_nodup_map hg.ids_nodup hm hn hid]
      exact ⟨expression, he⟩
    · rintro ⟨expression, he⟩
      obtain ⟨p, hp⟩ := hwell.parses n.id n hmem rfl hr expression he
      exact ⟨p, (hfound n.id p).mpr ⟨n, hn, rfl, expression, he, hp⟩⟩

/-- A note has edges to the start node and to the last one; it stands first, and the nodes behind it
in the order against that of their ids. -/
def notedWorkflow : Definition where
  id := "noted"
  nodes := [.ofPayload "n" (.information none), .ofPayload "c" .finish,
    .ofPayload "b" (.condition "ready"), .ofPayload "a" (.start [])]
  edges := [.between "n" "a", .branch "b" "c" true, .between "n" "c", .branch "b" "c" false,
    .between "a" "b"]

def noted : Graph where
  workflowId := "noted"
  start := "a"
  nodes := [.ofPayload "a" (.start []), .ofPayload "b" (.condition "ready"), .ofPayload "c" .finish]
  arcs := [⟨"b->c:true", "b", "c", some "true"⟩, ⟨"b->c:false", "b", "c", some "false"⟩,
    ⟨"a->b", "a", "b", none⟩]
  standalone := ["n"]
  conditions := [("b", .path "ready")]
  topoOrder := ["a", "b", "c"]

theorem compile_notedWorkflow : compile notedWorkflow = .ok noted := by decide +kernel

/-- The edges of the note are left out, so that nothing leads to the start node. -/
theorem compile_represents_of_noted :
    compile notedWorkflow = .ok noted ∧ noted.incoming "a" = [] ∧ noted.incoming "c" = [0, 1] ∧
      noted.Represents notedWorkflow :=
  ⟨compile_notedWorkflow, by decide, by decide, compile_represents compile_notedWorkflow⟩

end Graph
end Workflow
