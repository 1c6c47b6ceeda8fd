import Workflow.Proofs.Graph.Represents

/-! Compiling does not depend on the order in which the nodes and edges of a workflow are listed. -/
namespace Workflow.Graph

/-! ### Orders of arcs -/

section Perm

variable {arcs brcs : List Arc} (h : arcs.Perm brcs)

include h

theorem leads_perm : Leads arcs = Leads brcs := by
  ext u v
  simp [Leads, h.mem_iff]

theorem reachable_contains_perm (start v : String) :
    (reachable arcs start).contains v = (reachable brcs start).contains v := by
  simp [mem_reachable_iff, leads_perm h]

theorem peel_perm (remaining : List String) : peel arcs remaining = peel brcs remaining := by
  refine List.filter_congr fun id _ => ?_
  rw [(h.filter _).any_eq, (h.filter _).any_eq]

theorem peelTimes_perm (n : ℕ) (remaining : List String) :
    peelTimes arcs n remaining = peelTimes brcs n remaining := by
  induction n generalizing remaining with
  | zero => rfl
  | succ n ih => rw [peelTimes, peelTimes, peel_perm h, ih]

theorem findCycle_perm (ids : List String) : findCycle arcs ids = findCycle brcs ids := by
  rw [findCycle, findCycle, peelTimes_perm h]

theorem checkBranches_perm (id : String) : checkBranches arcs id = checkBranches brcs id := by
  have hout := h.filter (·.source == id)
  simp only [checkBranches, hout.length_eq, hout.any_eq]

theorem compileConditions_perm (nodes : List Node) :
    compileConditions arcs nodes = compileConditions brcs nodes := by
  induction nodes with
  | nil => rfl
  | cons n nodes ih => rw [compileConditions, compileConditions, checkBranches_perm h, ih]

end Perm

/-! ### Topological order -/

theorem insertSorted_comm (u v : String) (ids : List String) :
    insertSorted u (insertSorted v ids) = insertSorted v (insertSorted u ids) := by
  induction ids with
  | nil => grind [insertSorted]
  | cons x ids ih => grind [insertSorted]

namespace Placing

/-- The numbers of arcs after one that leads to the target is taken away. -/
def lower (target : String) (degrees : List (String × ℕ)) : List (String × ℕ) :=
  degrees.map fun d => (d.1, if d.1 = target then d.2 - 1 else d.2)

theorem lower_of_lookup_eq_none {target : String} {degrees : List (String × ℕ)}
    (h : degrees.lookup target = none) : lower target degrees = degrees := by
  refine (List.map_congr_left fun d hd => ?_).trans degrees.map_id
  have hne : target ≠ d.1 := bne_iff_ne.mp (List.lookup_eq_none_iff.mp h d hd)
  rw [if_neg hne.symm]
  rfl

theorem lookup_lower_of_ne {u v : String} (h : v ≠ u) (degrees : List (String × ℕ)) :
    (lower u degrees).lookup v = degrees.lookup v := by
  induction degrees with
  | nil => rfl
  | cons d degrees ih =>
    rw [lower, List.map_cons, List.lookup_cons, List.lookup_cons]
    by_cases hd : v = d.1
    · rw [if_neg (hd ▸ h), hd]
      simp
    · rw [beq_false_of_ne hd]
      exact ih

theorem lower_comm (u v : String) (degrees : List (String × ℕ)) :
    lower u (lower v degrees) = lower v (lower u degrees) := by
  simp only [lower, List.map_map]
  refine List.map_congr_left fun d _ => ?_
  simp only [Function.comp]
  split_ifs <;> rfl

/-- A target that is looked for in vain has nothing to be lowered. -/
theorem release_eq (p : Placing) (target : String) :
    p.release target = { p with
      degrees := lower target p.degrees
      ready := if p.degrees.lookup target = some 1 then insertSorted target p.ready
        else p.ready } := by
  unfold release
  split
  · rename_i hnone
    rw [lower_of_lookup_eq_none hnone, hnone]
    rfl
  · rename_i d hd
    have hlower : ∀ c : String × ℕ, (if c.1 == target then (c.1, c.2 - 1) else (c.1, c.2)) =
        (c.1, if c.1 = target then c.2 - 1 else c.2) := by
      intro c
      by_cases hc : c.1 = target <;> simp [hc]
    simp only [hd, lower, hlower, Option.some_inj]

theorem release_comm (p : Placing) (u v : String) :
    (p.release u).release v = (p.release v).release u := by
  by_cases huv : u = v
  · rw [huv]
  simp only [release_eq, lower_comm v u, lookup_lower_of_ne huv, lookup_lower_of_ne (Ne.symm huv)]
  congr 1
  split <;> split
  · exact insertSorted_comm v u p.ready
  all_goals rfl

variable {arcs brcs : List Arc} (h : arcs.Perm brcs)

include h

/-- Arcs that leave one node may be taken away in any order. -/
theorem step_perm (p : Placing) : p.step arcs = p.step brcs := by
  unfold step
  split
  · rfl
  · rename_i id ready hready
    have hfold := (h.filter (·.source == id)).foldl_eq'
      (f := fun p a => Placing.release p a.target)
      (fun a _ b _ q => release_comm q a.target b.target)
    simp only [hfold]

theorem steps_perm (n : ℕ) (p : Placing) : p.steps arcs n = p.steps brcs n := by
  induction n generalizing p with
  | zero => rfl
  | succ n ih => rw [steps, steps, step_perm h, ih]

theorem initial_perm (ids : List String) : initial arcs ids = initial brcs ids := by
  have hlength : ∀ id,
      (arcs.filter (·.target == id)).length = (brcs.filter (·.target == id)).length :=
    fun id => (h.filter _).length_eq
  simp only [initial, hlength]

end Placing

theorem topologicalOrder_perm {arcs brcs : List Arc} (h : arcs.Perm brcs) (ids : List String) :
    topologicalOrder arcs ids = topologicalOrder brcs ids := by
  rw [topologicalOrder, topologicalOrder, Placing.initial_perm h, Placing.steps_perm h]

/-! ### Orders of nodes and edges -/

theorem uniqueIds_perm {w : Definition} {nodes : List Node} (h : nodes.Perm w.nodes)
    (edges : List Edge) : Definition.UniqueIds { w with nodes, edges } ↔ w.UniqueIds :=
  (h.map _).nodup_iff

theorem endsKnown_perm {w : Definition} {nodes : List Node} {edges : List Edge}
    (hnodes : nodes.Perm w.nodes) (hedges : edges.Perm w.edges) :
    Definition.EndsKnown { w with nodes, edges } ↔ w.EndsKnown := by
  simp only [Definition.EndsKnown, Definition.ids, hedges.mem_iff, (hnodes.map (·.id)).mem_iff]

theorem compile_of_not_uniqueIds {w : Definition} (h : ¬ w.UniqueIds) :
    ∃ id, compile w = .error (.duplicateNodeId id) := by
  obtain ⟨id, hid⟩ := Option.ne_none_iff_exists'.mp (mt firstDuplicate_iff.mp h)
  refine ⟨id, ?_⟩
  unfold compile
  rw [hid]
  rfl

theorem compile_of_not_endsKnown {w : Definition} (hunique : w.UniqueIds) (h : ¬ w.EndsKnown) :
    ∃ edge id, compile w = .error (.danglingEdge edge id) := by
  obtain ⟨⟨edge, id⟩, hid⟩ := Option.ne_none_iff_exists'.mp (mt firstDangling_iff.mp h)
  refine ⟨edge, id, ?_⟩
  unfold compile
  simp only [firstDuplicate_iff.mpr hunique, hid]
  rfl

theorem sortNodes_eq_of_perm {nodes others : List Node} (hunique : (nodes.map (·.id)).Nodup)
    (h : others.Perm nodes) : sortNodes others = sortNodes nodes := by
  have hother : (others.map (·.id)).Nodup := (h.map _).nodup_iff.mpr hunique
  have hperm := (sortNodes_perm others).trans (h.trans (sortNodes_perm nodes).symm)
  exact hperm.eq_of_pairwise (fun a b _ _ hab hba => absurd hab (String.lt_asymm hba))
    (sortNodes_increasing hother) (sortNodes_increasing hunique)

theorem compile_of_nodes_perm {w : Definition} {nodes : List Node} (h : nodes.Perm w.nodes)
    (hunique : w.UniqueIds) : compile { w with nodes } = compile w := by
  have hfresh := firstDuplicate_iff.mpr hunique
  have hfresh' := firstDuplicate_iff.mpr ((uniqueIds_perm h w.edges).mpr hunique)
  unfold compile
  simp only [hfresh, hfresh', sortNodes_eq_of_perm hunique h]

/-- The order of the edges is that of the arcs, and nothing else depends on it. -/
theorem compile_of_edges_perm {w : Definition} {edges : List Edge} (h : edges.Perm w.edges)
    (hends : w.EndsKnown) :
    compile { w with edges } = (compile w).map fun g => { g with
      arcs := (edges.map arcOf).filter fun a =>
        (reachable (w.edges.map arcOf) g.start).contains a.source } := by
  have harcs : (edges.map arcOf).Perm (w.edges.map arcOf) := h.map arcOf
  have hknown := firstDangling_iff.mpr hends
  have hknown' := firstDangling_iff.mpr ((endsKnown_perm (List.Perm.refl w.nodes) h).mpr hends)
  unfold compile
  simp only [hknown, hknown', harcs.any_eq, findCycle_perm harcs, reachable_contains_perm harcs,
    bind, Except.bind, pure, Except.pure, throw, throwThe, MonadExceptOf.throw]
  split
  · rfl
  · split
    · rename_i start hstart
      split
      · rfl
      · split
        · rfl
        · split
          · rfl
          · have hkept := harcs.filter fun a =>
              (reachable (w.edges.map arcOf) start.id).contains a.source
            simp only [compileConditions_perm hkept, topologicalOrder_perm hkept]
            split <;> rfl
    · rfl

/-- Arcs in another order: what belongs to an arc is found under another number. -/
structure Renumbering (g g' : Graph) (number : Fin g.arcs.length ≃ Fin g'.arcs.length) : Prop where
  arcs : ∀ i, g'.arcs.get (number i) = g.arcs.get i
  outgoing : ∀ v i, (number i : ℕ) ∈ g'.outgoing v ↔ (i : ℕ) ∈ g.outgoing v
  incoming : ∀ v i, (number i : ℕ) ∈ g'.incoming v ↔ (i : ℕ) ∈ g.incoming v

/-- The graphs are equal but for the numbers of their arcs. -/
structure Renumbered (g g' : Graph) : Prop where
  workflowId : g'.workflowId = g.workflowId
  start : g'.start = g.start
  nodes : g'.nodes = g.nodes
  standalone : g'.standalone = g.standalone
  conditions : g'.conditions = g.conditions
  topoOrder : g'.topoOrder = g.topoOrder
  inDegree : ∀ v, g'.inDegree v = g.inDegree v
  arcs : ∃ number, g.Renumbering g' number

/-- The results of compiling are alike. An error about a repeated id or about an end of an edge may
tell of another one, since it tells of the one that is listed first. -/
inductive Alike : Except GraphError Graph → Except GraphError Graph → Prop
  | graph {g g' : Graph} (h : g.Renumbered g') : Alike (.ok g) (.ok g')
  | error {e e' : GraphError} (hcode : e'.code = e.code)
    (hsame : e.code ∉ ["duplicate_node_id", "dangling_edge"] → e' = e) :
    Alike (.error e) (.error e')

theorem renumbering_of_perm {g g' : Graph} (h : g.arcs.Perm g'.arcs) :
    ∃ number, g.Renumbering g' number := by
  have hsame : ∀ i, g'.arcs.get (h.idxBij i) = g.arcs.get i := h.getElem_idxBij_eq_getElem
  refine ⟨⟨h.idxBij, h.symm.idxBij, fun _ => h.idxBij_symm_idxBij, fun _ => h.idxBij_idxBij_symm⟩,
    hsame, fun v i => ?_, fun v i => ?_⟩
  · exact mem_outgoing_iff_source.trans ((hsame i).symm ▸ mem_outgoing_iff_source.symm)
  · exact mem_incoming_iff_target.trans ((hsame i).symm ▸ mem_incoming_iff_target.symm)

theorem renumbered_of_perm {g : Graph} {arcs : List Arc} (h : g.arcs.Perm arcs) :
    g.Renumbered { g with arcs } where
  workflowId := rfl
  start := rfl
  nodes := rfl
  standalone := rfl
  conditions := rfl
  topoOrder := rfl
  inDegree v := by
    rw [inDegree_eq_countP, inDegree_eq_countP]
    exact (h.countP_eq _).symm
  arcs := renumbering_of_perm h

/-- The nodes of a workflow may be listed in any order. So may its edges, which changes but the
numbers of the arcs. If the workflow does not compile it fails in the same way. -/
theorem compile_unordered (w : Definition) (nodes : List Node) (edges : List Edge)
    (hnodes : nodes.Perm w.nodes) (hedges : edges.Perm w.edges) :
    (∀ g, compile w = .ok g → compile { w with nodes } = .ok g) ∧
    Alike (compile w) (compile { w with nodes, edges }) := by
  refine ⟨fun g hg => ?_, ?_⟩
  · rw [compile_of_nodes_perm hnodes (wellFormed_of_compile hg).unique, hg]
  by_cases hunique : w.UniqueIds
  · have hunique' := (uniqueIds_perm hnodes edges).mpr hunique
    by_cases hends : w.EndsKnown
    · have hends' := (endsKnown_perm hnodes (List.Perm.refl w.edges)).mpr hends
      have heq := compile_of_edges_perm (w := { w with nodes }) hedges hends'
      rw [compile_of_nodes_perm hnodes hunique] at heq
      rw [heq]
      cases hc : compile w with
      | error e => exact .error rfl fun _ => rfl
      | ok g =>
        obtain ⟨start, conditions, -, rfl, -⟩ := compile_eq_ok hc
        exact .graph (renumbered_of_perm ((hedges.map arcOf).symm.filter _))
    · obtain ⟨e, u, he⟩ := compile_of_not_endsKnown hunique hends
      obtain ⟨f, v, hf⟩ :=
        compile_of_not_endsKnown hunique' (mt (endsKnown_perm hnodes hedges).mp hends)
      rw [he, hf]
      exact .error rfl fun hno => absurd (by simp [GraphError.code]) hno
  · obtain ⟨u, hu⟩ := compile_of_not_uniqueIds hunique
    obtain ⟨v, hv⟩ := compile_of_not_uniqueIds (mt (uniqueIds_perm hnodes edges).mp hunique)
    rw [hu, hv]
    exact .error rfl fun hno => absurd (by simp [GraphError.code]) hno

-- Of two repeated ids the error tells of the one that is repeated first.
example :
    let a := Node.ofPayload "a" .finish
    let b := Node.ofPayload "b" .finish
    compile { id := "", nodes := [a, a, b, b], edges := [] } = .error (.duplicateNodeId "a") ∧
      compile { id := "", nodes := [b, b, a, a], edges := [] } = .error (.duplicateNodeId "b") := by
  decide

def notedInOrder : Graph where
  workflowId := "noted"
  start := "a"
  nodes := noted.nodes
  arcs := [⟨"a->b", "a", "b", none⟩, ⟨"b->c:false", "b", "c", some "false"⟩,
    ⟨"b->c:true", "b", "c", some "true"⟩]
  standalone := ["n"]
  conditions := noted.conditions
  topoOrder := noted.topoOrder

/-- Nodes and edges the other way round: only the numbers of the arcs change. -/
theorem compile_unordered_of_noted :
    compile notedWorkflow = .ok noted ∧
    compile { notedWorkflow with
      nodes := notedWorkflow.nodes.reverse, edges := notedWorkflow.edges.reverse } =
        .ok notedInOrder ∧
    compile { notedWorkflow with nodes := notedWorkflow.nodes.reverse } = .ok noted ∧
    Alike (.ok noted) (.ok notedInOrder) := by
  have hreversed : compile { notedWorkflow with
      nodes := notedWorkflow.nodes.reverse, edges := notedWorkflow.edges.reverse } =
        .ok notedInOrder := by decide +kernel
  have h := compile_unordered notedWorkflow notedWorkflow.nodes.reverse notedWorkflow.edges.reverse
    (List.reverse_perm _) (List.reverse_perm _)
  rw [hreversed, compile_notedWorkflow] at h
  exact ⟨compile_notedWorkflow, hreversed, h.1 noted rfl, h.2⟩

end Workflow.Graph
