import Workflow.Proofs.Graph.Compiled
import Workflow.Proofs.Graph.WellFormed

/-! Compiling as a decision: a workflow compiles just if it is well formed, and otherwise the error
names the first check, in a fixed order, that the workflow does not pass. -/
namespace Workflow.Graph

variable {w : Definition} {start : Node}

/-! ### The checks of nodes and edges -/

theorem leads_eq_joins (w : Definition) : Leads (w.edges.map arcOf) = w.Joins := by
  ext u v
  simp [Leads, arcOf, Definition.Joins]

theorem firstDuplicate_iff : firstDuplicate [] w.nodes = none ↔ w.UniqueIds := by
  simp [firstDuplicate_eq_none_iff, Definition.UniqueIds, Definition.ids]

theorem firstDangling_iff :
    firstDangling ((sortNodes w.nodes).map (·.id)) (w.edges.map arcOf) = none ↔ w.EndsKnown := by
  simp only [firstDangling_eq_none_iff, (sortNodes_ids_perm w.nodes).mem_iff, List.forall_mem_map]
  rfl

theorem starts_iff :
    (∃ start, (sortNodes w.nodes).filter (·.type == .start) = [start]) ↔ w.OneStart := by
  have hperm := (sortNodes_perm w.nodes).filter (·.type == .start)
  constructor
  · rintro ⟨start, h⟩
    rw [h] at hperm
    exact ⟨start, List.perm_singleton.mp hperm.symm⟩
  · rintro ⟨start, h⟩
    rw [h] at hperm
    exact ⟨start, List.perm_singleton.mp hperm⟩

theorem entered_iff : (sortNodes w.nodes).find? (fun n => !mayStandAlone n &&
    !(w.edges.map arcOf).any (·.target == n.id)) = none ↔ w.Entered := by
  simp [mem_sortNodes, mayStandAlone, Definition.Entered, arcOf]

theorem uncycled_iff (hends : w.EndsKnown) :
    findCycle (w.edges.map arcOf) ((sortNodes w.nodes).map (·.id)) = none ↔ w.Uncycled := by
  rw [findCycle_eq_none_iff, Acyclic, Path, leads_eq_joins]
  · rfl
  · intro a ha
    obtain ⟨e, he, rfl⟩ := List.mem_map.mp ha
    exact (sortNodes_ids_perm w.nodes).mem_iff.mpr (hends e he).1

/-- The start node that is the only one is what nodes are reached from. -/
theorem mem_reachable_iff_reaches
    (hstart : (sortNodes w.nodes).filter (·.type == .start) = [start]) (v : String) :
    v ∈ reachable (w.edges.map arcOf) start.id ↔ w.Reaches v := by
  have honly : ∀ n, n ∈ w.nodes ∧ n.type = .start ↔ n = start := by
    intro n
    rw [← List.mem_singleton (a := n), ← hstart, List.mem_filter, mem_sortNodes, beq_iff_eq]
  rw [mem_reachable_iff, leads_eq_joins]
  constructor
  · intro h
    obtain ⟨hmem, htype⟩ := (honly start).mpr rfl
    exact ⟨start, hmem, htype, h⟩
  · rintro ⟨n, hn, ht, h⟩
    exact (honly n).mp ⟨hn, ht⟩ ▸ h

theorem joined_iff (hstart : (sortNodes w.nodes).filter (·.type == .start) = [start]) :
    ((sortNodes w.nodes).filter fun n => !(reachable (w.edges.map arcOf) start.id).contains n.id
      ).find? (·.type != .information) = none ↔ w.Joined := by
  simp only [List.find?_eq_none, List.mem_filter, mem_sortNodes, Bool.not_eq_true',
    List.contains_eq_mem, decide_eq_false_iff_not, mem_reachable_iff_reaches hstart, bne_iff_ne]
  constructor
  · intro h n hn ht
    by_contra hr
    exact h n ⟨hn, hr⟩ ht
  · rintro h n ⟨hn, hr⟩ ht
    exact hr (h n hn ht)

/-! ### The checks of condition nodes -/

/-- The handles of the arcs that leave a node. -/
def handles (arcs : List Arc) (id : String) : List (Option String) :=
  (arcs.filter (·.source == id)).map (·.handle)

theorem checkBranches_eq_ok_iff {arcs : List Arc} {id : String} :
    checkBranches arcs id = .ok () ↔ (handles arcs id).Perm [some "true", some "false"] := by
  unfold checkBranches handles
  generalize arcs.filter (·.source == id) = out
  by_cases hlen : out.length = 2
  · obtain ⟨a, b, rfl⟩ := List.length_eq_two.mp hlen
    have hboth : (a.handle = some "true" ∨ b.handle = some "true") ∧
        (a.handle = some "false" ∨ b.handle = some "false") ↔
        [a.handle, b.handle].Perm [some "true", some "false"] := by
      constructor
      · grind
      · intro hp
        have ht := hp.mem_iff (a := some "true")
        have hf := hp.mem_iff (a := some "false")
        grind
    rw [List.map_cons, List.map_cons, List.map_nil, ← hboth]
    simp [or_iff_not_imp_left]
  · refine iff_of_false (by simp [hlen]) fun hp => hlen ?_
    simpa using hp.length_eq

theorem checkBranches_code {arcs : List Arc} {id : String} {e : GraphError}
    (h : checkBranches arcs id = .error e) : e.code = "invalid_condition_branching" := by
  simp only [checkBranches] at h
  split at h
  · cases h
    rfl
  · split at h
    · cases h
    · cases h
      rfl

/-- If the node is a condition node, it has an arc for each result and an expression that can be
parsed. -/
def WellBranched (arcs : List Arc) (n : Node) : Prop :=
  ∀ expression, n.payload = .condition expression →
    (handles arcs n.id).Perm [some "true", some "false"] ∧
      ∃ p, Predicate.parse expression = .ok p

/-- A condition node is checked and parsed before the nodes behind it, and other nodes are passed
over. -/
theorem compileConditions_cons_eq_ok {arcs : List Arc} {n : Node} {nodes : List Node}
    {conditions : List (String × Predicate)}
    (h : compileConditions arcs (n :: nodes) = .ok conditions) :
    (∃ expression p rest, n.payload = .condition expression ∧ checkBranches arcs n.id = .ok () ∧
      Predicate.parse expression = .ok p ∧ compileConditions arcs nodes = .ok rest ∧
      conditions = (n.id, p) :: rest) ∨
    ((∀ expression, n.payload ≠ .condition expression) ∧
      compileConditions arcs nodes = .ok conditions) := by
  rw [compileConditions] at h
  split at h
  · rename_i expression hn
    simp only [bind, Except.bind] at h
    split at h
    · cases h
    rename_i hb
    split at h
    · cases h
    rename_i p hp
    split at h
    · cases h
    rename_i rest hrest
    cases h
    exact Or.inl ⟨expression, p, rest, hn, hb, hp, hrest, rfl⟩
  · rename_i hno
    exact Or.inr ⟨hno, h⟩

theorem wellBranched_of_compileConditions {arcs : List Arc} {nodes : List Node}
    {conditions : List (String × Predicate)} (h : compileConditions arcs nodes = .ok conditions) :
    ∀ n ∈ nodes, WellBranched arcs n := by
  induction nodes generalizing conditions with
  | nil => exact List.forall_mem_nil _
  | cons n nodes ih =>
    rcases compileConditions_cons_eq_ok h with
      ⟨expression, p, rest, hn, hb, hp, hrest, -⟩ | ⟨hno, h⟩
    · refine List.forall_mem_cons.mpr ⟨fun other ho => ?_, ih hrest⟩
      obtain rfl : expression = other := by injection hn.symm.trans ho
      exact ⟨checkBranches_eq_ok_iff.mp hb, p, hp⟩
    · exact List.forall_mem_cons.mpr ⟨fun expression hn => (hno expression hn).elim, ih h⟩

/-- What is found under an id is the predicate of the condition node that has it. -/
theorem lookup_compileConditions {arcs : List Arc} {nodes : List Node}
    {conditions : List (String × Predicate)} (h : compileConditions arcs nodes = .ok conditions)
    (hnodup : (nodes.map (·.id)).Nodup) {v : String} {p : Predicate} :
    conditions.lookup v = some p ↔ ∃ n ∈ nodes, n.id = v ∧
      ∃ expression, n.payload = .condition expression ∧ Predicate.parse expression = .ok p := by
  induction nodes generalizing conditions with
  | nil =>
    cases h
    simp
  | cons n nodes ih =>
    rw [List.map_cons, List.nodup_cons] at hnodup
    rcases compileConditions_cons_eq_ok h with
      ⟨expression, q, rest, hn, -, hq, hrest, rfl⟩ | ⟨hno, h⟩
    · by_cases hv : v = n.id
      · subst hv
        have honly : ∀ m ∈ nodes, m.id ≠ n.id := fun m hm hid =>
          hnodup.1 (hid ▸ List.mem_map_of_mem hm)
        rw [List.lookup_cons_self, Option.some_inj]
        constructor
        · rintro rfl
          exact ⟨n, List.mem_cons_self, rfl, expression, hn, hq⟩
        · rintro ⟨m, hm, hid, other, ho, hp⟩
          rcases List.mem_cons.mp hm with rfl | hm
          · obtain rfl : expression = other := by injection hn.symm.trans ho
            exact Except.ok.inj (hq.symm.trans hp)
          · exact absurd hid (honly m hm)
      · rw [List.lookup_cons, beq_false_of_ne hv, ih hrest hnodup.2]
        simp [Ne.symm hv]
    · rw [ih h hnodup.2]
      simp [hno]

/-- The first condition node that does not pass is what the error is about. -/
theorem compileConditions_eq_error {arcs : List Arc} {nodes : List Node} {e : GraphError}
    (h : compileConditions arcs nodes = .error e) :
    ∃ before n after expression, nodes = before ++ n :: after ∧
      (∀ m ∈ before, WellBranched arcs m) ∧ n.payload = .condition expression ∧
      (¬ (handles arcs n.id).Perm [some "true", some "false"] ∧
          e.code = "invalid_condition_branching" ∨
        (handles arcs n.id).Perm [some "true", some "false"] ∧
          (∀ p, Predicate.parse expression ≠ .ok p) ∧ e.code = "invalid_expression") := by
  induction nodes with
  | nil => cases h
  | cons n nodes ih =>
    rw [compileConditions] at h
    split at h
    · rename_i expression hn
      simp only [bind, Except.bind] at h
      split at h
      · rename_i e' hb
        cases h
        refine ⟨[], n, nodes, expression, rfl, List.forall_mem_nil _, hn, Or.inl ⟨?_, ?_⟩⟩
        · rw [← checkBranches_eq_ok_iff, hb]
          simp
        · exact checkBranches_code hb
      rename_i hb
      have hlabels := checkBranches_eq_ok_iff.mp hb
      split at h
      · rename_i fault hp
        cases h
        refine ⟨[], n, nodes, expression, rfl, List.forall_mem_nil _, hn, Or.inr ⟨hlabels, ?_, rfl⟩⟩
        simp [hp]
      rename_i p hp
      split at h
      · rename_i e' hrest
        cases h
        obtain ⟨before, m, after, expression', rfl, hbefore, hm⟩ := ih hrest
        refine ⟨n :: before, m, after, expression', rfl, List.forall_mem_cons.mpr ⟨?_, hbefore⟩, hm⟩
        intro other ho
        obtain rfl : expression = other := by injection hn.symm.trans ho
        exact ⟨hlabels, p, hp⟩
      · cases h
    · rename_i hno
      obtain ⟨before, m, after, expression, rfl, hbefore, hrest⟩ := ih h
      refine ⟨n :: before, m, after, expression, rfl, List.forall_mem_cons.mpr ⟨?_, hbefore⟩, hrest⟩
      exact fun expression hn => (hno expression hn).elim

theorem type_eq_condition_iff {n : Node} :
    n.type = .condition ↔ ∃ expression, n.payload = .condition expression := by
  unfold Node.type
  cases n.payload <;> simp [Payload.type]

section Kept

variable (hunique : w.UniqueIds)
  (hstart : (sortNodes w.nodes).filter (·.type == .start) = [start])

include hstart

theorem mem_ofParts_nodes {conditions : List (String × Predicate)} {n : Node} :
    n ∈ (ofParts w start conditions).nodes ↔ n ∈ w.nodes ∧ w.Reaches n.id := by
  simp [ofParts, mem_sortNodes, mem_reachable_iff_reaches hstart]

theorem handles_ofParts {conditions : List (String × Predicate)} {v : String}
    (hv : w.Reaches v) : handles (ofParts w start conditions).arcs v = w.labels v := by
  have hlive := (mem_reachable_iff_reaches hstart v).mpr hv
  -- Arcs are left out by their sources only, and this source is live.
  have hkept : (ofParts w start conditions).arcs.filter (·.source == v) =
      (w.edges.map arcOf).filter (·.source == v) := by
    rw [ofParts, List.filter_filter]
    refine List.filter_congr fun a _ => ?_
    by_cases ha : a.source = v
    · simp [ha, hlive]
    · simp [ha]
  rw [handles, hkept, List.filter_map, List.map_map]
  rfl

include hunique

/-- No other node has the id of a condition node, so the checks of the id are those of the node. -/
theorem wellBranched_iff {conditions : List (String × Predicate)} {n : Node} (hn : n ∈ w.nodes)
    (hr : w.Reaches n.id) : WellBranched (ofParts w start conditions).arcs n ↔
      w.Branches n.id ∧ w.Parses n.id := by
  have honly : ∀ m ∈ w.nodes, m.id = n.id → m = n := fun m hm hid =>
    List.inj_on_of_nodup_map hunique hm hn hid
  rw [WellBranched, handles_ofParts hstart hr]
  constructor
  · intro h
    refine ⟨fun m hm hid ht _ => ?_, fun m hm hid _ expression hp => ?_⟩
    · obtain ⟨expression, hp⟩ := type_eq_condition_iff.mp ht
      exact (h expression (honly m hm hid ▸ hp)).1
    · exact (h expression (honly m hm hid ▸ hp)).2
  · rintro ⟨hb, hp⟩ expression he
    have ht : n.type = .condition := type_eq_condition_iff.mpr ⟨expression, he⟩
    exact ⟨hb n hn rfl ht hr, hp n hn rfl hr expression he⟩

theorem passes_of_lt {before after : List Node} {n : Node}
    (heq : (ofParts w start []).nodes = before ++ n :: after)
    (hbefore : ∀ m ∈ before, WellBranched (ofParts w start []).arcs m) {u : String}
    (hu : u < n.id) : w.Branches u ∧ w.Parses u := by
  have hsorted : (before ++ n :: after).Pairwise fun a b => a.id < b.id :=
    heq ▸ (sortNodes_increasing hunique).sublist List.filter_sublist
  have hpassed : ∀ m ∈ w.nodes, m.id = u → w.Reaches m.id → w.Branches m.id ∧ w.Parses m.id := by
    rintro m hm rfl hr
    -- Nodes are looked at in the order of their ids, so a lower one was looked at before.
    have hmem : m ∈ before ++ n :: after := heq ▸ (mem_ofParts_nodes hstart).mpr ⟨hm, hr⟩
    rcases List.mem_append.mp hmem with hmem | hmem
    · exact (wellBranched_iff hunique hstart hm hr).mp (hbefore m hmem)
    · rcases List.mem_cons.mp hmem with rfl | hmem
      · exact absurd hu (String.lt_irrefl _)
      · have hafter := List.rel_of_pairwise_cons (List.pairwise_append.mp hsorted).2.1 hmem
        exact absurd hu (String.lt_asymm hafter)
  refine ⟨fun m hm hid ht hr => ?_, fun m hm hid hr expression hp => ?_⟩
  · exact hid ▸ (hpassed m hm hid (hid ▸ hr)).1 m hm rfl ht (hid ▸ hr)
  · exact (hpassed m hm hid (hid ▸ hr)).2 m hm rfl (hid ▸ hr) expression hp

theorem isFirst_of_conditions (hpassed : Check.PassedTo w 6) {e : GraphError}
    (h : compileConditions (ofParts w start []).arcs (ofParts w start []).nodes = .error e) :
    ∃ check : Check, check.IsFirst w ∧ e.code = check.code := by
  obtain ⟨before, n, after, expression, heq, hbefore, hpayload, hfails⟩ :=
    compileConditions_eq_error h
  have hmem : n ∈ (ofParts w start []).nodes := by simp [heq]
  obtain ⟨hn, hr⟩ := (mem_ofParts_nodes hstart).mp hmem
  have hlower : ∀ (check : Check) (u : String), check.node? = some u → u < n.id →
      check.Passes w := by
    intro check u hc hu
    have hpasses := passes_of_lt hunique hstart heq hbefore hu
    cases check with
    | branches v =>
      cases hc
      exact hpasses.1
    | parses v =>
      cases hc
      exact hpasses.2
    | _ => cases hc
  rw [handles_ofParts hstart hr] at hfails
  rcases hfails with ⟨hlabels, hcode⟩ | ⟨hlabels, hparse, hcode⟩
  · refine ⟨.branches n.id, ⟨fun hb => hlabels ?_, fun a ha => ?_⟩, hcode⟩
    · exact hb n hn rfl (type_eq_condition_iff.mpr ⟨expression, hpayload⟩) hr
    · cases ha with
      | stage ha => exact hpassed a ha
      | node ha hb hu =>
        cases hb
        exact hlower a _ ha hu
  · refine ⟨.parses n.id, ⟨fun hp => ?_, fun a ha => ?_⟩, hcode⟩
    · obtain ⟨p, hp⟩ := hp n hn rfl hr expression hpayload
      exact hparse p hp
    · cases ha with
      | stage ha => exact hpassed a ha
      | node ha hb hu =>
        cases hb
        exact hlower a _ ha hu
      | parses => exact fun m hm hid ht hr => hlabels

end Kept

/-- The error is about the first check that the workflow does not pass. -/
theorem compile_eq_error {e : GraphError} (h : compile w = .error e) :
    ∃ check : Check, check.IsFirst w ∧ e.code = check.code := by
  -- Compiling stops at the first search that finds something; `h0` to `h6` keep what was passed.
  have h0 : Check.PassedTo w 0 := fun check hc => absurd hc (Nat.not_lt_zero _)
  unfold compile at h
  simp only [bind, Except.bind, pure, Except.pure, throw, throwThe, MonadExceptOf.throw] at h
  split at h
  · rename_i id hfound
    cases h
    exact ⟨.unique, h0.isFirst_of_found .unique (by decide) firstDuplicate_iff hfound, rfl⟩
  rename_i hfound
  have h1 := h0.of_not_found .unique (by decide) firstDuplicate_iff hfound
  have hunique : w.UniqueIds := h1 .unique (by decide)
  split at h
  · rename_i edge node hfound
    cases h
    exact ⟨.ends, h1.isFirst_of_found .ends (by decide) firstDangling_iff hfound, rfl⟩
  rename_i hfound
  have h2 := h1.of_not_found .ends (by decide) firstDangling_iff fun p => hfound p.1 p.2
  have hends : w.EndsKnown := h2 .ends (by decide)
  split at h
  · rename_i start hstart
    have h3 := h2.succ .start (by decide) (starts_iff.mp ⟨start, hstart⟩)
    split at h
    · rename_i n hfound
      cases h
      exact ⟨.entered, h3.isFirst_of_found .entered (by decide) entered_iff hfound, rfl⟩
    rename_i hfound
    have h4 := h3.of_not_found .entered (by decide) entered_iff hfound
    split at h
    · rename_i id hfound
      cases h
      exact ⟨.uncycled, h4.isFirst_of_found .uncycled (by decide) (uncycled_iff hends) hfound,
        rfl⟩
    rename_i hfound
    have h5 := h4.of_not_found .uncycled (by decide) (uncycled_iff hends) hfound
    split at h
    · rename_i n hfound
      cases h
      exact ⟨.joined, h5.isFirst_of_found .joined (by decide) (joined_iff hstart) hfound, rfl⟩
    rename_i hfound
    have h6 := h5.of_not_found .joined (by decide) (joined_iff hstart) hfound
    split at h
    · rename_i e' hconditions
      cases h
      exact isFirst_of_conditions hunique hstart h6 hconditions
    · cases h
  · rename_i starts hstarts
    cases h
    refine ⟨.start, h2.isFirst .start (by decide) fun hp => ?_, rfl⟩
    obtain ⟨start, hstart⟩ := starts_iff.mpr hp
    exact hstarts start hstart

theorem wellFormed_of_compile {g : Graph} (h : compile w = .ok g) : w.WellFormed := by
  obtain ⟨start, conditions, hw, rfl, hconditions⟩ := compile_eq_ok h
  have hunique := firstDuplicate_iff.mp hw.unique
  have hends := firstDangling_iff.mp hw.ends
  have hbranched := wellBranched_of_compileConditions hconditions
  have hpassed : ∀ n ∈ w.nodes, w.Reaches n.id → w.Branches n.id ∧ w.Parses n.id := by
    intro n hn hr
    exact (wellBranched_iff hunique hw.starts hn hr).mp
      (hbranched n ((mem_ofParts_nodes hw.starts).mpr ⟨hn, hr⟩))
  refine ⟨hunique, hends, starts_iff.mp ⟨start, hw.starts⟩, (uncycled_iff hends).mp hw.uncycled,
    (joined_iff hw.starts).mp hw.joined, ?_, ?_⟩
  · rintro v n hn rfl ht hr
    exact (hpassed n hn hr).1 n hn rfl ht hr
  · rintro v n hn rfl hr expression hp
    exact (hpassed n hn hr).2 n hn rfl hr expression hp

/-- A workflow compiles just if it is well formed; if it does not, the code of the error is that of
the first check that it does not pass. -/
theorem compile_decides (w : Definition) :
    ((∃ g, compile w = .ok g) ↔ w.WellFormed) ∧
    ∀ code, (∃ e, compile w = .error e ∧ e.code = code) ↔
      ∃ check : Check, check.IsFirst w ∧ check.code = code := by
  have hok : (∃ g, compile w = .ok g) ↔ w.WellFormed := by
    refine ⟨fun ⟨g, hg⟩ => wellFormed_of_compile hg, fun hw => ?_⟩
    cases hc : compile w with
    | ok g => exact ⟨g, rfl⟩
    | error e =>
      obtain ⟨check, hfirst, -⟩ := compile_eq_error hc
      exact absurd (hw.passes check) hfirst.1
  refine ⟨hok, fun code => ⟨?_, ?_⟩⟩
  · rintro ⟨e, he, rfl⟩
    obtain ⟨check, hfirst, hcode⟩ := compile_eq_error he
    exact ⟨check, hfirst, hcode.symm⟩
  · rintro ⟨check, hcheck, rfl⟩
    cases hc : compile w with
    | ok g => exact absurd ((hok.mp ⟨g, hc⟩).passes check) hcheck.1
    | error e =>
      obtain ⟨first, hfirst, hcode⟩ := compile_eq_error hc
      exact ⟨e, rfl, hcheck.unique hfirst ▸ hcode⟩

-- A loop counts although nothing leads to it, and it is found before that is.
example : compile {
    id := "loop"
    nodes := [.ofPayload "a" (.start []), .ofPayload "b" (.tool "b" .null)]
    edges := [.between "b" "b"] } = .error (.cycle "b") := by decide +kernel

end Workflow.Graph
