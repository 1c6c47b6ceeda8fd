import Workflow.Proofs.Graph.Basic
import Workflow.Run.Basic
import Mathlib.Tactic.Common

/-! Settling the arcs behind finished nodes. Once the stack is empty, an arc is pending exactly as
long as its source has neither finished nor been pruned, and every node without pending arcs has
been queued or pruned: nothing is forgotten, and nothing is settled twice. -/
namespace Workflow.Run

/-! ### Marking arcs -/

theorem length_markAt (arcs : List Arc) (state : Arc → ArcState) (states : List ArcState) (i : ℕ) :
    (markAt arcs state states i).length = states.length := by
  unfold markAt
  split <;> simp

theorem length_foldl_markAt (arcs : List Arc) (state : Arc → ArcState) (places : List ℕ)
    (states : List ArcState) :
    (places.foldl (markAt arcs state) states).length = states.length := by
  induction places generalizing states with
  | nil => rfl
  | cons i places ih => rw [List.foldl_cons, ih, length_markAt]

theorem getElem?_markAt {arcs : List Arc} {state : Arc → ArcState} {states : List ArcState}
    (hlen : states.length = arcs.length) (i j : ℕ) :
    (markAt arcs state states j)[i]? = if i = j then arcs[i]?.map state else states[i]? := by
  unfold markAt
  split
  · rename_i a ha
    have hj : j < states.length := by
      rw [hlen]
      exact (List.getElem?_eq_some_iff.mp ha).1
    by_cases hij : i = j
    · subst hij
      rw [List.getElem?_set_self hj, if_pos rfl, ha, Option.map_some]
    · rw [List.getElem?_set_ne (Ne.symm hij), if_neg hij]
  · rename_i ha
    split
    · subst i
      rw [ha, Option.map_none, List.getElem?_eq_none_iff, hlen]
      exact List.getElem?_eq_none_iff.mp ha
    · rfl

theorem getElem?_foldl_markAt {arcs : List Arc} {state : Arc → ArcState} (places : List ℕ)
    {states : List ArcState} (hlen : states.length = arcs.length) (i : ℕ) :
    (places.foldl (markAt arcs state) states)[i]? =
      if i ∈ places then arcs[i]?.map state else states[i]? := by
  induction places generalizing states with
  | nil => simp
  | cons j places ih =>
    rw [List.foldl_cons, ih (by rw [length_markAt, hlen]), getElem?_markAt hlen]
    by_cases hij : i = j <;> by_cases hi : i ∈ places <;> simp [hij, hi]

@[simp] theorem mark_resolved (r : Run) (state : Arc → ArcState) (places : List ℕ) :
    (r.mark state places).resolved = r.resolved := rfl

@[simp] theorem mark_ready (r : Run) (state : Arc → ArcState) (places : List ℕ) :
    (r.mark state places).ready = r.ready := rfl

@[simp] theorem mark_arcs_length (r : Run) (state : Arc → ArcState) (places : List ℕ) :
    (r.mark state places).arcs.length = r.arcs.length :=
  length_foldl_markAt r.graph.arcs state places r.arcs

/-- A marked arc has the state it was given, and any other arc the state it had. -/
theorem arcState_mark {r : Run} (hlen : r.arcs.length = r.graph.arcs.length)
    (state : Arc → ArcState) (places : List ℕ) {i : ℕ} {a : Arc}
    (ha : r.graph.arcs[i]? = some a) :
    (r.mark state places).arcState i = if i ∈ places then state a else r.arcState i := by
  unfold arcState mark
  rw [List.getD_eq_getElem?_getD, List.getD_eq_getElem?_getD, getElem?_foldl_markAt places hlen]
  split <;> simp [ha]

theorem arcState_mark_outgoing {r : Run} (hlen : r.arcs.length = r.graph.arcs.length)
    (state : Arc → ArcState) (id : String) {i : ℕ} {a : Arc} (ha : r.graph.arcs[i]? = some a) :
    (r.mark state (r.graph.outgoing id)).arcState i =
      if a.source = id then state a else r.arcState i := by
  have hout : i ∈ r.graph.outgoing id ↔ a.source = id := by simp [Graph.mem_outgoing, ha]
  rw [arcState_mark hlen state _ ha]
  simp only [hout]

theorem mem_targets {r : Run} {places : List ℕ} {v : String} :
    v ∈ r.targets places ↔ ∃ i ∈ places, ∃ a, r.graph.arcs[i]? = some a ∧ a.target = v := by
  simp [targets]

theorem length_targets_le (r : Run) (places : List ℕ) :
    (r.targets places).length ≤ places.length := List.length_filterMap_le _ _

/-- Marking settles as many arcs as there are places. -/
theorem count_foldl_markAt {arcs : List Arc} (state : Arc → ArcState) {places : List ℕ}
    {states : List ArcState} (hlen : states.length = arcs.length) (hnodup : places.Nodup)
    (hpending : ∀ i ∈ places, states[i]? = some .pending) (hstate : ∀ a, state a ≠ .pending) :
    (places.foldl (markAt arcs state) states).count .pending + places.length =
      states.count .pending := by
  induction places generalizing states with
  | nil => rfl
  | cons j places ih =>
    obtain ⟨hj, hplaces⟩ := List.nodup_cons.mp hnodup
    have hget := hpending j List.mem_cons_self
    obtain ⟨hlt, hval⟩ := List.getElem?_eq_some_iff.mp hget
    have hcount : (markAt arcs state states j).count .pending + 1 = states.count .pending := by
      have hpos : 0 < states.count .pending :=
        List.count_pos_iff.mpr (List.mem_of_getElem? hget)
      unfold markAt
      rw [List.getElem?_eq_getElem (by rw [← hlen]; exact hlt)]
      rw [List.count_set hlt, hval]
      simp only [beq_self_eq_true, if_true, beq_iff_eq, hstate, if_false]
      omega
    have hlen' : (markAt arcs state states j).length = arcs.length := by rw [length_markAt, hlen]
    have hpending' : ∀ i ∈ places, (markAt arcs state states j)[i]? = some .pending := by
      intro i hi
      rw [getElem?_markAt hlen, if_neg (by rintro rfl; exact hj hi)]
      exact hpending i (List.mem_cons_of_mem j hi)
    have hrest := ih hlen' hplaces hpending'
    rw [List.foldl_cons, List.length_cons]
    omega

/-! ### What settling changes -/

/-- Settling changes the states of arcs, and who is resolved and ready, but nothing else. -/
theorem settle_eq (fuel : ℕ) (stack : List String) (r : Run) :
    ∃ arcs resolved ready, settle fuel stack r = { r with arcs, resolved, ready } := by
  fun_induction settle fuel stack r with
  | case1 stack r => exact ⟨r.arcs, r.resolved, r.ready, rfl⟩
  | case2 fuel r => exact ⟨r.arcs, r.resolved, r.ready, rfl⟩
  | case3 fuel id stack r h ih => exact ih
  | case4 fuel id stack r h states hp ih => exact ih
  | case5 fuel id stack r h states hp r' ht ih => exact ih
  | case6 fuel id stack r h states hp r' ht out ih => exact ih

theorem settleOutgoing_eq (r : Run) (id : String) (takes : Arc → Bool) :
    ∃ arcs resolved ready, r.settleOutgoing id takes = { r with arcs, resolved, ready } :=
  settle_eq _ _ _

/-- Who is resolved stays so, and is not queued any more. -/
theorem settle_resolved (fuel : ℕ) (stack : List String) (r : Run) {v : String}
    (hv : v ∈ r.resolved) : v ∈ (settle fuel stack r).resolved ∧
      (v ∈ (settle fuel stack r).ready ↔ v ∈ r.ready) := by
  fun_induction settle fuel stack r with
  | case1 stack r => exact ⟨hv, Iff.rfl⟩
  | case2 fuel r => exact ⟨hv, Iff.rfl⟩
  | case3 fuel id stack r h ih => exact ih hv
  | case4 fuel id stack r h states hp ih => exact ih hv
  | case5 fuel id stack r h states hp r' ht ih =>
    have hne : v ≠ id := by
      rintro rfl
      exact h (by simpa using hv)
    obtain ⟨hres, hready⟩ := ih (List.mem_cons_of_mem id hv)
    refine ⟨hres, hready.trans ?_⟩
    simp [r', hne]
  | case6 fuel id stack r h states hp r' ht out ih =>
    exact ih (List.mem_cons_of_mem id hv)

/-! ### The invariant -/

/-- Resolved, but neither queued nor started: the run will not come here. -/
def Pruned (r : Run) (started : String → Prop) (v : String) : Prop :=
  v ∈ r.resolved ∧ v ∉ r.ready ∧ ¬ started v

/-- How arcs, resolved and ready nodes fit together while a stack of nodes is still to be looked
at: `done` says who has finished, `took` which arcs were taken, `started` who has started. -/
structure Settling (g : Graph) (started done : String → Prop) (took : Arc → Prop)
    (stack : List String) (r : Run) : Prop where
  graph_eq : r.graph = g
  arcs_length : r.arcs.length = g.arcs.length
  resolved_mem : ∀ v ∈ r.resolved, v ∈ g.ids
  start_resolved : g.start ∈ r.resolved
  start_kept : g.start ∈ r.ready ∨ started g.start
  ready_nodup : r.ready.Nodup
  ready_resolved : ∀ v ∈ r.ready, v ∈ r.resolved
  ready_fresh : ∀ v ∈ r.ready, ¬ started v
  started_resolved : ∀ v, started v → v ∈ r.resolved
  done_started : ∀ v, done v → started v
  took_done : ∀ a, took a → done a.source
  pending_iff : ∀ i a, g.arcs[i]? = some a →
    (r.arcState i = .pending ↔ ¬ done a.source ∧ ¬ r.Pruned started a.source)
  taken_iff : ∀ i a, g.arcs[i]? = some a → (r.arcState i = .taken ↔ took a)
  /-- All arcs to a resolved node are settled. -/
  entered : ∀ i a, g.arcs[i]? = some a → a.target ∈ r.resolved → a.target ≠ g.start →
    r.arcState i ≠ .pending
  /-- Of the resolved nodes, those are not pruned that a taken arc leads to. -/
  kept_iff : ∀ v ∈ r.resolved, v ≠ g.start →
    (v ∈ r.ready ∨ started v ↔ ∃ a ∈ g.arcs, a.target = v ∧ took a)
  /-- A node that could be resolved is on the stack. -/
  complete : ∀ v ∈ g.ids, v ∉ r.resolved →
    (∀ i a, g.arcs[i]? = some a → a.target = v → r.arcState i ≠ .pending) → v ∈ stack

namespace Settling

variable {g : Graph} {started done : String → Prop} {took : Arc → Prop} {stack : List String}
  {id : String} {r : Run}

/-- The states that are looked at when a node is on top of the stack. -/
theorem contains_states (h : Settling g started done took stack r) {s : ArcState} :
    ((r.graph.incoming id).map r.arcState).contains s = true ↔
      ∃ i a, g.arcs[i]? = some a ∧ a.target = id ∧ r.arcState i = s := by
  rw [h.graph_eq]
  simp only [List.contains_iff_mem, List.mem_map, Graph.mem_incoming]
  constructor
  · rintro ⟨i, ⟨a, ha, ht⟩, hs⟩
    exact ⟨i, a, ha, ht, hs⟩
  · rintro ⟨i, a, ha, ht, hs⟩
    exact ⟨i, ⟨a, ha, ht⟩, hs⟩

theorem ne_of_not_contains (h : Settling g started done took stack r) {s : ArcState}
    (hs : ¬ ((r.graph.incoming id).map r.arcState).contains s = true) :
    ∀ i a, g.arcs[i]? = some a → a.target = id → r.arcState i ≠ s :=
  fun i a ha ht heq => hs (h.contains_states.mpr ⟨i, a, ha, ht, heq⟩)

theorem arcState_mark (h : Settling g started done took stack r) (state : Arc → ArcState) {i : ℕ}
    {a : Arc} (ha : g.arcs[i]? = some a) :
    (r.mark state (r.graph.outgoing id)).arcState i =
      if a.source = id then state a else r.arcState i :=
  arcState_mark_outgoing (by rw [h.graph_eq, h.arcs_length]) state id (h.graph_eq.symm ▸ ha)

/-- A node that can be resolved once the arcs out of another one are marked is their target, if it
was not on the stack. -/
theorem mem_targets_or_stack (h : Settling g started done took stack r) {state : Arc → ArcState}
    {v : String} (hv : v ∈ g.ids) (hres : v ∉ r.resolved)
    (hp : ∀ i a, g.arcs[i]? = some a → a.target = v →
      (r.mark state (r.graph.outgoing id)).arcState i ≠ .pending) :
    v ∈ r.targets (r.graph.outgoing id) ∨ v ∈ stack := by
  by_cases hold : ∀ i a, g.arcs[i]? = some a → a.target = v → r.arcState i ≠ .pending
  · exact Or.inr (h.complete v hv hres hold)
  · -- An arc that was pending and is not any more is one of those that were marked.
    push Not at hold
    obtain ⟨i, a, ha, ht, hpending⟩ := hold
    have hnow := hp i a ha ht
    rw [h.arcState_mark state ha] at hnow
    have hs : a.source = id := by
      by_contra hs
      rw [if_neg hs] at hnow
      exact hnow hpending
    rw [mem_targets, h.graph_eq]
    exact Or.inl ⟨i, Graph.mem_outgoing.mpr ⟨a, ha, hs⟩, a, ha, ht⟩

theorem targets_mem (h : Settling g started done took stack r)
    (htargets : ∀ a ∈ g.arcs, a.target ∈ g.ids) {places : List ℕ} :
    ∀ v ∈ r.targets places, v ∈ g.ids := by
  intro v hv
  obtain ⟨i, -, a, ha, rfl⟩ := mem_targets.mp hv
  exact htargets a (h.graph_eq ▸ List.mem_of_getElem? ha)

/-- A node that is resolved, or that a pending arc leads to, is dropped from the stack. -/
theorem drop (h : Settling g started done took (id :: stack) r)
    (hid : id ∈ r.resolved ∨ ∃ i a, g.arcs[i]? = some a ∧ a.target = id ∧
      r.arcState i = .pending) : Settling g started done took stack r := by
  refine { h with complete := fun v hv hres hpend => ?_ }
  rcases List.mem_cons.mp (h.complete v hv hres hpend) with rfl | hmem
  · rcases hid with hid | ⟨i, a, ha, ht, hp⟩
    · exact absurd hid hres
    · exact absurd hp (hpend i a ha ht)
  · exact hmem

/-- A node that no pending arc leads to, but a taken one, is queued. -/
theorem queue (h : Settling g started done took (id :: stack) r) (hmem : id ∈ g.ids)
    (hid : id ∉ r.resolved)
    (hpend : ∀ i a, g.arcs[i]? = some a → a.target = id → r.arcState i ≠ .pending)
    (htaken : ∃ i a, g.arcs[i]? = some a ∧ a.target = id ∧ r.arcState i = .taken) :
    Settling g started done took stack
      { r with resolved := id :: r.resolved, ready := r.ready ++ [id] } := by
  have hpruned : ∀ v, Run.Pruned
      { r with resolved := id :: r.resolved, ready := r.ready ++ [id] } started v ↔
        r.Pruned started v := by
    intro v
    by_cases hv : v = id
    · subst hv
      simp [Pruned, hid]
    · simp [Pruned, hv]
  have hstarted : ¬ started id := fun hs => hid (h.started_resolved id hs)
  refine { h with
    resolved_mem := ?_
    start_resolved := List.mem_cons_of_mem id h.start_resolved
    start_kept := h.start_kept.imp_left (List.mem_append_left [id])
    ready_nodup := ?_
    ready_resolved := ?_
    ready_fresh := ?_
    started_resolved := fun v hv => List.mem_cons_of_mem id (h.started_resolved v hv)
    pending_iff := fun i a ha => (h.pending_iff i a ha).trans (by rw [hpruned])
    entered := ?_
    kept_iff := ?_
    complete := ?_ }
  · exact List.forall_mem_cons.mpr ⟨hmem, h.resolved_mem⟩
  · exact h.ready_nodup.append (List.nodup_singleton id)
      (by simpa using fun hr => hid (h.ready_resolved id hr))
  · intro v hv
    rcases List.mem_append.mp hv with hv | hv
    · exact List.mem_cons_of_mem id (h.ready_resolved v hv)
    · exact List.mem_singleton.mp hv ▸ List.mem_cons_self
  · intro v hv
    rcases List.mem_append.mp hv with hv | hv
    · exact h.ready_fresh v hv
    · exact List.mem_singleton.mp hv ▸ hstarted
  · intro i a ha hres hne
    rcases List.mem_cons.mp hres with ht | ht
    · exact hpend i a ha ht
    · exact h.entered i a ha ht hne
  · intro v hv hne
    rcases List.mem_cons.mp hv with rfl | hres
    · obtain ⟨i, a, ha, ht, hs⟩ := htaken
      have htook : took a := (h.taken_iff i a ha).mp hs
      simp only [List.mem_append, List.mem_singleton, or_true, true_or, true_iff]
      exact ⟨a, List.mem_of_getElem? ha, ht, htook⟩
    · have hvid : v ≠ id := by
        rintro rfl
        exact hid hres
      simpa [hvid] using h.kept_iff v hres hne
  · intro v hv hres hp
    simp only [List.mem_cons, not_or] at hres
    exact (List.mem_cons.mp (h.complete v hv hres.2 hp)).resolve_left hres.1

/-- A node that only skipped arcs lead to is pruned, and the arcs behind it are skipped. -/
theorem prune (h : Settling g started done took (id :: stack) r) (hmem : id ∈ g.ids)
    (hid : id ∉ r.resolved)
    (hpend : ∀ i a, g.arcs[i]? = some a → a.target = id → r.arcState i ≠ .pending)
    (htaken : ∀ i a, g.arcs[i]? = some a → a.target = id → r.arcState i ≠ .taken) :
    Settling g started done took ((r.targets (r.graph.outgoing id)).reverse ++ stack)
      (mark { r with resolved := id :: r.resolved } (fun _ => .skipped) (r.graph.outgoing id)) := by
  have hstarted : ¬ started id := fun hs => hid (h.started_resolved id hs)
  have hready : id ∉ r.ready := fun hr => hid (h.ready_resolved id hr)
  have hdone : ¬ done id := fun hd => hstarted (h.done_started id hd)
  have hnot : ¬ r.Pruned started id := fun hp => hid hp.1
  have hstate : ∀ i a, g.arcs[i]? = some a →
      (mark { r with resolved := id :: r.resolved } (fun _ => .skipped)
        (r.graph.outgoing id)).arcState i = if a.source = id then .skipped else r.arcState i :=
    fun i a ha => h.arcState_mark _ ha
  have hpruned : ∀ v, (mark { r with resolved := id :: r.resolved } (fun _ => .skipped)
      (r.graph.outgoing id)).Pruned started v ↔ v = id ∨ r.Pruned started v := by
    intro v
    by_cases hv : v = id
    · subst hv
      simp [Pruned, hready, hstarted]
    · simp [Pruned, hv]
  refine { h with
    arcs_length := by simpa using h.arcs_length
    resolved_mem := List.forall_mem_cons.mpr ⟨hmem, h.resolved_mem⟩
    start_resolved := List.mem_cons_of_mem id h.start_resolved
    ready_resolved := fun v hv => List.mem_cons_of_mem id (h.ready_resolved v hv)
    started_resolved := fun v hv => List.mem_cons_of_mem id (h.started_resolved v hv)
    pending_iff := ?_
    taken_iff := ?_
    entered := ?_
    kept_iff := ?_
    complete := ?_ }
  · intro i a ha
    rw [hstate i a ha, hpruned]
    by_cases hs : a.source = id
    · simp [hs]
    · simpa [hs] using h.pending_iff i a ha
  · intro i a ha
    rw [hstate i a ha]
    by_cases hs : a.source = id
    · have htook : ¬ took a := fun ht => hdone (hs ▸ h.took_done a ht)
      simp [hs, htook]
    · simpa [hs] using h.taken_iff i a ha
  · intro i a ha hres hne
    have hold : r.arcState i ≠ .pending := by
      rcases List.mem_cons.mp hres with ht | hres
      · exact hpend i a ha ht
      · exact h.entered i a ha hres hne
    rw [hstate i a ha]
    split
    · exact ArcState.noConfusion
    · exact hold
  · intro v hv hne
    rcases List.mem_cons.mp hv with rfl | hres
    · simp only [mark_ready, hready, hstarted, or_self, false_iff, not_exists, not_and]
      intro a ha ht htook
      obtain ⟨i, hi⟩ := List.getElem?_of_mem ha
      exact htaken i a hi ht ((h.taken_iff i a hi).mpr htook)
    · exact h.kept_iff v hres hne
  · intro v hv hres hp
    simp only [mark_resolved, List.mem_cons, not_or] at hres
    rw [List.mem_append, List.mem_reverse]
    refine (h.mem_targets_or_stack hv hres.2 hp).imp_right fun hmem => ?_
    exact (List.mem_cons.mp hmem).resolve_left hres.1

/-- An arc out of a node that is not resolved is pending. -/
theorem pending_of_unresolved (h : Settling g started done took stack r) {i : ℕ} {a : Arc}
    (ha : g.arcs[i]? = some a) (hs : a.source ∉ r.resolved) : r.arcState i = .pending :=
  (h.pending_iff i a ha).mpr
    ⟨fun hd => hs (h.started_resolved _ (h.done_started _ hd)), fun hp => hs hp.1⟩

/-- Marking pending arcs out of a node settles as many of them as there are. -/
theorem count_mark (h : Settling g started done took stack r) (state : Arc → ArcState)
    (hstate : ∀ a, state a ≠ .pending)
    (hout : ∀ i a, g.arcs[i]? = some a → a.source = id → r.arcState i = .pending) :
    (r.targets (r.graph.outgoing id)).length +
      (r.mark state (r.graph.outgoing id)).arcs.count .pending ≤ r.arcs.count .pending := by
  have hlen : r.arcs.length = r.graph.arcs.length := by rw [h.graph_eq, h.arcs_length]
  have hpending : ∀ i ∈ r.graph.outgoing id, r.arcs[i]? = some .pending := by
    intro i hi
    obtain ⟨a, ha, hs⟩ := Graph.mem_outgoing.mp hi
    have hp := hout i a (h.graph_eq ▸ ha) hs
    have hlt : i < r.arcs.length := hlen ▸ (List.getElem?_eq_some_iff.mp ha).1
    rw [arcState, List.getD_eq_getElem?_getD, List.getElem?_eq_getElem hlt] at hp
    rw [List.getElem?_eq_getElem hlt]
    exact congrArg some hp
  have hcount := count_foldl_markAt state hlen (r.graph.outgoing_nodup id) hpending hstate
  have htargets := length_targets_le r (r.graph.outgoing id)
  unfold mark
  dsimp only
  omega

/-- With fuel for every node on the stack and every pending arc, the stack is worked off. -/
theorem settle {fuel : ℕ} (h : Settling g started done took stack r)
    (htargets : ∀ a ∈ g.arcs, a.target ∈ g.ids) (hstack : ∀ v ∈ stack, v ∈ g.ids)
    (hfuel : stack.length + r.arcs.count .pending ≤ fuel) :
    Settling g started done took [] (Run.settle fuel stack r) := by
  fun_induction Run.settle fuel stack r with
  | case1 stack r =>
    have hnil : stack = [] := List.eq_nil_of_length_eq_zero (by omega)
    exact hnil ▸ h
  | case2 fuel r => exact h
  | case3 fuel id stack r hres ih =>
    rw [List.length_cons] at hfuel
    exact ih (h.drop (Or.inl (by simpa using hres)))
      (fun v hv => hstack v (List.mem_cons_of_mem id hv)) (by omega)
  | case4 fuel id stack r hres states hp ih =>
    rw [List.length_cons] at hfuel
    exact ih (h.drop (Or.inr (h.contains_states.mp hp)))
      (fun v hv => hstack v (List.mem_cons_of_mem id hv)) (by omega)
  | case5 fuel id stack r hres states hp r' ht ih =>
    rw [List.length_cons] at hfuel
    have hid : id ∉ r.resolved := by simpa using hres
    exact ih (h.queue (hstack id List.mem_cons_self) hid (h.ne_of_not_contains hp)
        (h.contains_states.mp ht))
      (fun v hv => hstack v (List.mem_cons_of_mem id hv)) (by dsimp only [r']; omega)
  | case6 fuel id stack r hres states hp r' ht out ih =>
    rw [List.length_cons] at hfuel
    have hid : id ∉ r.resolved := by simpa using hres
    have hcount := h.count_mark (fun _ => .skipped) (fun _ => ArcState.noConfusion)
      fun i a ha (hs : a.source = id) => h.pending_of_unresolved ha (hs ▸ hid)
    refine ih (h.prune (hstack id List.mem_cons_self) hid (h.ne_of_not_contains hp)
      (h.ne_of_not_contains ht)) ?_ ?_
    · intro v hv
      rcases List.mem_append.mp hv with hv | hv
      · exact h.targets_mem htargets v (List.mem_reverse.mp hv)
      · exact hstack v (List.mem_cons_of_mem id hv)
    · have hlen : ((r'.targets out).reverse ++ stack).length =
          (r.targets (r.graph.outgoing id)).length + stack.length := by
        simp [r', out, targets]
      have hmark : (r'.mark (fun _ => .skipped) out).arcs =
          (r.mark (fun _ => .skipped) (r.graph.outgoing id)).arcs := rfl
      rw [hlen, hmark]
      omega

/-- Settling behind a node that has just finished. -/
theorem settleOutgoing (h : Settling g started done took [] r)
    (htargets : ∀ a ∈ g.arcs, a.target ∈ g.ids) (hstarted : started id) (hdone : ¬ done id)
    (takes : Arc → Bool) :
    Settling g started (fun v => done v ∨ v = id)
      (fun a => took a ∨ a.source = id ∧ takes a = true) [] (r.settleOutgoing id takes) := by
  have hnot : ¬ r.Pruned started id := fun hp => hp.2.2 hstarted
  have hpending : ∀ i a, g.arcs[i]? = some a → a.source = id → r.arcState i = .pending := by
    rintro i a ha rfl
    exact (h.pending_iff i a ha).mpr ⟨hdone, hnot⟩
  have htook : ∀ a, a.source = id → ¬ took a := fun a hs ht => hdone (hs ▸ h.took_done a ht)
  have hstate : ∀ i a, g.arcs[i]? = some a →
      (r.mark (fun a => if takes a then .taken else .skipped) (r.graph.outgoing id)).arcState i =
        if a.source = id then (if takes a then .taken else .skipped) else r.arcState i :=
    fun i a ha => h.arcState_mark _ ha
  have hmarked : Settling g started (fun v => done v ∨ v = id)
      (fun a => took a ∨ a.source = id ∧ takes a = true)
      (r.targets (r.graph.outgoing id)).reverse
      (r.mark (fun a => if takes a then .taken else .skipped) (r.graph.outgoing id)) := by
    refine { h with
      arcs_length := by simpa using h.arcs_length
      done_started := fun v hv => hv.elim (h.done_started v) (fun hv => hv ▸ hstarted)
      took_done := fun a ha => ha.imp (h.took_done a) And.left
      pending_iff := ?_
      taken_iff := ?_
      entered := ?_
      kept_iff := ?_
      complete := ?_ }
    · intro i a ha
      rw [hstate i a ha]
      by_cases hs : a.source = id
      · by_cases ht : takes a <;> simp [hs, ht]
      · simpa [hs, Pruned] using h.pending_iff i a ha
    · intro i a ha
      rw [hstate i a ha]
      by_cases hs : a.source = id
      · have hno := htook a hs
        by_cases ht : takes a <;> simp [hs, ht, hno]
      · simpa [hs] using h.taken_iff i a ha
    · intro i a ha hres hne
      rw [hstate i a ha]
      split
      · split <;> exact ArcState.noConfusion
      · exact h.entered i a ha hres hne
    · intro v hv hne
      refine (h.kept_iff v hv hne).trans ⟨?_, ?_⟩
      · rintro ⟨a, ha, ht, hto⟩
        exact ⟨a, ha, ht, Or.inl hto⟩
      · rintro ⟨a, ha, ht, hto | ⟨hs, -⟩⟩
        · exact ⟨a, ha, ht, hto⟩
        · -- No pending arc led to `v`, so none comes from the node that has just finished.
          obtain ⟨i, hi⟩ := List.getElem?_of_mem ha
          exact absurd (hpending i a hi hs) (h.entered i a hi (ht ▸ hv) (ht ▸ hne))
    · intro v hv hres hp
      exact List.mem_reverse.mpr
        ((h.mem_targets_or_stack hv hres hp).resolve_right List.not_mem_nil)
  refine hmarked.settle htargets ?_ ?_
  · exact fun v hv => h.targets_mem htargets v (List.mem_reverse.mp hv)
  · have hcount := h.count_mark (fun a => if takes a then .taken else .skipped)
      (fun a => by split <;> exact ArcState.noConfusion) hpending
    have hle : r.arcs.count .pending ≤ r.graph.arcs.length := by
      rw [h.graph_eq, ← h.arcs_length]
      exact List.count_le_length
    rw [List.length_reverse]
    omega

/-- The node at the head of the queue starts. -/
theorem start (h : Settling g started done took stack r) {ready : List String}
    (hr : r.ready = id :: ready) :
    Settling g (fun v => started v ∨ v = id) done took stack { r with ready } := by
  have hnodup := h.ready_nodup
  rw [hr] at hnodup
  obtain ⟨hid, hready⟩ := List.nodup_cons.mp hnodup
  have hpruned : ∀ v, ({ r with ready } : Run).Pruned (fun v => started v ∨ v = id) v ↔
      r.Pruned started v := by
    intro v
    simp only [Pruned, hr, List.mem_cons, not_or]
    tauto
  refine { h with
    start_kept := ?_
    ready_nodup := hready
    ready_resolved := fun v hv => h.ready_resolved v (hr ▸ List.mem_cons_of_mem id hv)
    ready_fresh := ?_
    started_resolved := ?_
    done_started := fun v hv => Or.inl (h.done_started v hv)
    pending_iff := fun i a ha => (h.pending_iff i a ha).trans (by rw [hpruned])
    kept_iff := fun v hv hne => Iff.trans ?_ (h.kept_iff v hv hne) }
  · have hkept := h.start_kept
    rw [hr, List.mem_cons] at hkept
    tauto
  · rintro v hv (hs | rfl)
    · exact h.ready_fresh v (hr ▸ List.mem_cons_of_mem id hv) hs
    · exact hid hv
  · rintro v (hs | rfl)
    · exact h.started_resolved v hs
    · exact h.ready_resolved v (hr ▸ List.mem_cons_self)
  · rw [hr, List.mem_cons]
    tauto

/-- Only arcs, resolved and ready nodes matter. -/
theorem congr (h : Settling g started done took stack r) {started' done' : String → Prop}
    {took' : Arc → Prop} {r' : Run} (hs : ∀ v, started' v ↔ started v)
    (hd : ∀ v, done' v ↔ done v) (ht : ∀ a, took' a ↔ took a) (hgraph : r'.graph = r.graph)
    (harcs : r'.arcs = r.arcs) (hresolved : r'.resolved = r.resolved)
    (hready : r'.ready = r.ready) : Settling g started' done' took' stack r' := by
  obtain rfl : started' = started := funext fun v => propext (hs v)
  obtain rfl : done' = done := funext fun v => propext (hd v)
  obtain rfl : took' = took := funext fun a => propext (ht a)
  cases r
  cases r'
  cases hgraph
  cases harcs
  cases hresolved
  cases hready
  exact { h with }

end Settling
end Workflow.Run
