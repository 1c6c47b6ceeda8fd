import Workflow.Proofs.Graph.Checks

/-! Which node a cycle is told by. Leaving out nodes that no arc enters or that no arc leaves keeps
the nodes on cycles, and with them those between two cycles, so that the lowest node that is kept
need not lie on a cycle itself. -/
namespace Workflow

namespace Definition

variable (w : Definition)

/-- Edges lead from the node back to it. -/
def OnCycle (v : String) : Prop := Relation.TransGen w.Joins v v

/-- Edges lead to the node from a cycle, and from it to a cycle. -/
def BetweenCycles (v : String) : Prop :=
  (∃ x, w.OnCycle x ∧ Relation.ReflTransGen w.Joins x v) ∧
    ∃ y, w.OnCycle y ∧ Relation.ReflTransGen w.Joins v y

variable {w}

theorem OnCycle.betweenCycles {v : String} (h : w.OnCycle v) : w.BetweenCycles v :=
  ⟨⟨v, h, .refl⟩, ⟨v, h, .refl⟩⟩

end Definition

namespace Graph

variable {arcs : List Arc}

/-! ### What peeling keeps -/

/-- Every one of the nodes has neighbours on both sides among them. -/
structure Knit (arcs : List Arc) (S : String → Prop) : Prop where
  enters : ∀ v, S v → ∃ u, S u ∧ Leads arcs u v
  leaves : ∀ v, S v → ∃ u, S u ∧ Leads arcs v u

theorem Knit.peel {S : String → Prop} (h : Knit arcs S) {remaining : List String}
    (hs : ∀ v, S v → v ∈ remaining) : ∀ v, S v → v ∈ peel arcs remaining := by
  intro v hv
  obtain ⟨u, hu, a, ha, rfl, hat⟩ := h.enters v hv
  obtain ⟨x, hx, b, hb, rfl, rfl⟩ := h.leaves v hv
  exact mem_peel_of_neighbours ha hb hat (hs _ hv) (hs _ hu) (hs _ hx)

theorem Knit.peelTimes {S : String → Prop} (h : Knit arcs S) (n : ℕ) {remaining : List String}
    (hs : ∀ v, S v → v ∈ remaining) : ∀ v, S v → v ∈ peelTimes arcs n remaining := by
  induction n generalizing remaining with
  | zero => exact hs
  | succ n ih => exact ih (h.peel hs)

theorem peelTimes_sublist (arcs : List Arc) (n : ℕ) (remaining : List String) :
    (peelTimes arcs n remaining).Sublist remaining := by
  induction n generalizing remaining with
  | zero => exact List.Sublist.refl _
  | succ n ih => exact (ih _).trans List.filter_sublist

/-- A round that leaves out nothing is followed by such rounds only; until then every round leaves
out a node. -/
theorem peelTimes_stable_or_length (arcs : List Arc) (n : ℕ) (remaining : List String) :
    peel arcs (peelTimes arcs n remaining) = peelTimes arcs n remaining ∨
      (peelTimes arcs n remaining).length + n ≤ remaining.length := by
  induction n generalizing remaining with
  | zero => exact Or.inr (Nat.le_refl _)
  | succ n ih =>
    rw [peelTimes]
    by_cases heq : peel arcs remaining = remaining
    · have hstay : ∀ k, peelTimes arcs k remaining = remaining := by
        intro k
        induction k with
        | zero => rfl
        | succ k ihk => rw [peelTimes, heq, ihk]
      rw [heq, hstay n]
      exact Or.inl heq
    · refine (ih (peel arcs remaining)).imp_right fun hl => ?_
      have hsub : (peel arcs remaining).Sublist remaining := List.filter_sublist
      have hlt : (peel arcs remaining).length < remaining.length :=
        Nat.lt_of_le_of_ne hsub.length_le fun hlen => heq (hsub.eq_of_length hlen)
      omega

theorem peel_peelTimes_length (arcs : List Arc) (ids : List String) :
    peel arcs (peelTimes arcs ids.length ids) = peelTimes arcs ids.length ids := by
  rcases peelTimes_stable_or_length arcs ids.length ids with h | h
  · exact h
  · have hnil : peelTimes arcs ids.length ids = [] := List.length_eq_zero_iff.mp (by omega)
    rw [hnil]
    rfl

theorem knit_of_peel_eq {remaining : List String} (h : peel arcs remaining = remaining) :
    Knit arcs (· ∈ remaining) := by
  have hkept : ∀ v ∈ remaining,
      (∃ a ∈ arcs, Arc.within remaining a ∧ a.target = v) ∧
        ∃ b ∈ arcs, Arc.within remaining b ∧ b.source = v := by
    intro v hv
    rw [← h] at hv
    simpa [peel, and_assoc] using (List.mem_filter.mp hv).2
  constructor
  · intro v hv
    obtain ⟨⟨a, ha, hwithin, rfl⟩, -⟩ := hkept v hv
    have hends : a.source ∈ remaining ∧ a.target ∈ remaining := by
      simpa [Arc.within] using hwithin
    exact ⟨a.source, hends.1, Leads.of_mem ha⟩
  · intro v hv
    obtain ⟨-, b, hb, hwithin, rfl⟩ := hkept v hv
    have hends : b.source ∈ remaining ∧ b.target ∈ remaining := by
      simpa [Arc.within] using hwithin
    exact ⟨b.target, hends.2, Leads.of_mem hb⟩

/-! ### Cycles behind and ahead -/

/-- Going back again and again among finitely many nodes comes to a cycle. -/
theorem exists_cycle_behind {r : String → String → Prop} {nodes : List String}
    (h : ∀ v ∈ nodes, ∃ u ∈ nodes, r u v) {v : String} (hv : v ∈ nodes) :
    ∃ x, Relation.TransGen r x x ∧ Relation.ReflTransGen r x v := by
  by_contra hno
  -- Otherwise paths well-order the nodes from which `v` is reached.
  let below (a b : {u // u ∈ nodes}) : Prop :=
    Relation.TransGen r a.1 b.1 ∧ Relation.ReflTransGen r b.1 v
  have : IsTrans _ below := ⟨fun _ _ _ hab hbc => ⟨hab.1.trans hbc.1, hbc.2⟩⟩
  have : Std.Irrefl below := ⟨fun a ha => hno ⟨a.1, ha⟩⟩
  have hwf : WellFounded below := Finite.wellFounded_of_trans_of_irrefl below
  obtain ⟨⟨u, hu⟩, hpath, hfirst⟩ := hwf.has_min
    {a | Relation.ReflTransGen r a.1 v} ⟨⟨v, hv⟩, .refl⟩
  obtain ⟨x, hx, hxu⟩ := h u hu
  exact hfirst ⟨x, hx⟩ (.head hxu hpath) ⟨.single hxu, hpath⟩

theorem Knit.exists_behind {nodes : List String} (h : Knit arcs (· ∈ nodes)) {v : String}
    (hv : v ∈ nodes) : ∃ x, Path arcs x x ∧ Relation.ReflTransGen (Leads arcs) x v :=
  exists_cycle_behind h.enters hv

theorem Knit.exists_ahead {nodes : List String} (h : Knit arcs (· ∈ nodes)) {v : String}
    (hv : v ∈ nodes) : ∃ y, Path arcs y y ∧ Relation.ReflTransGen (Leads arcs) v y := by
  obtain ⟨y, hcycle, hpath⟩ := exists_cycle_behind (r := Function.swap (Leads arcs)) h.leaves hv
  exact ⟨y, Relation.transGen_swap.mp hcycle, Relation.reflTransGen_swap.mp hpath⟩

variable {w : Definition}

/-- Nodes on cycles, and nodes between cycles, have neighbours of that kind on both sides. -/
theorem knit_betweenCycles (w : Definition) : Knit (w.edges.map arcOf) w.BetweenCycles := by
  constructor
  · rintro v ⟨⟨x, hx, hxv⟩, hahead⟩
    rw [leads_eq_joins]
    rcases Relation.ReflTransGen.cases_tail hxv with rfl | ⟨u, hxu, huv⟩
    · -- On a cycle the node before is on it too.
      obtain ⟨u, hvu, huv⟩ := Relation.TransGen.tail'_iff.mp hx
      have hu : w.OnCycle u := Relation.TransGen.head' huv hvu
      exact ⟨u, hu.betweenCycles, huv⟩
    · obtain ⟨y, hy, hvy⟩ := hahead
      exact ⟨u, ⟨⟨x, hx, hxu⟩, ⟨y, hy, .head huv hvy⟩⟩, huv⟩
  · rintro v ⟨hbehind, y, hy, hvy⟩
    rw [leads_eq_joins]
    rcases Relation.ReflTransGen.cases_head hvy with rfl | ⟨u, hvu, huy⟩
    · obtain ⟨u, hvu, huv⟩ := Relation.TransGen.head'_iff.mp hy
      have hu : w.OnCycle u := Relation.TransGen.tail' huv hvu
      exact ⟨u, hu.betweenCycles, hvu⟩
    · obtain ⟨x, hx, hxv⟩ := hbehind
      exact ⟨u, ⟨⟨x, hx, hxv.tail hvu⟩, ⟨y, hy, huy⟩⟩, hvu⟩

theorem mem_ids_of_betweenCycles (hends : w.EndsKnown) {v : String}
    (h : w.BetweenCycles v) : v ∈ (sortNodes w.nodes).map (·.id) := by
  obtain ⟨u, -, a, ha, hs, -⟩ := (knit_betweenCycles w).leaves v h
  obtain ⟨e, he, rfl⟩ := List.mem_map.mp ha
  exact (sortNodes_ids_perm w.nodes).mem_iff.mpr (hs ▸ (hends e he).1)

/-- What is left of all nodes in the end are those on cycles and between cycles. -/
theorem mem_peelTimes_iff (hends : w.EndsKnown) {v : String} :
    v ∈ peelTimes (w.edges.map arcOf) ((sortNodes w.nodes).map (·.id)).length
      ((sortNodes w.nodes).map (·.id)) ↔ w.BetweenCycles v := by
  constructor
  · intro hv
    have hknit := knit_of_peel_eq
      (peel_peelTimes_length (w.edges.map arcOf) ((sortNodes w.nodes).map (·.id)))
    have hbehind := hknit.exists_behind hv
    have hahead := hknit.exists_ahead hv
    rw [Path, leads_eq_joins] at hbehind hahead
    exact ⟨hbehind, hahead⟩
  · exact (knit_betweenCycles w).peelTimes _ (fun u hu => mem_ids_of_betweenCycles hends hu) v

/-- Of nodes in increasing order the lowest one on or between cycles is found. -/
theorem findCycle_eq_some_iff (hunique : w.UniqueIds) (hends : w.EndsKnown) {v : String} :
    findCycle (w.edges.map arcOf) ((sortNodes w.nodes).map (·.id)) = some v ↔
      w.BetweenCycles v ∧ ∀ u, w.BetweenCycles u → v ≤ u := by
  have hincreasing : (peelTimes (w.edges.map arcOf) ((sortNodes w.nodes).map (·.id)).length
      ((sortNodes w.nodes).map (·.id))).Pairwise (· < ·) :=
    (List.pairwise_map.mpr (sortNodes_increasing hunique)).sublist (peelTimes_sublist _ _ _)
  have hmem : ∀ u, u ∈ peelTimes (w.edges.map arcOf) ((sortNodes w.nodes).map (·.id)).length
      ((sortNodes w.nodes).map (·.id)) ↔ w.BetweenCycles u := fun u => mem_peelTimes_iff hends
  unfold findCycle
  cases hleft : peelTimes (w.edges.map arcOf) ((sortNodes w.nodes).map (·.id)).length
      ((sortNodes w.nodes).map (·.id)) with
  | nil =>
    rw [hleft] at hmem
    constructor
    · intro h
      cases h
    · intro h
      cases (hmem v).mpr h.1
  | cons first rest =>
    rw [hleft] at hmem hincreasing
    have hleast : ∀ u, w.BetweenCycles u → first ≤ u := by
      intro u hu
      rcases List.mem_cons.mp ((hmem u).mpr hu) with rfl | hrest
      · exact String.le_refl _
      · exact String.not_lt.mp (String.lt_asymm (List.rel_of_pairwise_cons hincreasing hrest))
    have hfirst : w.BetweenCycles first := (hmem first).mp List.mem_cons_self
    rw [List.head?_cons, Option.some_inj]
    constructor
    · rintro rfl
      exact ⟨hfirst, hleast⟩
    · rintro ⟨hv, hall⟩
      exact String.le_antisymm (hleast v hv) (hall first hfirst)

/-! ### The node that is told -/

/-- An error about a cycle comes from the search for one, after the checks before it. -/
theorem findCycle_of_compile {v : String} (h : compile w = .error (.cycle v)) :
    w.UniqueIds ∧ w.EndsKnown ∧
      findCycle (w.edges.map arcOf) ((sortNodes w.nodes).map (·.id)) = some v := by
  unfold compile at h
  simp only [bind, Except.bind, pure, Except.pure, throw, throwThe, MonadExceptOf.throw] at h
  split at h
  · cases h
  rename_i hunique
  split at h
  · cases h
  rename_i hends
  split at h
  · split at h
    · cases h
    split at h
    · rename_i id hfound
      cases h
      refine ⟨firstDuplicate_iff.mp ?_, firstDangling_iff.mp ?_, hfound⟩
      · exact Option.eq_none_iff_forall_ne_some.mpr hunique
      · exact Option.eq_none_iff_forall_ne_some.mpr fun p => hends p.1 p.2
    split at h
    · cases h
    split at h
    · rename_i e hconditions
      cases h
      obtain ⟨_, _, _, _, -, -, -, hfails⟩ := compileConditions_eq_error hconditions
      rcases hfails with ⟨-, hcode⟩ | ⟨-, -, hcode⟩
      · simp [GraphError.code] at hcode
      · simp [GraphError.code] at hcode
    · cases h
  · cases h

/-- A workflow is refused for a cycle through `v` just if that is the first check that fails and `v`
is the lowest of the nodes on cycles and between cycles. -/
theorem compile_eq_cycle_iff {v : String} :
    compile w = .error (.cycle v) ↔ Check.uncycled.IsFirst w ∧
      w.BetweenCycles v ∧ ∀ u, w.BetweenCycles u → v ≤ u := by
  constructor
  · intro h
    obtain ⟨hunique, hends, hfound⟩ := findCycle_of_compile h
    obtain ⟨check, hfirst, hcode⟩ := compile_eq_error h
    refine ⟨?_, (findCycle_eq_some_iff hunique hends).mp hfound⟩
    cases check with
    | uncycled => exact hfirst
    | _ => exact absurd hcode (by simp [GraphError.code, Check.code])
  · rintro ⟨hfirst, hleast⟩
    cases hc : compile w with
    | ok g => exact absurd (wellFormed_of_compile hc).uncycled hfirst.1
    | error e =>
      obtain ⟨check, hother, hcode⟩ := compile_eq_error hc
      have heq : check = .uncycled := hother.unique hfirst
      subst heq
      cases e with
      | cycle u =>
        obtain ⟨hunique, hends, hfound⟩ := findCycle_of_compile hc
        have hv := (findCycle_eq_some_iff hunique hends).mpr hleast
        rw [Option.some_inj.mp (hfound.symm.trans hv)]
      | _ => exact absurd hcode (by simp [GraphError.code, Check.code])

/-- Two loops, and a node between them whose id is lower than theirs. -/
def bridged : Definition where
  id := "bridged"
  nodes := [.ofPayload "start" (.start []), .ofPayload "left" (.tool "left" .null),
    .ofPayload "bridge" (.tool "bridge" .null), .ofPayload "right" (.tool "right" .null)]
  edges := [.between "start" "left", .between "left" "left", .between "left" "bridge",
    .between "bridge" "right", .between "right" "right"]

/-- The bridge is blamed for a cycle, and it lies on none. -/
theorem bridge_blamed : compile bridged = .error (.cycle "bridge") ∧ ¬ bridged.OnCycle "bridge" ∧
    bridged.OnCycle "left" := by
  refine ⟨by decide +kernel, fun h => ?_, .single ⟨.between "left" "left", by decide, rfl, rfl⟩⟩
  have hright : ∀ v, Relation.TransGen bridged.Joins "bridge" v → v = "right" := by
    intro v hp
    induction hp with
    | single hl =>
      obtain ⟨e, he, hs, rfl⟩ := hl
      revert hs
      revert e
      decide
    | tail _ hl ih =>
      obtain ⟨e, he, hs, rfl⟩ := hl
      subst ih
      revert hs
      revert e
      decide
  exact absurd (hright "bridge" h) (by decide)

end Graph
end Workflow
